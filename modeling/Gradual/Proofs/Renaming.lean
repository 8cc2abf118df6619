import Gradual.Proofs.Assignment
import Gradual.Scheme
import Mathlib.Data.Fintype.List
import Mathlib.Logic.Equiv.Fintype

/-! Renamings of parameters and variables. Two types that are instances of each other differ only in
the names of their variables, and so do two families of types over finitely many variables. Neither
the text of a type nor its alpha-equivalence class depends on how its parameters are named. -/
namespace Gradual

variable {ε : Type}

namespace Ty

/-- Gives parameters and variables other ids, all at the same time. -/
@[simp] def rename (onParams onVars : Int → Int) : Ty ε → Ty ε
  | .param a => .param (onParams a)
  | .var x => .var (onVars x)
  | .arrow dom cod => .arrow (dom.rename onParams onVars) (cod.rename onParams onVars)
  | .base name => .base name
  | .dyn => .dyn
  | .host leaf => .host leaf

theorem rename_vars (ρ : Int → Int) (t : Ty ε) : t.rename id ρ = t.inst fun x => .var (ρ x) := by
  induction t with
  | arrow dom cod left right => simp [left, right]
  | _ => rfl

theorem isArrow_rename (onParams onVars : Int → Int) (t : Ty ε) :
    (t.rename onParams onVars).isArrow = t.isArrow := by
  cases t <;> rfl

/-- Assignments that give a type the same instance agree on its variables. -/
theorem eq_of_inst_eq {values others : Int → Ty ε} {t : Ty ε} (same : t.inst values = t.inst others) :
    ∀ x ∈ t.vars, values x = others x := by
  induction t with
  | var y =>
    intro x member
    obtain rfl := List.mem_singleton.mp member
    exact same
  | arrow dom cod left right =>
    obtain ⟨doms, cods⟩ := Ty.arrow.inj same
    exact List.forall_mem_append.mpr ⟨left doms, right cods⟩
  | _ => exact List.forall_mem_nil _

theorem mem_vars_inst {values : Int → Ty ε} {t : Ty ε} {y : Int} :
    y ∈ (t.inst values).vars ↔ ∃ x ∈ t.vars, y ∈ (values x).vars := by
  induction t with
  | arrow dom cod left right =>
    simp only [inst, vars, List.mem_append, left, right, or_and_right, exists_or]
  | _ => simp [vars]

theorem eq_var_of_inst {values : Int → Ty ε} {t : Ty ε} {x : Int} (same : t.inst values = .var x) :
    ∃ y, t = .var y ∧ values y = .var x := by
  cases t with
  | var y => exact ⟨y, rfl, same⟩
  | _ => cases same

/-- An assignment that can be undone on finitely many variables renames them. -/
theorem exists_renaming {ids : List Int} {values others : Int → Ty ε}
    (undone : ∀ x ∈ ids, (values x).inst others = .var x) :
    ∃ ρ : Equiv.Perm Int, ∀ x ∈ ids, values x = .var (ρ x) := by
  choose image value back using fun x : {x // x ∈ ids} => eq_var_of_inst (undone x x.2)
  have injective : Function.Injective image := by
    intro x y same
    have ids : (Ty.var x : Ty ε) = .var y := by rw [← back x, ← back y, same]
    exact Subtype.ext (Ty.var.inj ids)
  obtain ⟨ρ, extending⟩ := Equiv.Perm.exists_extending_pair Subtype.val image
    Subtype.val_injective injective
  refine ⟨ρ, fun x member => ?_⟩
  rw [value ⟨x, member⟩, ← extending ⟨x, member⟩]

theorem exists_renaming_of_instances {values others : Int → Ty ε} {t u : Ty ε}
    (forth : t.inst values = u) (back : u.inst others = t) :
    ∃ ρ : Equiv.Perm Int, t.rename id ρ = u := by
  have same : t.inst (fun x => (values x).inst others) = t.inst .var := by
    rw [← inst_inst, forth, back, inst_var]
  obtain ⟨ρ, renames⟩ := exists_renaming (eq_of_inst_eq same)
  refine ⟨ρ, ?_⟩
  rw [rename_vars, ← forth]
  exact inst_congr fun x member => (renames x member).symm

end Ty

theorem idxOf_map {f : Int → Int} (injective : Function.Injective f) (ids : List Int) (a : Int) :
    (ids.map f).idxOf (f a) = ids.idxOf a := by
  induction ids with
  | nil => rfl
  | cons b rest ih =>
    by_cases same : b = a
    · simp [same]
    · have other : f b ≠ f a := fun eq => same (injective eq)
      rw [List.map_cons, List.idxOf_cons_ne _ other, List.idxOf_cons_ne _ same, ih]

section Render

variable {f : Int → Int}

theorem Names.insert_map (injective : Function.Injective f) (names : Names) (a : Int) :
    Names.insert (names.map f) (f a) = (names.insert a).map f := by
  unfold Names.insert
  by_cases known : a ∈ names
  · rw [if_pos known, if_pos (List.mem_map_of_mem known)]
  · have unknown : f a ∉ names.map f := by rwa [List.mem_map_of_injective injective]
    rw [if_neg known, if_neg unknown, List.map_append, List.map_singleton]

theorem Names.name_map (injective : Function.Injective f) (names : Names) (a : Int) :
    Names.name (names.map f) (f a) = names.name a := by
  unfold Names.name
  rw [idxOf_map injective]

theorem Ty.renderWith_rename [ToString ε] (injective : Function.Injective f) (t : Ty ε)
    (names : Names) :
    (t.rename f id).renderWith (names.map f) =
      ((t.renderWith names).1, (t.renderWith names).2.map f) := by
  induction t generalizing names with
  | param a => simp [renderWith, Names.insert_map injective, Names.name_map injective]
  | arrow dom cod left right => simp [renderWith, left, right, isArrow_rename]
  | _ => rfl

/-- The text of a type does not depend on the ids of its parameters. -/
theorem Ty.render_rename [ToString ε] (injective : Function.Injective f) (t : Ty ε) :
    (t.rename f id).render = t.render := by
  have named := t.renderWith_rename injective []
  rw [List.map_nil] at named
  rw [render, named, render]

end Render

section AlphaEquivalence

/-- All that is known of the renaming agrees with `f`. -/
def Renaming.Within (f : Int → Int) (known : Renaming) : Prop :=
  ∀ entry ∈ known, entry.2 = f entry.1

theorem Renaming.Within.match? {f : Int → Int} (injective : Function.Injective f)
    {known : Renaming} (within : known.Within f) (a : Int) :
    ∃ known', known.match? a (f a) = some known' ∧ known'.Within f := by
  unfold Renaming.match?
  split
  · rename_i image found
    have same := within _ (List.mem_of_find?_eq_some found)
    obtain rfl : _ = a := by simpa using List.find?_some found
    exact ⟨known, if_pos same, within⟩
  · rename_i unknown
    have unused : ¬ known.any (·.2 = f a) := by
      intro used
      obtain ⟨entry, member, image⟩ := List.any_eq_true.mp used
      have source : entry.1 = a := injective ((within entry member).symm.trans (by simpa using image))
      exact List.find?_eq_none.mp unknown entry member (by simpa using source)
    exact ⟨_, if_neg unused, List.forall_mem_cons.mpr ⟨rfl, within⟩⟩

variable [DecidableEq ε] {f g : Int → Int}

theorem Ty.alphaMatch?_rename (onParams : Function.Injective f) (onVars : Function.Injective g)
    (t : Ty ε) {params vars : Renaming} (withinParams : params.Within f)
    (withinVars : vars.Within g) :
    ∃ params' vars', alphaMatch? t (t.rename f g) (params, vars) = some (params', vars') ∧
      params'.Within f ∧ vars'.Within g := by
  induction t generalizing params vars with
  | param a =>
    obtain ⟨params', matched, within⟩ := withinParams.match? onParams a
    exact ⟨params', vars, by simp [alphaMatch?, matched], within, withinVars⟩
  | var x =>
    obtain ⟨vars', matched, within⟩ := withinVars.match? onVars x
    exact ⟨params, vars', by simp [alphaMatch?, matched], withinParams, within⟩
  | arrow dom cod left right =>
    obtain ⟨params₁, vars₁, matchedDom, within₁, withinVars₁⟩ := left withinParams withinVars
    obtain ⟨params₂, vars₂, matchedCod, within₂, withinVars₂⟩ := right within₁ withinVars₁
    exact ⟨params₂, vars₂, by simp [alphaMatch?, matchedDom, matchedCod], within₂, withinVars₂⟩
  | _ => exact ⟨params, vars, by simp [alphaMatch?], withinParams, withinVars⟩

/-- A renamed type is alpha-equivalent to the type it comes from. -/
theorem Ty.alphaEquivalent_rename (onParams : Function.Injective f) (onVars : Function.Injective g)
    (t : Ty ε) : t.alphaEquivalent (t.rename f g) = true := by
  obtain ⟨_, _, matched, _⟩ := t.alphaMatch?_rename onParams onVars
    (List.forall_mem_nil _) (List.forall_mem_nil _)
  simp [alphaEquivalent, matched]

end AlphaEquivalence

end Gradual
