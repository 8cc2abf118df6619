import Gradual.Proofs.Drawing
import Gradual.Proofs.Ordered
import Gradual.Proofs.Quotation
import Mathlib.Data.Finset.Card

/-! The order of a constraint set is canonical. No two constraints have one canonical text, since the
text of a type shows where it ends and its first characters name its constructor. So the members of a
set stand in one order only, and whatever is computed from that order does not depend on how the set
was built. -/
namespace Gradual

section Texts

variable {rest rest' : List Char}

theorem Text.number_append_inj {a b : Int}
    (same : (toString a).toList ++ ')' :: rest = (toString b).toList ++ ')' :: rest') :
    a = b ∧ rest = rest' := by
  have stop : ∀ rest : List Char, ∀ c ∈ (')' :: rest).head?, (c.isDigit || c == '-') = false := by
    rintro _ _ ⟨⟩
    rfl
  obtain ⟨numbers, rests⟩ := toString_int_append_inj (stop rest) (stop rest') same
  exact ⟨numbers, (List.cons.inj rests).2⟩

namespace Ty

@[simp] theorem canonical_param (a : Int) :
    (param a : Ty Empty).canonical = "TypeParam(id=" ++ toString a ++ ")" := rfl

@[simp] theorem canonical_var (x : Int) :
    (var x : Ty Empty).canonical = "TypeVar(id=" ++ toString x ++ ")" := rfl

@[simp] theorem canonical_base (name : String) :
    (base name : Ty Empty).canonical = "BaseType(name=" ++ Text.quote name ++ ")" := rfl

@[simp] theorem canonical_arrow (dom cod : Ty Empty) :
    (arrow dom cod).canonical =
      "TypeArrow(dom=" ++ dom.canonical ++ ", cod=" ++ cod.canonical ++ ")" := rfl

@[simp] theorem canonical_dyn : (dyn : Ty Empty).canonical = "TypeDyn()" := rfl

/-- The canonical text of a type at the start of a text shows the type and where it ends. -/
theorem canonical_append_inj {t u : Ty Empty}
    (same : t.canonical.toList ++ rest = u.canonical.toList ++ rest') : t = u ∧ rest = rest' := by
  induction t generalizing u rest rest' with
  | param a =>
    cases u with
    | param b =>
      obtain ⟨rfl, rests⟩ := Text.number_append_inj (by simpa using same)
      exact ⟨rfl, rests⟩
    | host leaf => exact leaf.elim
    | _ => simp at same
  | var x =>
    cases u with
    | var y =>
      obtain ⟨rfl, rests⟩ := Text.number_append_inj (by simpa using same)
      exact ⟨rfl, rests⟩
    | host leaf => exact leaf.elim
    | _ => simp at same
  | base name =>
    cases u with
    | base other =>
      have quotations : (Text.quote name).toList ++ ')' :: rest =
          (Text.quote other).toList ++ ')' :: rest' := by
        simpa using same
      obtain ⟨rfl, rests⟩ := Text.quote_append_inj quotations
      exact ⟨rfl, (List.cons.inj rests).2⟩
    | host leaf => exact leaf.elim
    | _ => simp at same
  | arrow dom cod domIH codIH =>
    cases u with
    | arrow dom' cod' =>
      have parts : dom.canonical.toList ++ (", cod=".toList ++ (cod.canonical.toList ++ ')' :: rest)) =
          dom'.canonical.toList ++ (", cod=".toList ++ (cod'.canonical.toList ++ ')' :: rest')) := by
        simpa using same
      obtain ⟨rfl, later⟩ := domIH parts
      obtain ⟨rfl, rests⟩ := codIH (List.append_cancel_left later)
      exact ⟨rfl, (List.cons.inj rests).2⟩
    | host leaf => exact leaf.elim
    | _ => simp at same
  | dyn =>
    cases u with
    | dyn => exact ⟨rfl, List.append_cancel_left same⟩
    | host leaf => exact leaf.elim
    | _ => simp at same
  | host leaf => exact leaf.elim

end Ty

theorem Constraint.sides_of_canonical {tag : List Char} {l r l' r' : Ty Empty}
    (same : tag ++ l.canonical.toList ++ ", right=".toList ++ r.canonical.toList ++ ")".toList =
      tag ++ l'.canonical.toList ++ ", right=".toList ++ r'.canonical.toList ++ ")".toList) :
    l = l' ∧ r = r' := by
  simp only [List.append_assoc] at same
  obtain ⟨left, later⟩ := Ty.canonical_append_inj (List.append_cancel_left same)
  obtain ⟨right, _⟩ := Ty.canonical_append_inj (List.append_cancel_left later)
  exact ⟨left, right⟩

theorem Constraint.canonical_injective :
    Function.Injective (canonical : Constraint Empty → String) := by
  intro c d same
  cases c with
  | equal l r =>
    cases d with
    | equal l' r' =>
      have texts := congrArg String.toList same
      unfold canonical at texts
      simp only [String.toList_append] at texts
      obtain ⟨rfl, rfl⟩ := sides_of_canonical texts
      rfl
    | consistent l' r' =>
      exact absurd (canonical_consistent_lt_equal l' r' l r) (same ▸ String.lt_irrefl _)
  | consistent l r =>
    cases d with
    | equal l' r' =>
      exact absurd (canonical_consistent_lt_equal l r l' r') (same ▸ String.lt_irrefl _)
    | consistent l' r' =>
      have texts := congrArg String.toList same
      unfold canonical at texts
      simp only [String.toList_append] at texts
      obtain ⟨rfl, rfl⟩ := sides_of_canonical texts
      rfl

end Texts

namespace ConstraintSet

section Order

variable {ε : Type} [ToString ε]

theorem ordered_perm (set : ConstraintSet ε) : set.ordered.Perm set.members := by
  have perm := (List.mergeSort_perm (set.members.map fun c => (c.canonical, c))
    fun a b => a.1 ≤ b.1).map Prod.snd
  rw [List.map_map] at perm
  exact perm.trans (List.Perm.of_eq (List.map_id _))

theorem length_ordered (set : ConstraintSet ε) : set.ordered.length = set.size :=
  set.ordered_perm.length_eq

end Order

theorem members_perm {ε : Type} {set other : ConstraintSet ε} (same : ∀ c, c ∈ set ↔ c ∈ other) :
    set.members.Perm other.members :=
  (List.perm_ext_iff_of_nodup set.nodup other.nodup).mpr same

theorem ordered_increasing (set : ConstraintSet Empty) :
    set.ordered.Pairwise fun c d => c.canonical < d.canonical := by
  have nodup : set.ordered.Pairwise (· ≠ ·) := set.ordered_perm.nodup_iff.mpr set.nodup
  refine (set.ordered_sorted.and nodup).imp fun {c d} both => ?_
  obtain ⟨le, differ⟩ := both
  refine String.not_le.mp fun ge => differ ?_
  exact Constraint.canonical_injective (String.le_antisymm le ge)

/-- There is only one order in which the members are sorted. -/
theorem ordered_eq_of_perm {set : ConstraintSet Empty} {sorted : List (Constraint Empty)}
    (perm : set.members.Perm sorted)
    (increasing : sorted.Pairwise fun c d => c.canonical ≤ d.canonical) : set.ordered = sorted := by
  refine (set.ordered_perm.trans perm).eq_of_pairwise (fun c d _ _ le ge => ?_) set.ordered_sorted
    increasing
  exact Constraint.canonical_injective (String.le_antisymm le ge)

theorem ordered_eq_iff {set other : ConstraintSet Empty} :
    set.ordered = other.ordered ↔ ∀ c, c ∈ set ↔ c ∈ other := by
  constructor
  · intro same c
    rw [← mem_ordered, same, mem_ordered]
  · intro same
    exact ordered_eq_of_perm ((members_perm same).trans other.ordered_perm.symm)
      other.ordered_sorted

theorem sameMembers_iff {ε : Type} [DecidableEq ε] {set other : ConstraintSet ε} :
    set.sameMembers other = true ↔ ∀ c, c ∈ set ↔ c ∈ other := by
  simp only [sameMembers, Bool.and_eq_true, beq_iff_eq, List.all_eq_true, decide_eq_true_eq]
  constructor
  · rintro ⟨size, inside⟩ c
    have subperm := List.subperm_of_subset set.nodup inside
    exact (subperm.perm_of_length_le (Nat.le_of_eq size.symm)).mem_iff
  · intro same
    exact ⟨(members_perm same).length_eq, fun c member => (same c).mp member⟩

end ConstraintSet

/-! Over the grammar substitution and application are never undefined. -/
section Grammar

theorem Constraint.tryMapSides_ok {f : Ty Empty → Except (Fault Empty) (Ty Empty)}
    {g : Ty Empty → Ty Empty} (defined : ∀ t, f t = .ok (g t)) (c : Constraint Empty) :
    c.tryMapSides f = .ok (c.mapSides g) := by
  cases c <;> simp only [tryMapSides, defined] <;> rfl

theorem ConstraintSet.ofList_mapM_ok
    {f : Constraint Empty → Except (Fault Empty) (Constraint Empty)}
    {g : Constraint Empty → Constraint Empty} (defined : ∀ c, f c = .ok (g c))
    (set : ConstraintSet Empty) : ofList <$> set.members.mapM f = .ok (set.mapMembers g) := by
  have pure : f = fun c => pure (g c) := funext defined
  rw [pure, List.mapM_pure]
  rfl

theorem ConstraintSet.trySubst_grammar (set : ConstraintSet Empty) (x : Int) (t : Ty Empty) :
    set.trySubst x t = .ok (set.subst x t) :=
  set.ofList_mapM_ok (Constraint.tryMapSides_ok (Ty.trySubst_grammar · x t))

theorem ConstraintSet.tryApply_grammar (set : ConstraintSet Empty) (s : Substitution Empty) :
    set.tryApply s = .ok (set.apply s) :=
  set.ofList_mapM_ok (Constraint.tryMapSides_ok s.tryApply_grammar)

end Grammar

namespace ConstraintSet

theorem mem_mapMembers {ε : Type} [DecidableEq ε] (f : Constraint ε → Constraint ε)
    (set : ConstraintSet ε) (c : Constraint ε) :
    c ∈ set.mapMembers f ↔ ∃ d ∈ set, f d = c := by
  rw [mapMembers, mem_ofList, List.mem_map]
  rfl

/-- A way to build a set: from constraints that are given, through any number of operations. Several
sets are united one after the other. -/
inductive Construction where
  | of (constraints : List (Constraint Empty))
  | add (set : Construction) (c : Constraint Empty)
  | union (set other : Construction)
  | subst (set : Construction) (x : Int) (t : Ty Empty)
  | apply (set : Construction) (s : Substitution Empty)

namespace Construction

/-- The set that comes out of the operations. -/
def build : Construction → Except (Fault Empty) (ConstraintSet Empty)
  | .of constraints => return .ofList constraints
  | .add set c => do return (← set.build).add c
  | .union set other => do return (← set.build).union (← other.build)
  | .subst set x t => do (← set.build).trySubst x t
  | .apply set s => do (← set.build).tryApply s

/-- What that set holds, as a set without any order. -/
def contents : Construction → Finset (Constraint Empty)
  | .of constraints => constraints.toFinset
  | .add set c => insert c set.contents
  | .union set other => set.contents ∪ other.contents
  | .subst set x t => set.contents.image (·.subst x t)
  | .apply set s => set.contents.image (·.apply s)

theorem build_contents (plan : Construction) :
    ∃ set, plan.build = .ok set ∧ ∀ c, c ∈ set ↔ c ∈ plan.contents := by
  induction plan with
  | of constraints => exact ⟨.ofList constraints, rfl, by simp [contents]⟩
  | add plan c ih =>
    obtain ⟨set, built, holds⟩ := ih
    exact ⟨set.add c, by simp only [build, built]; rfl, by simp [contents, holds]⟩
  | union plan other ih ih' =>
    obtain ⟨set, built, holds⟩ := ih
    obtain ⟨set', built', holds'⟩ := ih'
    refine ⟨set.union set', by simp only [build, built, built']; rfl, fun c => ?_⟩
    rw [mem_union, contents, Finset.mem_union, holds, holds', or_comm]
  | subst plan x t ih =>
    obtain ⟨set, built, holds⟩ := ih
    refine ⟨set.subst x t, by simp only [build, built]; exact set.trySubst_grammar x t, fun c => ?_⟩
    rw [ConstraintSet.subst, mem_mapMembers, contents, Finset.mem_image]
    simp only [holds]
  | apply plan s ih =>
    obtain ⟨set, built, holds⟩ := ih
    refine ⟨set.apply s, by simp only [build, built]; exact set.tryApply_grammar s, fun c => ?_⟩
    rw [ConstraintSet.apply, mem_mapMembers, contents, Finset.mem_image]
    simp only [holds]

theorem mem_iff_of_build {plan : Construction} {set : ConstraintSet Empty}
    (built : plan.build = .ok set) (c : Constraint Empty) : c ∈ set ↔ c ∈ plan.contents := by
  obtain ⟨other, same, holds⟩ := plan.build_contents
  obtain rfl : other = set := by simpa [same] using built
  exact holds c

theorem card_contents {plan : Construction} {set : ConstraintSet Empty}
    (built : plan.build = .ok set) : set.size = plan.contents.card := by
  have contents : plan.contents = set.members.toFinset := by
    ext c
    rw [← mem_iff_of_build built, List.mem_toFinset, mem_def]
  rw [contents, List.toFinset_card_of_nodup set.nodup]
  rfl

end Construction

/-- No two constraints have one canonical text. Hence the order of a set, however it was built, is
strictly increasing and lists what the set holds once each; sets are equal exactly when their orders
are, and equal sets are solved alike. -/
theorem ordered_canonical :
    Function.Injective (Constraint.canonical : Constraint Empty → String) ∧
      (∀ plan : Construction, ∃ set, plan.build = .ok set ∧
        (∀ c, c ∈ set.ordered ↔ c ∈ plan.contents) ∧
        (set.ordered.Pairwise fun c d => c.canonical < d.canonical) ∧
        set.ordered.length = set.size ∧ set.size = plan.contents.card) ∧
      ∀ (plan plan' : Construction) (set set' : ConstraintSet Empty),
        plan.build = .ok set → plan'.build = .ok set' →
          (set.sameMembers set' = true ↔ plan.contents = plan'.contents) ∧
          (set.sameMembers set' = true ↔ set.ordered = set'.ordered) ∧
          (set.sameMembers set' = true → Drawing.solve set = Drawing.solve set') := by
  refine ⟨Constraint.canonical_injective, fun plan => ?_, ?_⟩
  · obtain ⟨set, built, holds⟩ := plan.build_contents
    refine ⟨set, built, fun c => ?_, set.ordered_increasing, set.length_ordered, ?_⟩
    · rw [mem_ordered, holds]
    · exact Construction.card_contents built
  · intro plan plan' set set' built built'
    refine ⟨?_, ?_, fun same => ?_⟩
    · rw [sameMembers_iff, Finset.ext_iff]
      simp only [Construction.mem_iff_of_build built, Construction.mem_iff_of_build built']
    · rw [sameMembers_iff, ordered_eq_iff]
    · have orders := ordered_eq_iff.mpr (sameMembers_iff.mp same)
      simp only [Drawing.solve, solve, orders]

/-- Replacing `x1` by `x2` merges two equations, and the other way to the same set names its members
in the opposite order. -/
theorem ordered_canonical_merging :
    let equations : Construction :=
      .subst (.of [.equal (.var 1) .int, .equal (.var 2) .int]) 1 (.var 2)
    let plan : Construction := .union equations (.of [.consistent (.var 1) .dyn])
    let plan' : Construction := .add (.of [.consistent (.var 1) .dyn]) (.equal (.var 2) .int)
    ∃ set set', plan.build = .ok set ∧ plan'.build = .ok set' ∧ set.ordered.length = 2 ∧
      set.ordered = set'.ordered ∧ Drawing.solve set = Drawing.solve set' := by
  intro equations plan plan'
  obtain ⟨_, builds, sets⟩ := ordered_canonical
  obtain ⟨set, built, _, _, length, size⟩ := builds plan
  obtain ⟨set', built', _⟩ := builds plan'
  obtain ⟨contents, orders, solutions⟩ := sets plan plan' set set' built built'
  have same : set.sameMembers set' = true := contents.mpr (by decide)
  refine ⟨set, set', built, built', ?_, orders.mp same, solutions same⟩
  rw [length, size]
  decide

end ConstraintSet

end Gradual
