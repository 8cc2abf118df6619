import Gradual.Proofs.Principality
import Gradual.Proofs.Renaming
import Mathlib.Data.Fintype.Sum
import Mathlib.Logic.Function.Basic

/-! Where the parameters of an inferred type come from. Generalisation puts the parameters from the
next one on in place of the variables, all at once. All others stand in the environment or in a
declared type: the types of an expression do not depend on the names of other parameters, so a most
general one cannot mention them. -/
namespace Gradual

variable {ε : Type}

/-- Parameter ids in the types of the environment, one for every occurrence. -/
def Env.params (env : Env ε) : List Int := env.entries.flatMap fun entry => entry.2.params

/-- Parameter ids in the declared types, one for every occurrence. -/
def Expr.params (e : Expr ε) : List Int := e.declared.flatMap Ty.params

theorem Env.mem_params_of_get? {env : Env ε} {x : String} {t : Ty ε} (bound : env.get? x = some t)
    {a : Int} (occurs : a ∈ t.params) : a ∈ env.params := by
  obtain ⟨entry, found, rfl⟩ := Option.map_eq_some_iff.mp bound
  exact List.mem_flatMap.mpr ⟨entry, List.mem_of_find?_eq_some found, occurs⟩

/-- Induction along the ids that are kept when repetitions are dropped. -/
theorem eraseDups_induction {motive : List Int → Prop} (nil : motive [])
    (cons : ∀ x rest, motive (rest.filter fun y => !y == x) → motive (x :: rest)) (ids : List Int) :
    motive ids := by
  induction size : ids.length using Nat.strong_induction_on generalizing ids with
  | h n ih =>
    cases ids with
    | nil => exact nil
    | cons x rest =>
      have shorter := List.length_filter_le (fun y => !y == x) rest
      exact cons x rest (ih _ (by simp only [List.length_cons] at size; omega) _ rfl)

namespace Ty

theorem subst_inst (values : Int → Ty ε) (u : Ty ε) (x : Int) (t : Ty ε) :
    (u.subst x t).inst values = u.inst (Function.update values x (t.inst values)) := by
  induction u with
  | var y =>
    by_cases same : y = x
    · simp [subst, same]
    · simp [subst, same]
  | arrow dom cod left right => simp [subst, left, right]
  | _ => rfl

theorem foldl_generalize (xs : List Int) (t : Ty ε) (next : Int) :
    xs.foldl (fun (t, a) x => (t.subst x (.param a), a + 1)) (t, next) =
      (t.inst fun y => if y ∈ xs then .param (next + xs.idxOf y) else .var y,
        next + xs.length) := by
  induction xs generalizing t next with
  | nil => simp [inst_var]
  | cons x xs ih =>
    rw [List.foldl_cons, ih, subst_inst]
    refine Prod.ext (inst_congr fun y _ => ?_) (by simp only [List.length_cons]; omega)
    by_cases same : y = x
    · simp [same]
    · have later : (x :: xs).idxOf y = xs.idxOf y + 1 := List.idxOf_cons_ne _ (Ne.symm same)
      have shifted : next + ((xs.idxOf y : Int) + 1) = next + 1 + xs.idxOf y := by omega
      simp [same, later, shifted]

/-- Generalisation replaces all variables at once. -/
theorem generalizeFrom_eq (t : Ty ε) (next : Int) :
    t.generalizeFrom next = (t.inst fun x => .param (next + t.distinctVars.idxOf x),
      next + t.distinctVars.length) := by
  unfold generalizeFrom
  rw [foldl_generalize]
  congr 1
  exact inst_congr fun x member => if_pos (List.mem_eraseDups.mpr member)

theorem mem_params_inst {values : Int → Ty ε} {t : Ty ε} {a : Int} :
    a ∈ (t.inst values).params ↔ a ∈ t.params ∨ ∃ x ∈ t.vars, a ∈ (values x).params := by
  induction t with
  | arrow dom cod left right => grind [inst, params, vars]
  | _ => simp [inst, params, vars]

theorem generalizeFrom_vars (t : Ty ε) (next : Int) : (t.generalizeFrom next).1.vars = [] := by
  refine List.eq_nil_iff_forall_not_mem.mpr fun y member => ?_
  rw [generalizeFrom_eq, mem_vars_inst] at member
  obtain ⟨x, _, occurs⟩ := member
  cases occurs

/-- The parameters of a generalised type are those it had before and new ones, drawn in a row. -/
theorem mem_params_generalizeFrom {t : Ty ε} {next a : Int}
    (member : a ∈ (t.generalizeFrom next).1.params) :
    a ∈ t.params ∨ next ≤ a ∧ a < (t.generalizeFrom next).2 := by
  rw [generalizeFrom_eq] at member ⊢
  obtain old | ⟨x, occurs, drawn⟩ := mem_params_inst.mp member
  · exact .inl old
  · obtain rfl := List.mem_singleton.mp drawn
    have inside := List.idxOf_lt_length_of_mem (List.mem_eraseDups.mpr occurs)
    exact .inr ⟨by omega, by simp only [distinctVars]; omega⟩

section Rename

variable {f g : Int → Int}

theorem rename_inst {values : Int → Ty ε} {t : Ty ε} (fixed : ∀ a ∈ t.params, f a = a) :
    (t.inst values).rename f id = t.inst fun x => (values x).rename f id := by
  induction t with
  | param a => simp [fixed a (by simp [params])]
  | arrow dom cod left right =>
    obtain ⟨onDom, onCod⟩ := List.forall_mem_append.mp fixed
    simp [left onDom, right onCod]
  | _ => rfl

theorem rename_fixed {t : Ty ε} (fixed : ∀ a ∈ t.params, f a = a) : t.rename f id = t := by
  calc t.rename f id = (t.inst .var).rename f id := by rw [inst_var]
    _ = t.inst .var := rename_inst fixed
    _ = t := t.inst_var

/-- A renaming that amounts to an instance leaves the parameters alone. -/
theorem fixed_of_rename_eq_inst {values : Int → Ty ε} {t : Ty ε}
    (same : t.rename f id = t.inst values) : ∀ a ∈ t.params, f a = a := by
  induction t with
  | param b =>
    intro a member
    obtain rfl := List.mem_singleton.mp member
    exact Ty.param.inj same
  | arrow dom cod left right =>
    obtain ⟨doms, cods⟩ := Ty.arrow.inj same
    exact List.forall_mem_append.mpr ⟨left doms, right cods⟩
  | _ => exact List.forall_mem_nil _

theorem isStatic_rename (t : Ty ε) : (t.rename f g).isStatic = t.isStatic := by
  induction t with
  | arrow dom cod left right => simp [isStatic, left, right]
  | _ => rfl

theorem Consistent.rename {t u : Ty ε} (consistent : Consistent t u) :
    Consistent (t.rename f g) (u.rename f g) := by
  induction consistent with
  | param a => exact .param _
  | var x => exact .var _
  | base name => exact .base name
  | dynLeft t => exact .dynLeft _
  | dynRight t => exact .dynRight _
  | arrow _ _ dom cod => exact .arrow dom cod

theorem function?_rename {t dom cod : Ty ε} (function : t.function? = some (dom, cod)) :
    (t.rename f g).function? = some (dom.rename f g, cod.rename f g) := by
  cases t with
  | arrow | dyn => cases function; rfl
  | _ => cases function

end Rename

/-- Generalised from different parameters on, types that differ in the names of their variables
differ in the names of the new parameters only. -/
theorem generalize_rename {t : Ty ε} (ρ : Equiv.Perm Int) {kept : List Int} {next next' : Int}
    (inside : ∀ a ∈ t.params, a ∈ kept) (older : ∀ a ∈ kept, a < next ∧ a < next') :
    ∃ κ : Equiv.Perm Int, (∀ a ∈ kept, κ a = a) ∧
      ((t.rename id ρ).generalizeFrom next').1 = (t.generalizeFrom next).1.rename κ id := by
  let before (x : {x // x ∈ t.vars}) : Int := next + t.distinctVars.idxOf x.1
  let after (x : {x // x ∈ t.vars}) : Int := next' + (t.rename id ρ).distinctVars.idxOf (ρ x.1)
  have occurs : ∀ x ∈ t.vars, ρ x ∈ (t.rename id ρ).vars := by
    intro x member
    rw [rename_vars, mem_vars_inst]
    exact ⟨x, member, by simp [vars]⟩
  have beforeInjective : Function.Injective before := by
    intro x y same
    have indices : t.distinctVars.idxOf x.1 = t.distinctVars.idxOf y.1 := by
      simp only [before] at same
      omega
    exact Subtype.ext ((List.idxOf_inj (List.mem_eraseDups.mpr x.2)).mp indices)
  have afterInjective : Function.Injective after := by
    intro x y same
    have indices : (t.rename id ρ).distinctVars.idxOf (ρ x.1) =
        (t.rename id ρ).distinctVars.idxOf (ρ y.1) := by
      simp only [after] at same
      omega
    have ids := (List.idxOf_inj (List.mem_eraseDups.mpr (occurs x.1 x.2))).mp indices
    exact Subtype.ext (ρ.injective ids)
  -- The parameters that are kept stay, and the new ones go where generalisation puts them.
  obtain ⟨κ, extending⟩ := Equiv.Perm.exists_extending_pair
    (Sum.elim (fun a : {a // a ∈ kept} => a.1) before) (Sum.elim (fun a => a.1) after)
    (Subtype.val_injective.sumElim beforeInjective fun a x => by
      have := (older a.1 a.2).1
      simp only [before]
      omega)
    (Subtype.val_injective.sumElim afterInjective fun a x => by
      have := (older a.1 a.2).2
      simp only [after]
      omega)
  have fixed : ∀ a ∈ kept, κ a = a := fun a member => extending (.inl ⟨a, member⟩)
  refine ⟨κ, fixed, ?_⟩
  rw [generalizeFrom_eq, generalizeFrom_eq, rename_inst fun a member => fixed a (inside a member)]
  conv_lhs => rw [rename_vars, inst_inst]
  refine inst_congr fun x member => ?_
  have moved := extending (.inr ⟨x, member⟩)
  simp only [Sum.elim_inr, before, after, rename_vars] at moved
  simp [moved]

end Ty

/-- Typing does not depend on the names of parameters that are not declared. -/
theorem HasType.rename {f : Int → Int} {env env' : Env ε} {e : Expr ε} {t : Ty ε}
    (typed : HasType env e t) (envs : ∀ x, env'.get? x = (env.get? x).map (·.rename f id))
    (fixed : ∀ a ∈ e.params, f a = a) : HasType env' e (t.rename f id) := by
  induction typed generalizing env' with
  | var bound => exact .var (by rw [envs, bound]; rfl)
  | int value => exact .int value
  | bool value => exact .bool value
  | add _ _ leftInt rightInt ihLeft ihRight =>
    rw [Expr.params, Expr.declared, List.flatMap_append, List.forall_mem_append] at fixed
    exact .add (ihLeft envs fixed.1) (ihRight envs fixed.2) leftInt.rename rightInt.rename
  | implicit static _ ih =>
    refine .implicit (by rw [Ty.isStatic_rename, static]) (ih (fun y => ?_) fixed)
    rw [Env.get?_extend, Env.get?_extend, envs]
    split <;> rfl
  | explicit _ ih =>
    rw [Expr.params, Expr.declared, List.flatMap_cons, List.forall_mem_append] at fixed
    have declared := Ty.rename_fixed fixed.1
    rw [Ty.rename, declared]
    refine .explicit (ih (fun y => ?_) fixed.2)
    rw [Env.get?_extend, Env.get?_extend, envs]
    split
    · rw [Option.map_some, declared]
    · rfl
  | app _ _ function accepts ihFunc ihArg =>
    rw [Expr.params, Expr.declared, List.flatMap_append, List.forall_mem_append] at fixed
    exact .app (ihFunc envs fixed.1) (ihArg envs fixed.2) (Ty.function?_rename function)
      accepts.rename

theorem Generates.nextParam {env : Env Empty} {e : Expr Empty} {s s' : Supply} {raw : Ty Empty}
    {constraints : ConstraintSet Empty} (generates : Generates env e s raw constraints s') :
    s'.nextParam = s.nextParam := by
  induction generates with
  | var | int | bool => rfl
  | add _ _ left right => exact right.trans left
  | implicit _ ih | explicit _ ih => exact ih
  | appVar _ _ func argument | appArrow _ _ func argument | appDyn _ _ func argument =>
    exact argument.trans func

namespace Expr

variable {env : Env Empty} {e : Expr Empty} {supply rest : Supply} {inference : Inference Empty}

theorem infer_generalizes (inferred : (e.infer env).run supply = .ok inference rest) :
    (inference.substitution.apply inference.raw).generalizeFrom supply.nextParam =
      (inference.type, rest.nextParam) := by
  obtain ⟨raw, constraints, solution, generated, solved, generate, solve, rfl, rfl⟩ :=
    infer_ok.mp inferred
  obtain ⟨_, _, _, rfl⟩ := Drawing.solve_ok.mp solve
  have kept := (generates_of_ok generate).nextParam
  simp only [kept]

theorem infer_type (inferred : (e.infer env).run supply = .ok inference rest) :
    inference.type = ((inference.substitution.apply inference.raw).generalizeFrom
      supply.nextParam).1 := by
  rw [infer_generalizes inferred]

/-- Every type of the expression is a static instance of the one that was found. -/
theorem infer_factors (closedEnv : env.Closed) (closed : e.Closed)
    (inferred : (e.infer env).run supply = .ok inference rest) {t : Ty Empty}
    (typed : HasType env e t) :
    ∃ σ : StaticAssignment Empty, t = σ.apply (inference.substitution.apply inference.raw) := by
  obtain ⟨inference', rest', inferred', factors⟩ :=
    infer_of_hasType supply closedEnv closed typed
  obtain ⟨rfl, rfl⟩ : inference = inference' ∧ rest = rest' := by
    rw [inferred] at inferred'
    simpa using inferred'
  exact factors

/-- Before it is generalised, an inferred type has no parameters but those of the environment and of
the declared types. -/
theorem infer_params (closedEnv : env.Closed) (closed : e.Closed)
    (inferred : (e.infer env).run supply = .ok inference rest) :
    ∀ a ∈ (inference.substitution.apply inference.raw).params, a ∈ env.params ++ e.params := by
  intro a occurs
  by_contra foreign
  rw [List.mem_append, not_or] at foreign
  -- Under another name of this parameter the expression has a type that is no instance.
  have others : ∀ b, b ≠ a → Function.update id a (a + 1) b = b :=
    fun b other => Function.update_of_ne other _ _
  have inEnv : ∀ x, env.get? x = (env.get? x).map (·.rename (Function.update id a (a + 1)) id) := by
    intro x
    cases bound : env.get? x with
    | none => rfl
    | some t =>
      rw [Option.map_some, Ty.rename_fixed fun b member => others b ?_]
      rintro rfl
      exact foreign.1 (Env.mem_params_of_get? bound member)
  have inDeclared : ∀ b ∈ e.params, Function.update id a (a + 1) b = b :=
    fun b member => others b fun same => foreign.2 (same ▸ member)
  have typed := infer_hasType closedEnv closed inferred .identity
  rw [StaticAssignment.identity_apply] at typed
  obtain ⟨σ, factors⟩ := infer_factors closedEnv closed inferred (typed.rename inEnv inDeclared)
  have fixed := Ty.fixed_of_rename_eq_inst factors a occurs
  rw [Function.update_self] at fixed
  omega

end Expr

end Gradual
