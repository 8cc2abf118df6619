import Gradual.Proofs.Generation
import Gradual.Proofs.Solver.Completeness

/-! Inference computes principal types. A static solution of the generated constraints types the
expression at its value for the raw type, and every typing comes from such a solution, which is
extended step by step to the variables that generation draws. The solver finds a most general
one. -/
namespace Gradual

namespace Generates

variable {env : Env Empty} {e : Expr Empty} {s s' : Supply} {raw : Ty Empty}
  {constraints : ConstraintSet Empty}

theorem sound {σ : StaticAssignment Empty} (generates : Generates env e s raw constraints s')
    (closed : e.Closed) (solves : σ.Solves constraints) :
    HasType (env.inst σ.value) e (σ.apply raw) := by
  induction generates with
  | var bound => exact .var (by rw [Env.get?_inst, bound]; rfl)
  | int => exact .int _
  | bool => exact .bool _
  | add _ _ ihLeft ihRight =>
    obtain ⟨closedLeft, closedRight⟩ := Expr.Closed.add_iff.mp closed
    obtain ⟨solvesLeft, solvesRight, left, right⟩ := ConstraintSet.forall_sum.mp solves
    exact .add (ihLeft closedLeft solvesLeft) (ihRight closedRight solvesRight) left right
  | implicit _ ih =>
    have result := ih (Expr.Closed.implicit_iff.mp closed) solves
    rw [Env.inst_extend] at result
    exact .implicit (σ.static _) result
  | explicit _ ih =>
    obtain ⟨closedParam, closedBody⟩ := Expr.Closed.explicit_iff.mp closed
    have result := ih closedBody solves
    rw [Env.inst_extend, Ty.inst_closed closedParam] at result
    rw [StaticAssignment.apply, Ty.inst, Ty.inst_closed closedParam]
    exact .explicit result
  | appVar _ _ ihFunc ihArg =>
    obtain ⟨closedFunc, closedArg⟩ := Expr.Closed.app_iff.mp closed
    obtain ⟨solvesFunc, solvesArg, result, shape, accepts⟩ :=
      ConstraintSet.forall_splitApplication.mp solves
    have func := ihFunc closedFunc solvesFunc
    -- The two arrows that the operator was taken apart into are the same.
    have parts := Ty.arrow.inj (Eq.trans (Eq.symm result) shape)
    refine .app func (ihArg closedArg solvesArg) ?_ accepts
    have operator := shape
    simp only [StaticAssignment.Satisfies, Constraint.Holds, Ty.inst] at operator parts
    rw [StaticAssignment.apply, Ty.inst, operator, ← parts.2]
    rfl
  | appArrow _ _ ihFunc ihArg =>
    obtain ⟨closedFunc, closedArg⟩ := Expr.Closed.app_iff.mp closed
    obtain ⟨solvesFunc, solvesArg, accepts⟩ := ConstraintSet.forall_application.mp solves
    exact .app (ihFunc closedFunc solvesFunc) (ihArg closedArg solvesArg) rfl accepts
  | appDyn _ _ ihFunc ihArg =>
    obtain ⟨closedFunc, closedArg⟩ := Expr.Closed.app_iff.mp closed
    obtain ⟨solvesFunc, solvesArg, accepts⟩ := ConstraintSet.forall_application.mp solves
    exact .app (ihFunc closedFunc solvesFunc) (ihArg closedArg solvesArg) rfl accepts

end Generates

/-- Every typing of the expression under an assignment comes from its generated constraints. -/
def TypingsGenerated (e : Expr Empty) : Prop :=
  ∀ ⦃env : Env Empty⦄ ⦃s : Supply⦄ ⦃σ : StaticAssignment Empty⦄ ⦃t : Ty Empty⦄,
    env.VarsIn (· < s.nextVar) → HasType (env.inst σ.value) e t →
    ∃ raw constraints s', Generates env e s raw constraints s' ∧
      ∃ τ : StaticAssignment Empty, σ.AgreesBefore s.nextVar τ ∧ τ.Solves constraints ∧
        τ.apply raw = t

/-- For two expressions one after the other, the assignment found for the second one still serves
the first one. -/
theorem TypingsGenerated.both {l r : Expr Empty} (left : TypingsGenerated l)
    (right : TypingsGenerated r) (closed : l.Closed) {env : Env Empty} {s : Supply}
    {σ : StaticAssignment Empty} {t u : Ty Empty} (inEnv : env.VarsIn (· < s.nextVar))
    (typedLeft : HasType (env.inst σ.value) l t)
    (typedRight : HasType (env.inst σ.value) r u) :
    ∃ rawL c₁ s₁ rawR c₂ s₂, Generates env l s rawL c₁ s₁ ∧ Generates env r s₁ rawR c₂ s₂ ∧
      ∃ τ : StaticAssignment Empty, σ.AgreesBefore s.nextVar τ ∧ τ.Solves c₁ ∧ τ.Solves c₂ ∧
        τ.apply rawL = t ∧ τ.apply rawR = u := by
  obtain ⟨rawL, c₁, s₁, generatesL, σ₁, agree₁, solves₁, valueL⟩ := left inEnv typedLeft
  have le := generatesL.supply_le
  have inEnv₁ : env.VarsIn (· < s₁.nextVar) := inEnv.mono fun y old => Int.lt_of_lt_of_le old le
  rw [Env.inst_of_agree agree₁ inEnv] at typedRight
  obtain ⟨rawR, c₂, s₂, generatesR, σ₂, agree₂, solves₂, valueR⟩ := right inEnv₁ typedRight
  obtain ⟨olderL, older₁⟩ := generatesL.older inEnv closed
  refine ⟨rawL, c₁, s₁, rawR, c₂, s₂, generatesL, generatesR, σ₂, ?_, ?_, solves₂, ?_, valueR⟩
  · exact agree₁.trans (agree₂.mono le)
  · exact agree₂.solves older₁ solves₁
  · rw [← agree₂.apply olderL, valueL]

/-- An operator whose type is a variable is taken apart twice, into parts of the same types. -/
theorem splitApplication_solved {τ : StaticAssignment Empty} {next x : Int} {t dom cod : Ty Empty}
    {c₁ c₂ : ConstraintSet Empty} (older : x < next) (olderArg : t.VarsIn (· < next))
    (older₁ : ∀ c ∈ c₁, c.VarsIn (· < next)) (older₂ : ∀ c ∈ c₂, c.VarsIn (· < next))
    (solves₁ : τ.Solves c₁) (solves₂ : τ.Solves c₂) (operator : τ.value x = .arrow dom cod)
    (accepts : Ty.Consistent dom (τ.apply t)) :
    ∃ υ : StaticAssignment Empty, τ.AgreesBefore next υ ∧
      υ.Solves (((c₁.union c₂).union
        (.ofList [.equal (.var x) (.arrow (.var next) (.var (next + 1)))])).union
        (.ofList [.equal (.var x) (.arrow (.var (next + 2)) (.var (next + 2 + 1))),
          .consistent (.var (next + 2)) t])) ∧ υ.value (next + 1) = cod := by
  have static : (Ty.arrow dom cod).isStatic = true := operator ▸ τ.static x
  obtain ⟨υ₁, agree₁, first, second⟩ := τ.extend_pair next static
  obtain ⟨υ, agree₂, third, fourth⟩ := υ₁.extend_pair (next + 2) static
  have agree : τ.AgreesBefore next υ := agree₁.trans (agree₂.mono (by omega))
  rw [agree₂ next (by omega)] at first
  rw [agree₂ (next + 1) (by omega)] at second
  rw [agree x older] at operator
  rw [agree.apply olderArg] at accepts
  refine ⟨υ, agree, ConstraintSet.forall_splitApplication.mpr ⟨?_, ?_, ?_, ?_, ?_⟩, second⟩
  · exact agree.solves older₁ solves₁
  · exact agree.solves older₂ solves₂
  · simp [StaticAssignment.Satisfies, operator, first, second]
  · simp [StaticAssignment.Satisfies, operator, third, fourth]
  · simpa [StaticAssignment.Satisfies, StaticAssignment.apply, third] using accepts

theorem TypingsGenerated.application {f a : Expr Empty} (func : TypingsGenerated f)
    (argument : TypingsGenerated a) (closedFunc : f.Closed) (closedArg : a.Closed) :
    TypingsGenerated (.app f a) := by
  intro env s σ t inEnv typed
  cases typed with
  | @app _ _ _ _ _ dom _ typedFunc typedArg function accepts =>
    obtain ⟨rawF, c₁, s₁, rawA, c₂, s₂, generatesF, generatesA, τ, agree, solves₁, solves₂,
      rfl, rfl⟩ := func.both argument closedFunc inEnv typedFunc typedArg
    cases rawF with
    | var x =>
      have le₁ := generatesF.supply_le
      have le₂ := generatesA.supply_le
      obtain ⟨olderF, older₁⟩ := generatesF.older inEnv closedFunc
      obtain ⟨olderA, older₂⟩ := generatesA.older
        (inEnv.mono fun y old => Int.lt_of_lt_of_le old le₁) closedArg
      rw [Ty.varsIn_var] at olderF
      -- The value of a variable is static, so this operator is not of type `?`.
      have shape : τ.value x = .arrow dom t := Ty.function?_of_static function (τ.static x)
      obtain ⟨υ, agree', solves, value⟩ := splitApplication_solved
        (Int.lt_of_lt_of_le olderF le₂) olderA
        (fun c member => (older₁ c member).mono fun y old => Int.lt_of_lt_of_le old le₂)
        older₂ solves₁ solves₂ shape accepts
      refine ⟨_, _, _, .appVar generatesF generatesA, υ, ?_, solves, value⟩
      exact agree.trans (agree'.mono (Int.le_trans le₁ le₂))
    | arrow =>
      cases function
      exact ⟨_, _, _, .appArrow generatesF generatesA, τ, agree,
        ConstraintSet.forall_application.mpr ⟨solves₁, solves₂, accepts⟩, rfl⟩
    | dyn =>
      cases function
      exact ⟨_, _, _, .appDyn generatesF generatesA, τ, agree,
        ConstraintSet.forall_application.mpr ⟨solves₁, solves₂, accepts⟩, rfl⟩
    | host leaf => exact leaf.elim
    | _ => cases function

theorem TypingsGenerated.implicit {x : String} {body : Expr Empty}
    (generated : TypingsGenerated body) : TypingsGenerated (.lam x none body) := by
  intro env s σ t inEnv typed
  cases typed with
  | @implicit _ _ _ t u static result =>
    -- The variable drawn for the parameter is given the type that the typing chose.
    obtain ⟨σ₁, agree, rfl⟩ : ∃ σ₁ : StaticAssignment Empty,
        σ.AgreesBefore s.nextVar σ₁ ∧ σ₁.value s.nextVar = t :=
      ⟨σ.set s.nextVar t static, σ.set_agreesBefore (Int.le_refl _) t static,
        by simp [StaticAssignment.set]⟩
    have inEnv' : env.VarsIn (· < s.nextVar + 1) := inEnv.mono fun y old => by omega
    have drawn : (Ty.var s.nextVar : Ty Empty).VarsIn (· < s.nextVar + 1) :=
      Ty.varsIn_var.mpr (Int.lt_succ _)
    have result' : HasType ((env.extend x (.var s.nextVar)).inst σ₁.value) body u := by
      rw [Env.inst_extend, ← Env.inst_of_agree agree inEnv]
      exact result
    obtain ⟨raw, c, s', generates, τ, agree', solves, value⟩ :=
      generated (s := { s with nextVar := s.nextVar + 1 }) (inEnv'.extend drawn x) result'
    refine ⟨_, _, _, .implicit generates, τ, agree.trans (agree'.mono ?_), solves, ?_⟩
    · exact Int.le_of_lt (Int.lt_succ _)
    · rw [agree' s.nextVar (Int.lt_succ _), ← value]
      rfl

theorem Expr.typings_generated (e : Expr Empty) (closed : e.Closed) : TypingsGenerated e := by
  induction e with
  | var x =>
    intro env s σ t inEnv typed
    cases typed with
    | var bound =>
      rw [Env.get?_inst] at bound
      obtain ⟨raw, found, value⟩ := Option.map_eq_some_iff.mp bound
      exact ⟨raw, ∅, s, .var found, σ, fun _ _ => rfl, ConstraintSet.forall_empty, value⟩
  | int value =>
    intro env s σ t inEnv typed
    cases typed
    exact ⟨.int, ∅, s, .int, σ, fun _ _ => rfl, ConstraintSet.forall_empty, rfl⟩
  | bool value =>
    intro env s σ t inEnv typed
    cases typed
    exact ⟨.bool, ∅, s, .bool, σ, fun _ _ => rfl, ConstraintSet.forall_empty, rfl⟩
  | add l r left right =>
    obtain ⟨closedL, closedR⟩ := Expr.Closed.add_iff.mp closed
    intro env s σ t inEnv typed
    cases typed with
    | add typedL typedR leftInt rightInt =>
      obtain ⟨rawL, c₁, s₁, rawR, c₂, s₂, generatesL, generatesR, τ, agree, solves₁, solves₂,
        rfl, rfl⟩ := (left closedL).both (right closedR) closedL inEnv typedL typedR
      exact ⟨_, _, _, .add generatesL generatesR, τ, agree,
        ConstraintSet.forall_sum.mpr ⟨solves₁, solves₂, leftInt, rightInt⟩, rfl⟩
  | lam x declared body ih =>
    cases declared with
    | none => exact (ih (Expr.Closed.implicit_iff.mp closed)).implicit
    | some param =>
      obtain ⟨closedParam, closedBody⟩ := Expr.Closed.explicit_iff.mp closed
      intro env s σ t inEnv typed
      cases typed with
      | explicit result =>
        have inEnv' : (env.extend x param).VarsIn (· < s.nextVar) :=
          inEnv.extend (Ty.varsIn_closed closedParam) x
        rw [← Ty.inst_closed closedParam σ.value, ← Env.inst_extend] at result
        obtain ⟨raw, c, s', generates, τ, agree, solves, value⟩ := ih closedBody inEnv' result
        refine ⟨_, _, _, .explicit generates, τ, agree, solves, ?_⟩
        rw [StaticAssignment.apply, Ty.inst, Ty.inst_closed closedParam, ← value]
        rfl
  | app f a func argument =>
    obtain ⟨closedF, closedA⟩ := Expr.Closed.app_iff.mp closed
    exact (func closedF).application (argument closedA) closedF closedA
  | host leaf => exact leaf.elim

variable {env : Env Empty} {e : Expr Empty}

theorem Expr.infer_hasType {supply rest : Supply} {inference : Inference Empty}
    (closedEnv : env.Closed) (closed : e.Closed)
    (inferred : (e.infer env).run supply = .ok inference rest) (σ : StaticAssignment Empty) :
    HasType env e (σ.apply (inference.substitution.apply inference.raw)) := by
  obtain ⟨raw, constraints, solution, generated, solved, generate, solve, rfl, _⟩ :=
    Expr.infer_ok.mp inferred
  obtain ⟨final, ran, rfl, _⟩ := Drawing.solve_ok.mp solve
  have generates := Expr.generates_of_ok generate
  have static := Solver.solve_static generates.static ran
  have solves : (σ.after final.solved static).Solves constraints := fun c member =>
    σ.after_satisfies final.solved static (Solver.solve_holds ran member)
  have typed := generates.sound closed solves
  rwa [closedEnv.inst, σ.after_apply] at typed

theorem Expr.infer_of_hasType (supply : Supply) (closedEnv : env.Closed) (closed : e.Closed)
    {t : Ty Empty} (typed : HasType env e t) :
    ∃ inference rest, (e.infer env).run supply = .ok inference rest ∧
      ∃ σ : StaticAssignment Empty, t = σ.apply (inference.substitution.apply inference.raw) := by
  rw [← closedEnv.inst StaticAssignment.identity.value] at typed
  have older : env.VarsIn (· < supply.nextVar) := closedEnv.varsIn _
  obtain ⟨raw, constraints, generated, generates, σ, _, solves, rfl⟩ :=
    e.typings_generated closed older typed
  obtain ⟨olderRaw, fresh⟩ := generates.older older closed
  obtain ⟨final, solve⟩ := Solver.solve_succeeds generates.static fresh solves
  obtain ⟨τ, factors⟩ := Solver.solve_factors fresh solve solves
  refine ⟨_, _, Expr.infer_ok.mpr ⟨raw, constraints, final.solved, generated, _,
    generates.run_ok, Drawing.solve_ok.mpr ⟨final, solve, rfl, rfl⟩, rfl, rfl⟩, τ, ?_⟩
  exact factors raw olderRaw

/-- The inferred type is principal: its static instances are the types of the expression, and an
expression with a type is never refused. -/
theorem infer_principal (env : Env Empty) (e : Expr Empty) (supply : Supply)
    (closedEnv : env.Closed) (closed : e.Closed) :
    (∀ inference rest, (e.infer env).run supply = .ok inference rest →
        ∀ σ : StaticAssignment Empty,
          HasType env e (σ.apply (inference.substitution.apply inference.raw))) ∧
      ∀ t, HasType env e t →
        ∃ inference rest, (e.infer env).run supply = .ok inference rest ∧
          ∃ σ : StaticAssignment Empty,
            t = σ.apply (inference.substitution.apply inference.raw) := by
  constructor
  · intro inference rest inferred σ
    exact Expr.infer_hasType closedEnv closed inferred σ
  · intro t typed
    exact Expr.infer_of_hasType supply closedEnv closed typed

/-- A parameter that is applied to what an operator of type `?` returns. -/
theorem infer_principal_apply_dyn :
    let env : Env Empty := ⟨[("g", .dyn)]⟩
    let e : Expr Empty := .lam "f" none (.app (.var "f") (.app (.var "g") (.int 1)))
    env.Closed ∧ e.Closed ∧ HasType env e (.arrow (.arrow .int .bool) .bool) ∧
      ∃ inference rest, (e.infer env).run (.startingAt 0) = .ok inference rest ∧
        inference.substitution.apply inference.raw = .arrow (.arrow (.var 3) (.var 4)) (.var 4) ∧
        inference.type = .arrow (.arrow (.param 0) (.param 1)) (.param 1) ∧
        (∃ σ : StaticAssignment Empty, .arrow (.arrow .int .bool) .bool =
          σ.apply (inference.substitution.apply inference.raw)) ∧
        ∀ σ : StaticAssignment Empty,
          HasType env e (σ.apply (inference.substitution.apply inference.raw)) := by
  intro env e
  have closedEnv : env.Closed := List.forall_mem_singleton.mpr rfl
  have closed : e.Closed := List.forall_mem_nil _
  have typed : HasType env e (.arrow (.arrow .int .bool) .bool) :=
    .implicit rfl (.app (.var rfl) (.app (.var rfl) (.int 1) rfl (.dynLeft _)) rfl (.dynRight _))
  have generates : Generates env e (.startingAt 0) _ _ _ :=
    .implicit (.appVar (.var rfl) (.appDyn (.var rfl) .int))
  have inferred := Expr.infer_of_solve generates (ConstraintSet.solve_of_runFor
    [.consistent .dyn .int, .consistent (.var 3) .dyn, .equal (.var 0) (.arrow (.var 1) (.var 2)),
      .equal (.var 0) (.arrow (.var 3) (.var 4))] (by decide) (by decide +kernel) 7 rfl)
  obtain ⟨sound, complete⟩ := infer_principal env e (.startingAt 0) closedEnv closed
  obtain ⟨_, _, same, instantiated⟩ := complete _ typed
  cases inferred.symm.trans same
  exact ⟨closedEnv, closed, typed, _, _, inferred, rfl, rfl, instantiated, sound _ _ inferred⟩

end Gradual
