import Gradual.Inference

/-! Computations that draw fresh ids, opened step by step: what each phase of an inference needs to
succeed, what it returns and what it leaves of the supply. -/
namespace Gradual

variable {ε α β : Type}

/-- Over the grammar generalisation cannot fail. -/
theorem Supply.generalize_grammar (s : Supply) (t : Ty Empty) :
    s.generalize t = (.ok (t.generalizeFrom s.nextParam).1,
      { s with nextParam := (t.generalizeFrom s.nextParam).2 }) := by
  unfold Supply.generalize
  rw [Ty.host?_grammar]
  cases t.distinctVars <;> rfl

namespace Drawing

theorem bind_ok {first : Drawing ε α} {next : α → Drawing ε β} {s s' : Supply} {b : β} :
    (first >>= next).run s = .ok b s' ↔
      ∃ a middle, first.run s = .ok a middle ∧ (next a).run middle = .ok b s' := by
  rw [EStateM.run_bind]
  cases ran : first.run s with
  | ok a middle =>
    constructor
    · intro rest
      exact ⟨a, middle, rfl, rest⟩
    · rintro ⟨_, _, ⟨rfl, rfl⟩, rest⟩
      exact rest
  | error => simp

theorem bind_error {first : Drawing ε α} {next : α → Drawing ε β} {s s' : Supply}
    {error : TypingError ε} :
    (first >>= next).run s = .error error s' ↔
      first.run s = .error error s' ∨
        ∃ a middle, first.run s = .ok a middle ∧ (next a).run middle = .error error s' := by
  rw [EStateM.run_bind]
  cases ran : first.run s with
  | ok a middle =>
    constructor
    · intro failed
      exact .inr ⟨a, middle, rfl, failed⟩
    · rintro (failed | ⟨_, _, ⟨rfl, rfl⟩, failed⟩)
      · cases failed
      · exact failed
  | error => simp

theorem pure_ok {a b : α} {s s' : Supply} :
    (pure a : Drawing ε α).run s = .ok b s' ↔ a = b ∧ s = s' := by
  simp [EStateM.run_pure]

@[simp] theorem run_freshVar (s : Supply) :
    (freshVar : Drawing ε (Ty ε)).run s =
      .ok (.var s.nextVar) { s with nextVar := s.nextVar + 1 } := rfl

section Solve

variable [DecidableEq ε] [ToString ε] {constraints : ConstraintSet ε} {s s' : Supply}

theorem run_solve_ok {final : Solver.State ε} (solved : constraints.solve s.nextVar = .ok final) :
    (solve constraints).run s = .ok final.solved { s with nextVar := final.nextVar } := by
  simp only [solve, EStateM.run_bind, EStateM.run_get, solved]
  rfl

theorem run_solve_error {failure : Solver.Failure ε}
    (failed : constraints.solve s.nextVar = .error failure) :
    (solve constraints).run s = .error failure.error { s with nextVar := failure.state.nextVar } := by
  simp only [solve, EStateM.run_bind, EStateM.run_get, failed]
  rfl

theorem solve_ok {solution : Substitution ε} :
    (solve constraints).run s = .ok solution s' ↔
      ∃ final, constraints.solve s.nextVar = .ok final ∧ final.solved = solution ∧
        { s with nextVar := final.nextVar } = s' := by
  cases outcome : constraints.solve s.nextVar with
  | ok final => simp [run_solve_ok outcome]
  | error failure => simp [run_solve_error outcome]

end Solve

theorem run_generalize (t : Ty Empty) (s : Supply) :
    (generalize t).run s = .ok (t.generalizeFrom s.nextParam).1
      { s with nextParam := (t.generalizeFrom s.nextParam).2 } := by
  simp only [generalize, EStateM.run_bind, EStateM.run_get, Supply.generalize_grammar]
  rfl

end Drawing

/-- An inference over the grammar succeeds when its generation and its solving do. -/
theorem Expr.infer_ok {env : Env Empty} {e : Expr Empty} {s s' : Supply}
    {inference : Inference Empty} :
    (e.infer env).run s = .ok inference s' ↔
      ∃ raw constraints solution generated solved,
        (e.generate env).run s = .ok (raw, constraints) generated ∧
        (Drawing.solve constraints).run generated = .ok solution solved ∧
        inference = ⟨e, raw, constraints, solution,
          ((solution.apply raw).generalizeFrom solved.nextParam).1⟩ ∧
        s' = { solved with
          nextParam := ((solution.apply raw).generalizeFrom solved.nextParam).2 } := by
  unfold Expr.infer
  simp only [Drawing.bind_ok, Substitution.tryApply_grammar, Drawing.run_generalize,
    EStateM.Result.ok.injEq, Drawing.pure_ok]
  constructor
  · rintro ⟨⟨raw, constraints⟩, generated, generate, solution, solved, solve, _, _, ⟨rfl, rfl⟩,
      rfl, rfl⟩
    exact ⟨raw, constraints, solution, generated, solved, generate, solve, rfl, rfl⟩
  · rintro ⟨raw, constraints, solution, generated, solved, generate, solve, rfl, rfl⟩
    exact ⟨(raw, constraints), generated, generate, solution, solved, solve, _, _, ⟨rfl, rfl⟩,
      rfl, rfl⟩

end Gradual
