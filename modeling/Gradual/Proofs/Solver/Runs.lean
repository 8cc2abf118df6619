import Gradual.Proofs.Ordered
import Gradual.Proofs.Solver.Rules
import Mathlib.Logic.Relation

/-! Runs of the solver. A run takes up the whole constraint set in its order, and it ends: after
finitely many steps nothing is left or a constraint is blamed, from every set and with every supply
of variables, also one whose ids are in use already. -/
namespace Gradual.Solver

variable {ε : Type}

def Reaches : State ε → State ε → Prop :=
  Relation.ReflTransGen fun s s' => s.step = .next s'

theorem run_finished {s : State ε} (taken : s.step = .finished) : s.run = .ok s := by
  unfold State.run
  split <;> simp_all

theorem run_next {s s' : State ε} (taken : s.step = .next s') : s.run = s'.run := by
  rw [State.run]
  split <;> simp_all

theorem run_stuck {s state : State ε} {error : TypingError ε}
    (taken : s.step = .stuck error state) : s.run = .error ⟨error, state⟩ := by
  unfold State.run
  split <;> simp_all

/-- What holds of every state from which the solver cannot go on, and goes back over a step, holds
of every state. -/
theorem step_induction {motive : State ε → Prop}
    (advance : ∀ s, (∀ s', s.step = .next s' → motive s') → motive s) (s : State ε) : motive s :=
  (InvImage.wf State.rank smaller_wf).induction s fun s ih =>
    advance s fun s' taken => ih s' (step_smaller taken)

theorem run_ok {s final : State ε} (ran : s.run = .ok final) :
    Reaches s final ∧ final.step = .finished := by
  induction s using step_induction with
  | advance s ih =>
    cases taken : s.step with
    | finished =>
      obtain rfl : s = final := by simpa [run_finished taken] using ran
      exact ⟨.refl, taken⟩
    | next s' =>
      obtain ⟨path, done⟩ := ih s' taken (by rw [← run_next taken, ran])
      exact ⟨.head taken path, done⟩
    | stuck error state => simp [run_stuck taken] at ran

theorem run_error {s : State ε} {failure : Failure ε} (ran : s.run = .error failure) :
    ∃ last, Reaches s last ∧ last.step = .stuck failure.error failure.state := by
  induction s using step_induction with
  | advance s ih =>
    cases taken : s.step with
    | finished => simp [run_finished taken] at ran
    | next s' =>
      obtain ⟨last, path, stuck⟩ := ih s' taken (by rw [← run_next taken, ran])
      exact ⟨last, .head taken path, stuck⟩
    | stuck error state =>
      obtain rfl : (⟨error, state⟩ : Failure ε) = failure := by simpa [run_stuck taken] using ran
      exact ⟨s, .refl, taken⟩

/-- The run cut off after a number of steps; `none` if that does not bring it to its end. -/
def State.runFor : Nat → State ε → Option (Except (Failure ε) (State ε))
  | 0, _ => none
  | steps + 1, s =>
    match s.step with
    | .finished => some (.ok s)
    | .next s' => s'.runFor steps
    | .stuck error state => some (.error ⟨error, state⟩)

theorem exists_runFor (s : State ε) : ∃ steps, s.runFor steps = some s.run := by
  induction s using step_induction with
  | advance s ih =>
    cases taken : s.step with
    | finished => exact ⟨1, by simp [State.runFor, taken, run_finished taken]⟩
    | next s' =>
      obtain ⟨steps, ended⟩ := ih s' taken
      exact ⟨steps + 1, by simp [State.runFor, taken, run_next taken, ended]⟩
    | stuck error state => exact ⟨1, by simp [State.runFor, taken, run_stuck taken]⟩

theorem run_of_runFor (steps : Nat) {s : State ε} {result : Except (Failure ε) (State ε)}
    (ended : s.runFor steps = some result) : s.run = result := by
  induction steps generalizing s with
  | zero => cases ended
  | succ steps ih =>
    simp only [State.runFor] at ended
    cases taken : s.step with
    | finished => simpa [taken, run_finished taken] using ended
    | next s' =>
      rw [taken] at ended
      rw [run_next taken, ih ended]
    | stuck error state => simpa [taken, run_stuck taken] using ended

/-- Over the grammar a run leaves nothing to be done, or it blames a constraint. -/
theorem run_outcome (s : State Empty) :
    (∃ final, s.run = .ok final ∧ final.work = []) ∨
      ∃ blamed state, s.run = .error ⟨.conflict blamed, state⟩ := by
  cases ran : s.run with
  | ok final =>
    obtain ⟨_, done⟩ := run_ok ran
    cases rule_of_step done with
    | finished nothing => exact .inl ⟨final, rfl, nothing⟩
  | error failure =>
    obtain ⟨error, state⟩ := failure
    obtain ⟨last, _, stuck⟩ := run_error ran
    cases rule_of_step stuck with
    | stuck => exact .inr ⟨_, state, rfl⟩

theorem initial_work {constraints : List (Constraint ε)}
    (consistentFirst : constraints.Pairwise fun c d =>
      ∀ l r l' r', c = .equal l r → d ≠ .consistent l' r') (nextVar : Int) :
    (State.initial constraints nextVar).work = constraints := by
  induction constraints with
  | nil => rfl
  | cons c rest ih =>
    obtain ⟨after, others⟩ := List.pairwise_cons.mp consistentFirst
    have tail := ih others
    cases c with
    | consistent l r =>
      simp only [State.work, State.initial, List.filterMap_cons] at tail ⊢
      rw [List.map_cons, List.cons_append, tail]
    | equal l r =>
      have noPairs : (State.initial rest nextVar).pairs = [] := by
        refine List.filterMap_eq_nil_iff.mpr fun d member => ?_
        cases d with
        | equal => rfl
        | consistent l' r' => exact absurd rfl (after _ member l r l' r' rfl)
      simp only [State.work, State.initial, List.filterMap_cons] at noPairs tail ⊢
      rw [noPairs] at tail ⊢
      rw [List.map_nil, List.nil_append] at tail ⊢
      rw [List.map_cons, tail]

theorem initial_work_ordered (set : ConstraintSet Empty) (nextVar : Int) :
    (State.initial set.ordered nextVar).work = set.ordered :=
  initial_work set.ordered_consistent_first nextVar

/-- The solver starts from the whole set in its order, and some number of steps brings it to an end
with everything dealt with or a constraint blamed. -/
theorem solve_ends (set : ConstraintSet Empty) (nextVar : Int) :
    (State.initial set.ordered nextVar).work = set.ordered ∧
      (∃ steps, (State.initial set.ordered nextVar).runFor steps = some (set.solve nextVar)) ∧
        ((∃ final, set.solve nextVar = .ok final ∧ final.work = []) ∨
          ∃ blamed state, set.solve nextVar = .error ⟨.conflict blamed, state⟩) :=
  ⟨initial_work_ordered set nextVar, exists_runFor _, run_outcome _⟩

end Gradual.Solver
