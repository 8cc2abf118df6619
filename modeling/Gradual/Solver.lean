import Gradual.ConstraintSet
import Gradual.Solver.Rank

/-! Solving a set of constraints: the consistency constraints first and then the equalities, each in
the order of the set, until nothing is left or a constraint fits no rule. -/
namespace Gradual

variable {ε : Type}

namespace Solver

/-- Where the rules got stuck, and why. -/
structure Failure (ε : Type) where
  error : TypingError ε
  state : State ε

def State.run (s : State ε) : Except (Failure ε) (State ε) :=
  match _taken : s.step with
  | .finished => .ok s
  | .next s' => s'.run
  | .stuck error state => .error ⟨error, state⟩
termination_by smaller_wf.wrap s.rank
decreasing_by exact step_smaller _taken

/-- All constraints are still to be dealt with. -/
def State.initial (constraints : List (Constraint ε)) (nextVar : Int) : State ε where
  pairs := constraints.filterMap fun
    | .consistent l r => some (l, r)
    | .equal _ _ => none
  equations := constraints.filterMap fun
    | .equal l r => some (l, r)
    | .consistent _ _ => none
  solved := ∅
  nextVar := nextVar

end Solver

/-- The most general solution, or the failure, from a supply of fresh variables. -/
def ConstraintSet.solve [DecidableEq ε] [ToString ε] (set : ConstraintSet ε) (nextVar : Int) :
    Except (Solver.Failure ε) (Solver.State ε) :=
  (Solver.State.initial set.ordered nextVar).run

end Gradual
