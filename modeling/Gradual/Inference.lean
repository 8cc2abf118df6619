import Gradual.Expr.Render
import Gradual.Generation
import Gradual.Scheme
import Gradual.Solver

/-! Type inference: generate constraints, solve them, apply the solution to the raw type and
generalise what is left. One supply goes through all of it. -/
namespace Gradual

variable {ε : Type}

/-- One inference with all that it found on the way. -/
structure Inference (ε : Type) where
  expr : Expr ε
  raw : Ty ε
  constraints : ConstraintSet ε
  substitution : Substitution ε
  type : Ty ε

namespace Drawing

variable [DecidableEq ε] [ToString ε]

def solve (constraints : ConstraintSet ε) : Drawing ε (Substitution ε) := do
  let supply ← get
  match constraints.solve supply.nextVar with
  | .ok final =>
    set { supply with nextVar := final.nextVar }
    return final.solved
  | .error failure =>
    set { supply with nextVar := failure.state.nextVar }
    throw failure.error

def generalize (t : Ty ε) : Drawing ε (Ty ε) := do
  let (result, rest) := (← get).generalize t
  set rest
  match result with
  | .ok scheme => return scheme
  | .error fault => throw (.fault fault)

end Drawing

variable [DecidableEq ε] [ToString ε]

def Expr.infer (env : Env ε) (e : Expr ε) : Drawing ε (Inference ε) := do
  let (raw, constraints) ← e.generate env
  let substitution ← Drawing.solve constraints
  match substitution.tryApply raw with
  | .ok solved =>
    let type ← Drawing.generalize solved
    return ⟨e, raw, constraints, substitution, type⟩
  | .error fault => throw (.fault fault)

end Gradual
