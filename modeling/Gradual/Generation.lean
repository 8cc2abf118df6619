import Gradual.ConstraintSet
import Gradual.Env
import Gradual.Expr
import Gradual.Supply
import Gradual.TypingError

/-! Constraint generation: a walk over an expression that gives it a raw type together with the
constraints under which the expression has that type. The supply is kept also when the walk fails. -/
namespace Gradual

variable {ε : Type}

/-- Computations that draw fresh ids and may end in a typing error. -/
abbrev Drawing (ε : Type) := EStateM (TypingError ε) Supply

namespace Drawing

def freshVar : Drawing ε (Ty ε) := do
  let (x, rest) := (← get).drawVar
  set rest
  return .var x

def freshVarPair : Drawing ε (Ty ε × Ty ε) := do
  let ((x, y), rest) := (← get).drawVarPair
  set rest
  return (.var x, .var y)

end Drawing

namespace Ty

variable [DecidableEq ε]

/-- What an operator of this type returns. A variable becomes a function between fresh variables. -/
def codomain (operator : Ty ε) : Drawing ε (Ty ε × ConstraintSet ε) :=
  match operator with
  | .var x => do
    let (dom, cod) ← Drawing.freshVarPair
    return (cod, .ofList [.equal (.var x) (.arrow dom cod)])
  | .arrow _ cod => return (cod, ∅)
  | .dyn => return (.dyn, ∅)
  | other => throw (.ofOperator other)

/-- What it takes for an operator of this type to accept `arg`. A variable becomes a function
between fresh variables, independently of its codomain. -/
def domain (operator arg : Ty ε) : Drawing ε (ConstraintSet ε) :=
  match operator with
  | .var x => do
    let (dom, cod) ← Drawing.freshVarPair
    return .ofList [.equal (.var x) (.arrow dom cod), .consistent dom arg]
  | .arrow dom _ => return .ofList [.consistent dom arg]
  | .dyn => return .ofList [.consistent .dyn arg]
  | other => throw (.ofOperator other)

end Ty

namespace Expr

variable [DecidableEq ε]

/-- Operands of a sum only have to be consistent with `int`, so that `?` is accepted. -/
def generate (env : Env ε) : Expr ε → Drawing ε (Ty ε × ConstraintSet ε)
  | .var x =>
    match env.get? x with
    | some t => return (t, ∅)
    | none => throw (.unbound x)
  | .int _ => return (.int, ∅)
  | .bool _ => return (.bool, ∅)
  | .add l r => do
    let (left, c₁) ← l.generate env
    let (right, c₂) ← r.generate env
    return (.int, ((c₁.union c₂).add (.consistent left .int)).add (.consistent right .int))
  | .lam x none body => do
    let param ← Drawing.freshVar
    let (result, c) ← body.generate (env.extend x param)
    return (.arrow param result, c)
  | .lam x (some param) body => do
    let (result, c) ← body.generate (env.extend x param)
    return (.arrow param result, c)
  | .app f a => do
    let (operator, c₁) ← f.generate env
    let (arg, c₂) ← a.generate env
    let (result, c₃) ← operator.codomain
    let c₄ ← operator.domain arg
    return (result, ((c₁.union c₂).union c₃).union c₄)
  | .host leaf => throw (.fault (.unknownExpr leaf))

end Expr

end Gradual
