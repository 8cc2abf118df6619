import Gradual.Ty

/-! Faults that only host leaves can cause: a leaf has no text as a type or as an expression, and no
variables and no substitution. Over the grammar itself (`Empty` leaves) a fault cannot be built. -/
namespace Gradual

inductive Fault (ε : Type) where
  | unknownType (leaf : ε)
  | unknownExpr (leaf : ε)
  | undefined (leaf : ε)
  deriving DecidableEq

namespace Fault

variable {ε : Type}

def leaf : Fault ε → ε
  | .unknownType e | .unknownExpr e | .undefined e => e

theorem elim_grammar (fault : Fault Empty) : False := fault.leaf.elim

/-- An undefined operation has nothing to say. -/
def message [ToString ε] : Fault ε → String
  | .unknownType leaf => "Unknown type: " ++ toString leaf
  | .unknownExpr leaf => "Unknown expression: " ++ toString leaf
  | .undefined _ => ""

end Fault

namespace Ty

variable {ε : Type}

/-- Substitution as it is offered to a host: undefined on a type that holds a host leaf. -/
def trySubst (u : Ty ε) (x : Int) (t : Ty ε) : Except (Fault ε) (Ty ε) :=
  match u.host? with
  | some leaf => .error (.undefined leaf)
  | none => .ok (u.subst x t)

/-- Variables as they are offered to a host: undefined on a type that holds a host leaf. -/
def tryVars (u : Ty ε) : Except (Fault ε) (List Int) :=
  match u.host? with
  | some leaf => .error (.undefined leaf)
  | none => .ok u.vars

@[simp] theorem trySubst_grammar (u : Ty Empty) (x : Int) (t : Ty Empty) :
    u.trySubst x t = .ok (u.subst x t) := by
  simp [trySubst]

end Ty

end Gradual
