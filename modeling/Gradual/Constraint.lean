import Gradual.Substitution
import Gradual.Ty.Canonical

/-! Constraints between two types: that they become equal, or that they become consistent, where the
dynamic type is consistent with every type. -/
namespace Gradual

inductive Constraint (ε : Type) where
  | equal (left right : Ty ε)
  | consistent (left right : Ty ε)
  deriving DecidableEq

namespace Constraint

variable {ε : Type}

def left : Constraint ε → Ty ε
  | .equal l _ | .consistent l _ => l

def right : Constraint ε → Ty ε
  | .equal _ r | .consistent _ r => r

def vars (c : Constraint ε) : List Int := c.left.vars ++ c.right.vars

def host? (c : Constraint ε) : Option ε := c.left.host?.or c.right.host?

/-- Changes both sides, unless that is undefined on one of them. -/
def tryMapSides (f : Ty ε → Except (Fault ε) (Ty ε)) :
    Constraint ε → Except (Fault ε) (Constraint ε)
  | .equal l r => do return .equal (← f l) (← f r)
  | .consistent l r => do return .consistent (← f l) (← f r)

def mapSides (f : Ty ε → Ty ε) : Constraint ε → Constraint ε
  | .equal l r => .equal (f l) (f r)
  | .consistent l r => .consistent (f l) (f r)

def subst (c : Constraint ε) (x : Int) (t : Ty ε) : Constraint ε := c.mapSides (·.subst x t)

def trySubst (c : Constraint ε) (x : Int) (t : Ty ε) : Except (Fault ε) (Constraint ε) :=
  c.tryMapSides (·.trySubst x t)

def apply (c : Constraint ε) (s : Substitution ε) : Constraint ε := c.mapSides s.apply

def tryApply (c : Constraint ε) (s : Substitution ε) : Except (Fault ε) (Constraint ε) :=
  c.tryMapSides s.tryApply

variable [ToString ε]

/-- The order of constraint sets is the order of these texts. -/
def canonical : Constraint ε → String
  | .equal l r => "Equal(left=" ++ l.canonical ++ ", right=" ++ r.canonical ++ ")"
  | .consistent l r => "Consistent(left=" ++ l.canonical ++ ", right=" ++ r.canonical ++ ")"

/-- `=` or `~` between the sides, which share one naming of the parameters. -/
def render (c : Constraint ε) : String :=
  let (left, names) := c.left.renderWith []
  let (right, _) := c.right.renderWith names
  let sign := match c with
    | .equal _ _ => " = "
    | .consistent _ _ => " ~ "
  left ++ sign ++ right

/-- The text, unless a host leaf stands in the way. -/
def text (c : Constraint ε) : Except (Fault ε) String :=
  match c.host? with
  | some leaf => .error (.unknownType leaf)
  | none => .ok c.render

end Constraint

end Gradual
