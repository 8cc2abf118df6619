import Gradual.Constraint

/-! Reasons why an expression has no type: an unbound name, an operator that is no function, or a
constraint that no rule of the solver can reduce. Host leaves add faults of their own. -/
namespace Gradual

inductive TypingError (ε : Type) where
  | unbound (name : String)
  | notApplicable (type : Ty ε)
  | conflict (constraint : Constraint ε)
  | fault (cause : Fault ε)
  deriving DecidableEq

namespace TypingError

variable {ε : Type}

/-- A conflict is reported with its text, so a host leaf in it is a fault instead. -/
def ofConflict (c : Constraint ε) : TypingError ε :=
  match c.host? with
  | some leaf => .fault (.unknownType leaf)
  | none => .conflict c

/-- An operator is reported with its text, so a host leaf in it is a fault instead. -/
def ofOperator (t : Ty ε) : TypingError ε :=
  match t.host? with
  | some leaf => .fault (.unknownType leaf)
  | none => .notApplicable t

@[simp] theorem ofConflict_grammar (c : Constraint Empty) : ofConflict c = .conflict c := by
  simp [ofConflict, Constraint.host?]

@[simp] theorem ofOperator_grammar (t : Ty Empty) : ofOperator t = .notApplicable t := by
  simp [ofOperator]

def message [ToString ε] : TypingError ε → String
  | .unbound name => "variable '" ++ name ++ "' not found in the environment"
  | .notApplicable t => "type " ++ t.render ++ " is not applicable"
  | .conflict c => "cannot unify: " ++ c.render
  | .fault cause => cause.message

end TypingError

end Gradual
