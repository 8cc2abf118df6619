import Gradual.Reading
import Gradual.Ty

/-! Reading types. Arrows associate to the right:

    type      ::= atom_type ("->" type)?
    atom_type ::= "int" | "bool" | "?" | "(" type ")"
-/
namespace Gradual.Ty

variable {ε : Type}

mutual

def read (input : List Token) : Reading 1 (Ty ε) input :=
  (readAtom input).andThen fun dom rest _ =>
    match rest with
    | t :: rest =>
      if t.kind = .arrow then .relax (.after t ((read rest).map (.arrow dom))) else .done dom
    | [] => .done dom
termination_by (input.length, 1)
decreasing_by all_goals decreasing_with ((try simp only [List.length_cons] at *); omega)

def readAtom (input : List Token) : Reading 1 (Ty ε) input :=
  match input with
  | [] => .fail (.unexpectedInType .eof) none
  | t :: rest =>
    match t.kind with
    | .lparen =>
      .after t ((read rest).andThen fun type rest _ => (expect .rparen rest).map fun _ => type)
    | .int => .after t (.done .int)
    | .bool => .after t (.done .bool)
    | .question => .after t (.done .dyn)
    | kind => .fail (.unexpectedInType kind) t.location
termination_by (input.length, 0)

end

/-- The only type of a text. -/
def readOnly (input : List Token) : Reading 1 (Ty ε) input :=
  (read input).andThen fun type rest _ => (expectEnd rest).map fun _ => type

/-- A binding of an environment, `ident ":" type`, alone in a text. -/
def readBinding (input : List Token) : Reading 1 (String × Ty ε) input :=
  (expect .ident input).andThen fun name rest _ =>
    (expect .colon rest).andThen fun _ rest _ => (readOnly rest).map fun type => (name.text, type)

end Gradual.Ty
