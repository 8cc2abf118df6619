import Gradual.Expr.Parser
import Gradual.Token.Lexer

/-! Reading source texts: cut into tokens, then read. A text whose tokens do not fit the grammar is
reported at the token where the reader got stuck. -/
namespace Gradual

inductive ReadError where
  | malformed (error : SyntaxError)
  | numberTooLong (digits : Nat)
  deriving DecidableEq

def ReadError.message : ReadError → String
  | .malformed error => error.message
  | .numberTooLong digits =>
    "Exceeds the limit (" ++ toString numberLimit ++
      " digits) for integer string conversion: value has " ++ toString digits ++
      " digits; use sys.set_int_max_str_digits() to increase the limit"

/-- The complaint about a text that ends at `stop`. -/
def ReadError.ofComplaint (stop : Location) : Complaint → ReadError
  | .cause cause place => .malformed ⟨cause, place.getD stop⟩
  | .numberTooLong digits => .numberTooLong digits

namespace Source

/-- The outcome of a reading from a text that ends at `stop`. -/
def conclude {α : Type} {least : Nat} {input : List Token} (stop : Location) :
    Reading least α input → Except ReadError α
  | .value a _ _ => .ok a
  | .stuck complaint _ _ => .error (.ofComplaint stop complaint)

def readWith {α : Type} {least : Nat} (reader : (input : List Token) → Reading least α input)
    (source : String) (file : Option String) : Except ReadError α :=
  let lexed := Lexed.ofSource source file
  match lexed.error with
  | some error => .error (.malformed error)
  | none => conclude (lexed.cursor.location file) (reader lexed.tokens)

variable {ε : Type}

/-- A single expression, which `;;` may end. -/
def expr (source : String) (file : Option String) : Except ReadError (Expr ε) :=
  readWith Expr.readOnly source file

/-- A sequence of expressions with `;;` between them. -/
def program (source : String) (file : Option String) : Except ReadError (List (Expr ε)) :=
  readWith Expr.readProgram source file

def type (source : String) (file : Option String) : Except ReadError (Ty ε) :=
  readWith Ty.readOnly source file

def binding (source : String) (file : Option String) : Except ReadError (String × Ty ε) :=
  readWith Ty.readBinding source file

end Source

end Gradual
