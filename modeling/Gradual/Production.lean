import Gradual.Source

/-! Reading phrase by phrase. A reader goes through the tokens of a text and can be asked for any
phrase of the grammar at any time; it never goes back, not even from a phrase that it could not read. -/
namespace Gradual

variable {ε : Type}

/-- The phrases that a reader can be asked for. -/
inductive Production where
  | program
  | onlyExpr
  | expr
  | lambda
  | binder
  | sum
  | application
  | atom
  | type
  | atomType
  | onlyType
  | binding
  | atEnd
  deriving DecidableEq

/-- What has been read. -/
inductive Phrase (ε : Type) where
  | program (exprs : List (Expr ε))
  | expr (e : Expr ε)
  | binder (name : String) (declared : Option (Ty ε))
  | type (t : Ty ε)
  | binding (name : String) (t : Ty ε)
  | verdict (holds : Bool)

def Production.read : Production → (input : List Token) → Reading 0 (Phrase ε) input
  | .program, input => (Expr.readProgram input).map .program
  | .onlyExpr, input => .relax ((Expr.readOnly input).map .expr)
  | .expr, input => .relax ((Expr.read input).map .expr)
  | .lambda, input => .relax ((Expr.readLambda input).map .expr)
  | .binder, input => .relax ((Expr.readBinder input).map fun (name, t) => .binder name t)
  | .sum, input => .relax ((Expr.readSum input).map .expr)
  | .application, input => .relax ((Expr.readApplication input).map .expr)
  | .atom, input => .relax ((Expr.readAtom input).map .expr)
  | .type, input => .relax ((Ty.read input).map .type)
  | .atomType, input => .relax ((Ty.readAtom input).map .type)
  | .onlyType, input => .relax ((Ty.readOnly input).map .type)
  | .binding, input => .relax ((Ty.readBinding input).map fun (name, t) => .binding name t)
  | .atEnd, input => .done (.verdict (kindOf input = .eof))

/-- A text with the tokens that are left of it. -/
structure Reader where
  tokens : List Token
  stop : Location
  rest : List Token

namespace Reader

def ofSource (source : String) (file : Option String) : Except SyntaxError Reader :=
  let lexed := Lexed.ofSource source file
  match lexed.error with
  | some error => .error error
  | none => .ok ⟨lexed.tokens, lexed.cursor.location file, lexed.tokens⟩

/-- The number of tokens that are gone. -/
def position (reader : Reader) : Nat := reader.tokens.length - reader.rest.length

def ask (reader : Reader) (production : Production) : Except ReadError (Phrase ε) × Reader :=
  let reading := production.read reader.rest
  (Source.conclude reader.stop reading, { reader with rest := reading.rest })

end Reader

end Gradual
