import Gradual.Proofs.ErrorPositions

/-! Reading by position. A walk goes through the list of all tokens of a text, the last of which marks
its end, and remembers nothing but the number of the token that comes next. It never goes beyond the
mark, and it does not go back from a phrase that it could not read. Procedures call one another and
loops call themselves, and nothing in their form says that this ends; so a walk has a budget for
calls inside calls, and it gives up when that is used up. -/
namespace Gradual

variable {ε : Type}

/-- Moves a position. A walk fails with an error, or with none when its budget is used up. -/
abbrev Walk (α : Type) := EStateM (Option ReadError) Nat α

namespace Reader

variable (reader : Reader)

/-- The mark for the end of the text. -/
def endMark : Token := ⟨.eof, "", reader.stop⟩

/-- From the last position on this is the mark for the end. -/
def tokenAt (i : Nat) : Token := reader.listing.getD i reader.endMark

def peek (offset : Nat) : Walk Token := do
  let position ← get
  return reader.tokenAt (position + offset)

def current : Walk Token := reader.peek 0

/-- Takes a token, but stays at the last position. -/
def advance : Walk Token := do
  let position ← get
  set (if position < reader.listing.length - 1 then position + 1 else position)
  return reader.tokenAt position

/-- Takes a token of the wanted kind. -/
def require (wanted : Token.Kind) : Walk Token := do
  let t ← reader.current
  if t.kind = wanted then reader.advance
  else throw (some (.malformed ⟨.expected wanted t.kind, t.location⟩))

/-- Takes a token if it is of the given kind, and tells whether it was. -/
def consume (kind : Token.Kind) : Walk Bool := do
  let t ← reader.current
  if t.kind = kind then
    let _ ← reader.advance
    return true
  else return false

end Reader

namespace Ty

mutual

def walk (reader : Reader) : Nat → Walk (Ty ε)
  | 0 => throw none
  | budget + 1 => do
    let dom ← walkAtom reader budget
    if ← reader.consume .arrow then
      let cod ← walk reader budget
      return .arrow dom cod
    else return dom

def walkAtom (reader : Reader) : Nat → Walk (Ty ε)
  | 0 => throw none
  | budget + 1 => do
    let t ← reader.current
    if ← reader.consume .lparen then
      let type ← walk reader budget
      let _ ← reader.require .rparen
      return type
    else if ← reader.consume .int then return .int
    else if ← reader.consume .bool then return .bool
    else if ← reader.consume .question then return .dyn
    else throw (some (.malformed ⟨.unexpectedInType t.kind, t.location⟩))

end

def walkOnly (reader : Reader) (budget : Nat) : Walk (Ty ε) := do
  let type ← walk reader budget
  let _ ← reader.require .eof
  return type

def walkBinding (reader : Reader) (budget : Nat) : Walk (String × Ty ε) := do
  let name ← reader.require .ident
  let _ ← reader.require .colon
  let type ← walkOnly reader budget
  return (name.text, type)

end Ty

namespace Expr

def walkBinder (reader : Reader) (budget : Nat) : Walk (String × Option (Ty ε)) := do
  let t ← reader.current
  let third ← reader.peek 2
  if t.kind = .lparen ∧ third.kind = .colon then
    let _ ← reader.advance
    let name ← reader.require .ident
    let _ ← reader.require .colon
    let type ← Ty.walk reader budget
    let _ ← reader.require .rparen
    return (name.text, some type)
  else
    let name ← reader.require .ident
    if ← reader.consume .colon then
      let type ← Ty.walkAtom reader budget
      return (name.text, some type)
    else return (name.text, none)

def walkBodyMark (reader : Reader) : Walk Token := do
  let t ← reader.current
  if ← reader.consume .arrow then return t else reader.require .dot

def walkNumber (reader : Reader) : Walk (Expr ε) := do
  let t ← reader.current
  if isNumeral t.text then
    let _ ← reader.advance
    if t.text.length ≤ numberLimit then return .int (ofDigits t.text.toList)
    else throw (some (.numberTooLong t.text.length))
  else throw (some (.malformed ⟨.unexpectedToken .number, t.location⟩))

mutual

def walk (reader : Reader) : Nat → Walk (Expr ε)
  | 0 => throw none
  | budget + 1 => do
    let t ← reader.current
    if t.kind.beginsLambda then walkLambda reader budget else walkSum reader budget

/-- Skips the token that comes next, whatever it is. -/
def walkLambda (reader : Reader) : Nat → Walk (Expr ε)
  | 0 => throw none
  | budget + 1 => do
    let _ ← reader.advance
    let binder ← walkBinder reader budget
    let _ ← walkBodyMark reader
    let body ← walk reader budget
    return .lam binder.1 binder.2 body

def walkSum (reader : Reader) : Nat → Walk (Expr ε)
  | 0 => throw none
  | budget + 1 => do
    let left ← walkApplication reader budget
    walkMoreSum reader budget left

def walkMoreSum (reader : Reader) : Nat → Expr ε → Walk (Expr ε)
  | 0, _ => throw none
  | budget + 1, left => do
    if ← reader.consume .plus then
      let t ← reader.current
      let right ← if t.kind.beginsLambda then walkLambda reader budget
        else walkApplication reader budget
      walkMoreSum reader budget (.add left right)
    else return left

def walkApplication (reader : Reader) : Nat → Walk (Expr ε)
  | 0 => throw none
  | budget + 1 => do
    let func ← walkAtom reader budget
    walkMoreApplication reader budget func

def walkMoreApplication (reader : Reader) : Nat → Expr ε → Walk (Expr ε)
  | 0, _ => throw none
  | budget + 1, func => do
    let t ← reader.current
    if t.kind.beginsAtom then
      let arg ← walkAtom reader budget
      walkMoreApplication reader budget (.app func arg)
    else return func

def walkAtom (reader : Reader) : Nat → Walk (Expr ε)
  | 0 => throw none
  | budget + 1 => do
    let t ← reader.current
    if ← reader.consume .lparen then
      let e ← walk reader budget
      let _ ← reader.require .rparen
      return e
    else if t.kind = .ident then
      let name ← reader.advance
      return .var name.text
    else if t.kind = .number then walkNumber reader
    else if ← reader.consume .tru then return .bool true
    else if ← reader.consume .fls then return .bool false
    else throw (some (.malformed ⟨.unexpectedToken t.kind, t.location⟩))

end

def walkProgram (reader : Reader) : Nat → Walk (List (Expr ε))
  | 0 => throw none
  | budget + 1 => do
    let t ← reader.current
    if t.kind = .eof then return []
    else if ← reader.consume .semisemi then walkProgram reader budget
    else
      let e ← walk reader budget
      let next ← reader.current
      if next.kind = .eof then return [e]
      else
        let _ ← reader.require .semisemi
        let es ← walkProgram reader budget
        return e :: es

def walkOnly (reader : Reader) (budget : Nat) : Walk (Expr ε) := do
  let e ← walk reader budget
  let _ ← reader.consume .semisemi
  let _ ← reader.require .eof
  return e

end Expr

/-- The walk for a phrase, with a budget for calls inside calls. -/
def Production.walk (reader : Reader) (budget : Nat) : Production → Walk (Phrase ε)
  | .program => do
    let es ← Expr.walkProgram reader budget
    return .program es
  | .onlyExpr => do
    let e ← Expr.walkOnly reader budget
    return .expr e
  | .expr => do
    let e ← Expr.walk reader budget
    return .expr e
  | .lambda => do
    let e ← Expr.walkLambda reader budget
    return .expr e
  | .binder => do
    let binder ← Expr.walkBinder reader budget
    return .binder binder.1 binder.2
  | .sum => do
    let e ← Expr.walkSum reader budget
    return .expr e
  | .application => do
    let e ← Expr.walkApplication reader budget
    return .expr e
  | .atom => do
    let e ← Expr.walkAtom reader budget
    return .expr e
  | .type => do
    let t ← Ty.walk reader budget
    return .type t
  | .atomType => do
    let t ← Ty.walkAtom reader budget
    return .type t
  | .onlyType => do
    let t ← Ty.walkOnly reader budget
    return .type t
  | .binding => do
    let binding ← Ty.walkBinding reader budget
    return .binding binding.1 binding.2
  | .atEnd => do
    let t ← reader.current
    return .verdict (t.kind = .eof)

/-- Walks to a phrase from where the reader is, and tells the position where the walk has ended.
There is no answer if the budget was used up. -/
def Reader.call (reader : Reader) (budget : Nat) (production : Production) :
    Option (Except ReadError (Phrase ε) × Nat) :=
  match (production.walk reader budget).run reader.position with
  | .ok phrase position => some (.ok phrase, position)
  | .error (some error) position => some (.error error, position)
  | .error none _ => none

end Gradual
