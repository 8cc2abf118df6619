import Gradual.Expr
import Gradual.Ty.Parser

/-! Reading expressions. A function body reaches as far to the right as it can; sums and applications
associate to the left:

    program ::= (expr ";;")* expr?
    expr    ::= lambda | sum
    lambda  ::= ("fun" | "\\") binder ("->" | ".") expr
    binder  ::= ident | ident ":" atom_type | "(" ident ":" type ")"
    sum     ::= app ("+" (app | lambda))*
    app     ::= atom atom*
    atom    ::= ident | number | "true" | "false" | "(" expr ")"

The type after an unparenthesised binder is atomic, because the next arrow belongs to the function. -/
namespace Gradual.Expr

variable {ε : Type}

/-- A parenthesis opens a binder only if a colon comes two tokens after it. -/
def readBinder (input : List Token) : Reading 1 (String × Option (Ty ε)) input :=
  if kindOf input = .lparen ∧ kindOfThird input = .colon then
    (expect .lparen input).andThen fun _ rest _ =>
      (expect .ident rest).andThen fun name rest _ =>
        (expect .colon rest).andThen fun _ rest _ =>
          (Ty.read rest).andThen fun type rest _ =>
            (expect .rparen rest).map fun _ => (name.text, some type)
  else
    (expect .ident input).andThen fun name rest _ =>
      match rest with
      | t :: rest =>
        if t.kind = .colon then
          .relax (.after t ((Ty.readAtom rest).map fun type => (name.text, some type)))
        else .done (name.text, none)
      | [] => .done (name.text, none)

/-- The arrow or the dot between binder and body. -/
def readBodyMark (input : List Token) : Reading 1 Token input :=
  if kindOf input = .arrow then expect .arrow input else expect .dot input

/-- The number that a string of digits denotes. -/
def ofDigits (digits : List Char) : Nat :=
  digits.foldl (fun n c => 10 * n + (c.toNat - '0'.toNat)) 0

/-- Digits, at least one. -/
def isNumeral (text : String) : Bool := text.toList ≠ [] && text.toList.all Char.isDigit

/-- A number that is too long has been taken from the input when it is rejected. -/
def readNumber (t : Token) (rest : List Token) : Reading 1 (Expr ε) (t :: rest) :=
  if isNumeral t.text then
    if t.text.length ≤ numberLimit then .after t (.done (.int (ofDigits t.text.toList)))
    else .stuck (.numberTooLong t.text.length) rest (by simp)
  else .fail (.unexpectedToken .number) t.location

mutual

def read (input : List Token) : Reading 1 (Expr ε) input :=
  if (kindOf input).beginsLambda then readLambda input else readSum input
termination_by (input.length, 4)

/-- Takes the first token to be the one that begins the function. -/
def readLambda (input : List Token) : Reading 1 (Expr ε) input :=
  .widen (by simp) ((readBinder input.tail).andThen fun binder rest _ =>
    (readBodyMark rest).andThen fun _ rest _ => (read rest).map (.lam binder.1 binder.2))
termination_by (input.length, 3)
decreasing_by all_goals decreasing_with ((try simp only [List.length_tail] at *); omega)

def readSum (input : List Token) : Reading 1 (Expr ε) input :=
  (readApplication input).andThen fun left rest _ => readMoreSum left rest
termination_by (input.length, 3)

/-- Goes on with a sum of which `left` has been read. -/
def readMoreSum (left : Expr ε) (input : List Token) : Reading 0 (Expr ε) input :=
  match input with
  | [] => .done left
  | t :: rest =>
    if t.kind = .plus then
      if (kindOf rest).beginsLambda then
        .relax (.after t ((readLambda rest).andThen fun right rest _ =>
          readMoreSum (.add left right) rest))
      else
        .relax (.after t ((readApplication rest).andThen fun right rest _ =>
          readMoreSum (.add left right) rest))
    else .done left
termination_by (input.length, 2)
decreasing_by all_goals decreasing_with omega

def readApplication (input : List Token) : Reading 1 (Expr ε) input :=
  (readAtom input).andThen fun func rest _ => readMoreApplication func rest
termination_by (input.length, 2)

/-- Goes on with an application of which `func` has been read. -/
def readMoreApplication (func : Expr ε) (input : List Token) : Reading 0 (Expr ε) input :=
  if (kindOf input).beginsAtom then
    .relax ((readAtom input).andThen fun arg rest _ => readMoreApplication (.app func arg) rest)
  else .done func
termination_by (input.length, 1)

def readAtom (input : List Token) : Reading 1 (Expr ε) input :=
  match input with
  | [] => .fail (.unexpectedToken .eof) none
  | t :: rest =>
    match t.kind with
    | .lparen =>
      .after t ((read rest).andThen fun e rest _ => (expect .rparen rest).map fun _ => e)
    | .ident => .after t (.done (.var t.text))
    | .number => readNumber t rest
    | .tru => .after t (.done (.bool true))
    | .fls => .after t (.done (.bool false))
    | kind => .fail (.unexpectedToken kind) t.location
termination_by (input.length, 0)

end

/-- All expressions of a text; `;;` may be repeated and may be missing at the end. -/
def readProgram (input : List Token) : Reading 0 (List (Expr ε)) input :=
  match input with
  | [] => .done []
  | t :: rest =>
    if t.kind = .eof then .done []
    else if t.kind = .semisemi then .relax (.after t (readProgram rest))
    else
      .relax ((read (t :: rest)).andThen fun e rest _ =>
        if kindOf rest = .eof then .done [e]
        else .relax ((expect .semisemi rest).andThen fun _ rest _ => (readProgram rest).map (e :: ·)))
termination_by input.length
decreasing_by all_goals decreasing_with ((try simp only [List.length_cons] at *); omega)

/-- The only expression of a text, which `;;` may end. -/
def readOnly (input : List Token) : Reading 1 (Expr ε) input :=
  (read input).andThen fun e rest _ =>
    (optional .semisemi rest).andThen fun _ rest _ => (expectEnd rest).map fun _ => e

end Gradual.Expr
