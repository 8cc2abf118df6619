import Gradual.SyntaxError

/-! Reading from a list of tokens. The end of the list is the end of the text. A reading either has a
value and leaves the tokens after it, or is stuck at some token; both remember that no tokens are
left that were not there before, so that a reader can call itself on what a reading has left. -/
namespace Gradual

/-- Longest number that is accepted, in digits. -/
def numberLimit : Nat := 4300

/-- A mistake has the place of the token that does not fit, and none at the end of the text. -/
inductive Complaint where
  | cause (cause : SyntaxError.Cause) (place : Option Location)
  | numberTooLong (digits : Nat)
  deriving DecidableEq

/-- The kind of the first token. -/
def kindOf : List Token → Token.Kind
  | [] => .eof
  | t :: _ => t.kind

/-- The kind of the third token. -/
def kindOfThird : List Token → Token.Kind
  | _ :: _ :: t :: _ => t.kind
  | _ => .eof

/-- A value takes at least `least` tokens of the input. -/
inductive Reading (least : Nat) (α : Type) (input : List Token) where
  | value (a : α) (rest : List Token) (taken : rest.length + least ≤ input.length)
  | stuck (complaint : Complaint) (rest : List Token) (within : rest.length ≤ input.length)

namespace Reading

variable {α β : Type} {input : List Token}

def map {least : Nat} (f : α → β) : Reading least α input → Reading least β input
  | .value a rest taken => .value (f a) rest taken
  | .stuck complaint rest within => .stuck complaint rest within

/-- Goes on with the tokens that a value has left. -/
def andThen {least more : Nat} (first : Reading least α input)
    (next : α → (rest : List Token) → rest.length + least ≤ input.length → Reading more β rest) :
    Reading least β input :=
  match first with
  | .stuck complaint rest within => .stuck complaint rest within
  | .value a rest taken =>
    match next a rest taken with
    | .value b rest' taken' => .value b rest' (by omega)
    | .stuck complaint rest' within => .stuck complaint rest' (by omega)

/-- Forgets how many tokens a value takes at least. -/
def relax {least : Nat} : Reading least α input → Reading 0 α input
  | .value a rest taken => .value a rest (by omega)
  | .stuck complaint rest within => .stuck complaint rest within

/-- Goes on after a token. -/
def after {least : Nat} (t : Token) : Reading least α input → Reading 1 α (t :: input)
  | .value a rest taken => .value a rest (by simp only [List.length_cons]; omega)
  | .stuck complaint rest within => .stuck complaint rest (by simp only [List.length_cons]; omega)

/-- A reading of a shorter list. -/
def widen {shorter : List Token} (le : shorter.length ≤ input.length) :
    Reading 1 α shorter → Reading 1 α input
  | .value a rest taken => .value a rest (by omega)
  | .stuck complaint rest within => .stuck complaint rest (by omega)

def done (a : α) : Reading 0 α input := .value a input (Nat.le_refl _)

def fail {least : Nat} (cause : SyntaxError.Cause) (place : Option Location) :
    Reading least α input :=
  .stuck (.cause cause place) input (Nat.le_refl _)

/-- The tokens that are left. -/
def rest {least : Nat} : Reading least α input → List Token
  | .value _ rest _ | .stuck _ rest _ => rest

/-- The outcome without the tokens that are left. -/
def result {least : Nat} : Reading least α input → Except Complaint α
  | .value a _ _ => .ok a
  | .stuck complaint _ _ => .error complaint

/-- How many tokens are gone. -/
def position {least : Nat} (reading : Reading least α input) : Nat :=
  input.length - reading.rest.length

end Reading

/-- Takes a token of the wanted kind. -/
def expect (wanted : Token.Kind) : (input : List Token) → Reading 1 Token input
  | [] => .fail (.expected wanted .eof) none
  | t :: _ =>
    if t.kind = wanted then .after t (.done t) else .fail (.expected wanted t.kind) t.location

/-- Takes a token if it is of the given kind, and tells whether it was. -/
def optional (kind : Token.Kind) : (input : List Token) → Reading 0 Bool input
  | [] => .done false
  | t :: _ => if t.kind = kind then .relax (.after t (.done true)) else .done false

/-- Makes sure that nothing is left. -/
def expectEnd : (input : List Token) → Reading 0 Unit input
  | [] => .done ()
  | t :: _ =>
    if t.kind = .eof then .relax (.after t (.done ())) else .fail (.expected .eof t.kind) t.location

end Gradual
