import Gradual.SyntaxError

/-! Cutting a source text into tokens. A lexeme is what stands at the beginning of a text: a token, or
a stretch of blanks, a line end or a comment, which is skipped. Comments nest. -/
namespace Gradual

namespace Lexeme

def isBlank (c : Char) : Bool := c = ' ' || c = '\t'

def isWordStart (c : Char) : Bool := c.isLower || c = '_'

def isWordChar (c : Char) : Bool := c.isAlphanum || c = '_' || c = '\''

def keyword? (text : List Char) : Option Token.Kind :=
  match String.ofList text with
  | "fun" => some .fn
  | "true" => some .tru
  | "false" => some .fls
  | "int" => some .int
  | "bool" => some .bool
  | _ => none

/-- Tokens of one character that is not part of a word or a number. -/
def symbol? : Char → Option Token.Kind
  | '→' => some .arrow
  | '\\' | 'λ' => some .lambda
  | '+' => some .plus
  | ':' => some .colon
  | '.' => some .dot
  | '?' => some .question
  | '(' => some .lparen
  | ')' => some .rparen
  | _ => none

/-- The rest of a comment up to the mark that closes it, and what follows; `depth` counts the
comments that were opened inside it. -/
def closeComment : Nat → List Char → Option (List Char × List Char)
  | 0, '*' :: ')' :: rest => some (['*', ')'], rest)
  | depth + 1, '*' :: ')' :: rest =>
    (closeComment depth rest).map fun (text, rest) => ('*' :: ')' :: text, rest)
  | depth, '(' :: '*' :: rest =>
    (closeComment (depth + 1) rest).map fun (text, rest) => ('(' :: '*' :: text, rest)
  | depth, c :: rest => (closeComment depth rest).map fun (text, rest) => (c :: text, rest)
  | _, [] => none

end Lexeme

inductive Lexeme where
  | token (kind : Token.Kind) (text rest : List Char)
  | skipped (text rest : List Char)
  | unclosed
  | unexpected (c : Char)
  | finished

namespace Lexeme

def first : List Char → Lexeme
  | [] => .finished
  | '(' :: '*' :: rest =>
    match closeComment 0 rest with
    | some (text, rest) => .skipped ('(' :: '*' :: text) rest
    | none => .unclosed
  | ';' :: ';' :: rest => .token .semisemi [';', ';'] rest
  | '-' :: '>' :: rest => .token .arrow ['-', '>'] rest
  | '\r' :: '\n' :: rest => .skipped ['\r', '\n'] rest
  | c :: rest =>
    if isBlank c then .skipped (c :: rest.takeWhile isBlank) (rest.dropWhile isBlank)
    else if c = '\n' || c = '\r' then .skipped [c] rest
    else if isWordStart c then
      let text := c :: rest.takeWhile isWordChar
      .token ((keyword? text).getD .ident) text (rest.dropWhile isWordChar)
    else if c.isDigit then
      .token .number (c :: rest.takeWhile Char.isDigit) (rest.dropWhile Char.isDigit)
    else
      match symbol? c with
      | some kind => .token kind [c] rest
      | none => .unexpected c

theorem closeComment_append {depth : Nat} {input text rest : List Char}
    (closed : closeComment depth input = some (text, rest)) : text ++ rest = input := by
  fun_induction closeComment depth input generalizing text rest with
  | case1 => cases closed; rfl
  | case2 depth input ih =>
    obtain ⟨⟨text', rest'⟩, inner, eq⟩ := Option.map_eq_some_iff.mp closed
    cases eq
    simp [ih inner]
  | case3 depth input ih =>
    obtain ⟨⟨text', rest'⟩, inner, eq⟩ := Option.map_eq_some_iff.mp closed
    cases eq
    simp [ih inner]
  | case4 depth c input _ _ _ ih =>
    obtain ⟨⟨text', rest'⟩, inner, eq⟩ := Option.map_eq_some_iff.mp closed
    cases eq
    simp [ih inner]
  | case5 => cases closed

/-- A lexeme is not empty, and with what follows it makes up the text. -/
def Tiles (input : List Char) : Lexeme → Prop
  | .token _ text rest | .skipped text rest => text ≠ [] ∧ text ++ rest = input
  | .unclosed | .unexpected _ | .finished => True

theorem first_tiles (input : List Char) : (first input).Tiles input := by
  unfold first
  split
  · trivial
  · split
    · rename_i closed
      simp [Tiles, closeComment_append closed]
    · trivial
  · simp [Tiles]
  · simp [Tiles]
  · simp [Tiles]
  · split
    · simp [Tiles, List.takeWhile_append_dropWhile]
    split
    · simp [Tiles]
    split
    · simp [Tiles, List.takeWhile_append_dropWhile]
    split
    · simp [Tiles, List.takeWhile_append_dropWhile]
    split <;> simp [Tiles]

theorem shorter_of_tiles {input text rest : List Char} (nonempty : text ≠ [])
    (cut : text ++ rest = input) : rest.length < input.length := by
  have := List.length_pos_iff.mpr nonempty
  rw [← cut, List.length_append]
  omega

end Lexeme

/-- What a pass over a text found: the tokens before it stopped, where it stopped and what was left,
and the reason if that was not the end of the text. -/
structure Lexed where
  tokens : List Token
  cursor : Cursor
  rest : List Char
  error : Option SyntaxError

namespace Lexed

def scan (file : Option String) (cursor : Cursor) (input : List Char) : Lexed :=
  match _found : Lexeme.first input with
  | .token kind text rest =>
    let later := scan file (cursor.advance text) rest
    { later with tokens := ⟨kind, String.ofList text, cursor.location file⟩ :: later.tokens }
  | .skipped text rest => scan file (cursor.advance text) rest
  | .unclosed => ⟨[], cursor.advance input, [], some ⟨.unclosedComment, cursor.location file⟩⟩
  | .unexpected c => ⟨[], cursor, input, some ⟨.unexpectedCharacter c, cursor.location file⟩⟩
  | .finished => ⟨[], cursor, [], none⟩
termination_by input.length
decreasing_by
  · have tiles := Lexeme.first_tiles input
    rw [_found] at tiles
    exact Lexeme.shorter_of_tiles tiles.1 tiles.2
  · have tiles := Lexeme.first_tiles input
    rw [_found] at tiles
    exact Lexeme.shorter_of_tiles tiles.1 tiles.2

def ofSource (source : String) (file : Option String) : Lexed :=
  scan file .start source.toList

/-- A further pass over what was left. -/
def resume (lexed : Lexed) (file : Option String) : Lexed := scan file lexed.cursor lexed.rest

/-- The tokens followed, after a pass that reached the end, by the end of the text. -/
def listing (lexed : Lexed) (file : Option String) : List Token :=
  match lexed.error with
  | some _ => lexed.tokens
  | none => lexed.tokens ++ [⟨.eof, "", lexed.cursor.location file⟩]

end Lexed

end Gradual
