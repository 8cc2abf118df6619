/-! Places in a source text, with the file they are in if it has a name. -/
namespace Gradual

structure Location where
  line : Int
  column : Int
  file : Option String
  deriving DecidableEq

/-- An empty file name counts as none. -/
def Location.render (l : Location) : String :=
  match l.file with
  | none | some "" => "line " ++ toString l.line ++ ", column " ++ toString l.column
  | some file => file ++ ":" ++ toString l.line ++ ":" ++ toString l.column

/-- A position in a text: characters, newlines and characters since the last newline, the last two
counted from one. -/
structure Cursor where
  offset : Nat
  line : Nat
  column : Nat
  deriving DecidableEq

namespace Cursor

def start : Cursor := ⟨0, 1, 1⟩

/-- Only the line feed begins a new line. -/
def next (cursor : Cursor) (c : Char) : Cursor :=
  if c = '\n' then ⟨cursor.offset + 1, cursor.line + 1, 1⟩
  else ⟨cursor.offset + 1, cursor.line, cursor.column + 1⟩

def advance (cursor : Cursor) (text : List Char) : Cursor := text.foldl next cursor

def location (cursor : Cursor) (file : Option String) : Location :=
  ⟨cursor.line, cursor.column, file⟩

end Cursor

end Gradual
