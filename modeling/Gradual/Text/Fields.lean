/-! Cutting a text at a separator. -/
namespace Gradual.Text

/-- Puts `start` before the first of some pieces. -/
def prepend (start : List Char) : List (List Char) → List (List Char)
  | [] => [start]
  | piece :: pieces => (start ++ piece) :: pieces

/-- The pieces between the separators, at least one. -/
def fields (separator : Char) : List Char → List (List Char)
  | [] => [[]]
  | c :: rest =>
    if c = separator then [] :: fields separator rest else prepend [c] (fields separator rest)

end Gradual.Text
