/-! The three ways to end a line, made one. -/
namespace Gradual.Text

/-- Every carriage return, with the line feed after it if there is one, becomes a line feed. -/
def normalizeNewlines : List Char → List Char
  | '\r' :: '\n' :: rest => '\n' :: normalizeNewlines rest
  | '\r' :: rest => '\n' :: normalizeNewlines rest
  | c :: rest => c :: normalizeNewlines rest
  | [] => []

end Gradual.Text
