import Gradual.Text.Blank
import Gradual.Text.Cluster
import Gradual.Text.Fields

/-! Laying out texts on a console of 80 columns. -/
namespace Gradual.Console

/-- Columns of the console. -/
def width : Nat := 80

/-- Bell, backspace, vertical tab, form feed and carriage return never reach the console. -/
def isPassed (c : Char) : Bool :=
  c ≠ '\x07' && c ≠ '\x08' && c ≠ '\x0b' && c ≠ '\x0c' && c ≠ '\r'

/-- Puts blanks in place of the tabs between the parts of a line, one blank and then as many as lead to
a multiple of eight columns. -/
def alignParts (column : Nat) : List (List Char) → List Char
  | [] => []
  | [last] => last
  | part :: parts =>
    let spaced := part ++ [' ']
    let reached := column + Text.columns spaced
    let blanks := (8 - reached % 8) % 8
    spaced ++ List.replicate blanks ' ' ++ alignParts (reached + blanks) parts

def expandTabs (line : List Char) : List Char := alignParts 0 (Text.fields '\t' line)

/-- The lines of a text as the console shows them, without breaking any. -/
def lines (text : List Char) : List (List Char) :=
  (Text.fields '\n' (text.filter isPassed)).map expandTabs

/-- Lets long lines run on, with the blanks at their ends. -/
def unbroken (text : List Char) : String :=
  String.ofList ((lines text).flatMap (· ++ ['\n']))

/-- Cuts a line before every word that follows a blank. -/
def cutWords : List Char → List (List Char)
  | [] => []
  | c :: rest =>
    if Text.isBlank c && rest.head?.any (!Text.isBlank ·) then [c] :: cutWords rest
    else Text.prepend [c] (cutWords rest)

/-- The words of a line with the blanks after them; blanks at its start belong to the first. -/
def words (line : List Char) : List (List Char) :=
  match cutWords line with
  | first :: second :: rest =>
    if first.all Text.isBlank then (first ++ second) :: rest else first :: second :: rest
  | few => few

/-- Cuts a word into pieces of so many columns; the first one has the given room. -/
def chop (columns : Nat) : Nat → List Text.Cluster → List (List Char)
  | _, [] => [[]]
  | room, cluster :: rest =>
    let taken := cluster.columns
    if taken ≤ room then Text.prepend cluster.chars (chop columns (room - taken) rest)
    else [] :: Text.prepend cluster.chars (chop columns (columns - taken) rest)

/-- Finished lines and the one that is being filled. -/
structure Layout where
  finished : List (List Char)
  current : List Char

namespace Layout

def push (layout : Layout) (line : List Char) : Layout :=
  ⟨if layout.current.isEmpty then layout.finished else layout.finished ++ [layout.current], line⟩

/-- A word stays on the line if it fits without the blanks after it. A word wider than a line is cut,
and its last piece begins the next line. -/
def place (columns : Nat) (layout : Layout) (word : List Char) : Layout :=
  let taken := Text.columns (Text.stripEnd word)
  if Text.columns layout.current + taken ≤ columns then
    { layout with current := layout.current ++ word }
  else if columns < taken then (chop columns columns (Text.Cluster.ofChars word)).foldl push layout
  else layout.push word

def toLines (layout : Layout) : List (List Char) := layout.finished ++ [layout.current]

end Layout

/-- Drops blanks at the end of a line as long as it has more characters than there are columns. -/
def trimEnd (columns : Nat) (line : List Char) : List Char :=
  let blanks := line.length - (Text.stripEnd line).length
  line.take (line.length - min blanks (line.length - columns))

/-- As much of a line as there is room for. A blank stands for the half of a cluster. -/
def crop : Nat → List Text.Cluster → List Char
  | _, [] => []
  | room, cluster :: rest =>
    if cluster.columns ≤ room then cluster.chars ++ crop (room - cluster.columns) rest
    else List.replicate room ' '

/-- Blanks at the end of a line that do not fit are cut off. -/
def fit (columns : Nat) (line : List Char) : List Char :=
  let trimmed := trimEnd columns line
  if Text.columns trimmed ≤ columns then trimmed else crop columns (Text.Cluster.ofChars trimmed)

/-- Breaks a line between words. -/
def wrap (columns : Nat) (line : List Char) : List (List Char) :=
  (((words line).foldl (Layout.place columns) ⟨[], []⟩).toLines).map (fit columns)

/-- Breaks long lines between words. -/
def wrapped (text : List Char) : String :=
  String.ofList ((lines text).flatMap fun line => (wrap width line).flatMap (· ++ ['\n']))

def padEnd (columns : Nat) (text : List Char) : List Char :=
  text ++ List.replicate (columns - Text.columns text) ' '

/-- A label in a column of eight, and beside it the text, both filled up with blanks. -/
def labelled (label : String) (text : List Char) : String :=
  let column := 8
  let rows := (lines text).flatMap (wrap (width - column - 1))
  let labels := label.toList :: List.replicate (rows.length - 1) []
  String.ofList ((labels.zip rows).flatMap fun (label, row) =>
    padEnd column label ++ ' ' :: padEnd (width - column - 1) row ++ ['\n'])

end Gradual.Console
