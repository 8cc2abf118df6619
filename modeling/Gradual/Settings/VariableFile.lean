import Gradual.Entries
import Gradual.Log
import Gradual.Settings
import Gradual.Text.Blank

/-! Files of variables: lines `NAME=value`, where `export` may come first, the name or the value can be
quoted, and `#` begins a comment. A line that does not fit is passed over and reported. Values can refer
to variables by `${NAME}` or `${NAME:-default}`. -/
namespace Gradual.Settings.VariableFile

/-- A blank that does not end the line. -/
def isInlineBlank (c : Char) : Bool := Text.isBlank c && c ≠ '\n'

def skipInline (text : List Char) : List Char := text.dropWhile isInlineBlank

/-- What follows the word `export` and a blank, or else the text itself. -/
def skipExport (text : List Char) : List Char :=
  let after := text.drop 6
  if text.take 6 = "export".toList && after.head?.any isInlineBlank then skipInline after else text

/-- A name, if one stands here; a comment has none. A failure leaves the text where it got stuck. -/
def readName (text : List Char) : Except (List Char) (Option (List Char) × List Char) :=
  match text with
  | '#' :: _ => .ok (none, text)
  | '\'' :: rest =>
    let name := rest.takeWhile (· ≠ '\'')
    match name, rest.dropWhile (· ≠ '\'') with
    | _ :: _, '\'' :: later => .ok (some name, later)
    | _, _ => .error text
  | _ =>
    let inName := fun c => c ≠ '=' && c ≠ '#' && !Text.isBlank c
    match text.takeWhile inName with
    | [] => .error text
    | name => .ok (some name, text.dropWhile inName)

/-- The inside of a quotation and what follows its closing mark. A backslash always goes with the
character after it, so that a mark after a backslash closes nothing. -/
def quotation? (mark : Char) : List Char → Option (List Char × List Char)
  | [] => none
  | '\\' :: d :: rest =>
    (quotation? mark rest).map fun (inside, later) => ('\\' :: d :: inside, later)
  | c :: rest =>
    if c = mark then some ([], rest)
    else (quotation? mark rest).map fun (inside, later) => (c :: inside, later)

/-- What a backslash and this character stand for between double quotes. -/
def escape? : Char → Option Char
  | '\\' => some '\\'
  | '\'' => some '\''
  | '"' => some '"'
  | 'a' => some '\x07'
  | 'b' => some '\x08'
  | 'f' => some '\x0c'
  | 'n' => some '\n'
  | 'r' => some '\r'
  | 't' => some '\t'
  | 'v' => some '\x0b'
  | _ => none

/-- Between apostrophes only the backslash and the apostrophe can be escaped. -/
def plainEscape? (c : Char) : Option Char := if c = '\\' || c = '\'' then some c else none

def unescape (meaning? : Char → Option Char) : List Char → List Char
  | '\\' :: c :: rest =>
    match meaning? c with
    | some d => d :: unescape meaning? rest
    | none => '\\' :: unescape meaning? (c :: rest)
  | c :: rest => c :: unescape meaning? rest
  | [] => []

/-- Drops a comment. A `#` begins one only after a blank. -/
def dropComment : List Char → List Char
  | [] => []
  | c :: rest =>
    if Text.isBlank c && (Text.stripStart rest).head? = some '#' then [] else c :: dropComment rest

/-- The value after the equals sign, where blanks can come first. A value without quotes reaches to
the end of the line or to a comment. -/
def readValue (text : List Char) : Except (List Char) (List Char × List Char) :=
  let start := skipInline text
  let quoted := fun mark meaning? rest =>
    match quotation? mark rest with
    | some (inside, later) => .ok (unescape meaning? inside, later)
    | none => .error start
  match start with
  | '\'' :: rest => quoted '\'' plainEscape? rest
  | '"' :: rest => quoted '"' escape? rest
  | _ => .ok (Text.strip (dropComment (text.takeWhile (· ≠ '\n'))), text.dropWhile (· ≠ '\n'))

/-- What is left of a line after its value: blanks and a comment. -/
def readEnd (text : List Char) : Except (List Char) (List Char) :=
  let afterComment := match skipInline text with
    | '#' :: rest => rest.dropWhile (· ≠ '\n')
    | _ => text
  match skipInline afterComment with
  | [] => .ok []
  | '\n' :: rest => .ok rest
  | _ => .error afterComment

/-- Reads one line. A name without an equals sign has no value. -/
def readLine (text : List Char) :
    Except (List Char) (Option (List Char × Option (List Char)) × List Char) := do
  let (name, afterName) ← readName (skipExport text)
  let (value, afterValue) ← match skipInline afterName with
    | '=' :: rest => do
      let (value, later) ← readValue rest
      pure (some value, later)
    | rest => pure (none, rest)
  let rest ← readEnd afterValue
  return (name.map (·, value), rest)

/-- The text after the line in which a reader got stuck. -/
def skipLine (text : List Char) : List Char := (text.dropWhile (· ≠ '\n')).drop 1

/-- What a line turns out to be. One that does not fit has the number of the line on which the statement
before it left off, so that blank lines belong to the statement after them. -/
inductive Statement where
  | binding (name : List Char) (value : Option (List Char))
  | comment
  | malformed (line : Nat)

/-- A statement that begins on the given line, and the text after it. -/
def readStatement (line : Nat) (text : List Char) : Statement × List Char :=
  match readLine text with
  | .ok (some (name, value), rest) => (.binding name value, rest)
  | .ok (none, rest) => (.comment, rest)
  | .error stuck => (.malformed line, skipLine stuck)

/-- Reads statement after statement; each takes a character at least, so the length of the text is fuel
enough. -/
def readStatements : Nat → Nat → List Char → List Statement
  | 0, _, _ => []
  | fuel + 1, line, text =>
    match Text.stripStart text with
    | [] => []
    | start =>
      let (statement, rest) := readStatement line start
      statement :: readStatements fuel (line + (text.count '\n' - rest.count '\n')) rest

/-- A reference to a variable with its default, if it has one, and the text after it. -/
def reference? : List Char → Option (List Char × List Char × List Char)
  | '$' :: '\x7b' :: rest =>
    let inName := fun c => c ≠ '\x7d' && c ≠ ':'
    let name := rest.takeWhile inName
    match rest.dropWhile inName with
    | '\x7d' :: later => some (name, [], later)
    | ':' :: '-' :: more =>
      match more.dropWhile (· ≠ '\x7d') with
      | '\x7d' :: later => some (name, more.takeWhile (· ≠ '\x7d'), later)
      | _ => none
    | _ => none
  | _ => none

theorem length_reference? {text name fallback later : List Char}
    (found : reference? text = some (name, fallback, later)) : later.length < text.length := by
  unfold reference? at found
  split at found
  · rename_i rest
    dsimp only at found
    have shorter := (List.dropWhile_suffix (l := rest) fun c => c ≠ '\x7d' && c ≠ ':').length_le
    split at found
    · rename_i tail atEnd
      cases found
      rw [atEnd] at shorter
      simp only [List.length_cons] at shorter ⊢
      omega
    · rename_i more atDefault
      have fewer := (List.dropWhile_suffix (l := more) fun c => c ≠ '\x7d').length_le
      rw [atDefault] at shorter
      split at found
      · rename_i tail atEnd
        cases found
        rw [atEnd] at fewer
        simp only [List.length_cons] at shorter fewer ⊢
        omega
      · cases found
    · cases found
  · cases found

/-- Puts the values of variables in place of the references to them. -/
def expand (value? : String → Option (Option String)) (text : List Char) : List Char :=
  match text with
  | [] => []
  | c :: rest =>
    match _found : reference? (c :: rest) with
    | some (name, fallback, later) =>
      let value := match value? (String.ofList name) with
        | some value => (value.getD "").toList
        | none => fallback
      value ++ expand value? later
    | none => c :: expand value? rest
termination_by text.length
decreasing_by
  · exact length_reference? _found
  · simp

/-- The value that a name has where earlier lines of the file come before the environment. A name
without a value hides the environment. -/
def lookUp (environment earlier : Variables) (name : String) : Option (Option String) :=
  (earlier.lookup name).or (environment.lookup name)

/-- A byte order mark at the start of a file is no part of its text. -/
def dropByteOrderMark : List Char → List Char
  | '\ufeff' :: rest => rest
  | text => text

/-- The variables that a file defines, and the lines of the statements that do not fit. -/
structure Contents where
  definitions : Variables := []
  malformed : List Nat := []

/-- Takes a statement into account; its value can refer to those before it. -/
def Contents.add (environment : Variables) (contents : Contents) : Statement → Contents
  | .binding name value =>
    let expanded := value.map fun written =>
      String.ofList (expand (lookUp environment contents.definitions) written)
    { contents with
      definitions := Entries.put (String.ofList name) expanded contents.definitions }
  | .comment => contents
  | .malformed line => { contents with malformed := contents.malformed ++ [line] }

def parse (environment : Variables) (file : List Char) : Contents :=
  let text := dropByteOrderMark file
  (readStatements (text.length + 1) 1 text).foldl (Contents.add environment) {}

/-- The warning about a statement that does not fit. -/
def warning (line : Nat) : Log.Record where
  level := .warning
  component := "dotenv.main"
  operation := "with_warn_for_invalid_lines"
  message := "python-dotenv could not parse statement starting at line " ++ toString line

end Gradual.Settings.VariableFile
