import Gradual.Entries
import Gradual.Log
import Gradual.Text.Blank
import Gradual.Text.Case
import Gradual.Text.Fields

/-! Log filters. A filter is written as parts with commas between them: a level for everything, and
`component=level` or `component=false` for a component and what lies below it. The entry for the empty
component decides where no other does. -/
namespace Gradual.Log

/-- What an entry says, as written: keep nothing, or keep records from the named level on. -/
inductive Rule where
  | silence
  | atLeast (levelName : String)
  deriving DecidableEq

/-- The level for everything as written, and the entries in the order in which they were first made. -/
structure Filter where
  level : String
  entries : List (String × Rule)

namespace Filter

/-- Lower-case names of the levels stand for the levels; this is the level unless one is written. -/
def defaultLevel : String := "warning"

def rule (written : List Char) : Rule :=
  let level := Text.strip written
  if level = "false".toList then .silence else .atLeast (String.ofList (Text.upper level))

/-- Takes one part into account; an empty one says nothing. -/
def read (filter : Filter) (part : List Char) : Filter :=
  if part.isEmpty then filter
  else if '=' ∈ part then
    let component := Text.strip (part.takeWhile (· ≠ '='))
    let level := (part.dropWhile (· ≠ '=')).drop 1
    { filter with entries := Entries.put (String.ofList component) (rule level) filter.entries }
  else { filter with level := String.ofList part }

/-- The level for everything becomes the entry of the empty component, unless that has one. -/
def complete (filter : Filter) : Filter :=
  if filter.entries.any (·.1 = "") then filter
  else
    let root := Rule.atLeast (String.ofList (Text.upper filter.level.toList))
    { filter with entries := filter.entries ++ [("", root)] }

def parse (written : String) : Filter :=
  let parts := (Text.fields ',' (Text.lower written.toList)).map Text.strip
  (parts.foldl read ⟨defaultLevel, []⟩).complete

end Filter

/-- An entry names a level that does not exist. -/
structure UnknownLevel where
  component : String
  levelName : String

def UnknownLevel.message (error : UnknownLevel) : String :=
  "The filter dict contains a module '" ++ error.component ++
    "' associated to a level name which does not exist: '" ++ error.levelName ++ "'"

/-- A filter whose levels exist: each entry has the level from which on it keeps records, if any. -/
structure Sieve where
  entries : List (String × Option Level)

def Filter.sieve (filter : Filter) : Except UnknownLevel Sieve := do
  let entries ← filter.entries.mapM fun (component, rule) =>
    match rule with
    | .silence => .ok (component, none)
    | .atLeast levelName =>
      match Level.ofName? levelName with
      | some level => .ok (component, some level)
      | none => .error ⟨component, levelName⟩
  return ⟨entries⟩

namespace Sieve

/-- A component's ancestors, itself first and the empty one last. -/
def ancestors (component : String) : List String :=
  let parts := Text.fields '.' component.toList
  (List.range (parts.length + 1)).reverse.map fun n =>
    String.ofList ((parts.take n).intersperse ['.']).flatten

/-- The verdict of the nearest ancestor that has an entry. -/
def keeps (sieve : Sieve) (component : String) (severity : Int) : Bool :=
  match (ancestors component).findSome? fun name => sieve.entries.lookup name with
  | some (some level) => level.severity ≤ severity
  | some none => false
  | none => true

def passes (sieve : Sieve) (record : Record) : Bool :=
  sieve.keeps record.component record.level.severity

/-- Records of other libraries belong to no component with an entry. -/
def passesForeign (sieve : Sieve) (record : Foreign) : Bool :=
  Foreign.least ≤ record.severity && sieve.keeps "" record.severity

end Sieve

end Gradual.Log
