import Gradual.Path
import Gradual.Text.Case

/-! Settings of the command line. Each is looked for among the given values, then in the environment,
then in a file of variables. -/
namespace Gradual

/-- A value given for a setting. -/
inductive Setting where
  | text (value : String)
  | flag (value : Bool)
  | whole (value : Int)
  | fractional
  | other

inductive Setting.Defect where
  | notText
  | notFlag
  | unreadableFlag
  deriving DecidableEq

namespace Setting

def Defect.name : Defect → String
  | .notText => "string_type"
  | .notFlag => "bool_type"
  | .unreadableFlag => "bool_parsing"

def yes : List String := ["1", "true", "t", "yes", "y", "on"]

def no : List String := ["0", "false", "f", "no", "n", "off"]

/-- A flag, a word for one in any case, or a number that is zero or one. -/
def asFlag : Setting → Except Defect Bool
  | .flag value => .ok value
  | .text value =>
    let word := String.ofList (Text.lower value.toList)
    if word ∈ yes then .ok true else if word ∈ no then .ok false else .error .unreadableFlag
  | .whole n => if n = 0 then .ok false else if n = 1 then .ok true else .error .unreadableFlag
  | .fractional | .other => .error .notFlag

def asText : Setting → Except Defect String
  | .text value => .ok value
  | _ => .error .notText

end Setting

structure Settings where
  home : Option String
  showConstraints : Bool
  prompt : String

namespace Settings

/-- Names of variables with their values; a file can name a variable without giving it a value. -/
abbrev Variables := List (String × Option String)

/-- Where settings come from, nearest first. -/
structure Sources where
  given : List (String × Setting)
  environment : Variables
  file : Variables

/-- Names of variables are read without regard to case, and the last one counts. -/
def valueOf? (known : Variables) (field : String) : Option String :=
  (known.reverse.find? fun entry =>
    String.ofList (Text.lower entry.1.toList) = "itgl_" ++ field).bind Prod.snd

def Sources.get? (sources : Sources) (field : String) : Option Setting :=
  (sources.given.lookup field).or
    (((valueOf? sources.environment field).or (valueOf? sources.file field)).map .text)

/-- A setting that cannot be used, and what is wrong with it. -/
structure Invalid where
  field : String
  defect : Setting.Defect

/-- Tells about the settings in alphabetical order. -/
def message (invalid : List Invalid) : String :=
  "; ".intercalate (invalid.map fun one => one.field ++ ": " ++ one.defect.name)

def Sources.read {α : Type} (sources : Sources) (field : String) (fallback : α)
    (as : Setting → Except Setting.Defect α) : Except (List Invalid) α :=
  match sources.get? field with
  | none => .ok fallback
  | some value =>
    match as value with
    | .ok a => .ok a
    | .error defect => .error [⟨field, defect⟩]

def defects {α : Type} : Except (List Invalid) α → List Invalid
  | .ok _ => []
  | .error invalid => invalid

/-- Reports all settings that cannot be used, in alphabetical order. -/
def load (sources : Sources) : Except (List Invalid) Settings :=
  let home := sources.read "home" none fun value => value.asText.map some
  let prompt := sources.read "prompt" "# " Setting.asText
  let showConstraints := sources.read "show_constraints" false Setting.asFlag
  match home, prompt, showConstraints with
  | .ok home, .ok prompt, .ok showConstraints => .ok ⟨home, showConstraints, prompt⟩
  | _, _, _ => .error (defects home ++ defects prompt ++ defects showConstraints)

/-- The two directories that relative paths and `~` start from, both absolute. -/
structure Directories where
  working : Path
  home : Path

/-- The directory of the settings; none if the home of another user is asked for. -/
def directory (settings : Settings) (directories : Directories) : Option Path :=
  match settings.home with
  | none | some "" => some (directories.home.child ".itgl").collapse
  | some home =>
    ((Path.ofString home).expandHome directories.home).map fun expanded =>
      (directories.working.under expanded).collapse

/-- The file in it that keeps the lines typed. -/
def history (settings : Settings) (directories : Directories) : Option Path :=
  (settings.directory directories).map (·.child "history")

end Settings

end Gradual
