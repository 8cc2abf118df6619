import Gradual.Notice

/-! How notices appear on a console. What a command finds out does not depend on it; only a line on a
variable can be impossible to show. -/
namespace Gradual

/-- Neither a bracket nor a backslash, so that it stands for itself whatever the renderer. -/
def isPlain (c : Char) : Bool := c ∉ ['[', '\\']

/-- How texts appear. A line on a variable can be refused, for the reason given, unless its name and its
type are plain. -/
structure Renderer where
  titled (title text : String) : String
  wrapped (text : String) : String
  labelled (label text : String) : String
  entry (name type : String) : Except String String
  shows : ∀ {name type : String}, (∀ c ∈ name.toList, isPlain c = true) →
    (∀ c ∈ type.toList, isPlain c = true) → ∃ line, entry name type = .ok line

namespace Renderer

variable (renderer : Renderer)

/-- A line for each variable. -/
def environment (env : Env Empty) : Except String (List Notice) :=
  if env.size = 0 then .ok [Notice.info "Environment is empty"]
  else env.entries.mapM fun (name, t) => (renderer.entry name t.render).map Notice.text

/-- What appears of a notice; records are left to the log. -/
def text? : Notice → Option String
  | .text text => some text
  | .titled title text => some (renderer.titled title text)
  | .wrapped text => some (renderer.wrapped text)
  | .log _ => none

/-- All that is printed, without the log. -/
def printed (notices : List Notice) : String :=
  String.join (notices.filterMap renderer.text?)

/-- Everything on the console, where the records appear in a layout of their own. -/
def interleaved (sieve : Log.Sieve) (notices : List Notice) : String :=
  String.join (notices.map fun
    | .log record =>
      if sieve.passes record then renderer.labelled record.level.name record.message else ""
    | notice => (renderer.text? notice).getD "")

end Renderer

end Gradual
