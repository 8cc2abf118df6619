import Gradual.Inference
import Gradual.Log.Filter

/-! What a command has to tell: texts for the console and records for the log, in order. -/
namespace Gradual

inductive Notice where
  /-- A text as it stands. -/
  | text (text : String)
  /-- A title that is set off, and a text beside it. -/
  | titled (title text : String)
  /-- A text of which long lines are broken. -/
  | wrapped (text : String)
  | log (record : Log.Record)

namespace Notice

/-- A line of the program's own. -/
def info (line : String) : Notice := .text (line ++ "\n")

def error (message : String) : Notice := .titled "Error:" (" " ++ message)

/-- The type of an expression, and before it on demand how it was found. -/
def inference (result : Inference Empty) (showConstraints : Bool) : List Notice :=
  (if showConstraints then
    [titled "raw" (": " ++ result.raw.render),
      titled "constraints" (": " ++ result.constraints.render),
      titled "substitution" (": " ++ result.substitution.render)]
  else []) ++
  [titled "" ("- : " ++ result.type.render)]

/-- A binding that was just made. -/
def assumption (name : String) (t : Ty Empty) : Notice := .wrapped (name ++ " : " ++ t.render)

/-- The records that a sieve keeps. -/
def records (sieve : Log.Sieve) (notices : List Notice) : List Log.Record :=
  (notices.filterMap fun
    | .log record => some record
    | _ => none).filter sieve.passes

end Notice

end Gradual
