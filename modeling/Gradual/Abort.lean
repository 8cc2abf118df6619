import Gradual.Log.Filter
import Gradual.Settings
import Gradual.Source
import Gradual.Text.Quoted
import Gradual.Text.Utf8

/-! Reasons to break off a command that are no mistakes in an expression. -/
namespace Gradual

/-- A directory cannot be made where a file stands, or below a file. A line on a variable cannot be shown
if it closes a tag that nothing has opened. -/
inductive Abort where
  | numberTooLong (digits : Nat)
  | unknownLevel (error : Log.UnknownLevel)
  | invalidSettings (invalid : List Settings.Invalid)
  | undecodable (fault : Text.Utf8.Fault)
  | unknownHome
  | occupied (directory : Path)
  | blocked (directory : Path)
  | unopened (message : String)

def Abort.message : Abort → String
  | .numberTooLong digits => (ReadError.numberTooLong digits).message
  | .unknownLevel error => error.message
  | .invalidSettings invalid => Settings.message invalid
  | .undecodable fault => fault.message
  | .unknownHome => "Could not determine home directory."
  | .occupied directory => "[Errno 17] File exists: " ++ Text.quote directory.render
  | .blocked directory => "[Errno 20] Not a directory: " ++ Text.quote directory.render
  | .unopened message => message

/-- What a source text says: a value or a mistake to report, unless a number in it is too long. -/
def Source.attempt {α : Type} : Except ReadError α → Except Abort (Except SyntaxError α)
  | .ok a => .ok (.ok a)
  | .error (.malformed error) => .ok (.error error)
  | .error (.numberTooLong digits) => .error (.numberTooLong digits)

end Gradual
