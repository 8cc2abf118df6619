import Gradual.Command.Actions
import Gradual.Console.Renderer

/-! Commands and dialogues at the console. -/
namespace Gradual

/-- All that is printed, without the log. -/
def Notice.printed (notices : List Notice) : String := Console.renderer.printed notices

/-- Answers one line. -/
def Repl.handle (repl : Repl) (line : String) : Except Abort Turn := repl.answer Console.renderer line

/-- Runs a command line. -/
def Command.run (world : World) (line : List String) : Outcome := execute Console.renderer world line

end Gradual
