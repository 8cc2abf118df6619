import Gradual.Command

/-! The command line program: shows the commands what they can see and carries out what they say. -/
namespace Gradual

open Command

/-- The bytes of a file that can be read. -/
def bytesOf? (path : String) : IO (Option (String × List UInt8)) := do
  try
    return some (path, (← IO.FS.readBinFile path).toList)
  catch _ => return none

def observed : List String :=
  ["ITGL_LOG_FILTER", "ITGL_HOME", "ITGL_SHOW_CONSTRAINTS", "ITGL_PROMPT", "HOME"]

/-- Any argument could name the file of a command. No directory is made, so none can be in the way. -/
def observe (arguments : List String) : IO World := do
  let environment ← observed.mapM fun name => do return (name, ← IO.getEnv name)
  let files ← (".env" :: arguments).filterMapM bytesOf?
  let working := Path.ofString (← IO.currentDir).toString
  let home := ((environment.lookup "HOME").join.map Path.ofString).getD working
  return ⟨environment.filter (·.2.isSome), (files.lookup ·), fun _ => false,
    ⟨working, working.under home⟩, []⟩

def complain (message : String) (code : UInt32) : IO UInt32 := do
  IO.eprintln message
  return code

def Command.UsageError.message : UsageError → String
  | .missingArgument => "Missing argument."
  | .unknownOption => "No such option."
  | .optionValue => "An option has no value, or one that it does not take."
  | .badArgument => "The file does not exist or cannot be read."
  | .malformed => "No such command, or too many arguments."

def finish : Ending → IO UInt32
  | .exit code => return code.toUInt32
  | .usage error => complain error.message 2
  | .badBinding message => complain ("Invalid value for --env: " ++ message) 2
  | .aborted reason => complain reason.message 1

def Log.Record.line (record : Log.Record) : String :=
  record.level.name ++ " | " ++ record.component ++ ":" ++ record.operation ++ " | " ++ record.message

/-- Answers lines until there are no more or one says to stop. -/
partial def talk (sieve : Log.Sieve) (ready : Preparation) (input : IO.FS.Stream) (repl : Repl) : IO UInt32 := do
  IO.print ready.settings.prompt
  (← IO.getStdout).flush
  let line ← input.getLine
  if line.isEmpty then
    IO.print (Notice.printed [Repl.farewell])
    return 0
  match repl.handle line with
  | .error reason => finish (.aborted reason)
  | .ok turn =>
    IO.print (Console.renderer.interleaved sieve turn.notices)
    if turn.goesOn then talk sieve ready input turn.repl
    else
      IO.print (Notice.printed [Repl.farewell])
      return 0

/-- A dialogue is held as its lines come in. -/
def dialogue (world : World) (arguments : Arguments) : IO UInt32 := do
  match world.sieve with
  | .error reason => finish (.aborted reason)
  | .ok sieve =>
    let (warnings, prepared) := prepare world arguments
    IO.print (Console.renderer.interleaved sieve warnings)
    match prepared with
    | .error ending => finish ending
    | .ok ready =>
      match world.history ready.settings with
      | .error reason => finish (.aborted reason)
      | .ok _ =>
        IO.print (Notice.printed Repl.welcome)
        talk sieve ready (← IO.getStdin) ⟨ready.env, ready.settings.showConstraints⟩

end Gradual

open Gradual in
def main (line : List String) : IO UInt32 := do
  let world ← observe line
  match Command.Request.read world.read? line with
  | .ok (.repl arguments) => dialogue world arguments
  | _ =>
    let outcome := Command.run world line
    IO.print outcome.output
    for record in outcome.log do IO.eprintln record.line
    finish outcome.ending
