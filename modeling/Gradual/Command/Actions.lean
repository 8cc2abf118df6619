import Gradual.Command.Arguments
import Gradual.Repl
import Gradual.Settings.VariableFile
import Gradual.Text.Newline

/-! Running commands. What a command does depends on its arguments, the variables of the environment,
some files and what is typed, and it ends with an exit code, a complaint about the arguments, or a
reason to break off. -/
namespace Gradual.Command

/-- What a command can see. -/
structure World where
  environment : Settings.Variables
  read? : String → Option (List UInt8)
  isFile : Path → Bool
  directories : Settings.Directories
  inputs : List Repl.Input

inductive Ending where
  | exit (code : Nat)
  | usage (error : UsageError)
  | badBinding (message : String)
  | aborted (reason : Abort)

/-- What the prompts of a dialogue showed, and where its history is kept. -/
structure Prompted where
  prompts : List String
  history : Path

structure Outcome where
  output : String := ""
  log : List Log.Record := []
  ending : Ending
  prompted : Option Prompted := none

/-- The text of a file: UTF-8 with any kind of line ends. -/
def decodeText (bytes : List UInt8) : Except Abort (List Char) :=
  match Text.Utf8.decode bytes with
  | .ok text => .ok (Text.normalizeNewlines text)
  | .error fault => .error (.undecodable fault)

namespace World

def valueOf? (world : World) (name : String) : Option String :=
  (world.environment.lookup name).join

def filter (world : World) : Log.Filter :=
  .parse ((world.valueOf? "ITGL_LOG_FILTER").getD Log.Filter.defaultLevel)

def sieve (world : World) : Except Abort Log.Sieve :=
  match world.filter.sieve with
  | .ok sieve => .ok sieve
  | .error error => .error (.unknownLevel error)

/-- The settings, where the given ones come first, and the warnings that reading them gives. The
warnings stand also when the settings are of no use. -/
def settings (world : World) (given : List (String × Setting)) :
    List Log.Record × Except Abort Settings :=
  match decodeText ((world.read? ".env").getD []) with
  | .error reason => ([], .error reason)
  | .ok text =>
    let file := Settings.VariableFile.parse world.environment text
    (file.malformed.map Settings.VariableFile.warning,
      (Settings.load ⟨given, world.environment, file.definitions⟩).mapError .invalidSettings)

/-- Where the lines typed are kept. -/
def history (world : World) (settings : Settings) : Except Abort Path :=
  match settings.history world.directories with
  | some path => .ok path
  | none => .error .unknownHome

/-- Makes sure that the directory of the settings can be made, unless it is there. -/
def makeRoom (world : World) (settings : Settings) : Except Abort Unit :=
  match settings.directory world.directories with
  | none => .error .unknownHome
  | some directory =>
    if world.isFile directory then .error (.occupied directory)
    else if directory.ancestors.any world.isFile then .error (.blocked directory)
    else .ok ()

end World

/-- The environment that `--env` options make; an entry that cannot be read is named. -/
def bindings (entries : List String) : Except Ending (Env Empty) :=
  entries.foldlM (fun env entry =>
    match Source.binding entry none with
    | .ok (name, t) => .ok (env.extend name t)
    | .error (.malformed error) =>
      .error (.badBinding (Text.quote entry ++ ": " ++ error.message))
    | .error (.numberTooLong digits) => .error (.aborted (.numberTooLong digits))) ∅

/-- What is the same for all actions: the settings and the environment. -/
structure Preparation where
  settings : Settings
  env : Env Empty

def orAbort {α : Type} : Except Abort α → Except Ending α := Except.mapError .aborted

/-- The settings that arguments give. -/
def Arguments.given (arguments : Arguments) : List (String × Setting) :=
  (arguments.showConstraints.map (("show_constraints", Setting.flag ·))).toList ++
    (arguments.home.map fun home => ("home", Setting.text (Path.ofString home).render)).toList

/-- Settings come before the environment, and warnings about them before anything else. -/
def prepare (world : World) (arguments : Arguments) :
    List Notice × Except Ending Preparation :=
  let (warnings, settings) := world.settings arguments.given
  (warnings.map .log, do
    let settings ← orAbort settings
    let env ← bindings arguments.bindings
    return ⟨settings, env⟩)

/-- Notices and the ending that they lead to. -/
structure Progress where
  notices : List Notice := []
  ending : Ending
  prompted : Option Prompted := none

namespace Progress

def after (notices : List Notice) (rest : Progress) : Progress :=
  { rest with notices := notices ++ rest.notices }

/-- Reports a mistake in a source text. -/
def rejected (message : String) : Progress :=
  { notices := [Notice.error message], ending := .exit 1 }

/-- Goes on with what a source text says. -/
def ofSource {α : Type} (outcome : Except ReadError α) (next : α → Progress) : Progress :=
  match Source.attempt outcome with
  | .error reason => { ending := .aborted reason }
  | .ok (.error error) => rejected error.message
  | .ok (.ok a) => next a

end Progress

def started (operation message : String) : Notice :=
  .log ⟨.info, "itgl.cli.app", operation, message⟩

def inferExpr (ready : Preparation) (e : Expr Empty) : Progress :=
  Progress.after ((e.events ready.env).map .log) <|
    match e.inferAlone ready.env with
    | .ok result =>
      { notices := Notice.inference result ready.settings.showConstraints, ending := .exit 0 }
    | .error error => .rejected error.message

/-- Infers the type of one expression. -/
def infer (ready : Preparation) (source : String) : Progress :=
  Progress.after [started "infer"
      ("infer.start expression=" ++ Text.quote source ++ " env=" ++ toString ready.env.size)] <|
    .ofSource (Source.expr source none) (inferExpr ready)

/-- The notices for one expression of a file, and whether it has a type. -/
def checkExpr (ready : Preparation) (e : Expr Empty) : List Notice × Bool :=
  let events := (e.events ready.env).map Notice.log
  match e.inferAlone ready.env with
  | .ok result => (events ++ Notice.inference result ready.settings.showConstraints, true)
  | .error error => (events ++ [Notice.error (e.render ++ ": " ++ error.message)], false)

/-- Infers the type of every expression of a file; all of them have to have one. -/
def checkAll (ready : Preparation) (file : String) (exprs : List (Expr Empty)) : Progress :=
  let results := exprs.map (checkExpr ready)
  let failures := results.countP (!·.2)
  let done := started "check" ("check.done file=" ++ file ++ " expressions=" ++
    toString exprs.length ++ " failures=" ++ toString failures)
  { notices := results.flatMap Prod.fst ++ [done]
    ending := .exit (if failures = 0 then 0 else 1) }

def checkText (ready : Preparation) (file : String) (text : List Char) : Progress :=
  .ofSource (Source.program (String.ofList text) (some file)) (checkAll ready file)

/-- Checks a file of which the bytes are given. -/
def check (ready : Preparation) (file : String) (content : List UInt8) : Progress :=
  Progress.after [started "check" ("check.start file=" ++ file)] <|
    match decodeText content with
    | .error reason => { ending := .aborted reason }
    | .ok text => checkText ready file text

/-- Holds a dialogue. -/
def converse (renderer : Renderer) (world : World) (ready : Preparation) : Progress :=
  match world.makeRoom ready.settings, world.history ready.settings with
  | .error reason, _ | _, .error reason => { ending := .aborted reason }
  | .ok (), .ok history =>
    let dialogue := Repl.converse renderer ⟨ready.env, ready.settings.showConstraints⟩ world.inputs
    { notices := Repl.welcome ++ dialogue.notices
      ending := match dialogue.abort with
        | some reason => .aborted reason
        | none => .exit 0
      prompted := some ⟨List.replicate dialogue.prompts ready.settings.prompt, history⟩ }

def Request.arguments : Request → Arguments
  | .infer _ arguments | .check _ _ arguments | .repl arguments => arguments

/-- Does what is asked for once all is prepared. -/
def carryOut (renderer : Renderer) (world : World) (ready : Preparation) : Request → Progress
  | .infer source _ => infer ready source
  | .check file content _ => check ready (Path.ofString file).render content
  | .repl _ => converse renderer world ready

def progress (renderer : Renderer) (world : World) (request : Request) : Progress :=
  let (warnings, prepared) := prepare world request.arguments
  Progress.after warnings <|
    match prepared with
    | .error ending => { ending }
    | .ok ready => carryOut renderer world ready request

/-- Records go to the log, apart from the output; those of a dialogue appear among its output. -/
def conclude (renderer : Renderer) (sieve : Log.Sieve) (request : Request) (progress : Progress) :
    Outcome :=
  let common : Outcome := { ending := progress.ending, prompted := progress.prompted }
  match request with
  | .repl _ => { common with output := renderer.interleaved sieve progress.notices }
  | _ => { common with
      output := renderer.printed progress.notices
      log := Notice.records sieve progress.notices }

/-- The filter of the log is read before anything else is done. -/
def perform (renderer : Renderer) (world : World) (request : Request) : Outcome :=
  match world.sieve with
  | .error reason => { ending := .aborted reason }
  | .ok sieve => conclude renderer sieve request (progress renderer world request)

/-- Carries out a command line. -/
def execute (renderer : Renderer) (world : World) (line : List String) : Outcome :=
  match Request.read world.read? line with
  | .error error => { ending := .usage error }
  | .ok request => perform renderer world request

end Gradual.Command
