import Gradual.Abort
import Gradual.Inference.Events
import Gradual.Renderer

/-! The dialogue: lines are read one after another, each a command or an expression to infer, over an
environment that lasts. -/
namespace Gradual

/-- What lasts from line to line. -/
structure Repl where
  env : Env Empty
  showConstraints : Bool

namespace Repl

/-- What a line leads to. -/
structure Turn where
  repl : Repl
  goesOn : Bool
  notices : List Notice

def help : List String := [
  "Commands:",
  "  :quit, :q              Exit the REPL",
  "  :help, :h              Show this help",
  "  :env                   Show the current environment",
  "  :assume NAME : TYPE    Add NAME : TYPE to the environment",
  "  :trace                 Toggle display of constraints and substitution",
  "",
  "Anything else is an expression, e.g.",
  "  fun x -> x",
  "  fun (x : ?) -> x + 1",
  "  (fun f -> f 1) (fun y -> y)"]

def stay (repl : Repl) (notices : List Notice) : Turn := ⟨repl, true, notices⟩

def assume (repl : Repl) (source : String) : Except Abort Turn := do
  match ← Source.attempt (Source.binding source none) with
  | .ok (name, t) =>
    return { repl with env := repl.env.extend name t }.stay [Notice.assumption name t]
  | .error error => return repl.stay [Notice.error error.message]

def toggle (repl : Repl) : Turn :=
  let shown := !repl.showConstraints
  { repl with showConstraints := shown }.stay
    [Notice.info (if shown then "trace on" else "trace off")]

/-- A command is the text up to the first blank; the rest is its argument. -/
def command (renderer : Renderer) (repl : Repl) (line : List Char) : Except Abort Turn :=
  let word := String.ofList (line.takeWhile (· ≠ ' '))
  let argument := String.ofList ((line.dropWhile (· ≠ ' ')).drop 1)
  if word = ":quit" ∨ word = ":q" then .ok ⟨repl, false, []⟩
  else if word = ":help" ∨ word = ":h" then .ok (repl.stay (help.map Notice.info))
  else if word = ":env" then
    ((renderer.environment repl.env).map repl.stay).mapError Abort.unopened
  else if word = ":assume" then repl.assume argument
  else if word = ":trace" then .ok repl.toggle
  else .ok (repl.stay [Notice.error ("Unknown command: " ++ word)])

def mistake (source message : String) : List Notice := [
  .log ⟨.debug, "itgl.cli.interactive", "_infer",
    "repl.error input=" ++ Text.quote source ++ " error=" ++ message⟩,
  Notice.error message]

def infer (repl : Repl) (source : String) : Except Abort Turn := do
  match ← Source.attempt (Source.expr source none) with
  | .error error => return repl.stay (mistake source error.message)
  | .ok e =>
    let notices := match e.inferAlone repl.env with
      | .ok result => Notice.inference result repl.showConstraints
      | .error error => mistake source error.message
    return repl.stay ((e.events repl.env).map .log ++ notices)

/-- Answers one line. -/
def answer (renderer : Renderer) (repl : Repl) (line : String) : Except Abort Turn :=
  match Text.strip line.toList with
  | [] => .ok (repl.stay [])
  | ':' :: rest => repl.command renderer (':' :: rest)
  | source => repl.infer (String.ofList source)

/-- What can come from the keyboard at a prompt; after the last input it ends. -/
inductive Input where
  | line (text : String)
  | interrupt

/-- A dialogue from its first prompt on: what it ends with, what it tells, and how many prompts it
shows. -/
structure Dialogue where
  repl : Repl
  notices : List Notice
  prompts : Nat
  abort : Option Abort

def Dialogue.after (notices : List Notice) (rest : Dialogue) : Dialogue :=
  { rest with notices := notices ++ rest.notices, prompts := rest.prompts + 1 }

def farewell : Notice := Notice.info "Bye."

def converse (renderer : Renderer) (repl : Repl) : List Input → Dialogue
  | [] => ⟨repl, [farewell], 1, none⟩
  | .interrupt :: rest =>
    (repl.converse renderer rest).after [Notice.info "Interrupted. Use :quit to exit."]
  | .line text :: rest =>
    match repl.answer renderer text with
    | .error abort => ⟨repl, [], 1, some abort⟩
    | .ok turn =>
      if turn.goesOn then (turn.repl.converse renderer rest).after turn.notices
      else ⟨turn.repl, turn.notices ++ [farewell], 1, none⟩

def welcome : List Notice :=
  [Notice.info "ITGL gradual type inference",
    Notice.info "Type :help for commands, :quit to exit"]

end Repl

end Gradual
