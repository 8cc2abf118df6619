/-! Reading the arguments of the command line. Options and arguments can come in any order; `--` ends
the options, and a lone `-` is an argument. -/
namespace Gradual.Command

inductive UsageError where
  | missingArgument
  | unknownOption
  | optionValue
  | badArgument
  | malformed
  deriving DecidableEq

inductive Action where
  | infer
  | check
  | repl
  deriving DecidableEq

def Action.ofName? (name : String) : Option Action :=
  if name = "infer" then some .infer
  else if name = "check" then some .check
  else if name = "repl" then some .repl
  else none

/-- What an option does: bind a name, set the home directory, or show and hide constraints. -/
inductive Switch where
  | binding
  | home
  | constraints (shown : Bool)

def Action.switch? (action : Action) (name : String) : Option Switch :=
  if name = "--env" then some .binding
  else if action = .repl then if name = "--home" then some .home else none
  else if name = "--show-constraints" then some (.constraints true)
  else if name = "--hide-constraints" then some (.constraints false)
  else none

/-- What the arguments of an action say. -/
structure Arguments where
  bindings : List String := []
  home : Option String := none
  showConstraints : Option Bool := none
  values : List String := []

namespace Arguments

/-- Sets an option that has a value. -/
def set (arguments : Arguments) (switch : Switch) (value : String) : Arguments :=
  match switch with
  | .binding => { arguments with bindings := arguments.bindings ++ [value] }
  | .home => { arguments with home := some value }
  | .constraints shown => { arguments with showConstraints := some shown }

/-- How an argument that looks like an option is meant. -/
inductive Written where
  | complete (switch : Switch) (value : String)
  | takesNext (switch : Switch)
  | wrong (error : UsageError)

/-- A long option, whose value can follow an equals sign. -/
def long? (action : Action) (written : List Char) : Option Written :=
  let name := String.ofList (written.takeWhile (· ≠ '='))
  match action.switch? name, written.dropWhile (· ≠ '=') with
  | none, _ => none
  | some (.constraints shown), [] => some (.complete (.constraints shown) "")
  | some (.constraints _), _ :: _ => some (.wrong .optionValue)
  | some switch, _ :: value => some (.complete switch (String.ofList value))
  | some switch, [] => some (.takesNext switch)

/-- The only short option is `-e`, which binds a name; its value can follow at once. -/
def short (written : List Char) : Written :=
  match written with
  | '-' :: 'e' :: [] => .takesNext .binding
  | '-' :: 'e' :: value => .complete .binding (String.ofList value)
  | _ => .wrong .unknownOption

def isOption : List Char → Bool
  | '-' :: _ :: _ => true
  | _ => false

def option (action : Action) (written : List Char) : Written :=
  (long? action written).getD (short written)

/-- An option without a value in it takes the next argument, whatever that is. -/
def read (action : Action) (arguments : Arguments) : List String → Except UsageError Arguments
  | [] => .ok arguments
  | argument :: rest =>
    if argument = "--" then .ok { arguments with values := arguments.values ++ rest }
    else if isOption argument.toList then
      match option action argument.toList with
      | .wrong error => .error error
      | .complete switch value => read action (arguments.set switch value) rest
      | .takesNext switch =>
        match rest with
        | [] => .error .optionValue
        | value :: later => read action (arguments.set switch value) later
    else read action { arguments with values := arguments.values ++ [argument] } rest

end Arguments

/-- An action with all it needs. `check` has the bytes of its file too. -/
inductive Request where
  | infer (source : String) (arguments : Arguments)
  | check (file : String) (content : List UInt8) (arguments : Arguments)
  | repl (arguments : Arguments)

/-- The argument of an action is looked for before arguments too many are. -/
def Request.ofArguments (read? : String → Option (List UInt8)) (action : Action)
    (arguments : Arguments) : Except UsageError Request :=
  match action, arguments.values with
  | .repl, [] => .ok (.repl arguments)
  | .repl, _ :: _ => .error .malformed
  | _, [] => .error .missingArgument
  | .infer, [source] => .ok (.infer source arguments)
  | .infer, _ :: _ :: _ => .error .malformed
  | .check, file :: more =>
    match read? file, more with
    | none, _ => .error .badArgument
    | some content, [] => .ok (.check file content arguments)
    | some _, _ :: _ => .error .malformed

/-- Reads a whole command line. Without an action it asks for the dialogue. -/
def Request.read (read? : String → Option (List UInt8)) (line : List String) :
    Except UsageError Request :=
  let named := fun (line : List String) =>
    match line with
    | [] => .ok (.repl {})
    | name :: rest =>
      match Action.ofName? name with
      | none => .error .malformed
      | some action => do Request.ofArguments read? action (← Arguments.read action {} rest)
  match line with
  | [] => named []
  | first :: rest =>
    if first = "--" then named rest
    else if Arguments.isOption first.toList then .error .unknownOption
    else named (first :: rest)

end Gradual.Command
