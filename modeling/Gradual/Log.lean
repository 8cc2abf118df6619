/-! Log records. -/
namespace Gradual

inductive Log.Level where
  | trace
  | debug
  | info
  | success
  | warning
  | error
  | critical
  deriving DecidableEq

namespace Log.Level

def all : List Level := [.trace, .debug, .info, .success, .warning, .error, .critical]

def name : Level → String
  | .trace => "TRACE"
  | .debug => "DEBUG"
  | .info => "INFO"
  | .success => "SUCCESS"
  | .warning => "WARNING"
  | .error => "ERROR"
  | .critical => "CRITICAL"

def severity : Level → Nat
  | .trace => 5
  | .debug => 10
  | .info => 20
  | .success => 25
  | .warning => 30
  | .error => 40
  | .critical => 50

def ofName? (name : String) : Option Level := all.find? (·.name = name)

end Log.Level

/-- A message with the place that logs it: a dotted component and an operation of it. -/
structure Log.Record where
  level : Level
  component : String
  operation : String
  message : String

/-- A message that comes from another library, at a level given by its severity alone. -/
structure Log.Foreign where
  severity : Int
  message : String

namespace Log.Foreign

/-- Other libraries log from this severity on. -/
def least : Int := 30

def levelName (record : Foreign) : String :=
  match [Level.warning, .error, .critical].find? fun level => (level.severity : Int) = record.severity with
  | some level => level.name
  | none => "Level " ++ toString record.severity

end Log.Foreign

end Gradual
