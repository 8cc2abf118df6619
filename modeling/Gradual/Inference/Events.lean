import Gradual.Inference
import Gradual.Log

/-! What an inference logs: the size of its constraint set, each variable as it is bound, and how it
ended. The bindings of a run that got stuck are logged too. -/
namespace Gradual

namespace Solver

def component : String := "itgl.core.unify"

def record (level : Log.Level) (message : String) : Log.Record :=
  ⟨level, component, "unify", message⟩

def bindingRecords (s : Substitution Empty) : List Log.Record :=
  s.bindings.map fun (x, t) => record .trace ("unify.bind x" ++ toString x ++ "=" ++ t.render)

/-- A failure shows the constraint that fits no rule. -/
def failureRecords : TypingError Empty → List Log.Record
  | .conflict c => [record .debug ("unify.fail constraint=" ++ c.render)]
  | _ => []

def events : Except (Failure Empty) (State Empty) → List Log.Record
  | .ok final =>
    bindingRecords final.solved ++
      [record .debug ("unify.done bindings=" ++ toString final.solved.size)]
  | .error failure => bindingRecords failure.state.solved ++ failureRecords failure.error

end Solver

namespace Expr

def generationRecord (raw : Ty Empty) (constraints : ConstraintSet Empty) : Log.Record where
  level := .debug
  component := "itgl.core.generator"
  operation := "generate"
  message := "generate.done type=" ++ raw.render ++ " constraints=" ++ toString constraints.size

def inferenceRecord (inference : Inference Empty) : Log.Record where
  level := .debug
  component := "itgl.core.inference"
  operation := "infer_with_trace"
  message := "infer.done expr=" ++ inference.expr.render ++ " type=" ++ inference.type.render

/-- The records of inferring the type of an expression from a new supply, in order. -/
def events (env : Env Empty) (e : Expr Empty) : List Log.Record :=
  match (e.generate env).run .initial with
  | .error _ _ => []
  | .ok (raw, constraints) supply =>
    generationRecord raw constraints :: Solver.events (constraints.solve supply.nextVar) ++
      match (e.infer env).run .initial with
      | .error _ _ => []
      | .ok inference _ => [inferenceRecord inference]

/-- Infers the type of an expression from a new supply. -/
def inferAlone (env : Env Empty) (e : Expr Empty) :
    Except (TypingError Empty) (Inference Empty) :=
  match (e.infer env).run .initial with
  | .ok inference _ => .ok inference
  | .error error _ => .error error

end Expr

end Gradual
