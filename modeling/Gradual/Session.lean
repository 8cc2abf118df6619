import Gradual.Inference

/-! Sessions: inferences that share one supply and one environment, in which the type found for an
expression can be bound to a name. A failed inference leaves the environment as it was, but the ids
it drew are gone. -/
namespace Gradual

variable {ε : Type}

structure Session (ε : Type) where
  env : Env ε
  supply : Supply

namespace Session

variable [DecidableEq ε] [ToString ε]

def infer (session : Session ε) (e : Expr ε) (name : Option String) :
    Except (TypingError ε) (Inference ε) × Session ε :=
  match (e.infer session.env).run session.supply with
  | .ok inference supply =>
    let env := match name with
      | some x => session.env.extend x inference.type
      | none => session.env
    (.ok inference, ⟨env, supply⟩)
  | .error error supply => (.error error, { session with supply })

end Session

end Gradual
