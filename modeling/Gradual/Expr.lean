import Gradual.Ty

/-! Expressions: variables, integer and boolean constants, sums, functions with an optional declared
type for the parameter, and applications. As with types, `Expr ε` has a leaf for every host value and
`Expr Empty` is the grammar of the language. -/
namespace Gradual

inductive Expr (ε : Type) where
  | var (name : String)
  | int (value : Int)
  | bool (value : Bool)
  | add (left right : Expr ε)
  | lam (param : String) (declared : Option (Ty ε)) (body : Expr ε)
  | app (func arg : Expr ε)
  | host (leaf : ε)
  deriving DecidableEq

namespace Expr

variable {ε : Type}

def isLam : Expr ε → Bool
  | .lam _ _ _ => true
  | _ => false

def isAdd : Expr ε → Bool
  | .add _ _ => true
  | _ => false

/-- Names that no enclosing function binds, one for every occurrence. -/
def free : Expr ε → List String
  | .var x => [x]
  | .add l r => l.free ++ r.free
  | .lam x _ body => body.free.filter (· ≠ x)
  | .app f a => f.free ++ a.free
  | .int _ | .bool _ | .host _ => []

/-- Declared parameter types from left to right. -/
def declared : Expr ε → List (Ty ε)
  | .add l r => l.declared ++ r.declared
  | .lam _ none body => body.declared
  | .lam _ (some t) body => t :: body.declared
  | .app f a => f.declared ++ a.declared
  | .var _ | .int _ | .bool _ | .host _ => []

end Expr

end Gradual
