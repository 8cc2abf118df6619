import Gradual.Expr
import Gradual.Ty.Render

/-! Expressions in a form that the reader of the language accepts again. An application carries its
own parentheses; sums and functions get them where a function body or a sum would otherwise take in
what follows. -/
namespace Gradual.Expr

variable {ε : Type} [ToString ε]

def parenthesize (yes : Bool) (text : String) : String :=
  if yes then "(" ++ text ++ ")" else text

def render : Expr ε → String
  | .var x => x
  | .int n => toString n
  | .bool b => if b then "true" else "false"
  | .add l r =>
    parenthesize l.isLam l.render ++ " + " ++ parenthesize (r.isAdd || r.isLam) r.render
  | .lam x none body => "λ" ++ x ++ "." ++ body.render
  | .lam x (some t) body => "λ" ++ x ++ ":" ++ parenthesize t.isArrow t.render ++ "." ++ body.render
  | .app f a =>
    "(" ++ parenthesize (f.isAdd || f.isLam) f.render ++ " " ++
      parenthesize (a.isAdd || a.isLam) a.render ++ ")"
  | .host leaf => toString leaf

/-- The leftmost host leaf, as the fault it causes when the expression is rendered. -/
def fault? : Expr ε → Option (Fault ε)
  | .var _ | .int _ | .bool _ => none
  | .add l r => l.fault?.or r.fault?
  | .lam _ none body => body.fault?
  | .lam _ (some t) body => (t.host?.map Fault.unknownType).or body.fault?
  | .app f a => f.fault?.or a.fault?
  | .host leaf => some (.unknownExpr leaf)

/-- The text, unless a host leaf stands in the way. -/
def text (e : Expr ε) : Except (Fault ε) String :=
  match e.fault? with
  | some fault => .error fault
  | none => .ok e.render

end Gradual.Expr
