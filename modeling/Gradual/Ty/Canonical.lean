import Gradual.Ty
import Gradual.Text.Quoted

/-! Canonical text of a type: every constructor is spelled out with its fields, so that two types of
the grammar have one text only if they are equal. Constraint sets are ordered by it. -/
namespace Gradual.Ty

variable {ε : Type}

def canonical [ToString ε] : Ty ε → String
  | .param a => "TypeParam(id=" ++ toString a ++ ")"
  | .var x => "TypeVar(id=" ++ toString x ++ ")"
  | .base name => "BaseType(name=" ++ Text.quote name ++ ")"
  | .arrow dom cod => "TypeArrow(dom=" ++ dom.canonical ++ ", cod=" ++ cod.canonical ++ ")"
  | .dyn => "TypeDyn()"
  | .host leaf => toString leaf

end Gradual.Ty
