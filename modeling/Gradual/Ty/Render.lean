import Gradual.Fault

/-! Types as people read them. Parameters are named `'a`, `'b`, ... in the order of their first
appearance, so that renaming the parameters of a scheme leaves its text alone. Several types can be
rendered with one naming by passing the names on from one to the next. -/
namespace Gradual

/-- Parameter ids in the order of their first appearance. -/
abbrev Names := List Int

namespace Names

/-- The letters go round every 26 names, and each further round has its number after the letter. -/
def nth (index : Nat) : String :=
  let letter := String.ofList ['\'', Char.ofNat ('a'.toNat + index % 26)]
  if index / 26 = 0 then letter else letter ++ toString (index / 26)

def insert (names : Names) (id : Int) : Names :=
  if id ∈ names then names else names ++ [id]

def name (names : Names) (id : Int) : String := nth (names.idxOf id)

end Names

namespace Ty

variable {ε : Type} [ToString ε]

def renderWith (names : Names) : Ty ε → String × Names
  | .param a => ((names.insert a).name a, names.insert a)
  | .var x => ("'x" ++ toString x, names)
  | .base name => (name, names)
  | .arrow dom cod =>
    let (left, names) := dom.renderWith names
    let (right, names) := cod.renderWith names
    ((if dom.isArrow then "(" ++ left ++ ")" else left) ++ " -> " ++ right, names)
  | .dyn => ("?", names)
  | .host leaf => (toString leaf, names)

def render (t : Ty ε) : String := (t.renderWith []).1

/-- Texts of all the types under one naming, and the names given. -/
def renderAll (types : List (Ty ε)) : List String × Names :=
  types.foldl (fun (texts, names) t =>
    let (text, names) := t.renderWith names
    (texts ++ [text], names)) ([], [])

/-- The text, unless a host leaf stands in the way. -/
def text (t : Ty ε) : Except (Fault ε) String :=
  match t.host? with
  | some leaf => .error (.unknownType leaf)
  | none => .ok t.render

end Ty

instance toStringEmpty : ToString Empty := ⟨fun e => nomatch e⟩

end Gradual
