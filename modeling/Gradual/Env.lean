import Gradual.Entries
import Gradual.Text.Quoted
import Gradual.Ty.Render

/-! Typing environments: names with their types in the order in which the names were first bound.
Binding a name again gives it a new type and leaves it in its place. -/
namespace Gradual

structure Env (ε : Type) where
  entries : List (String × Ty ε)
  deriving DecidableEq

namespace Env

variable {ε : Type}

def empty : Env ε := ⟨[]⟩

instance : EmptyCollection (Env ε) := ⟨empty⟩

def extend (env : Env ε) (name : String) (t : Ty ε) : Env ε := ⟨Entries.put name t env.entries⟩

def ofList (bindings : List (String × Ty ε)) : Env ε :=
  bindings.foldl (fun env entry => env.extend entry.1 entry.2) empty

def get? (env : Env ε) (name : String) : Option (Ty ε) :=
  (env.entries.find? (·.1 = name)).map Prod.snd

def size (env : Env ε) : Nat := env.entries.length

def names (env : Env ε) : List String := env.entries.map Prod.fst

/-- Agreement as mappings: the order of the names does not count. -/
def sameMapping [DecidableEq ε] (env other : Env ε) : Bool :=
  env.size == other.size && env.entries.all fun entry => other.get? entry.1 == some entry.2

/-- What a failed look-up says about `name`. -/
def unboundMessage (env : Env ε) (name : String) : String :=
  "Variable " ++ Text.quote name ++ " not bound in environment with " ++ toString env.size ++
    " entries"

@[simp] theorem get?_extend (env : Env ε) (name x : String) (t : Ty ε) :
    (env.extend name t).get? x = if x = name then some t else env.get? x := by
  unfold get? extend
  rw [Entries.find?_put]
  split <;> rfl

variable [ToString ε]

/-- `name : type`; every entry names its parameters anew. -/
def renderEntry (entry : String × Ty ε) : String := entry.1 ++ " : " ++ entry.2.render

def render (env : Env ε) : String :=
  "Environment([" ++ ", ".intercalate (env.entries.map renderEntry) ++ "])"

/-- The text, unless a host leaf stands in the way. -/
def text (env : Env ε) : Except (Fault ε) String :=
  match env.entries.findSome? fun entry => entry.2.host? with
  | some leaf => .error (.unknownType leaf)
  | none => .ok env.render

end Env

end Gradual
