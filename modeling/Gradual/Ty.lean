/-! Types: parameters introduced by generalisation, solver variables, named base types, functions and
the dynamic type `?`. A host may add leaves of its own: `Ty ε` has a leaf for every `ε`, and the
grammar of the language is `Ty Empty`. A host leaf can be compared and carried about, but it has no
variables, no text and no substitution of its own; the modules that need one of these report a
fault when they meet such a leaf. -/
namespace Gradual

inductive Ty (ε : Type) where
  | param (id : Int)
  | var (id : Int)
  | base (name : String)
  | arrow (dom cod : Ty ε)
  | dyn
  | host (leaf : ε)
  deriving DecidableEq

namespace Ty

variable {ε : Type}

def int : Ty ε := .base "int"

def bool : Ty ε := .base "bool"

/-- Variable ids from left to right, one for every occurrence. -/
def vars : Ty ε → List Int
  | .var x => [x]
  | .arrow dom cod => dom.vars ++ cod.vars
  | .param _ | .base _ | .dyn | .host _ => []

/-- Parameter ids from left to right, one for every occurrence. -/
def params : Ty ε → List Int
  | .param a => [a]
  | .arrow dom cod => dom.params ++ cod.params
  | .var _ | .base _ | .dyn | .host _ => []

/-- The type with `t` in place of every occurrence of variable `x`. -/
def subst (u : Ty ε) (x : Int) (t : Ty ε) : Ty ε :=
  match u with
  | .var y => if y = x then t else .var y
  | .arrow dom cod => .arrow (dom.subst x t) (cod.subst x t)
  | .param a => .param a
  | .base name => .base name
  | .dyn => .dyn
  | .host leaf => .host leaf

/-- A static type mentions no `?`. -/
def isStatic : Ty ε → Bool
  | .dyn => false
  | .arrow dom cod => dom.isStatic && cod.isStatic
  | .param _ | .var _ | .base _ | .host _ => true

/-- Atoms are the base types, variables and parameters. -/
def isAtom : Ty ε → Bool
  | .param _ | .var _ | .base _ => true
  | .arrow _ _ | .dyn | .host _ => false

def isBase : Ty ε → Bool
  | .base _ => true
  | _ => false

def isArrow : Ty ε → Bool
  | .arrow _ _ => true
  | _ => false

/-- Both sides are one and the same atom. -/
def sameAtom : Ty ε → Ty ε → Bool
  | .param a, .param b => a == b
  | .var x, .var y => x == y
  | .base m, .base n => m == n
  | _, _ => false

/-- The leftmost host leaf. -/
def host? : Ty ε → Option ε
  | .host leaf => some leaf
  | .arrow dom cod => dom.host?.or cod.host?
  | .param _ | .var _ | .base _ | .dyn => none

@[simp] theorem host?_grammar (t : Ty Empty) : t.host? = none := by
  induction t with
  | arrow dom cod left right => simp [host?, left, right]
  | host leaf => exact leaf.elim
  | _ => rfl

theorem sameAtom_iff {l r : Ty ε} : l.sameAtom r = true ↔ l = r ∧ l.isAtom = true := by
  cases l <;> cases r <;> simp [sameAtom, isAtom]

end Ty

end Gradual
