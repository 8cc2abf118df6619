import Gradual.Constraint

/-! Finite sets of constraints. A set keeps one copy of each of its members; the order in which they
came in shows nowhere, since whatever depends on an order goes by `ordered`. -/
namespace Gradual

structure ConstraintSet (ε : Type) where
  members : List (Constraint ε)
  nodup : members.Nodup

namespace ConstraintSet

variable {ε : Type}

def empty : ConstraintSet ε := ⟨[], List.nodup_nil⟩

instance : EmptyCollection (ConstraintSet ε) := ⟨empty⟩

instance : Membership (Constraint ε) (ConstraintSet ε) := ⟨fun set c => c ∈ set.members⟩

def size (set : ConstraintSet ε) : Nat := set.members.length

theorem mem_def (c : Constraint ε) (set : ConstraintSet ε) : c ∈ set ↔ c ∈ set.members := Iff.rfl

@[simp] theorem not_mem_empty (c : Constraint ε) : c ∉ (∅ : ConstraintSet ε) := List.not_mem_nil

variable [DecidableEq ε]

instance (c : Constraint ε) (set : ConstraintSet ε) : Decidable (c ∈ set) :=
  inferInstanceAs (Decidable (c ∈ set.members))

def add (set : ConstraintSet ε) (c : Constraint ε) : ConstraintSet ε :=
  if new : c ∈ set.members then set
  else ⟨c :: set.members, List.nodup_cons.mpr ⟨new, set.nodup⟩⟩

def addAll (set : ConstraintSet ε) (constraints : List (Constraint ε)) : ConstraintSet ε :=
  constraints.foldl add set

def ofList (constraints : List (Constraint ε)) : ConstraintSet ε := empty.addAll constraints

def union (set other : ConstraintSet ε) : ConstraintSet ε := set.addAll other.members

def mapMembers (f : Constraint ε → Constraint ε) (set : ConstraintSet ε) : ConstraintSet ε :=
  ofList (set.members.map f)

def subst (set : ConstraintSet ε) (x : Int) (t : Ty ε) : ConstraintSet ε :=
  set.mapMembers (·.subst x t)

def apply (set : ConstraintSet ε) (s : Substitution ε) : ConstraintSet ε :=
  set.mapMembers (·.apply s)

/-- Substitution as it is offered to a host. -/
def trySubst (set : ConstraintSet ε) (x : Int) (t : Ty ε) : Except (Fault ε) (ConstraintSet ε) :=
  ofList <$> set.members.mapM (·.trySubst x t)

/-- Application as it is offered to a host. -/
def tryApply (set : ConstraintSet ε) (s : Substitution ε) : Except (Fault ε) (ConstraintSet ε) :=
  ofList <$> set.members.mapM (·.tryApply s)

/-- Agreement as sets. -/
def sameMembers (set other : ConstraintSet ε) : Bool :=
  set.size == other.size && set.members.all (· ∈ other)

@[simp] theorem mem_add (set : ConstraintSet ε) (c d : Constraint ε) :
    c ∈ set.add d ↔ c = d ∨ c ∈ set := by
  simp only [mem_def, add]
  split
  · constructor
    · exact Or.inr
    · rintro (rfl | member)
      · assumption
      · exact member
  · simp

@[simp] theorem mem_addAll (set : ConstraintSet ε) (constraints : List (Constraint ε))
    (c : Constraint ε) : c ∈ set.addAll constraints ↔ c ∈ constraints ∨ c ∈ set := by
  unfold addAll
  induction constraints generalizing set with
  | nil => simp
  | cons d rest ih =>
    rw [List.foldl_cons, ih, mem_add]
    simp only [List.mem_cons, or_assoc, or_left_comm]

@[simp] theorem mem_ofList (constraints : List (Constraint ε)) (c : Constraint ε) :
    c ∈ ofList constraints ↔ c ∈ constraints :=
  (mem_addAll empty constraints c).trans (or_iff_left (not_mem_empty c))

@[simp] theorem mem_union (set other : ConstraintSet ε) (c : Constraint ε) :
    c ∈ set.union other ↔ c ∈ other ∨ c ∈ set := mem_addAll set other.members c

variable [ToString ε]

/-- The members by increasing canonical text, character by character in code point order. -/
def ordered (set : ConstraintSet ε) : List (Constraint ε) :=
  ((set.members.map fun c => (c.canonical, c)).mergeSort fun a b => a.1 ≤ b.1).map Prod.snd

def render (set : ConstraintSet ε) : String :=
  "\x7b" ++ ", ".intercalate (set.ordered.map Constraint.render) ++ "\x7d"

/-- The text, unless a host leaf stands in the way. -/
def text (set : ConstraintSet ε) : Except (Fault ε) String :=
  match set.ordered.findSome? Constraint.host? with
  | some leaf => .error (.unknownType leaf)
  | none => .ok set.render

end ConstraintSet

end Gradual
