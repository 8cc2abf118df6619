import Gradual.Ty.Render

/-! Substitutions in triangular form: an ordered list of bindings, applied one after the other, so
that a binding may mention variables that only later bindings replace. -/
namespace Gradual

structure Substitution (ε : Type) where
  bindings : List (Int × Ty ε)
  deriving DecidableEq

namespace Substitution

variable {ε : Type}

def empty : Substitution ε := ⟨[]⟩

instance : EmptyCollection (Substitution ε) := ⟨empty⟩

def singleton (x : Int) (t : Ty ε) : Substitution ε := ⟨[(x, t)]⟩

/-- The new binding is applied after all the others. -/
def extend (s : Substitution ε) (x : Int) (t : Ty ε) : Substitution ε := ⟨s.bindings ++ [(x, t)]⟩

def size (s : Substitution ε) : Nat := s.bindings.length

def apply (s : Substitution ε) (u : Ty ε) : Ty ε :=
  s.bindings.foldl (fun u binding => u.subst binding.1 binding.2) u

/-- Application as it is offered to a host: every binding must meet a type without host leaves. -/
def tryApply (s : Substitution ε) (u : Ty ε) : Except (Fault ε) (Ty ε) :=
  s.bindings.foldlM (fun u binding => u.trySubst binding.1 binding.2) u

@[simp] theorem apply_empty (u : Ty ε) : (∅ : Substitution ε).apply u = u := rfl

@[simp] theorem apply_extend (s : Substitution ε) (x : Int) (t u : Ty ε) :
    (s.extend x t).apply u = (s.apply u).subst x t := by
  simp [apply, extend]

theorem foldlM_trySubst_grammar (bindings : List (Int × Ty Empty)) (u : Ty Empty) :
    bindings.foldlM (fun u binding => u.trySubst binding.1 binding.2) u =
      .ok (bindings.foldl (fun u binding => u.subst binding.1 binding.2) u) := by
  induction bindings generalizing u with
  | nil => rfl
  | cons binding rest ih =>
    rw [List.foldlM_cons, List.foldl_cons, Ty.trySubst_grammar]
    exact ih _

@[simp] theorem tryApply_grammar (s : Substitution Empty) (u : Ty Empty) :
    s.tryApply u = .ok (s.apply u) := foldlM_trySubst_grammar s.bindings u

variable [ToString ε]

/-- `x1=T, x2=U` with one naming of the parameters throughout. -/
def render (s : Substitution ε) : String :=
  let texts := (Ty.renderAll (s.bindings.map Prod.snd)).1
  ", ".intercalate ((s.bindings.zip texts).map fun (binding, text) =>
    "x" ++ toString binding.1 ++ "=" ++ text)

/-- The text, unless a host leaf stands in the way. -/
def text (s : Substitution ε) : Except (Fault ε) String :=
  match s.bindings.findSome? fun binding => binding.2.host? with
  | some leaf => .error (.unknownType leaf)
  | none => .ok s.render

end Substitution

end Gradual
