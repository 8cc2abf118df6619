import Gradual.ConstraintSet
import Gradual.Proofs.Consistency
import Mathlib.Logic.Function.Basic

/-! Assignments of types to all variables at once, what it means for an assignment to satisfy a
constraint, and the assignment that a triangular substitution amounts to. An assignment absorbs a
binding when it gives the variable the same type as the term it is bound to; replacing the variable
then changes nothing under that assignment. -/
namespace Gradual

variable {ε : Type}

namespace Ty

/-- The type with `values x` in place of every variable `x`, all replaced at the same time. -/
@[simp] def inst (values : Int → Ty ε) : Ty ε → Ty ε
  | .var x => values x
  | .arrow dom cod => .arrow (dom.inst values) (cod.inst values)
  | .param a => .param a
  | .base name => .base name
  | .dyn => .dyn
  | .host leaf => .host leaf

theorem inst_congr {values others : Int → Ty ε} {t : Ty ε}
    (agree : ∀ x ∈ t.vars, values x = others x) : t.inst values = t.inst others := by
  induction t with
  | var x => exact agree x (by simp [vars])
  | arrow dom cod left right =>
    rw [inst, inst, left (fun x member => agree x (by simp [vars, member])),
      right (fun x member => agree x (by simp [vars, member]))]
  | _ => rfl

theorem inst_inst (values others : Int → Ty ε) (t : Ty ε) :
    (t.inst values).inst others = t.inst fun x => (values x).inst others := by
  induction t with
  | arrow dom cod left right => simp [left, right]
  | _ => rfl

theorem inst_var (t : Ty ε) : t.inst .var = t := by
  induction t with
  | arrow dom cod left right => simp [left, right]
  | _ => rfl

theorem inst_closed {t : Ty ε} (closed : t.vars = []) (values : Int → Ty ε) :
    t.inst values = t := by
  calc t.inst values = t.inst .var := inst_congr (by simp [closed])
    _ = t := t.inst_var

theorem inst_subst {values : Int → Ty ε} {x : Int} {t : Ty ε} (absorbed : values x = t.inst values)
    (u : Ty ε) : (u.subst x t).inst values = u.inst values := by
  induction u with
  | var y =>
    by_cases same : y = x
    · simp [subst, same, absorbed]
    · simp [subst, same]
  | arrow dom cod left right => simp [subst, left, right]
  | _ => rfl

theorem isStatic_inst {values : Int → Ty ε} (static : ∀ x, (values x).isStatic = true) {t : Ty ε}
    (here : t.isStatic = true) : (t.inst values).isStatic = true := by
  induction t with
  | var x => exact static x
  | arrow dom cod left right =>
    simp only [isStatic, Bool.and_eq_true] at here
    simp [isStatic, left here.1, right here.2]
  | _ => exact here

theorem isStatic_subst {x : Int} {t u : Ty ε} (new : t.isStatic = true) (old : u.isStatic = true) :
    (u.subst x t).isStatic = true := by
  rw [isStatic_iff_dyns] at *
  rw [dyns_subst new, old]

theorem size_le_inst (values : Int → Ty ε) {x : Int} {t : Ty ε} (member : x ∈ t.vars) :
    (values x).size ≤ (t.inst values).size := by
  induction t with
  | var y =>
    obtain rfl : x = y := by simpa [vars] using member
    exact Nat.le_refl _
  | arrow dom cod left right =>
    simp only [inst, size]
    rcases List.mem_append.mp member with inside | inside
    · have := left inside
      omega
    · have := right inside
      omega
  | _ => cases member

theorem size_lt_inst (values : Int → Ty ε) {x : Int} {t : Ty ε} (member : x ∈ t.vars)
    (other : t ≠ .var x) : (values x).size < (t.inst values).size := by
  cases t with
  | var y =>
    obtain rfl : x = y := by simpa [vars] using member
    exact absurd rfl other
  | arrow dom cod =>
    simp only [inst, size]
    rcases List.mem_append.mp member with inside | inside
    · have := size_le_inst values inside
      omega
    · have := size_le_inst values inside
      omega
  | _ => cases member

theorem Consistent.inst {t u : Ty Empty} (consistent : Consistent t u) (values : Int → Ty Empty) :
    Consistent (t.inst values) (u.inst values) := by
  induction consistent with
  | param a => exact .param a
  | var x => exact .refl _
  | base name => exact .base name
  | dynLeft t => exact .dynLeft _
  | dynRight t => exact .dynRight _
  | arrow _ _ dom cod => exact .arrow dom cod

/-- The condition holds of all variables of the type. -/
def VarsIn (P : Int → Prop) (t : Ty ε) : Prop := ∀ x ∈ t.vars, P x

section VarsIn

variable {P Q : Int → Prop} {x : Int} {t u dom cod : Ty ε}

theorem VarsIn.mono (inside : t.VarsIn P) (imp : ∀ y, P y → Q y) : t.VarsIn Q :=
  fun y member => imp y (inside y member)

theorem VarsIn.subst (old : u.VarsIn P) (new : t.VarsIn P) : (u.subst x t).VarsIn P := by
  intro y member
  rcases mem_vars_subst.mp member with ⟨inside, _⟩ | ⟨_, inside⟩
  · exact old y inside
  · exact new y inside

@[simp] theorem varsIn_var : (Ty.var x : Ty ε).VarsIn P ↔ P x := by
  simp [VarsIn, vars]

@[simp] theorem varsIn_arrow : (Ty.arrow dom cod).VarsIn P ↔ dom.VarsIn P ∧ cod.VarsIn P := by
  simp only [VarsIn, vars, List.forall_mem_append]

theorem varsIn_closed (closed : t.vars = []) : t.VarsIn P := by
  simp [VarsIn, closed]

end VarsIn

end Ty

namespace Substitution

/-- What becomes of a variable. -/
def value (s : Substitution ε) (x : Int) : Ty ε := s.apply (.var x)

@[simp] theorem apply_arrow (s : Substitution ε) (dom cod : Ty ε) :
    s.apply (.arrow dom cod) = .arrow (s.apply dom) (s.apply cod) := by
  obtain ⟨bindings⟩ := s
  unfold apply
  induction bindings generalizing dom cod with
  | nil => rfl
  | cons binding rest ih => exact ih _ _

theorem apply_of_closed (s : Substitution ε) {t : Ty ε} (closed : t.vars = []) : s.apply t = t := by
  obtain ⟨bindings⟩ := s
  unfold apply
  induction bindings with
  | nil => rfl
  | cons binding rest ih =>
    rw [List.foldl_cons, Ty.subst_of_not_mem (by simp [closed]), ih]

/-- Applying the bindings one after the other replaces all variables at once. -/
theorem apply_eq_inst (s : Substitution ε) (t : Ty ε) : s.apply t = t.inst s.value := by
  induction t with
  | var x => rfl
  | arrow dom cod left right => rw [apply_arrow, left, right, Ty.inst]
  | _ => exact s.apply_of_closed rfl

theorem apply_cons (x : Int) (t : Ty ε) (rest : List (Int × Ty ε)) (u : Ty ε) :
    apply ⟨(x, t) :: rest⟩ u = apply ⟨rest⟩ (u.subst x t) := rfl

/-- A binding without a cycle is absorbed by every substitution that starts with it. -/
theorem value_cons_absorbs {x : Int} {t : Ty ε} (acyclic : x ∉ t.vars) (rest : List (Int × Ty ε)) :
    value ⟨(x, t) :: rest⟩ x = t.inst (value ⟨(x, t) :: rest⟩) := by
  rw [← apply_eq_inst, value, apply_cons, apply_cons, Ty.subst_of_not_mem acyclic, Ty.subst,
    if_pos rfl]

/-- Bindings that an assignment absorbs one by one change nothing under it. -/
theorem inst_apply {s : Substitution ε} {values : Int → Ty ε}
    (absorbed : ∀ binding ∈ s.bindings, values binding.1 = binding.2.inst values) (t : Ty ε) :
    (s.apply t).inst values = t.inst values := by
  obtain ⟨bindings⟩ := s
  induction bindings generalizing t with
  | nil => rfl
  | cons binding rest ih =>
    obtain ⟨first, others⟩ := List.forall_mem_cons.mp absorbed
    calc (apply ⟨binding :: rest⟩ t).inst values
        = (t.subst binding.1 binding.2).inst values := ih _ others
      _ = t.inst values := Ty.inst_subst first t

def IsStatic (s : Substitution ε) : Prop := ∀ binding ∈ s.bindings, binding.2.isStatic = true

theorem IsStatic.apply {s : Substitution ε} (static : s.IsStatic) {t : Ty ε}
    (here : t.isStatic = true) : (s.apply t).isStatic = true := by
  obtain ⟨bindings⟩ := s
  induction bindings generalizing t with
  | nil => exact here
  | cons binding rest ih =>
    exact ih (Ty.isStatic_subst (static binding List.mem_cons_self) here)
      (fun b member => static b (List.mem_cons_of_mem _ member))

end Substitution

namespace Constraint

@[simp] def Holds (values : Int → Ty ε) : Constraint ε → Prop
  | .equal l r => l.inst values = r.inst values
  | .consistent l r => Ty.Consistent (l.inst values) (r.inst values)

theorem holds_congr {values others : Int → Ty ε} {c : Constraint ε}
    (agree : ∀ x ∈ c.vars, values x = others x) : c.Holds values ↔ c.Holds others := by
  have left : c.left.inst values = c.left.inst others :=
    Ty.inst_congr fun x member => agree x (List.mem_append_left _ member)
  have right : c.right.inst values = c.right.inst others :=
    Ty.inst_congr fun x member => agree x (List.mem_append_right _ member)
  cases c <;> simp_all [Constraint.left, Constraint.right]

theorem holds_subst {values : Int → Ty ε} {x : Int} {t : Ty ε} (absorbed : values x = t.inst values)
    (c : Constraint ε) : (c.subst x t).Holds values ↔ c.Holds values := by
  cases c <;> simp [subst, mapSides, Ty.inst_subst absorbed]

theorem holds_cons (x : Int) (t : Ty ε) (rest : List (Int × Ty ε)) (c : Constraint ε) :
    (c.subst x t).Holds (Substitution.value ⟨rest⟩) ↔
      c.Holds (Substitution.value ⟨(x, t) :: rest⟩) := by
  cases c <;>
    simp only [subst, mapSides, Holds, ← Substitution.apply_eq_inst, Substitution.apply_cons]

/-- The condition holds of all variables of both sides. -/
def VarsIn (P : Int → Prop) (c : Constraint ε) : Prop := ∀ x ∈ c.vars, P x

section VarsIn

variable {P Q : Int → Prop} {x : Int} {t l r : Ty ε} {c : Constraint ε}

@[simp] theorem varsIn_equal : (Constraint.equal l r).VarsIn P ↔ l.VarsIn P ∧ r.VarsIn P :=
  List.forall_mem_append

@[simp] theorem varsIn_consistent :
    (Constraint.consistent l r).VarsIn P ↔ l.VarsIn P ∧ r.VarsIn P :=
  List.forall_mem_append

theorem VarsIn.mono (inside : c.VarsIn P) (imp : ∀ y, P y → Q y) : c.VarsIn Q :=
  fun y member => imp y (inside y member)

theorem VarsIn.subst (old : c.VarsIn P) (new : t.VarsIn P) : (c.subst x t).VarsIn P := by
  cases c with
  | equal l r =>
    obtain ⟨left, right⟩ := varsIn_equal.mp old
    exact varsIn_equal.mpr ⟨left.subst new, right.subst new⟩
  | consistent l r =>
    obtain ⟨left, right⟩ := varsIn_consistent.mp old
    exact varsIn_consistent.mpr ⟨left.subst new, right.subst new⟩

end VarsIn

/-- An equation between static types, or any consistency constraint. -/
def IsStatic : Constraint ε → Prop
  | .equal l r => l.isStatic = true ∧ r.isStatic = true
  | .consistent _ _ => True

theorem IsStatic.subst {x : Int} {t : Ty ε} {c : Constraint ε} (old : c.IsStatic)
    (new : t.isStatic = true) : (c.subst x t).IsStatic := by
  cases c with
  | equal l r => exact ⟨Ty.isStatic_subst new old.1, Ty.isStatic_subst new old.2⟩
  | consistent l r => trivial

end Constraint

/-- A static type for every variable. -/
structure StaticAssignment (ε : Type) where
  value : Int → Ty ε
  static : ∀ x, (value x).isStatic = true

namespace StaticAssignment

/-- Every variable stands for itself. -/
def identity : StaticAssignment ε := ⟨.var, fun _ => rfl⟩

def apply (σ : StaticAssignment ε) (t : Ty ε) : Ty ε := t.inst σ.value

theorem identity_apply (t : Ty ε) : identity.apply t = t := t.inst_var

def Satisfies (σ : StaticAssignment ε) (c : Constraint ε) : Prop := c.Holds σ.value

/-- A static solution of the whole set. -/
def Solves (σ : StaticAssignment ε) (set : ConstraintSet ε) : Prop := ∀ c ∈ set, σ.Satisfies c

/-- The two assignments differ at most on variables drawn from `next` on. -/
def AgreesBefore (next : Int) (σ τ : StaticAssignment ε) : Prop :=
  ∀ x < next, σ.value x = τ.value x

namespace AgreesBefore

theorem trans {next : Int} {σ τ υ : StaticAssignment ε} (first : σ.AgreesBefore next τ)
    (second : τ.AgreesBefore next υ) : σ.AgreesBefore next υ :=
  fun x old => (first x old).trans (second x old)

theorem mono {next later : Int} {σ τ : StaticAssignment ε} (agree : σ.AgreesBefore later τ)
    (le : next ≤ later) : σ.AgreesBefore next τ :=
  fun x old => agree x (Int.lt_of_lt_of_le old le)

theorem apply {next : Int} {σ τ : StaticAssignment ε} (agree : σ.AgreesBefore next τ) {t : Ty ε}
    (older : t.VarsIn (· < next)) : σ.apply t = τ.apply t :=
  Ty.inst_congr fun x member => agree x (older x member)

theorem satisfies {next : Int} {σ τ : StaticAssignment ε} (agree : σ.AgreesBefore next τ)
    {c : Constraint ε} (older : c.VarsIn (· < next)) : σ.Satisfies c ↔ τ.Satisfies c :=
  Constraint.holds_congr fun x member => agree x (older x member)

theorem solves {next : Int} {σ τ : StaticAssignment ε} (agree : σ.AgreesBefore next τ)
    {set : ConstraintSet ε} (older : ∀ c ∈ set, c.VarsIn (· < next)) (solves : σ.Solves set) :
    τ.Solves set := fun c member => (agree.satisfies (older c member)).mp (solves c member)

end AgreesBefore

/-- Gives one variable another type. -/
def set (σ : StaticAssignment ε) (x : Int) (t : Ty ε) (static : t.isStatic = true) :
    StaticAssignment ε where
  value := Function.update σ.value x t
  static y := by
    by_cases same : y = x
    · simpa [same] using static
    · simpa [same] using σ.static y

theorem set_agreesBefore (σ : StaticAssignment ε) {next x : Int} (new : next ≤ x) (t : Ty ε)
    (static : t.isStatic = true) : σ.AgreesBefore next (σ.set x t static) := by
  intro y old
  have other : y ≠ x := by omega
  simp [set, other]

/-- Two fresh variables can be given any static types. -/
theorem extend_pair (σ : StaticAssignment ε) (next : Int) {dom cod : Ty ε}
    (static : (Ty.arrow dom cod).isStatic = true) :
    ∃ τ : StaticAssignment ε, σ.AgreesBefore next τ ∧ τ.value next = dom ∧
      τ.value (next + 1) = cod := by
  rw [Ty.isStatic, Bool.and_eq_true] at static
  have apart : next ≠ next + 1 := by omega
  refine ⟨(σ.set next dom static.1).set (next + 1) cod static.2, ?_, ?_, ?_⟩
  · exact (σ.set_agreesBefore (Int.le_refl next) dom static.1).trans
      ((σ.set next dom static.1).set_agreesBefore (by omega) cod static.2)
  · simp [set, apart]
  · simp [set]

/-- First the substitution, then the assignment. -/
def after (σ : StaticAssignment ε) (s : Substitution ε) (static : s.IsStatic) :
    StaticAssignment ε where
  value x := σ.apply (s.value x)
  static _ := Ty.isStatic_inst σ.static (static.apply rfl)

theorem after_apply (σ : StaticAssignment ε) (s : Substitution ε) (static : s.IsStatic)
    (t : Ty ε) : (σ.after s static).apply t = σ.apply (s.apply t) := by
  rw [Substitution.apply_eq_inst]
  exact (Ty.inst_inst _ _ t).symm

theorem after_satisfies (σ : StaticAssignment Empty) (s : Substitution Empty) (static : s.IsStatic)
    {c : Constraint Empty} (holds : c.Holds s.value) : (σ.after s static).Satisfies c := by
  cases c with
  | equal l r =>
    have equal := congrArg σ.apply holds
    rwa [← Substitution.apply_eq_inst, ← Substitution.apply_eq_inst, ← after_apply σ s static,
      ← after_apply σ s static] at equal
  | consistent l r =>
    have consistent := Ty.Consistent.inst holds σ.value
    rwa [Ty.inst_inst, Ty.inst_inst] at consistent

end StaticAssignment

end Gradual
