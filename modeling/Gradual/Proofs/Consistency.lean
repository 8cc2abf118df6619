import Gradual.Ty.Measure

/-! Consistency of types: two types are consistent when they agree wherever neither of them is `?`.
The relation is reflexive and symmetric but not transitive, since `?` is consistent with everything.
Between static types it is equality. Host leaves are consistent with `?` only, as they are for the
solver, so reflexivity is stated over the grammar. -/
namespace Gradual.Ty

variable {ε : Type}

inductive Consistent : Ty ε → Ty ε → Prop
  | param (a : Int) : Consistent (.param a) (.param a)
  | var (x : Int) : Consistent (.var x) (.var x)
  | base (name : String) : Consistent (.base name) (.base name)
  | dynLeft (t : Ty ε) : Consistent .dyn t
  | dynRight (t : Ty ε) : Consistent t .dyn
  | arrow {a b c d : Ty ε} (dom : Consistent a c) (cod : Consistent b d) :
      Consistent (.arrow a b) (.arrow c d)

namespace Consistent

theorem refl (t : Ty Empty) : Consistent t t := by
  induction t with
  | param a => exact .param a
  | var x => exact .var x
  | base name => exact .base name
  | arrow dom cod left right => exact .arrow left right
  | dyn => exact .dynLeft .dyn
  | host leaf => exact leaf.elim

theorem symm {t u : Ty ε} (consistent : Consistent t u) : Consistent u t := by
  induction consistent with
  | param a => exact .param a
  | var x => exact .var x
  | base name => exact .base name
  | dynLeft t => exact .dynRight t
  | dynRight t => exact .dynLeft t
  | arrow _ _ dom cod => exact .arrow dom cod

theorem eq_of_static {t u : Ty ε} (consistent : Consistent t u) (left : t.isStatic = true)
    (right : u.isStatic = true) : t = u := by
  induction consistent with
  | param | var | base => rfl
  | dynLeft => simp [isStatic] at left
  | dynRight => simp [isStatic] at right
  | arrow _ _ dom cod =>
    simp only [isStatic, Bool.and_eq_true] at left right
    rw [dom left.1 right.1, cod left.2 right.2]

/-- A `?` never stands for less than itself. -/
theorem size_le {t u : Ty ε} (consistent : Consistent t u) (static : t.isStatic = true) :
    u.size ≤ t.size := by
  induction consistent with
  | param | var | base => exact Nat.le_refl _
  | dynLeft => simp [isStatic] at static
  | dynRight t => exact t.size_pos
  | arrow _ _ dom cod =>
    simp only [isStatic, Bool.and_eq_true] at static
    have := dom static.1
    have := cod static.2
    simp only [size]
    omega

@[simp] theorem arrow_iff {a b c d : Ty ε} :
    Consistent (.arrow a b) (.arrow c d) ↔ Consistent a c ∧ Consistent b d := by
  constructor
  · intro consistent
    cases consistent with
    | arrow dom cod => exact ⟨dom, cod⟩
  · rintro ⟨dom, cod⟩
    exact .arrow dom cod

/-- A static type consistent with a function type is a function type. -/
theorem arrow_of_static {t a b : Ty ε} (consistent : Consistent t (.arrow a b))
    (static : t.isStatic = true) :
    ∃ dom cod, t = .arrow dom cod ∧ Consistent dom a ∧ Consistent cod b := by
  cases consistent with
  | dynLeft => simp [isStatic] at static
  | arrow dom cod => exact ⟨_, _, rfl, dom, cod⟩

end Consistent

end Gradual.Ty
