import Gradual.Ty

/-! How large a type is, how many `?` it has, and what substitution does to these numbers and to the
variables. -/
namespace Gradual.Ty

variable {ε : Type}

/-- Number of constructors. -/
def size : Ty ε → Nat
  | .arrow dom cod => dom.size + cod.size + 1
  | .param _ | .var _ | .base _ | .dyn | .host _ => 1

/-- Number of occurrences of `?`. -/
def dyns : Ty ε → Nat
  | .dyn => 1
  | .arrow dom cod => dom.dyns + cod.dyns
  | .param _ | .var _ | .base _ | .host _ => 0

theorem size_pos (t : Ty ε) : 0 < t.size := by
  cases t <;> simp [size]

theorem isStatic_iff_dyns {t : Ty ε} : t.isStatic = true ↔ t.dyns = 0 := by
  induction t with
  | arrow dom cod left right => simp [isStatic, dyns, left, right]
  | _ => simp [isStatic, dyns]

theorem mem_vars_subst {u t : Ty ε} {x y : Int} :
    y ∈ (u.subst x t).vars ↔ (y ∈ u.vars ∧ y ≠ x) ∨ (x ∈ u.vars ∧ y ∈ t.vars) := by
  induction u with
  | var z =>
    by_cases same : z = x
    · subst same
      simp only [subst, if_pos, vars, List.mem_singleton, true_and]
      exact ⟨Or.inr, fun h => h.elim (fun ⟨eq, ne⟩ => absurd eq ne) id⟩
    · have other : ¬ x = z := fun eq => same eq.symm
      simp only [subst, if_neg same, vars, List.mem_singleton, other, false_and, or_false]
      exact ⟨fun eq => ⟨eq, fun eq' => same (eq.symm.trans eq')⟩, And.left⟩
  | arrow dom cod left right =>
    simp only [subst, vars, List.mem_append, left, right]
    grind
  | _ => simp [subst, vars]

theorem subst_of_not_mem {u : Ty ε} {x : Int} (absent : x ∉ u.vars) (t : Ty ε) :
    u.subst x t = u := by
  induction u with
  | var y =>
    have other : y ≠ x := fun eq => absent (by simp [vars, eq])
    simp [subst, other]
  | arrow dom cod left right =>
    simp only [vars, List.mem_append, not_or] at absent
    simp [subst, left absent.1, right absent.2]
  | _ => rfl

theorem dyns_subst {t : Ty ε} (static : t.dyns = 0) (u : Ty ε) (x : Int) :
    (u.subst x t).dyns = u.dyns := by
  induction u with
  | var y =>
    by_cases same : y = x <;> simp [subst, same, dyns, static]
  | arrow dom cod left right => simp [subst, dyns, left, right]
  | _ => rfl

end Gradual.Ty
