import Gradual.ConstraintSet

/-! The order of a constraint set: by canonical text, so that every consistency constraint comes
before every equation. -/
namespace Gradual

variable {ε : Type}

namespace Text

theorem lt_of_first {a b : String} {c d : Char} (left : a.toList.head? = some c)
    (right : b.toList.head? = some d) (lt : c < d) : a < b := by
  obtain ⟨s, left⟩ := List.head?_eq_some_iff.mp left
  obtain ⟨t, right⟩ := List.head?_eq_some_iff.mp right
  change a.toList < b.toList
  rw [left, right]
  exact List.Lex.rel lt

theorem first_append {a : String} {c : Char} (first : a.toList.head? = some c) (b : String) :
    (a ++ b).toList.head? = some c := by
  simp [first]

end Text

namespace Constraint

variable [ToString ε]

theorem first_canonical_equal (l r : Ty ε) :
    (Constraint.equal l r).canonical.toList.head? = some 'E' := by
  have first : "Equal(left=".toList.head? = some 'E' := rfl
  exact Text.first_append (Text.first_append (Text.first_append (Text.first_append first _) _) _) _

theorem first_canonical_consistent (l r : Ty ε) :
    (Constraint.consistent l r).canonical.toList.head? = some 'C' := by
  have first : "Consistent(left=".toList.head? = some 'C' := rfl
  exact Text.first_append (Text.first_append (Text.first_append (Text.first_append first _) _) _) _

theorem canonical_consistent_lt_equal (l r l' r' : Ty ε) :
    (Constraint.consistent l r).canonical < (Constraint.equal l' r').canonical :=
  Text.lt_of_first (first_canonical_consistent l r) (first_canonical_equal l' r') (by decide)

end Constraint

namespace ConstraintSet

variable [ToString ε]

@[simp] theorem mem_ordered (c : Constraint ε) (set : ConstraintSet ε) :
    c ∈ set.ordered ↔ c ∈ set := by
  simp [ordered, mem_def]

theorem ordered_sorted (set : ConstraintSet ε) :
    set.ordered.Pairwise fun c d => c.canonical ≤ d.canonical := by
  let keyed := set.members.map fun c => (c.canonical, c)
  have sorted : (keyed.mergeSort fun a b => a.1 ≤ b.1).Pairwise fun a b =>
      decide (a.1 ≤ b.1) = true :=
    List.pairwise_mergeSort
      (fun a b c first second => by
        simpa using String.le_trans (of_decide_eq_true first) (of_decide_eq_true second))
      (fun a b => by simpa using String.le_total a.1 b.1) keyed
  have key : ∀ entry ∈ keyed.mergeSort fun a b => a.1 ≤ b.1, entry.1 = entry.2.canonical := by
    intro entry member
    obtain ⟨c, _, rfl⟩ := List.mem_map.mp (List.mem_mergeSort.mp member)
    rfl
  unfold ordered
  rw [List.pairwise_map]
  refine sorted.imp_of_mem fun {a b} first second le => ?_
  rw [← key a first, ← key b second]
  exact of_decide_eq_true le

theorem ordered_of_sorted {set : ConstraintSet ε}
    (sorted : set.members.Pairwise fun c d => c.canonical ≤ d.canonical) :
    set.ordered = set.members := by
  unfold ordered
  rw [List.mergeSort_of_pairwise (List.pairwise_map.mpr (sorted.imp fun le => by simpa using le)),
    List.map_map]
  exact List.map_id _

/-- No equation stands before a consistency constraint. -/
theorem ordered_consistent_first (set : ConstraintSet ε) :
    set.ordered.Pairwise fun c d => ∀ l r l' r', c = .equal l r → d ≠ .consistent l' r' := by
  refine set.ordered_sorted.imp fun {c d} le l r l' r' first second => ?_
  subst first second
  exact le (Constraint.canonical_consistent_lt_equal l' r' l r)

end ConstraintSet

end Gradual
