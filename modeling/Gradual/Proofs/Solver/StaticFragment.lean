import Gradual.Proofs.Evaluation
import Gradual.Proofs.Renaming
import Gradual.Proofs.Solver.Completeness

/-! What the solver finds depends only on the static solutions of a set: two sets with the same ones
are both solved or both refused, and where both are solved the two solutions agree up to the names of
variables. Without `?` a consistency constraint has the solutions of an equation, so on the static
fragment solving is first-order unification, although it goes by other rules in another order. -/
namespace Gradual

namespace Constraint

variable {ε : Type}

/-- The sides have to become equal. -/
def asEquation : Constraint ε → Constraint ε
  | .equal l r | .consistent l r => .equal l r

theorem vars_asEquation (c : Constraint ε) : c.asEquation.vars = c.vars := by
  cases c <;> rfl

theorem asEquation_isStatic {c : Constraint ε}
    (static : c.left.isStatic = true ∧ c.right.isStatic = true) : c.asEquation.IsStatic := by
  cases c <;> exact static

theorem satisfies_asEquation {c : Constraint Empty}
    (static : c.left.isStatic = true ∧ c.right.isStatic = true) (σ : StaticAssignment Empty) :
    σ.Satisfies c.asEquation ↔ σ.Satisfies c := by
  cases c with
  | equal l r => exact Iff.rfl
  | consistent l r =>
    constructor
    · intro (equal : l.inst σ.value = r.inst σ.value)
      show Ty.Consistent (l.inst σ.value) (r.inst σ.value)
      rw [equal]
      exact .refl _
    · intro consistent
      exact Ty.Consistent.eq_of_static consistent (Ty.isStatic_inst σ.static static.1)
        (Ty.isStatic_inst σ.static static.2)

end Constraint

/-- All sides have to become equal. -/
def ConstraintSet.asEquations (set : ConstraintSet Empty) : ConstraintSet Empty :=
  set.mapMembers Constraint.asEquation

theorem ConstraintSet.forall_asEquations {P : Constraint Empty → Prop} {set : ConstraintSet Empty} :
    (∀ c ∈ set.asEquations, P c) ↔ ∀ c ∈ set, P c.asEquation := by
  simp only [asEquations, mapMembers, mem_ofList, List.forall_mem_map]
  exact Iff.rfl

namespace Solver

section

variable {set other : ConstraintSet Empty} {next next' : Int}

/-- The solution that is found, followed by any static assignment, is a static solution. -/
theorem solve_solves {final : State Empty} (static : ∀ c ∈ set, c.IsStatic)
    (solved : set.solve next = .ok final) (σ : StaticAssignment Empty) :
    (σ.after final.solved (solve_static static solved)).Solves set :=
  fun _ member => σ.after_satisfies final.solved _ (solve_holds solved member)

/-- The solution found for one set factors through the one found for the other. -/
theorem solve_factors_other (same : ∀ σ : StaticAssignment Empty, σ.Solves set → σ.Solves other)
    (static : ∀ c ∈ set, c.IsStatic) (fresh : ∀ c ∈ other, c.VarsIn (· < next'))
    {final final' : State Empty} (solved : set.solve next = .ok final)
    (solved' : other.solve next' = .ok final') :
    ∃ σ : StaticAssignment Empty, ∀ t : Ty Empty, t.VarsIn (· < next') →
      final.solved.apply t = σ.apply (final'.solved.apply t) := by
  have solves := same _ (solve_solves static solved .identity)
  obtain ⟨σ, factors⟩ := solve_factors fresh solved' solves
  refine ⟨σ, fun t older => ?_⟩
  rw [← factors t older, StaticAssignment.after_apply, StaticAssignment.identity_apply]

theorem solve_succeeds_other (same : ∀ σ : StaticAssignment Empty, σ.Solves set → σ.Solves other)
    (static : ∀ c ∈ set, c.IsStatic) (static' : ∀ c ∈ other, c.IsStatic)
    (fresh : ∀ c ∈ other, c.VarsIn (· < next')) {final : State Empty}
    (solved : set.solve next = .ok final) : ∃ final', other.solve next' = .ok final' :=
  solve_succeeds static' fresh (same _ (solve_solves static solved .identity))

/-- Solutions of sets with the same static solutions are the same up to the names of variables, on
any finite number of variables that are older than both supplies. -/
theorem solve_renaming (same : ∀ σ : StaticAssignment Empty, σ.Solves set ↔ σ.Solves other)
    (static : ∀ c ∈ set, c.IsStatic) (static' : ∀ c ∈ other, c.IsStatic)
    (fresh : ∀ c ∈ set, c.VarsIn (· < next)) (fresh' : ∀ c ∈ other, c.VarsIn (· < next'))
    {final final' : State Empty} (solved : set.solve next = .ok final)
    (solved' : other.solve next' = .ok final') (ids : List Int)
    (older : ∀ x ∈ ids, x < next ∧ x < next') :
    ∃ ρ : Equiv.Perm Int, ∀ t : Ty Empty, t.VarsIn (· ∈ ids) →
      final.solved.apply t = (final'.solved.apply t).rename id ρ := by
  obtain ⟨σ, forth⟩ := solve_factors_other (fun σ => (same σ).mp) static fresh' solved solved'
  obtain ⟨τ, back⟩ := solve_factors_other (fun σ => (same σ).mpr) static' fresh solved' solved
  -- Going forth and back is the identity on the variables that the second solution leaves.
  have undone : ∀ y ∈ ids.flatMap fun x => (final'.solved.value x).vars,
      (σ.value y).inst τ.value = .var y := by
    intro y member
    obtain ⟨x, inside, occurs⟩ := List.mem_flatMap.mp member
    have there : final.solved.value x = (final'.solved.value x).inst σ.value :=
      forth (.var x) (Ty.varsIn_var.mpr (older x inside).2)
    have here : final'.solved.value x = (final.solved.value x).inst τ.value :=
      back (.var x) (Ty.varsIn_var.mpr (older x inside).1)
    rw [there, Ty.inst_inst] at here
    exact Ty.eq_of_inst_eq (here.symm.trans (Ty.inst_var _).symm) y occurs
  obtain ⟨ρ, renames⟩ := Ty.exists_renaming undone
  refine ⟨ρ, fun t inside => ?_⟩
  rw [Ty.rename_vars, forth t fun x occurs => (older x (inside x occurs)).2]
  refine Ty.inst_congr fun y occurs => renames y ?_
  rw [Substitution.apply_eq_inst, Ty.mem_vars_inst] at occurs
  obtain ⟨x, member, left⟩ := occurs
  exact List.mem_flatMap.mpr ⟨x, inside x member, left⟩

end

theorem solves_asEquations {set : ConstraintSet Empty}
    (static : ∀ c ∈ set, c.left.isStatic = true ∧ c.right.isStatic = true)
    (σ : StaticAssignment Empty) : σ.Solves set ↔ σ.Solves set.asEquations := by
  rw [StaticAssignment.Solves, StaticAssignment.Solves, ConstraintSet.forall_asEquations]
  exact forall₂_congr fun c member => (Constraint.satisfies_asEquation (static c member) σ).symm

/-- Without `?` it makes no difference whether constraints ask for consistency or for equality. -/
theorem solve_asEquations (set : ConstraintSet Empty) (supply supply' : Supply)
    (static : ∀ c ∈ set, c.left.isStatic = true ∧ c.right.isStatic = true)
    (fresh : ∀ c ∈ set, ∀ x ∈ c.vars, x < supply.nextVar ∧ x < supply'.nextVar) :
    ((∃ solution rest, (Drawing.solve set).run supply = .ok solution rest) ↔
        ∃ solution rest, (Drawing.solve set.asEquations).run supply' = .ok solution rest) ∧
      ∀ solution rest solution' rest', (Drawing.solve set).run supply = .ok solution rest →
        (Drawing.solve set.asEquations).run supply' = .ok solution' rest' →
          ∃ ρ : Equiv.Perm Int, ∀ t : Ty Empty, (∀ x ∈ t.vars, ∃ c ∈ set, x ∈ c.vars) →
            solution.apply t = (solution'.apply t).rename id ρ := by
  have same := solves_asEquations static
  have staticSet : ∀ c ∈ set, c.IsStatic := by
    intro c member
    cases c with
    | equal l r => exact static _ member
    | consistent l r => trivial
  have staticEquations : ∀ c ∈ set.asEquations, c.IsStatic :=
    ConstraintSet.forall_asEquations.mpr fun c member =>
      Constraint.asEquation_isStatic (static c member)
  have older : ∀ c ∈ set, c.VarsIn (· < supply.nextVar) :=
    fun c member x occurs => (fresh c member x occurs).1
  have olderEquations : ∀ c ∈ set.asEquations, c.VarsIn (· < supply'.nextVar) := by
    refine ConstraintSet.forall_asEquations.mpr fun c member x occurs => ?_
    rw [Constraint.vars_asEquation] at occurs
    exact (fresh c member x occurs).2
  refine ⟨⟨?_, ?_⟩, ?_⟩
  · rintro ⟨solution, rest, solved⟩
    obtain ⟨final, ran, _⟩ := Drawing.solve_ok.mp solved
    obtain ⟨final', ran'⟩ := solve_succeeds_other (fun σ => (same σ).mp) staticSet staticEquations
      olderEquations ran
    exact ⟨_, _, Drawing.solve_ok.mpr ⟨final', ran', rfl, rfl⟩⟩
  · rintro ⟨solution, rest, solved⟩
    obtain ⟨final', ran', _⟩ := Drawing.solve_ok.mp solved
    obtain ⟨final, ran⟩ := solve_succeeds_other (fun σ => (same σ).mpr) staticEquations staticSet
      older ran'
    exact ⟨_, _, Drawing.solve_ok.mpr ⟨final, ran, rfl, rfl⟩⟩
  · intro solution rest solution' rest' solved solved'
    obtain ⟨final, ran, rfl, _⟩ := Drawing.solve_ok.mp solved
    obtain ⟨final', ran', rfl, _⟩ := Drawing.solve_ok.mp solved'
    obtain ⟨ρ, renames⟩ := solve_renaming same staticSet staticEquations older olderEquations ran
      ran' (set.members.flatMap Constraint.vars) fun x member => by
        obtain ⟨c, inside, occurs⟩ := List.mem_flatMap.mp member
        exact fresh c inside x occurs
    refine ⟨ρ, fun t inside => renames t fun x occurs => ?_⟩
    obtain ⟨c, member, within⟩ := inside x occurs
    exact List.mem_flatMap.mpr ⟨c, member, within⟩

/-- One constraint stands in the set in both forms, and the variable in it is split by one of them
and bound as a whole by the other. -/
theorem solve_asEquations_function :
    let set : ConstraintSet Empty := .ofList
      [.consistent (.var 1) (.arrow (.var 2) .int), .equal (.var 1) (.arrow (.var 2) .int),
        .consistent (.var 3) (.var 2)]
    let solution : Substitution Empty :=
      ⟨[(1, .arrow (.var 4) (.var 5)), (4, .var 2), (5, .int), (3, .var 2)]⟩
    let solution' : Substitution Empty := ⟨[(1, .arrow (.var 2) .int), (3, .var 2)]⟩
    (∀ c ∈ set, c.left.isStatic = true ∧ c.right.isStatic = true) ∧
      (∀ c ∈ set, ∀ x ∈ c.vars, x < (Supply.startingAt 4).nextVar ∧
        x < (Supply.startingAt 9).nextVar) ∧
      (Drawing.solve set).run (.startingAt 4) = .ok solution ⟨6, 4⟩ ∧
      (Drawing.solve set.asEquations).run (.startingAt 9) = .ok solution' (.startingAt 9) ∧
      ∃ ρ : Equiv.Perm Int,
        solution.apply (.arrow (.var 1) (.var 3)) =
          (solution'.apply (.arrow (.var 1) (.var 3))).rename id ρ := by
  intro set solution solution'
  have static : ∀ c ∈ set, c.left.isStatic = true ∧ c.right.isStatic = true := by
    simp [set, Constraint.left, Constraint.right, Ty.isStatic, Ty.int]
  have fresh : ∀ c ∈ set, ∀ x ∈ c.vars, x < (Supply.startingAt 4).nextVar ∧
      x < (Supply.startingAt 9).nextVar := by
    simp [set, Constraint.vars, Constraint.left, Constraint.right, Ty.vars, Ty.int,
      Supply.startingAt]
  have ran : set.solve 4 = .ok ⟨[], [], solution, 6⟩ :=
    ConstraintSet.solve_of_runFor [.consistent (.var 1) (.arrow (.var 2) .int),
      .consistent (.var 3) (.var 2), .equal (.var 1) (.arrow (.var 2) .int)] (by decide)
      (by decide +kernel) 8 rfl
  have ran' : set.asEquations.solve 9 = .ok ⟨[], [], solution', 9⟩ :=
    ConstraintSet.solve_of_runFor [.equal (.var 1) (.arrow (.var 2) .int), .equal (.var 3) (.var 2)]
      (by decide) (by decide +kernel) 3 rfl
  have solved : (Drawing.solve set).run (.startingAt 4) = _ := Drawing.run_solve_ok ran
  have solved' : (Drawing.solve set.asEquations).run (.startingAt 9) = _ := Drawing.run_solve_ok ran'
  obtain ⟨-, agree⟩ := solve_asEquations set (.startingAt 4) (.startingAt 9) static fresh
  obtain ⟨ρ, renames⟩ := agree _ _ _ _ solved solved'
  refine ⟨static, fresh, solved, solved', ρ, renames _ ?_⟩
  simp [set, Ty.vars, Constraint.vars, Constraint.left, Constraint.right]

end Solver

end Gradual
