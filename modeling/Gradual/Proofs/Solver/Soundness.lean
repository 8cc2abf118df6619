import Gradual.Proofs.Drawing
import Gradual.Proofs.Solver.Runs

/-! A substitution that the solver returns satisfies the constraints it was given, whatever these
are and wherever the supply of variables starts. The bindings that a run records from some state on
are applied after those before them, so the invariant goes backwards: the later bindings satisfy the
work that is left. -/
namespace Gradual.Solver

theorem Reduces.sound {c : Constraint Empty} {new : List (Constraint Empty)}
    (reduces : Reduces c new) {values : Int → Ty Empty} (holds : ∀ d ∈ new, d.Holds values) :
    c.Holds values := by
  cases reduces with
  | same t => exact .refl _
  | dynLeft t => exact .dynLeft _
  | dynRight t => exact .dynRight _
  | arrows a b c d =>
    have dom := holds (.consistent a c) (by simp)
    have cod := holds (.consistent b d) (by simp)
    exact .arrow dom cod
  | turn t x =>
    have turned := holds (.consistent (.var x) t) (by simp)
    exact turned.symm
  | equalSame t => rfl
  | equalArrows a b c d =>
    have dom : a.inst values = c.inst values := holds (.equal a c) (by simp)
    have cod : b.inst values = d.inst values := holds (.equal b d) (by simp)
    simp [dom, cod]
  | equalTurn t x =>
    have turned := holds (.equal (.var x) t) (by simp)
    exact turned.symm

theorem Binds.acyclic {next later x : Int} {c : Constraint Empty} {t : Ty Empty}
    {new : List (Constraint Empty)} (binds : Binds next c x t new later) : x ∉ t.vars := by
  cases binds with
  | atom _ acyclic => exact acyclic
  | shape _ apart => simpa [Ty.vars] using apart
  | equation acyclic => exact acyclic

theorem Binds.sound {next later x : Int} {c : Constraint Empty} {t : Ty Empty}
    {new : List (Constraint Empty)} (binds : Binds next c x t new later) {values : Int → Ty Empty}
    (absorbed : values x = t.inst values) (holds : ∀ d ∈ new, d.Holds values) :
    c.Holds values := by
  cases binds with
  | atom =>
    simp only [Constraint.Holds, Ty.inst]
    rw [absorbed]
    exact .refl _
  | shape =>
    have dom := holds _ List.mem_cons_self
    have cod := holds _ (List.mem_cons_of_mem _ List.mem_cons_self)
    simp only [Constraint.Holds, Ty.inst] at absorbed dom cod ⊢
    rw [absorbed]
    exact .arrow dom cod
  | equation => exact absorbed

theorem reaches_sound {s final : State Empty} (path : Reaches s final) (done : final.work = []) :
    ∃ later, final.solved.bindings = s.solved.bindings ++ later ∧
      ∀ c ∈ s.work, c.Holds (Substitution.value ⟨later⟩) := by
  -- Backwards from the end of the run, where there is no work and no binding is to come.
  induction path using Relation.ReflTransGen.head_induction_on with
  | refl => exact ⟨[], by simp, by simp [done]⟩
  | head taken _ ih =>
    obtain ⟨later, bindings, holds⟩ := ih
    rename_i s s' _
    cases rule_of_step taken with
    | reduce work reduces left solved supply =>
      rw [left] at holds
      refine ⟨later, by rw [bindings, solved], ?_⟩
      rw [work]
      refine List.forall_mem_cons.mpr ⟨?_, fun d member => ?_⟩
      · exact reduces.sound fun d member => holds d (List.mem_append_left _ member)
      · exact holds d (List.mem_append_right _ member)
    | bind work binds left solved =>
      rename_i c rest new x t
      have kept : ∀ d ∈ new ++ rest, d.Holds (Substitution.value ⟨(x, t) :: later⟩) := by
        intro d member
        rw [← Constraint.holds_cons]
        exact holds _ (by rw [left]; exact List.mem_map_of_mem member)
      have absorbed := Substitution.value_cons_absorbs binds.acyclic later
      refine ⟨(x, t) :: later, by simp [bindings, solved, Substitution.extend], ?_⟩
      rw [work]
      refine List.forall_mem_cons.mpr ⟨?_, fun d member => ?_⟩
      · exact binds.sound absorbed fun d member => kept d (List.mem_append_left _ member)
      · exact kept d (List.mem_append_right _ member)

theorem solve_holds {set : ConstraintSet Empty} {nextVar : Int} {final : State Empty}
    (solved : set.solve nextVar = .ok final) {c : Constraint Empty} (member : c ∈ set) :
    c.Holds final.solved.value := by
  obtain ⟨path, done⟩ := run_ok solved
  cases rule_of_step done with
  | finished nothing =>
    obtain ⟨later, bindings, holds⟩ := reaches_sound path nothing
    have same : final.solved = ⟨later⟩ := congrArg Substitution.mk bindings
    rw [initial_work_ordered] at holds
    rw [same]
    exact holds c ((ConstraintSet.mem_ordered c set).mpr member)

/-- The solution makes the sides of every equation equal and those of every other constraint
consistent. -/
theorem solve_sound (set : ConstraintSet Empty) (supply rest : Supply)
    (solution : Substitution Empty) (solved : (Drawing.solve set).run supply = .ok solution rest) :
    (∀ l r, .equal l r ∈ set → solution.apply l = solution.apply r) ∧
      ∀ l r, .consistent l r ∈ set →
        Ty.Consistent (solution.apply l) (solution.apply r) := by
  obtain ⟨final, ran, rfl, _⟩ := Drawing.solve_ok.mp solved
  constructor
  · intro l r member
    rw [Substitution.apply_eq_inst, Substitution.apply_eq_inst]
    exact solve_holds ran member
  · intro l r member
    rw [Substitution.apply_eq_inst, Substitution.apply_eq_inst]
    exact solve_holds ran member

/-- With a dynamic equation, and with a fresh variable that occurs in the set. -/
theorem solve_sound_reused_id :
    let set : ConstraintSet Empty :=
      .ofList [.equal (.var 4) .dyn, .consistent (.var 1) (.arrow .int .dyn)]
    let solution : Substitution Empty := ⟨[(1, .arrow (.var 3) (.var 4)), (3, .int), (4, .dyn)]⟩
    (Drawing.solve set).run (.startingAt 3) = .ok solution ⟨5, 3⟩ ∧
      solution.apply (.var 4) = solution.apply .dyn ∧
        Ty.Consistent (solution.apply (.var 1)) (solution.apply (.arrow .int .dyn)) := by
  intro set solution
  have sorted : set.members.Pairwise fun c d => c.canonical ≤ d.canonical :=
    List.pairwise_pair.mpr (String.lt_asymm (Constraint.canonical_consistent_lt_equal _ _ _ _))
  have solved : (Drawing.solve set).run (.startingAt 3) = .ok solution ⟨5, 3⟩ := by
    refine Drawing.solve_ok.mpr ⟨⟨[], [], solution, 5⟩, ?_, rfl, rfl⟩
    rw [ConstraintSet.solve, ConstraintSet.ordered_of_sorted sorted]
    exact run_of_runFor 6 rfl
  obtain ⟨equal, consistent⟩ := solve_sound set (.startingAt 3) ⟨5, 3⟩ solution solved
  exact ⟨solved, equal _ _ (by simp [set]), consistent _ _ (by simp [set])⟩

end Gradual.Solver
