import Gradual.Proofs.Evaluation
import Gradual.Proofs.Solver.Invariants
import Gradual.Proofs.Solver.Soundness

/-! The solver finds a most general solution whenever there is a static one. No rule loses a static
solution: two static types are consistent only if they are equal, so a variable can be bound to the
atom it has to be consistent with, and one that has to be consistent with a function type is given a
function type, so the solution extends to its two fresh parts. A constraint that fits no rule has no
static solution, and every failure names such a constraint. -/
namespace Gradual.Solver

/-- The assignment satisfies what is left and absorbs what is bound. -/
structure Solution (σ : StaticAssignment Empty) (s : State Empty) : Prop where
  work : ∀ c ∈ s.work, σ.Satisfies c
  solved : ∀ binding ∈ s.solved.bindings, σ.value binding.1 = σ.apply binding.2

section Rules

variable {next later x : Int} {c : Constraint Empty} {t : Ty Empty} {new : List (Constraint Empty)}
  {σ : StaticAssignment Empty}

theorem Reduces.complete (reduces : Reduces c new) (satisfied : σ.Satisfies c) :
    ∀ d ∈ new, σ.Satisfies d := by
  cases reduces with
  | same | dynLeft | dynRight | equalSame => simp
  | arrows a b c d =>
    obtain ⟨dom, cod⟩ := Ty.Consistent.arrow_iff.mp satisfied
    simpa using ⟨dom, cod⟩
  | turn t x =>
    exact List.forall_mem_singleton.mpr (Ty.Consistent.symm satisfied)
  | equalArrows a b c d =>
    obtain ⟨dom, cod⟩ := Ty.arrow.inj satisfied
    simpa using ⟨dom, cod⟩
  | equalTurn t x =>
    exact List.forall_mem_singleton.mpr (Eq.symm satisfied)

/-- The fresh parts of a variable are given the parts of its value. -/
theorem shape_complete {a b : Ty Empty} (older : x < next)
    (inside : (Ty.arrow a b).VarsIn (· < next))
    (satisfied : σ.Satisfies (.consistent (.var x) (.arrow a b))) :
    ∃ τ : StaticAssignment Empty, σ.AgreesBefore next τ ∧
      τ.Satisfies (.consistent (.var next) a) ∧ τ.Satisfies (.consistent (.var (next + 1)) b) ∧
      τ.value x = .arrow (τ.value next) (τ.value (next + 1)) := by
  obtain ⟨dom, cod, shape, domA, codB⟩ := Ty.Consistent.arrow_of_static satisfied (σ.static x)
  have static := σ.static x
  simp only [Ty.inst] at shape
  rw [shape] at static
  obtain ⟨τ, agree, atDom, atCod⟩ := σ.extend_pair next static
  obtain ⟨insideA, insideB⟩ := Ty.varsIn_arrow.mp inside
  have sideA : a.inst σ.value = a.inst τ.value := agree.apply insideA
  have sideB : b.inst σ.value = b.inst τ.value := agree.apply insideB
  refine ⟨τ, agree, ?_, ?_, ?_⟩
  · simpa [StaticAssignment.Satisfies, atDom, ← sideA] using domA
  · simpa [StaticAssignment.Satisfies, atCod, ← sideB] using codB
  · rw [← agree x older, shape, atDom, atCod]

theorem Binds.complete (binds : Binds next c x t new later) (inside : c.VarsIn (· < next))
    (satisfied : σ.Satisfies c) :
    ∃ τ : StaticAssignment Empty, σ.AgreesBefore next τ ∧ (∀ d ∈ new, τ.Satisfies d) ∧
      τ.value x = τ.apply t := by
  cases binds with
  | atom atom acyclic =>
    have static : t.isStatic = true := by cases t <;> simp [Ty.isAtom, Ty.isStatic] at atom ⊢
    have equal := Ty.Consistent.eq_of_static satisfied (σ.static x)
      (Ty.isStatic_inst σ.static static)
    exact ⟨σ, fun _ _ => rfl, by simp, equal⟩
  | shape acyclic apart =>
    rw [Constraint.varsIn_consistent, Ty.varsIn_var] at inside
    obtain ⟨τ, agree, dom, cod, absorbed⟩ := shape_complete inside.1 inside.2 satisfied
    exact ⟨τ, agree, by simp [dom, cod], absorbed⟩
  | equation acyclic => exact ⟨σ, fun _ _ => rfl, by simp, satisfied⟩

theorem Clash.not_consistent {l r : Ty Empty} (clash : Clash l r) :
    ¬ Ty.Consistent (l.inst σ.value) (r.inst σ.value) := by
  obtain ⟨left, right, differ, notArrows⟩ := clash
  intro consistent
  cases l <;> cases r <;> simp [rigid, Ty.isArrow] at left right notArrows differ <;>
    cases consistent <;> exact differ rfl

/-- A constraint that is blamed has no static solution, unless it is an equation with a `?`. -/
theorem Conflict.unsatisfiable {blamed : Constraint Empty}
    (conflict : Conflict next c blamed later) (static : c.IsStatic) : ¬ σ.Satisfies blamed := by
  intro satisfied
  cases conflict with
  | cycle cyclic =>
    have larger := Ty.size_lt_inst σ.value cyclic (by simp)
    have smaller := Ty.Consistent.size_le satisfied (σ.static _)
    simp only [Ty.inst] at larger smaller
    omega
  | @reused y a b acyclic drawn =>
    have cyclic : y ∈ (Ty.arrow (.var next) (.var (next + 1)) : Ty Empty).vars := by
      simpa [Ty.vars] using drawn
    have larger := Ty.size_lt_inst σ.value cyclic (by simp)
    rw [← satisfied] at larger
    exact Nat.lt_irrefl _ larger
  | clash clash => exact clash.not_consistent satisfied
  | equalCycle cyclic other =>
    have larger := Ty.size_lt_inst σ.value cyclic other
    rw [← satisfied] at larger
    exact Nat.lt_irrefl _ larger
  | equalClash clash =>
    refine clash.not_consistent (σ := σ) ?_
    rw [satisfied]
    exact .refl _
  | equalDynamic dynamic => exact dynamic static

theorem Conflict.blames_first {blamed : Constraint Empty}
    (conflict : Conflict next c blamed later) (inside : c.VarsIn (· < next)) : blamed = c := by
  cases conflict with
  | reused _ drawn =>
    rw [Constraint.varsIn_consistent, Ty.varsIn_var] at inside
    omega
  | _ => rfl

end Rules

theorem Solution.step {σ : StaticAssignment Empty} {s s' : State Empty} (solution : Solution σ s)
    (fresh : FreshState s) (taken : s.step = .next s') :
    ∃ τ, σ.AgreesBefore s.nextVar τ ∧ Solution τ s' := by
  obtain ⟨onWork, onSolved⟩ := solution
  cases rule_of_step taken with
  | reduce work reduces left solved _ =>
    rw [work, List.forall_mem_cons] at onWork
    refine ⟨σ, fun _ _ => rfl, ?_, by rw [solved]; exact onSolved⟩
    rw [left]
    exact List.forall_mem_append.mpr ⟨reduces.complete onWork.1, onWork.2⟩
  | bind work binds left solved =>
    have older := fresh.work
    rw [work, List.forall_mem_cons] at onWork older
    obtain ⟨τ, agree, onNew, absorbed⟩ := binds.complete older.1 onWork.1
    refine ⟨τ, agree, ?_, ?_⟩
    · rw [left, List.forall_mem_map]
      intro d member
      refine (Constraint.holds_subst absorbed d).mpr ?_
      refine List.forall_mem_append.mpr ⟨onNew, fun d inside => ?_⟩ d member
      exact (agree.satisfies (older.2 d inside)).mp (onWork.2 d inside)
    · rw [solved]
      refine List.forall_mem_append.mpr ⟨fun binding member => ?_, by simpa using absorbed⟩
      obtain ⟨drawn, inside⟩ := fresh.solved binding member
      rw [← agree _ drawn, ← agree.apply inside]
      exact onSolved binding member

theorem Solution.reaches {σ : StaticAssignment Empty} {s s' : State Empty}
    (solution : Solution σ s) (fresh : FreshState s) (path : Reaches s s') :
    ∃ τ, σ.AgreesBefore s.nextVar τ ∧ Solution τ s' := by
  induction path with
  | refl => exact ⟨σ, fun _ _ => rfl, solution⟩
  | tail path taken ih =>
    obtain ⟨τ, agree, solution⟩ := ih
    obtain ⟨υ, further, solution⟩ := solution.step (fresh.reaches path) taken
    exact ⟨υ, agree.trans (further.mono (supply_le_reaches path)), solution⟩

theorem Solution.initial {σ : StaticAssignment Empty} {set : ConstraintSet Empty}
    (solves : σ.Solves set) (nextVar : Int) : Solution σ (State.initial set.ordered nextVar) := by
  refine ⟨?_, fun binding member => absurd member List.not_mem_nil⟩
  rw [initial_work_ordered]
  exact fun c member => solves c ((ConstraintSet.mem_ordered c set).mp member)

section

variable {set : ConstraintSet Empty} {nextVar : Int}

theorem solve_static {final : State Empty} (static : ∀ c ∈ set, c.IsStatic)
    (solved : set.solve nextVar = .ok final) : final.solved.IsStatic :=
  ((StaticState.initial static nextVar).reaches (run_ok solved).1).solved

theorem solve_succeeds {σ : StaticAssignment Empty} (static : ∀ c ∈ set, c.IsStatic)
    (fresh : ∀ c ∈ set, c.VarsIn (· < nextVar)) (solves : σ.Solves set) :
    ∃ final, set.solve nextVar = .ok final := by
  cases ran : set.solve nextVar with
  | ok final => exact ⟨final, rfl⟩
  | error failure =>
    obtain ⟨error, state⟩ := failure
    obtain ⟨last, path, stuck⟩ := run_error ran
    have freshLast := (FreshState.initial fresh).reaches path
    have staticLast := (StaticState.initial static nextVar).reaches path
    obtain ⟨τ, _, solution⟩ := (Solution.initial solves nextVar).reaches (.initial fresh) path
    cases rule_of_step stuck with
    | stuck work conflict =>
      rename_i c blamed rest
      have head : c ∈ last.work := by rw [work]; exact List.mem_cons_self
      have same := conflict.blames_first (freshLast.work c head)
      exact absurd (solution.work c head) (same ▸ conflict.unsatisfiable (staticLast.work c head))

/-- Every static solution factors through the one that is found, on all older variables. -/
theorem solve_factors {σ : StaticAssignment Empty} {final : State Empty}
    (fresh : ∀ c ∈ set, c.VarsIn (· < nextVar)) (solved : set.solve nextVar = .ok final)
    (solves : σ.Solves set) :
    ∃ τ : StaticAssignment Empty, ∀ t : Ty Empty, t.VarsIn (· < nextVar) →
      σ.apply t = τ.apply (final.solved.apply t) := by
  obtain ⟨τ, agree, solution⟩ :=
    (Solution.initial solves nextVar).reaches (.initial fresh) (run_ok solved).1
  refine ⟨τ, fun t inside => ?_⟩
  calc σ.apply t = τ.apply t := agree.apply inside
    _ = τ.apply (final.solved.apply t) := (Substitution.inst_apply solution.solved t).symm

end

/-- Solving succeeds exactly when there is a static solution, and then every static solution is an
instance of the one that is found, as far as the variables of the set go. -/
theorem solve_mostGeneral (set : ConstraintSet Empty) (supply : Supply)
    (static : ∀ l r, .equal l r ∈ set → l.isStatic = true ∧ r.isStatic = true)
    (fresh : ∀ c ∈ set, ∀ x ∈ c.vars, x < supply.nextVar) :
    ((∃ solution rest, (Drawing.solve set).run supply = .ok solution rest) ↔
        ∃ σ : StaticAssignment Empty, σ.Solves set) ∧
      ∀ solution rest, (Drawing.solve set).run supply = .ok solution rest →
        ∀ σ : StaticAssignment Empty, σ.Solves set →
          ∃ τ : StaticAssignment Empty, ∀ t : Ty Empty, (∀ x ∈ t.vars, ∃ c ∈ set, x ∈ c.vars) →
            σ.apply t = τ.apply (solution.apply t) := by
  have staticSet : ∀ c ∈ set, c.IsStatic := by
    intro c member
    cases c with
    | equal l r => exact static l r member
    | consistent l r => trivial
  refine ⟨⟨?_, ?_⟩, ?_⟩
  · rintro ⟨solution, rest, solved⟩
    obtain ⟨final, ran, rfl, _⟩ := Drawing.solve_ok.mp solved
    refine ⟨.after .identity final.solved (solve_static staticSet ran), fun c member => ?_⟩
    exact StaticAssignment.after_satisfies _ final.solved _ (solve_holds ran member)
  · rintro ⟨σ, solves⟩
    obtain ⟨final, ran⟩ := solve_succeeds staticSet fresh solves
    exact ⟨_, _, Drawing.solve_ok.mpr ⟨final, ran, rfl, rfl⟩⟩
  · intro solution rest solved σ solves
    obtain ⟨final, ran, rfl, _⟩ := Drawing.solve_ok.mp solved
    obtain ⟨τ, factors⟩ := solve_factors fresh ran solves
    refine ⟨τ, fun t inside => factors t fun x member => ?_⟩
    obtain ⟨c, constraint, occurs⟩ := inside x member
    exact fresh c constraint x occurs

theorem solve_mostGeneral_function :
    let set : ConstraintSet Empty := .ofList
      [.equal (.var 1) (.arrow (.var 2) (.var 3)), .consistent (.var 1) (.arrow .int .dyn)]
    let solution : Substitution Empty :=
      ⟨[(1, .arrow (.var 4) (.var 5)), (4, .int), (2, .int), (5, .var 3)]⟩
    (∀ l r, .equal l r ∈ set → l.isStatic = true ∧ r.isStatic = true) ∧
      (∀ c ∈ set, ∀ x ∈ c.vars, x < (Supply.startingAt 4).nextVar) ∧
      (∃ σ : StaticAssignment Empty, σ.Solves set) ∧
      (Drawing.solve set).run (.startingAt 4) = .ok solution ⟨6, 4⟩ ∧
      solution.apply (.var 1) = .arrow .int (.var 3) ∧
      ∀ σ : StaticAssignment Empty, σ.Solves set →
        ∃ τ : StaticAssignment Empty, σ.apply (.var 1) = τ.apply (.arrow .int (.var 3)) := by
  intro set solution
  have static : ∀ l r, .equal l r ∈ set → l.isStatic = true ∧ r.isStatic = true := by
    simp [set, Ty.isStatic]
  have fresh : ∀ c ∈ set, ∀ x ∈ c.vars, x < (Supply.startingAt 4).nextVar := by
    simp [set, Constraint.vars, Constraint.left, Constraint.right, Ty.vars, Ty.int,
      Supply.startingAt]
  let σ : StaticAssignment Empty :=
    ((StaticAssignment.identity.set 1 (.arrow .int .bool) rfl).set 2 .int rfl).set 3 .bool rfl
  have solves : σ.Solves set := by
    intro c member
    obtain rfl | rfl := by simpa [set] using member
    · rfl
    · exact .arrow (.refl _) (.dynRight _)
  have ran : set.solve 4 = .ok ⟨[], [], solution, 6⟩ :=
    ConstraintSet.solve_of_runFor [.consistent (.var 1) (.arrow .int .dyn),
      .equal (.var 1) (.arrow (.var 2) (.var 3))] (by decide) (by decide +kernel) 8 rfl
  have solved : (Drawing.solve set).run (.startingAt 4) = _ := Drawing.run_solve_ok ran
  obtain ⟨-, factors⟩ := solve_mostGeneral set (.startingAt 4) static fresh
  refine ⟨static, fresh, ⟨σ, solves⟩, solved, rfl, fun σ solves => ?_⟩
  obtain ⟨τ, equal⟩ := factors solution _ solved σ solves
  exact ⟨τ, equal (.var 1) (by simp [set, Ty.vars, Constraint.vars, Constraint.left])⟩

theorem run_blames {s : State Empty} (static : StaticState s) {failure : Failure Empty}
    (ran : s.run = .error failure) :
    ∃ blamed, failure.error = .conflict blamed ∧
      ∀ σ : StaticAssignment Empty, ¬ σ.Satisfies blamed := by
  obtain ⟨error, state⟩ := failure
  obtain ⟨last, path, stuck⟩ := run_error ran
  cases rule_of_step stuck with
  | stuck work conflict =>
    rename_i c blamed rest
    have head : c ∈ last.work := by rw [work]; exact List.mem_cons_self
    refine ⟨blamed, rfl, fun σ => ?_⟩
    exact conflict.unsatisfiable ((static.reaches path).work c head)

/-- Solving only fails over a constraint that no static types for its variables satisfy, also where
the ids it draws are in use already. -/
theorem solve_blames_unsatisfiable (set : ConstraintSet Empty) (supply rest : Supply)
    (error : TypingError Empty)
    (static : ∀ l r, .equal l r ∈ set → l.isStatic = true ∧ r.isStatic = true)
    (failed : (Drawing.solve set).run supply = .error error rest) :
    ∃ blamed, error = .conflict blamed ∧
      ∀ σ : StaticAssignment Empty, ¬ σ.Satisfies blamed := by
  have staticSet : ∀ c ∈ set, c.IsStatic := by
    intro c member
    cases c with
    | equal l r => exact static l r member
    | consistent l r => trivial
  cases ran : set.solve supply.nextVar with
  | ok final =>
    rw [Drawing.run_solve_ok ran] at failed
    cases failed
  | error failure =>
    rw [Drawing.run_solve_error ran] at failed
    cases failed
    exact run_blames (StaticState.initial staticSet supply.nextVar) ran

/-- The cycle only shows after `x1` has been bound to `x2`, and its arrow has a `?` in it. -/
theorem solve_blames_unsatisfiable_cycle :
    let set : ConstraintSet Empty := .ofList
      [.equal (.var 3) .int, .consistent (.var 2) (.arrow (.var 1) .dyn),
        .consistent (.var 1) (.var 2)]
    let blamed : Constraint Empty := .consistent (.var 2) (.arrow (.var 2) .dyn)
    (∀ l r, .equal l r ∈ set → l.isStatic = true ∧ r.isStatic = true) ∧
      (Drawing.solve set).run (.startingAt 3) = .error (.conflict blamed) (.startingAt 3) ∧
        ∀ σ : StaticAssignment Empty, ¬ σ.Satisfies blamed := by
  intro set blamed
  have static : ∀ l r, .equal l r ∈ set → l.isStatic = true ∧ r.isStatic = true := by
    simp [set, Ty.isStatic, Ty.int]
  have ordered : set.ordered = set.members := ConstraintSet.ordered_of_sorted (by decide +kernel)
  have ran : set.solve (Supply.startingAt 3).nextVar =
      .error ⟨.conflict blamed, [], [(.var 3, .int)], ⟨[(1, .var 2)]⟩, 3⟩ := by
    rw [ConstraintSet.solve, ordered]
    exact run_of_runFor 2 rfl
  have failed := Drawing.run_solve_error ran
  obtain ⟨_, same, unsatisfiable⟩ := solve_blames_unsatisfiable set _ _ _ static failed
  cases same
  exact ⟨static, failed, unsatisfiable⟩

end Gradual.Solver
