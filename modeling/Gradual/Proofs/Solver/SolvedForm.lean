import Gradual.Proofs.Solver.Invariants
import Gradual.Proofs.Solver.Soundness

/-! Solved form. A variable that the solver binds is gone from the work that is left, and nothing
brings it back: what comes in later are variables of that work and fresh ones. So the bindings are
triangular, and applying them leaves none of the bound variables behind. All of this rests on the
supply: one that is behind the ids in use can draw a variable that was bound before. -/
namespace Gradual

variable {ε : Type}

/-- A binding without a cycle eliminates its variable. -/
theorem Ty.varsIn_subst_ne {x : Int} {t : Ty ε} (acyclic : x ∉ t.vars) (u : Ty ε) :
    (u.subst x t).VarsIn (· ≠ x) := by
  rintro y occurs rfl
  rcases mem_vars_subst.mp occurs with ⟨_, other⟩ | ⟨_, inside⟩
  · exact other rfl
  · exact acyclic inside

theorem Constraint.varsIn_subst_ne {x : Int} {t : Ty ε} (acyclic : x ∉ t.vars)
    (c : Constraint ε) : (c.subst x t).VarsIn (· ≠ x) := by
  cases c with
  | equal l r =>
    exact varsIn_equal.mpr ⟨Ty.varsIn_subst_ne acyclic l, Ty.varsIn_subst_ne acyclic r⟩
  | consistent l r =>
    exact varsIn_consistent.mpr ⟨Ty.varsIn_subst_ne acyclic l, Ty.varsIn_subst_ne acyclic r⟩

namespace Substitution

/-- The variables that are bound, in the order in which they were solved. -/
def bound (s : Substitution ε) : List Int := s.bindings.map Prod.fst

@[simp] theorem bound_extend (s : Substitution ε) (x : Int) (t : Ty ε) :
    (s.extend x t).bound = s.bound ++ [x] := by
  simp [bound, extend]

/-- No variable is bound twice, and from its binding on it occurs in no bound type. -/
structure Triangular (s : Substitution ε) : Prop where
  distinct : s.bound.Nodup
  acyclic : ∀ binding ∈ s.bindings, binding.1 ∉ binding.2.vars
  eliminated : s.bindings.Pairwise fun earlier later => earlier.1 ∉ later.2.vars

theorem Triangular.empty : (∅ : Substitution ε).Triangular :=
  ⟨List.nodup_nil, List.forall_mem_nil _, .nil⟩

theorem Triangular.extend {s : Substitution ε} (triangular : s.Triangular) {x : Int} {t : Ty ε}
    (unbound : x ∉ s.bound) (acyclic : x ∉ t.vars) (older : t.VarsIn (· ∉ s.bound)) :
    (s.extend x t).Triangular := by
  obtain ⟨distinct, acyclicBefore, eliminated⟩ := triangular
  constructor
  · rw [bound_extend, List.nodup_append]
    refine ⟨distinct, List.pairwise_singleton _ x, ?_⟩
    intro y earlier z new same
    cases List.mem_singleton.mp new
    exact unbound (same ▸ earlier)
  · exact List.forall_mem_append.mpr ⟨acyclicBefore, List.forall_mem_singleton.mpr acyclic⟩
  · refine List.pairwise_append.mpr ⟨eliminated, List.pairwise_singleton _ _, ?_⟩
    intro earlier member later new occurs
    cases List.mem_singleton.mp new
    exact older _ occurs (List.mem_map_of_mem member)

theorem varsIn_apply {P : Int → Prop} {s : Substitution ε}
    (types : ∀ binding ∈ s.bindings, binding.2.VarsIn P) {t : Ty ε} (here : t.VarsIn P) :
    (s.apply t).VarsIn P := by
  obtain ⟨bindings⟩ := s
  induction bindings generalizing t with
  | nil => exact here
  | cons binding rest ih =>
    obtain ⟨first, others⟩ := List.forall_mem_cons.mp types
    exact ih (here.subst first) others

theorem apply_of_unbound {s : Substitution ε} {t : Ty ε} (unbound : t.VarsIn (· ∉ s.bound)) :
    s.apply t = t := by
  obtain ⟨bindings⟩ := s
  induction bindings with
  | nil => rfl
  | cons binding rest ih =>
    have absent : binding.1 ∉ t.vars := fun occurs => unbound _ occurs List.mem_cons_self
    rw [apply_cons, Ty.subst_of_not_mem absent]
    exact ih (unbound.mono fun y free later => free (List.mem_cons_of_mem _ later))

theorem Triangular.unbound_apply {s : Substitution ε} (triangular : s.Triangular) (t : Ty ε) :
    (s.apply t).VarsIn (· ∉ s.bound) := by
  obtain ⟨bindings⟩ := s
  obtain ⟨distinct, acyclic, eliminated⟩ := triangular
  induction bindings generalizing t with
  | nil => exact fun y _ => List.not_mem_nil
  | cons binding rest ih =>
    obtain ⟨acyclicHere, acyclicLater⟩ := List.forall_mem_cons.mp acyclic
    obtain ⟨gone, eliminatedLater⟩ := List.pairwise_cons.mp eliminated
    have distinctLater := (List.nodup_cons.mp distinct).2
    -- The first binding removes its variable, and none of the later types has it.
    have without : (apply ⟨binding :: rest⟩ t).VarsIn (· ≠ binding.1) := by
      refine varsIn_apply (s := ⟨rest⟩) ?_ (Ty.varsIn_subst_ne acyclicHere t)
      rintro later member _ occurs rfl
      exact gone later member occurs
    have others := ih (t.subst binding.1 binding.2) distinctLater acyclicLater eliminatedLater
    intro y occurs
    rw [bound, List.map_cons, List.mem_cons, not_or]
    exact ⟨without y occurs, others y occurs⟩

theorem Triangular.apply_apply {s : Substitution ε} (triangular : s.Triangular) (t : Ty ε) :
    s.apply (s.apply t) = s.apply t :=
  apply_of_unbound (triangular.unbound_apply t)

end Substitution

namespace Solver

variable {s s' : State Empty}

/-- The bindings are triangular and have eliminated their variables from the work that is left. -/
structure Eliminated (s : State Empty) : Prop where
  triangular : s.solved.Triangular
  work : ∀ c ∈ s.work, c.VarsIn (· ∉ s.solved.bound)

theorem Eliminated.step (eliminated : Eliminated s) (fresh : FreshState s)
    (taken : s.step = .next s') : Eliminated s' := by
  obtain ⟨triangular, onWork⟩ := eliminated
  have undrawn : ∀ y, s.nextVar ≤ y → y < s'.nextVar → y ∉ s.solved.bound := by
    intro y le _ member
    obtain ⟨binding, inside, rfl⟩ := List.mem_map.mp member
    exact absurd (fresh.solved binding inside).1 (Int.not_lt.mpr le)
  have kept := varsIn_work_step onWork undrawn taken
  cases rule_of_step taken with
  | reduce _ _ _ solved _ =>
    rw [← solved] at triangular kept
    exact ⟨triangular, kept⟩
  | bind work binds left solved =>
    rw [work, List.forall_mem_cons] at onWork
    obtain ⟨unbound, older, -⟩ := binds.varsIn onWork.1 undrawn
    constructor
    · rw [solved]
      exact triangular.extend unbound binds.acyclic older
    · intro c member y occurs
      have before := kept c member y occurs
      rw [left] at member
      obtain ⟨d, -, rfl⟩ := List.mem_map.mp member
      have other := Constraint.varsIn_subst_ne binds.acyclic d y occurs
      simp [solved, before, other]

theorem Eliminated.reaches (eliminated : Eliminated s) (fresh : FreshState s)
    (path : Reaches s s') : Eliminated s' := by
  induction path with
  | refl => exact eliminated
  | tail path taken ih => exact ih.step (fresh.reaches path) taken

theorem Eliminated.initial (constraints : List (Constraint Empty)) (nextVar : Int) :
    Eliminated (State.initial constraints nextVar) :=
  ⟨.empty, fun _ _ _ _ => List.not_mem_nil⟩

/-- From a supply that has passed all ids in use, the solver ends in solved form: the bound variables
are different, they come from the set or were drawn on the way, no bound type has a variable that is
bound there or before, and applying the solution leaves none of them and can be done once or twice. -/
theorem solve_solvedForm (set : ConstraintSet Empty) (supply rest : Supply)
    (solution : Substitution Empty) (fresh : ∀ c ∈ set, ∀ x ∈ c.vars, x < supply.nextVar)
    (solved : (Drawing.solve set).run supply = .ok solution rest) :
    solution.bound.Nodup ∧
      (∀ x ∈ solution.bound,
        (∃ c ∈ set, x ∈ c.vars) ∨ supply.nextVar ≤ x ∧ x < rest.nextVar) ∧
      (∀ binding ∈ solution.bindings, binding.1 ∉ binding.2.vars) ∧
      solution.bindings.Pairwise (fun earlier later => earlier.1 ∉ later.2.vars) ∧
      (∀ t, ∀ x ∈ solution.bound, x ∉ (solution.apply t).vars) ∧
      ∀ t, solution.apply (solution.apply t) = solution.apply t := by
  obtain ⟨final, ran, rfl, rfl⟩ := Drawing.solve_ok.mp solved
  obtain ⟨path, -⟩ := run_ok ran
  have start : FreshState (State.initial set.ordered supply.nextVar) := .initial fresh
  have triangular := ((Eliminated.initial _ _).reaches start path).triangular
  have origin : Within (fun x => (∃ c ∈ set, x ∈ c.vars) ∨ supply.nextVar ≤ x) final := by
    refine (Within.initial ?_ supply.nextVar).reaches (fun y le _ => .inr le) path
    exact fun c member x occurs => .inl ⟨c, member, occurs⟩
  refine ⟨triangular.distinct, ?_, triangular.acyclic, triangular.eliminated, ?_,
    triangular.apply_apply⟩
  · intro x member
    obtain ⟨binding, inside, rfl⟩ := List.mem_map.mp member
    have drawn := ((start.reaches path).solved binding inside).1
    exact (origin.solved binding inside).1.imp_right fun le => ⟨le, drawn⟩
  · intro t x member occurs
    exact triangular.unbound_apply t x occurs member

/-- A binding that mentions two variables bound after it, and one to a variable that stays. -/
theorem solve_solvedForm_function :
    let set : ConstraintSet Empty := .ofList
      [.equal (.var 1) (.arrow (.var 2) (.var 3)), .consistent (.var 1) (.arrow .int .dyn)]
    let solution : Substitution Empty :=
      ⟨[(1, .arrow (.var 4) (.var 5)), (4, .int), (2, .int), (5, .var 3)]⟩
    (∀ c ∈ set, ∀ x ∈ c.vars, x < (Supply.startingAt 4).nextVar) ∧
      (Drawing.solve set).run (.startingAt 4) = .ok solution ⟨6, 4⟩ ∧
      solution.bound.Nodup ∧
      (∀ x ∈ solution.bound, (∃ c ∈ set, x ∈ c.vars) ∨ 4 ≤ x ∧ x < 6) ∧
      (∀ binding ∈ solution.bindings, binding.1 ∉ binding.2.vars) ∧
      solution.bindings.Pairwise (fun earlier later => earlier.1 ∉ later.2.vars) ∧
      (∀ t, ∀ x ∈ solution.bound, x ∉ (solution.apply t).vars) ∧
      ∀ t, solution.apply (solution.apply t) = solution.apply t := by
  intro set solution
  have fresh : ∀ c ∈ set, ∀ x ∈ c.vars, x < (Supply.startingAt 4).nextVar := by
    simp [set, Constraint.vars, Constraint.left, Constraint.right, Ty.vars, Ty.int,
      Supply.startingAt]
  have sorted : set.members.Pairwise fun c d => c.canonical ≤ d.canonical :=
    List.pairwise_pair.mpr (String.lt_asymm (Constraint.canonical_consistent_lt_equal _ _ _ _))
  have solved : (Drawing.solve set).run (.startingAt 4) = .ok solution ⟨6, 4⟩ := by
    refine Drawing.solve_ok.mpr ⟨⟨[], [], solution, 6⟩, ?_, rfl, rfl⟩
    rw [ConstraintSet.solve, ConstraintSet.ordered_of_sorted sorted]
    exact run_of_runFor 9 rfl
  exact ⟨fresh, solved, solve_solvedForm set (.startingAt 4) ⟨6, 4⟩ solution fresh solved⟩

/-- From a supply that is behind, a variable is drawn after it was bound, and bound again. -/
example :
    let set : ConstraintSet Empty := .ofList
      [.consistent (.var 2) (.arrow .int .bool), .consistent (.var 1) .int]
    ∃ final, State.run (State.initial set.members 0) = .ok final ∧ final.solved.bound = [1, 2, 0, 1] :=
  ⟨⟨[], [], ⟨[(1, .int), (2, .arrow (.var 0) (.var 1)), (0, .int), (1, .bool)]⟩, 2⟩,
    run_of_runFor 6 rfl, rfl⟩

end Solver

end Gradual
