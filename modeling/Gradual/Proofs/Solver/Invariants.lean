import Gradual.Proofs.Solver.Runs

/-! Invariants of a run. Equations between static types only ever bind variables to static types. No
variable comes in but those that are drawn; so if the supply starts after all ids in use, every id in
the state was drawn before those to come. -/
namespace Gradual.Solver

/-- The sides of all equations and all bound types are static. -/
structure StaticState (s : State Empty) : Prop where
  work : ∀ c ∈ s.work, c.IsStatic
  solved : s.solved.IsStatic

/-- The condition holds of every variable in the state. -/
structure Within (P : Int → Prop) (s : State Empty) : Prop where
  work : ∀ c ∈ s.work, c.VarsIn P
  solved : ∀ binding ∈ s.solved.bindings, P binding.1 ∧ binding.2.VarsIn P

/-- The supply has passed every id in the state. -/
def FreshState (s : State Empty) : Prop := Within (· < s.nextVar) s

section Rules

variable {P : Int → Prop} {next later x : Int} {c : Constraint Empty} {t : Ty Empty}
  {new : List (Constraint Empty)}

theorem Reduces.static (reduces : Reduces c new) (static : c.IsStatic) :
    ∀ d ∈ new, d.IsStatic := by
  cases reduces with
  | equalArrows a b c d =>
    obtain ⟨left, right⟩ := static
    simp only [Ty.isStatic, Bool.and_eq_true] at left right
    simp [Constraint.IsStatic, left, right]
  | equalTurn t x =>
    obtain ⟨left, right⟩ := static
    simp [Constraint.IsStatic, left, right]
  | _ => simp [Constraint.IsStatic]

theorem Reduces.varsIn (reduces : Reduces c new) (inside : c.VarsIn P) :
    ∀ d ∈ new, d.VarsIn P := by
  cases reduces with
  | arrows a b c d | equalArrows a b c d =>
    simp only [Constraint.varsIn_consistent, Constraint.varsIn_equal, Ty.varsIn_arrow] at inside
    simp [inside]
  | turn t x | equalTurn t x =>
    simp only [Constraint.varsIn_consistent, Constraint.varsIn_equal] at inside
    simpa [inside.1] using inside.2
  | _ => simp

theorem Binds.static (binds : Binds next c x t new later) (static : c.IsStatic) :
    t.isStatic = true ∧ ∀ d ∈ new, d.IsStatic := by
  cases binds with
  | atom atom _ =>
    refine ⟨?_, by simp⟩
    cases t <;> simp [Ty.isAtom, Ty.isStatic] at atom ⊢
  | shape => exact ⟨rfl, by simp [Constraint.IsStatic]⟩
  | equation => exact ⟨static.2, by simp⟩

theorem Binds.supply_le (binds : Binds next c x t new later) : next ≤ later := by
  cases binds with
  | atom | equation => exact Int.le_refl _
  | shape => omega

theorem Binds.varsIn (binds : Binds next c x t new later) (inside : c.VarsIn P)
    (drawn : ∀ y, next ≤ y → y < later → P y) :
    P x ∧ t.VarsIn P ∧ ∀ d ∈ new, d.VarsIn P := by
  cases binds with
  | atom | equation =>
    simp only [Constraint.varsIn_consistent, Constraint.varsIn_equal, Ty.varsIn_var] at inside
    exact ⟨inside.1, inside.2, by simp⟩
  | shape =>
    simp only [Constraint.varsIn_consistent, Ty.varsIn_var, Ty.varsIn_arrow] at inside
    have first := drawn next (by omega) (by omega)
    have second := drawn (next + 1) (by omega) (by omega)
    exact ⟨inside.1, by simp [first, second], by simp [inside, first, second]⟩

end Rules

theorem supply_le_step {s s' : State Empty} (taken : s.step = .next s') :
    s.nextVar ≤ s'.nextVar := by
  cases rule_of_step taken with
  | reduce _ _ _ _ supply => exact Int.le_of_eq supply.symm
  | bind _ binds _ _ => exact binds.supply_le

theorem supply_le_reaches {s s' : State Empty} (path : Reaches s s') : s.nextVar ≤ s'.nextVar := by
  induction path with
  | refl => exact Int.le_refl _
  | tail _ taken ih => exact Int.le_trans ih (supply_le_step taken)

theorem StaticState.step {s s' : State Empty} (static : StaticState s)
    (taken : s.step = .next s') : StaticState s' := by
  obtain ⟨onWork, onSolved⟩ := static
  cases rule_of_step taken with
  | reduce work reduces left solved _ =>
    rw [work, List.forall_mem_cons] at onWork
    refine ⟨?_, by rw [solved]; exact onSolved⟩
    rw [left]
    exact List.forall_mem_append.mpr ⟨reduces.static onWork.1, onWork.2⟩
  | bind work binds left solved =>
    rw [work, List.forall_mem_cons] at onWork
    obtain ⟨bound, onNew⟩ := binds.static onWork.1
    constructor
    · rw [left, List.forall_mem_map]
      intro d member
      refine Constraint.IsStatic.subst ?_ bound
      exact List.forall_mem_append.mpr ⟨onNew, onWork.2⟩ d member
    · rw [solved]
      exact List.forall_mem_append.mpr ⟨onSolved, by simpa using bound⟩

/-- No step brings in a variable but those of the work and those it draws. -/
theorem varsIn_work_step {P : Int → Prop} {s s' : State Empty} (onWork : ∀ c ∈ s.work, c.VarsIn P)
    (drawn : ∀ y, s.nextVar ≤ y → y < s'.nextVar → P y) (taken : s.step = .next s') :
    ∀ c ∈ s'.work, c.VarsIn P := by
  cases rule_of_step taken with
  | reduce work reduces left _ _ =>
    rw [work, List.forall_mem_cons] at onWork
    rw [left]
    exact List.forall_mem_append.mpr ⟨reduces.varsIn onWork.1, onWork.2⟩
  | bind work binds left _ =>
    rw [work, List.forall_mem_cons] at onWork
    obtain ⟨_, inside, onNew⟩ := binds.varsIn onWork.1 drawn
    rw [left, List.forall_mem_map]
    intro d member
    have before : d.VarsIn P := List.forall_mem_append.mpr ⟨onNew, onWork.2⟩ d member
    exact before.subst inside

namespace Within

variable {P Q : Int → Prop} {s s' : State Empty}

theorem mono (within : Within P s) (weaker : ∀ y, P y → Q y) : Within Q s where
  work c member := (within.work c member).mono weaker
  solved binding member :=
    (within.solved binding member).imp (weaker _) fun inside => inside.mono weaker

theorem step (within : Within P s) (drawn : ∀ y, s.nextVar ≤ y → y < s'.nextVar → P y)
    (taken : s.step = .next s') : Within P s' := by
  obtain ⟨onWork, onSolved⟩ := within
  refine ⟨varsIn_work_step onWork drawn taken, ?_⟩
  cases rule_of_step taken with
  | reduce _ _ _ solved _ =>
    rw [solved]
    exact onSolved
  | bind work binds _ solved =>
    rw [work, List.forall_mem_cons] at onWork
    obtain ⟨here, inside, -⟩ := binds.varsIn onWork.1 drawn
    rw [solved]
    exact List.forall_mem_append.mpr ⟨onSolved, List.forall_mem_singleton.mpr ⟨here, inside⟩⟩

theorem reaches (within : Within P s) (drawn : ∀ y, s.nextVar ≤ y → y < s'.nextVar → P y)
    (path : Reaches s s') : Within P s' := by
  induction path with
  | refl => exact within
  | tail path taken ih =>
    have before := ih fun y le lt => drawn y le (Int.lt_of_lt_of_le lt (supply_le_step taken))
    refine before.step (fun y le lt => drawn y ?_ lt) taken
    exact Int.le_trans (supply_le_reaches path) le

theorem initial {set : ConstraintSet Empty} (inside : ∀ c ∈ set, c.VarsIn P) (nextVar : Int) :
    Within P (State.initial set.ordered nextVar) := by
  refine ⟨?_, fun binding member => absurd member List.not_mem_nil⟩
  rw [initial_work_ordered]
  exact fun c member => inside c ((ConstraintSet.mem_ordered c set).mp member)

end Within

theorem StaticState.reaches {s s' : State Empty} (static : StaticState s) (path : Reaches s s') :
    StaticState s' := by
  induction path with
  | refl => exact static
  | tail _ taken ih => exact ih.step taken

theorem StaticState.initial {set : ConstraintSet Empty} (static : ∀ c ∈ set, c.IsStatic)
    (nextVar : Int) : StaticState (State.initial set.ordered nextVar) := by
  refine ⟨?_, fun binding member => absurd member List.not_mem_nil⟩
  rw [initial_work_ordered]
  exact fun c member => static c ((ConstraintSet.mem_ordered c set).mp member)

theorem FreshState.reaches {s s' : State Empty} (fresh : FreshState s) (path : Reaches s s') :
    FreshState s' := by
  have le := supply_le_reaches path
  have older : Within (· < s'.nextVar) s := fresh.mono fun y old => Int.lt_of_lt_of_le old le
  exact older.reaches (fun y _ new => new) path

theorem FreshState.initial {set : ConstraintSet Empty} {nextVar : Int}
    (fresh : ∀ c ∈ set, c.VarsIn (· < nextVar)) :
    FreshState (State.initial set.ordered nextVar) :=
  Within.initial fresh nextVar

end Gradual.Solver
