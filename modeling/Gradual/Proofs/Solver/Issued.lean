import Gradual.Proofs.Solver.Invariants
import Mathlib.Data.Int.Range

/-! The variables that a run of the solver draws. Only a variable that has to take the shape of a
function makes it draw any, two at a time, of which that shape is made. All that are drawn in a run count
up from where the supply stood to where the run leaves it, whether it ends well or gets stuck. -/
namespace Gradual

theorem range_append {first middle last : Int} (le : first ≤ middle) (later : middle ≤ last) :
    Int.range first middle ++ Int.range middle last = Int.range first last := by
  obtain ⟨n, rfl⟩ := Int.le.dest le
  obtain ⟨m, rfl⟩ := Int.le.dest later
  have front : (first + n - first).toNat = n := by omega
  have back : (first + n + m - (first + n)).toNat = m := by omega
  have whole : (first + n + m - first).toNat = n + m := by omega
  rw [Int.range, Int.range, Int.range, front, back, whole, List.range_add, List.map_append,
    List.map_map]
  refine congrArg _ (List.map_congr_left fun i _ => ?_)
  simp only [Function.comp_apply]
  omega

theorem range_self (first : Int) : Int.range first first = [] := by
  simp [Int.range]

theorem range_pair (first : Int) : Int.range first (first + 2) = [first, first + 1] := by
  simp [Int.range, List.range_succ]

namespace Solver

namespace State

variable (s : State Empty)

/-- Gives `x` the shape of a function as `split` does, and says which variables are drawn for it. -/
def splitIssuing (x : Int) (a b : Ty Empty) : Outcome Empty × List Int :=
  if x ∈ a.vars ++ b.vars then
    (.stuck (.conflict (.consistent (.var x) (.arrow a b))) s, [])
  else
    let ((dom, cod), rest) := (Supply.startingAt s.nextVar).drawVarPair
    let shape : Ty Empty := .arrow (.var dom) (.var cod)
    let outcome :=
      if x = dom ∨ x = cod then
        .stuck (.conflict (.equal (.var x) shape)) { s with nextVar := rest.nextVar }
      else
        bind { s with
          pairs := (.var dom, a) :: (.var cod, b) :: s.pairs
          nextVar := rest.nextVar } x shape
    (outcome, [dom, cod])

/-- One step, and the variables that are drawn in it. -/
def stepIssuing : Outcome Empty × List Int :=
  match s.pairs with
  | (.var x, .arrow a b) :: rest => { s with pairs := rest }.splitIssuing x a b
  | _ => (s.step, [])

theorem splitIssuing_outcome (x : Int) (a b : Ty Empty) :
    (s.splitIssuing x a b).1 = s.split x a b := by
  simp only [splitIssuing, split, Ty.host?_grammar, TypingError.ofConflict_grammar]
  split <;> rfl

theorem stepIssuing_outcome : s.stepIssuing.1 = s.step := by
  unfold stepIssuing
  split
  next x a b rest found =>
    rw [splitIssuing_outcome, step, found]
    rfl
  next => rfl

/-- All variables that are drawn from here to the end of the run. -/
def issued (s : State Empty) : List Int :=
  match _taken : s.stepIssuing.1 with
  | .next s' => s.stepIssuing.2 ++ s'.issued
  | _ => s.stepIssuing.2
termination_by smaller_wf.wrap s.rank
decreasing_by exact step_smaller (s.stepIssuing_outcome ▸ _taken)

end State

/-- The state in which an outcome leaves the run, unless it had nothing left to do. -/
def Outcome.state? {ε : Type} : Outcome ε → Option (State ε)
  | .finished => none
  | .next s | .stuck _ s => some s

section Step

variable {s s' : State Empty}

theorem splitIssuing_range {x : Int} {a b : Ty Empty}
    (left : (s.splitIssuing x a b).1.state? = some s') :
    s.nextVar ≤ s'.nextVar ∧ (s.splitIssuing x a b).2 = Int.range s.nextVar s'.nextVar := by
  unfold State.splitIssuing at left ⊢
  split at left
  next cyclic =>
    obtain rfl := Option.some.inj left
    rw [if_pos cyclic, range_self]
    exact ⟨Int.le_refl _, rfl⟩
  next acyclic =>
    have drawn : s'.nextVar = s.nextVar + 2 := by
      simp only [bind_grammar] at left
      split at left <;> cases left <;> rfl
    rw [if_neg acyclic, drawn, range_pair]
    exact ⟨by omega, rfl⟩

theorem Binds.supply_of_ne {next later x : Int} {c : Constraint Empty} {t : Ty Empty}
    {new : List (Constraint Empty)} (binds : Binds next c x t new later)
    (other : ∀ y a b, c ≠ .consistent (.var y) (.arrow a b)) : later = next := by
  cases binds with
  | shape => exact absurd rfl (other x _ _)
  | atom | equation => rfl

theorem Conflict.supply_of_ne {next later : Int} {c blamed : Constraint Empty}
    (conflict : Conflict next c blamed later)
    (other : ∀ y a b, c ≠ .consistent (.var y) (.arrow a b)) : later = next := by
  cases conflict with
  | reused => exact absurd rfl (other _ _ _)
  | _ => rfl

theorem pairs_of_work {l r : Ty Empty} {rest : List (Constraint Empty)}
    (work : s.work = .consistent l r :: rest) : ∃ pairs, s.pairs = (l, r) :: pairs := by
  obtain ⟨pairs, equations, solved, next⟩ := s
  cases pairs with
  | nil => cases equations <;> simp [State.work] at work
  | cons pair pairs =>
    obtain ⟨⟨rfl, rfl⟩, -⟩ : (pair.1 = l ∧ pair.2 = r) ∧ _ := by simpa [State.work] using work
    exact ⟨pairs, rfl⟩

/-- A step that does not take up a variable and a function leaves the supply alone. -/
theorem Rule.supply_of_ne {outcome : Outcome Empty} (rule : Rule s outcome)
    (other : ∀ x a b rest, s.pairs = (.var x, .arrow a b) :: rest → False)
    (left : outcome.state? = some s') : s'.nextVar = s.nextVar := by
  have different {c : Constraint Empty} {rest : List (Constraint Empty)} (work : s.work = c :: rest)
      (x : Int) (a b : Ty Empty) : c ≠ .consistent (.var x) (.arrow a b) := by
    rintro rfl
    obtain ⟨pairs, found⟩ := pairs_of_work work
    exact other x a b pairs found
  cases rule with
  | finished => cases left
  | reduce _ _ _ _ supply =>
    obtain rfl := Option.some.inj left
    exact supply
  | bind work binds _ _ =>
    obtain rfl := Option.some.inj left
    exact binds.supply_of_ne (different work)
  | stuck work conflict =>
    obtain rfl := Option.some.inj left
    exact conflict.supply_of_ne (different work)

/-- What a step draws are the ids from its supply up to the one it leaves. -/
theorem stepIssuing_range (left : s.step.state? = some s') :
    s.nextVar ≤ s'.nextVar ∧ s.stepIssuing.2 = Int.range s.nextVar s'.nextVar := by
  have issuing := left
  rw [← s.stepIssuing_outcome] at issuing
  unfold State.stepIssuing at issuing ⊢
  split at issuing
  next found => exact splitIssuing_range issuing
  next other =>
    have kept := (step_rule s).supply_of_ne other left
    rw [kept, range_self]
    exact ⟨Int.le_refl _, rfl⟩

end Step

section Run

variable {s final : State Empty}

theorem issued_next {s' : State Empty} (taken : s.step = .next s') :
    s.issued = s.stepIssuing.2 ++ s'.issued := by
  rw [← s.stepIssuing_outcome] at taken
  rw [State.issued]
  split <;> simp_all

theorem issued_last (last : ∀ s', s.step ≠ .next s') : s.issued = s.stepIssuing.2 := by
  rw [← s.stepIssuing_outcome] at last
  unfold State.issued
  split <;> simp_all

theorem stepIssuing_finished (taken : s.step = .finished) : s.stepIssuing.2 = [] := by
  have issuing := taken
  rw [← s.stepIssuing_outcome] at issuing
  unfold State.stepIssuing at issuing ⊢
  split at issuing
  next =>
    unfold State.splitIssuing at issuing
    simp only [bind_grammar] at issuing
    split at issuing
    · cases issuing
    · split at issuing <;> cases issuing
  next => rfl

/-- What a run draws are the ids from its supply up to the one it leaves, however it ends. -/
theorem issued_range (ended : s.run = .ok final ∨ ∃ error, s.run = .error ⟨error, final⟩) :
    s.nextVar ≤ final.nextVar ∧ s.issued = Int.range s.nextVar final.nextVar := by
  induction s using step_induction with
  | advance s ih =>
    cases taken : s.step with
    | finished =>
      obtain rfl : s = final := by simpa [run_finished taken] using ended
      rw [issued_last (by simp [taken]), stepIssuing_finished taken, range_self]
      exact ⟨Int.le_refl _, rfl⟩
    | next s' =>
      rw [run_next taken] at ended
      obtain ⟨le, here⟩ := stepIssuing_range (s := s) (congrArg Outcome.state? taken)
      obtain ⟨later, rest⟩ := ih s' taken ended
      rw [issued_next taken, here, rest, range_append le later]
      exact ⟨Int.le_trans le later, rfl⟩
    | stuck error state =>
      obtain rfl : state = final := by simpa [run_stuck taken] using ended
      rw [issued_last (by simp [taken])]
      exact stepIssuing_range (congrArg Outcome.state? taken)

end Run

section Variables

variable {P : Int → Prop}

theorem Conflict.varsIn {next later : Int} {c blamed : Constraint Empty}
    (conflict : Conflict next c blamed later) (inside : c.VarsIn P)
    (drawn : ∀ y, next ≤ y → y < later → P y) : blamed.VarsIn P := by
  cases conflict with
  | reused =>
    have first := drawn next (by omega) (by omega)
    have second := drawn (next + 1) (by omega) (by omega)
    rw [Constraint.varsIn_consistent] at inside
    simp [inside.1, first, second]
  | _ => exact inside

variable {set : ConstraintSet Empty} {nextVar : Int}

/-- The variables of a solution come from the set or were drawn on the way. -/
theorem solve_varsIn {final : State Empty} (solved : set.solve nextVar = .ok final)
    (inside : ∀ c ∈ set, c.VarsIn P)
    (drawn : ∀ y ∈ (State.initial set.ordered nextVar).issued, P y) :
    ∀ binding ∈ final.solved.bindings, P binding.1 ∧ binding.2.VarsIn P := by
  rw [(issued_range (.inl solved)).2] at drawn
  refine ((Within.initial inside nextVar).reaches (fun y le lt => ?_) (run_ok solved).1).solved
  exact drawn y (Int.mem_range_iff.mpr ⟨le, lt⟩)

/-- So do those of a constraint that is blamed. -/
theorem blamed_varsIn {failure : Failure Empty} (failed : set.solve nextVar = .error failure)
    (inside : ∀ c ∈ set, c.VarsIn P)
    (drawn : ∀ y ∈ (State.initial set.ordered nextVar).issued, P y) :
    ∃ blamed, failure.error = .conflict blamed ∧ blamed.VarsIn P := by
  obtain ⟨last, path, stuck⟩ := run_error failed
  have le := supply_le_reaches path
  have more := (stepIssuing_range (congrArg Outcome.state? stuck)).1
  rw [(issued_range (.inr ⟨failure.error, failed⟩)).2] at drawn
  have all : ∀ y, nextVar ≤ y → y < failure.state.nextVar → P y :=
    fun y le lt => drawn y (Int.mem_range_iff.mpr ⟨le, lt⟩)
  have within := (Within.initial inside nextVar).reaches
    (fun y le lt => all y le (Int.lt_of_lt_of_le lt more)) path
  generalize failure.error = error at stuck ⊢
  cases rule_of_step stuck with
  | stuck work conflict =>
    refine ⟨_, rfl, conflict.varsIn ?_ fun y least lt => all y (Int.le_trans le least) lt⟩
    exact within.work _ (work ▸ List.mem_cons_self)

end Variables

end Solver

end Gradual
