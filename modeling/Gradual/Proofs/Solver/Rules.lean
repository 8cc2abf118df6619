import Gradual.Proofs.Assignment
import Gradual.Solver

/-! What one step of the solver does, over the grammar. The work that is left is read as one list of
constraints. A step takes the first of them and either replaces it by others (`Reduces`), or binds a
variable and eliminates it (`Binds`), or reports a conflict. Every property of the solver below is
derived from these rules and none looks into `step` again. -/
namespace Gradual.Solver

variable {ε : Type}

/-- Everything that is still to be dealt with, in the order in which it is taken up. -/
def State.work (s : State ε) : List (Constraint ε) :=
  s.pairs.map (fun pair => .consistent pair.1 pair.2) ++
    s.equations.map (fun pair => .equal pair.1 pair.2)

/-- A type whose outermost constructor no assignment changes, other than `?`. -/
def rigid : Ty ε → Bool
  | .param _ | .base _ | .arrow _ _ => true
  | .var _ | .dyn | .host _ => false

/-- Outermost constructors that cannot be brought together. -/
structure Clash (l r : Ty ε) : Prop where
  left : rigid l = true
  right : rigid r = true
  differ : l ≠ r
  notArrows : (l.isArrow && r.isArrow) = false

inductive Reduces : Constraint Empty → List (Constraint Empty) → Prop
  | same (t : Ty Empty) : Reduces (.consistent t t) []
  | dynLeft (t : Ty Empty) : Reduces (.consistent .dyn t) []
  | dynRight (t : Ty Empty) : Reduces (.consistent t .dyn) []
  | arrows (a b c d : Ty Empty) :
      Reduces (.consistent (.arrow a b) (.arrow c d)) [.consistent a c, .consistent b d]
  | turn (t : Ty Empty) (x : Int) : Reduces (.consistent t (.var x)) [.consistent (.var x) t]
  | equalSame (t : Ty Empty) : Reduces (.equal t t) []
  | equalArrows (a b c d : Ty Empty) :
      Reduces (.equal (.arrow a b) (.arrow c d)) [.equal a c, .equal b d]
  | equalTurn (t : Ty Empty) (x : Int) : Reduces (.equal t (.var x)) [.equal (.var x) t]

/-- With `next` as the first unused id, the constraint binds `x` to `t`, leaves other constraints
and makes `later` the first unused id. -/
inductive Binds (next : Int) :
    Constraint Empty → Int → Ty Empty → List (Constraint Empty) → Int → Prop
  | atom {x : Int} {t : Ty Empty} (atom : t.isAtom = true) (acyclic : x ∉ t.vars) :
      Binds next (.consistent (.var x) t) x t [] next
  | shape {x : Int} {a b : Ty Empty} (acyclic : x ∉ (Ty.arrow a b).vars)
      (apart : x ≠ next ∧ x ≠ next + 1) :
      Binds next (.consistent (.var x) (.arrow a b)) x (.arrow (.var next) (.var (next + 1)))
        [.consistent (.var next) a, .consistent (.var (next + 1)) b] (next + 2)
  | equation {x : Int} {t : Ty Empty} (acyclic : x ∉ t.vars) :
      Binds next (.equal (.var x) t) x t [] next

/-- A constraint that no rule fits, the one that is blamed for it, and the first unused id after that.
They differ only when a fresh variable turns out to be the variable it was drawn for. -/
inductive Conflict (next : Int) : Constraint Empty → Constraint Empty → Int → Prop
  | cycle {x : Int} {a b : Ty Empty} (cyclic : x ∈ (Ty.arrow a b).vars) :
      Conflict next (.consistent (.var x) (.arrow a b)) (.consistent (.var x) (.arrow a b)) next
  | reused {x : Int} {a b : Ty Empty} (acyclic : x ∉ (Ty.arrow a b).vars)
      (drawn : x = next ∨ x = next + 1) :
      Conflict next (.consistent (.var x) (.arrow a b))
        (.equal (.var x) (.arrow (.var next) (.var (next + 1)))) (next + 2)
  | clash {l r : Ty Empty} (clash : Clash l r) :
      Conflict next (.consistent l r) (.consistent l r) next
  | equalCycle {x : Int} {t : Ty Empty} (cyclic : x ∈ t.vars) (other : t ≠ .var x) :
      Conflict next (.equal (.var x) t) (.equal (.var x) t) next
  | equalClash {l r : Ty Empty} (clash : Clash l r) :
      Conflict next (.equal l r) (.equal l r) next
  | equalDynamic {l r : Ty Empty} (dynamic : ¬ (Constraint.equal l r).IsStatic) :
      Conflict next (.equal l r) (.equal l r) next

inductive Rule (s : State Empty) : Outcome Empty → Prop
  | finished (work : s.work = []) : Rule s .finished
  | reduce {s' : State Empty} {c : Constraint Empty} {rest new : List (Constraint Empty)}
      (work : s.work = c :: rest) (reduces : Reduces c new) (left : s'.work = new ++ rest)
      (solved : s'.solved = s.solved) (supply : s'.nextVar = s.nextVar) : Rule s (.next s')
  | bind {s' : State Empty} {c : Constraint Empty} {rest new : List (Constraint Empty)} {x : Int}
      {t : Ty Empty} (work : s.work = c :: rest) (binds : Binds s.nextVar c x t new s'.nextVar)
      (left : s'.work = (new ++ rest).map (·.subst x t))
      (solved : s'.solved = s.solved.extend x t) : Rule s (.next s')
  | stuck {s' : State Empty} {c blamed : Constraint Empty} {rest : List (Constraint Empty)}
      (work : s.work = c :: rest) (conflict : Conflict s.nextVar c blamed s'.nextVar) :
      Rule s (.stuck (.conflict blamed) s')

theorem hostIn_grammar (pairs : List (Ty Empty × Ty Empty)) : hostIn pairs = none := by
  simp [hostIn]

theorem bind_grammar (s : State Empty) (x : Int) (t : Ty Empty) :
    s.bind x t = .next ⟨substPairs s.pairs x t, substPairs s.equations x t, s.solved.extend x t,
      s.nextVar⟩ := by
  simp [State.bind, hostIn_grammar]

theorem work_subst (s : State ε) (x : Int) (t : Ty ε) (solved : Substitution ε) (next : Int) :
    State.work ⟨substPairs s.pairs x t, substPairs s.equations x t, solved, next⟩ =
      s.work.map (·.subst x t) := by
  simp [State.work, substPairs, substPair, Function.comp_def, Constraint.subst,
    Constraint.mapSides]

theorem rigid_of_other {t : Ty Empty} (notDyn : t ≠ .dyn) (notVar : ∀ x, t ≠ .var x) :
    rigid t = true := by
  cases t with
  | var x => exact absurd rfl (notVar x)
  | dyn => exact absurd rfl notDyn
  | host leaf => exact leaf.elim
  | _ => rfl

theorem clash_of_differ {l r : Ty Empty} (differ : ¬ l.sameAtom r = true) (left : rigid l = true)
    (right : rigid r = true) (arrows : ∀ a b c d, l = .arrow a b → r = .arrow c d → False) :
    Clash l r where
  left := left
  right := right
  differ same := by
    subst same
    cases l with
    | arrow a b => exact arrows a b a b rfl rfl
    | _ => simp [rigid, Ty.sameAtom] at left differ
  notArrows := by
    cases l with
    | arrow a b =>
      cases r with
      | arrow c d => exact (arrows a b c d rfl rfl).elim
      | _ => rfl
    | _ => rfl

theorem split_rule (s : State Empty) (x : Int) (a b : Ty Empty) :
    Rule { s with pairs := (.var x, .arrow a b) :: s.pairs } (s.split x a b) := by
  simp only [State.split, Ty.host?_grammar, TypingError.ofConflict_grammar]
  split
  · rename_i cyclic
    exact .stuck rfl (.cycle cyclic)
  · rename_i acyclic
    split
    · rename_i drawn
      exact .stuck rfl (.reused acyclic drawn)
    · rename_i apart
      rw [bind_grammar]
      exact .bind rfl (.shape acyclic (not_or.mp apart)) (work_subst _ _ _ _ _) rfl

theorem relate_rule (s : State Empty) (l r : Ty Empty) :
    Rule { s with pairs := (l, r) :: s.pairs } (s.relate l r) := by
  unfold State.relate
  split
  · rename_i same
    obtain ⟨rfl, _⟩ := Ty.sameAtom_iff.mp same
    exact .reduce rfl (.same l) rfl rfl rfl
  rename_i differ
  split
  · exact .reduce rfl (.dynLeft r) rfl rfl rfl
  · exact .reduce rfl (.dynRight l) rfl rfl rfl
  · exact .reduce rfl (.arrows _ _ _ _) rfl rfl rfl
  · exact split_rule s _ _ _
  · rename_i x notDyn notArrow
    have atom : r.isAtom = true := by
      cases r with
      | dyn => exact absurd rfl notDyn
      | arrow a b => exact absurd rfl (notArrow a b)
      | host leaf => exact leaf.elim
      | _ => rfl
    have acyclic : x ∉ r.vars := by
      intro member
      cases r with
      | var y =>
        obtain rfl : x = y := by simpa [Ty.vars] using member
        simp [Ty.sameAtom] at differ
      | _ => simp [Ty.isAtom, Ty.vars] at atom member
    rw [if_pos atom, bind_grammar]
    exact .bind rfl (.atom atom acyclic) (work_subst _ _ _ _ _) rfl
  · exact .reduce rfl (.turn _ _) rfl rfl rfl
  · rename_i dynLeft varLeft dynRight varRight arrows _
    rw [TypingError.ofConflict_grammar]
    exact .stuck rfl (.clash (clash_of_differ differ (rigid_of_other dynLeft varLeft)
      (rigid_of_other dynRight varRight) arrows))

theorem equate_rule (s : State Empty) (l r : Ty Empty) (done : s.pairs = []) :
    Rule { s with equations := (l, r) :: s.equations } (s.equate l r) := by
  obtain ⟨pairs, equations, solved, next⟩ := s
  obtain rfl : pairs = [] := done
  unfold State.equate
  split
  · rename_i same
    obtain ⟨rfl, _⟩ := Ty.sameAtom_iff.mp same
    exact .reduce rfl (.equalSame l) rfl rfl rfl
  rename_i differ
  split
  · rename_i a b c d
    split
    · exact .reduce rfl (.equalArrows a b c d) rfl rfl rfl
    · rename_i dynamic
      rw [TypingError.ofConflict_grammar]
      refine .stuck rfl (.equalDynamic fun static => dynamic ?_)
      obtain ⟨left, right⟩ := static
      simp only [Ty.isStatic, Bool.and_eq_true] at left right
      simp [left, right]
  · rename_i x _
    simp only [Ty.host?_grammar, TypingError.ofConflict_grammar]
    split
    · rename_i cyclic
      refine .stuck rfl (.equalCycle cyclic ?_)
      rintro rfl
      simp [Ty.sameAtom] at differ
    · rename_i acyclic
      rw [bind_grammar]
      exact .bind rfl (.equation acyclic) (work_subst _ _ _ _ _) rfl
  · rename_i x _
    split
    · exact .reduce rfl (.equalTurn l x) rfl rfl rfl
    · rename_i dynamic
      rw [TypingError.ofConflict_grammar]
      exact .stuck rfl (.equalDynamic fun static => dynamic static.1)
  · rename_i varLeft varRight arrows
    rw [TypingError.ofConflict_grammar]
    by_cases static : (Constraint.equal l r).IsStatic
    · refine .stuck rfl (.equalClash (clash_of_differ differ (rigid_of_other ?_ varLeft)
        (rigid_of_other ?_ varRight) arrows))
      · rintro rfl
        simp [Constraint.IsStatic, Ty.isStatic] at static
      · rintro rfl
        simp [Constraint.IsStatic, Ty.isStatic] at static
    · exact .stuck rfl (.equalDynamic static)

theorem step_rule (s : State Empty) : Rule s s.step := by
  obtain ⟨pairs, equations, solved, next⟩ := s
  cases pairs with
  | cons pair rest => exact relate_rule ⟨rest, equations, solved, next⟩ pair.1 pair.2
  | nil =>
    cases equations with
    | cons pair rest => exact equate_rule ⟨[], rest, solved, next⟩ pair.1 pair.2 rfl
    | nil => exact .finished rfl

theorem rule_of_step {s : State Empty} {outcome : Outcome Empty} (taken : s.step = outcome) :
    Rule s outcome := taken ▸ step_rule s

end Gradual.Solver
