import Gradual.Proofs.Drawing
import Gradual.Proofs.Solver.Issued
import Mathlib.Order.Defs.PartialOrder

/-! Inference with a ledger. Wherever generation, the solver or generalisation draws an id, the id is
entered. A recorded inference comes to what the plain one comes to and leaves the same supply, and its
entries are the ids from the supply that it was given up to the one it leaves, also where it fails half
way. -/
namespace Gradual

/-- A supply comes after another if no counter is behind. -/
instance : Preorder Supply where
  le s s' := s.nextVar ≤ s'.nextVar ∧ s.nextParam ≤ s'.nextParam
  le_refl s := ⟨Int.le_refl _, Int.le_refl _⟩
  le_trans s s' s'' before after :=
    ⟨Int.le_trans before.1 after.1, Int.le_trans before.2 after.2⟩

/-- A supply, with the variables and the parameters that were drawn from it. -/
structure Ledger where
  supply : Supply
  vars : List Int
  params : List Int

namespace Ledger

def ofSupply (supply : Supply) : Ledger := ⟨supply, [], []⟩

def drawVar (ledger : Ledger) : Int × Ledger :=
  let (x, rest) := ledger.supply.drawVar
  (x, { ledger with supply := rest, vars := ledger.vars ++ [x] })

def drawVarPair (ledger : Ledger) : (Int × Int) × Ledger :=
  let ((x, y), rest) := ledger.supply.drawVarPair
  ((x, y), { ledger with supply := rest, vars := ledger.vars ++ [x, y] })

def drawParam (ledger : Ledger) : Int × Ledger :=
  let (a, rest) := ledger.supply.drawParam
  (a, { ledger with supply := rest, params := ledger.params ++ [a] })

/-- Enters what a run of the solver drew, which leaves `nextVar` as the first unused id. -/
def enter (ledger : Ledger) (vars : List Int) (nextVar : Int) : Ledger :=
  { ledger with supply := { ledger.supply with nextVar }, vars := ledger.vars ++ vars }

end Ledger

/-- Computations that draw fresh ids, enter them and may end in a typing error. -/
abbrev Recording := EStateM (TypingError Empty) Ledger

namespace Recording

def freshVar : Recording (Ty Empty) := do
  let (x, rest) := (← get).drawVar
  set rest
  return .var x

def freshVarPair : Recording (Ty Empty × Ty Empty) := do
  let ((x, y), rest) := (← get).drawVarPair
  set rest
  return (.var x, .var y)

def freshParam : Recording (Ty Empty) := do
  let (a, rest) := (← get).drawParam
  set rest
  return .param a

def codomain (operator : Ty Empty) : Recording (Ty Empty × ConstraintSet Empty) :=
  match operator with
  | .var x => do
    let (dom, cod) ← freshVarPair
    return (cod, .ofList [.equal (.var x) (.arrow dom cod)])
  | .arrow _ cod => return (cod, ∅)
  | .dyn => return (.dyn, ∅)
  | other => throw (.notApplicable other)

def domain (operator arg : Ty Empty) : Recording (ConstraintSet Empty) :=
  match operator with
  | .var x => do
    let (dom, cod) ← freshVarPair
    return .ofList [.equal (.var x) (.arrow dom cod), .consistent dom arg]
  | .arrow dom _ => return .ofList [.consistent dom arg]
  | .dyn => return .ofList [.consistent .dyn arg]
  | other => throw (.notApplicable other)

def generate (env : Env Empty) : Expr Empty → Recording (Ty Empty × ConstraintSet Empty)
  | .var x =>
    match env.get? x with
    | some t => return (t, ∅)
    | none => throw (.unbound x)
  | .int _ => return (.int, ∅)
  | .bool _ => return (.bool, ∅)
  | .add l r => do
    let (left, c₁) ← generate env l
    let (right, c₂) ← generate env r
    return (.int, ((c₁.union c₂).add (.consistent left .int)).add (.consistent right .int))
  | .lam x none body => do
    let param ← freshVar
    let (result, c) ← generate (env.extend x param) body
    return (.arrow param result, c)
  | .lam x (some param) body => do
    let (result, c) ← generate (env.extend x param) body
    return (.arrow param result, c)
  | .app f a => do
    let (operator, c₁) ← generate env f
    let (arg, c₂) ← generate env a
    let (result, c₃) ← codomain operator
    let c₄ ← domain operator arg
    return (result, ((c₁.union c₂).union c₃).union c₄)

def solve (constraints : ConstraintSet Empty) : Recording (Substitution Empty) := do
  let ledger ← get
  let start := Solver.State.initial constraints.ordered ledger.supply.nextVar
  match start.run with
  | .ok final =>
    set (ledger.enter start.issued final.nextVar)
    return final.solved
  | .error failure =>
    set (ledger.enter start.issued failure.state.nextVar)
    throw failure.error

/-- A fresh parameter for each of the variables, one after the other. -/
def parametrize (t : Ty Empty) : List Int → Recording (Ty Empty)
  | [] => return t
  | x :: xs => do parametrize (t.subst x (← freshParam)) xs

def generalize (t : Ty Empty) : Recording (Ty Empty) := parametrize t t.distinctVars

def infer (env : Env Empty) (e : Expr Empty) : Recording (Inference Empty) := do
  let (raw, constraints) ← generate env e
  let substitution ← solve constraints
  let type ← generalize (substitution.apply raw)
  return ⟨e, raw, constraints, substitution, type⟩

end Recording

namespace Ledger

/-- The entries that are added are the ids between the counters, which do not go back. -/
structure Grows (before after : Ledger) : Prop where
  le : before.supply ≤ after.supply
  vars : after.vars = before.vars ++ Int.range before.supply.nextVar after.supply.nextVar
  params : after.params = before.params ++ Int.range before.supply.nextParam after.supply.nextParam

variable {ledger before middle after : Ledger}

theorem Grows.refl (ledger : Ledger) : ledger.Grows ledger :=
  ⟨le_refl _, by rw [range_self, List.append_nil], by rw [range_self, List.append_nil]⟩

theorem Grows.trans (first : before.Grows middle) (second : middle.Grows after) :
    before.Grows after where
  le := le_trans first.le second.le
  vars := by
    rw [second.vars, first.vars, List.append_assoc, range_append first.le.1 second.le.1]
  params := by
    rw [second.params, first.params, List.append_assoc, range_append first.le.2 second.le.2]

theorem grows_drawVar (ledger : Ledger) : ledger.Grows ledger.drawVar.2 where
  le := ⟨Int.le_add_one (Int.le_refl _), Int.le_refl _⟩
  vars := by simp [drawVar, Supply.drawVar, Int.range]
  params := (Grows.refl ledger).params

theorem grows_drawVarPair (ledger : Ledger) : ledger.Grows ledger.drawVarPair.2 where
  le := ⟨Int.le_add_of_nonneg_right (by decide), Int.le_refl _⟩
  vars := by simp [drawVarPair, Supply.drawVarPair, range_pair]
  params := (Grows.refl ledger).params

theorem grows_drawParam (ledger : Ledger) : ledger.Grows ledger.drawParam.2 where
  le := ⟨Int.le_refl _, Int.le_add_one (Int.le_refl _)⟩
  vars := (Grows.refl ledger).vars
  params := by simp [drawParam, Supply.drawParam, Int.range]

theorem grows_enter {constraints : ConstraintSet Empty} {final : Solver.State Empty}
    (ended : constraints.solve ledger.supply.nextVar = .ok final ∨
      ∃ error, constraints.solve ledger.supply.nextVar = .error ⟨error, final⟩) :
    ledger.Grows (ledger.enter
      (Solver.State.initial constraints.ordered ledger.supply.nextVar).issued final.nextVar) := by
  obtain ⟨le, issued⟩ := Solver.issued_range ended
  constructor
  · exact ⟨le, Int.le_refl _⟩
  · rw [issued]
    rfl
  · exact (Grows.refl ledger).params

/-- A recorded outcome and a plain one from the same supply, with what is entered on the way. -/
inductive Recorded {α : Type} (ledger : Ledger) :
    EStateM.Result (TypingError Empty) Ledger α → EStateM.Result (TypingError Empty) Supply α → Prop
  | ok {a : α} {after : Ledger} (grows : ledger.Grows after) :
      Recorded ledger (.ok a after) (.ok a after.supply)
  | error {error : TypingError Empty} {after : Ledger} (grows : ledger.Grows after) :
      Recorded ledger (.error error after) (.error error after.supply)

theorem Recorded.of_grows {α : Type} {recorded : EStateM.Result (TypingError Empty) Ledger α}
    {drawn : EStateM.Result (TypingError Empty) Supply α} (rest : middle.Recorded recorded drawn)
    (grows : before.Grows middle) : before.Recorded recorded drawn := by
  cases rest with
  | ok grown => exact .ok (grows.trans grown)
  | error grown => exact .error (grows.trans grown)

end Ledger

/-- The recording does all that the drawing does, and enters the ids that are drawn. -/
def Records {α : Type} (recording : Recording α) (drawing : Drawing Empty α) : Prop :=
  ∀ ledger : Ledger, ledger.Recorded (recording.run ledger) (drawing.run ledger.supply)

namespace Records

variable {α β : Type}

theorem pure (a : α) : Records (Pure.pure a) (Pure.pure a) := fun ledger => .ok (.refl ledger)

theorem throw (error : TypingError Empty) :
    Records (MonadExcept.throw error : Recording α) (MonadExcept.throw error) :=
  fun ledger => .error (.refl ledger)

theorem bind {first : Recording α} {drawing : Drawing Empty α} {next : α → Recording β}
    {later : α → Drawing Empty β} (records : Records first drawing)
    (rest : ∀ a, Records (next a) (later a)) : Records (first >>= next) (drawing >>= later) := by
  intro ledger
  have start := records ledger
  rw [EStateM.run_bind, EStateM.run_bind]
  generalize first.run ledger = recorded at start
  generalize drawing.run ledger.supply = drawn at start
  cases start with
  | error grows => exact .error grows
  | @ok a middle grows => exact (rest a middle).of_grows grows

theorem freshVar : Records Recording.freshVar Drawing.freshVar :=
  fun ledger => .ok ledger.grows_drawVar

theorem freshVarPair : Records Recording.freshVarPair Drawing.freshVarPair :=
  fun ledger => .ok ledger.grows_drawVarPair

theorem codomain (operator : Ty Empty) : Records (Recording.codomain operator) operator.codomain := by
  cases operator with
  | var x => exact freshVarPair.bind fun pair => .pure _
  | arrow | dyn => exact .pure _
  | host leaf => exact leaf.elim
  | _ =>
    simp only [Recording.codomain, Ty.codomain, TypingError.ofOperator_grammar]
    exact .throw _

theorem domain (operator arg : Ty Empty) :
    Records (Recording.domain operator arg) (operator.domain arg) := by
  cases operator with
  | var x => exact freshVarPair.bind fun pair => .pure _
  | arrow | dyn => exact .pure _
  | host leaf => exact leaf.elim
  | _ =>
    simp only [Recording.domain, Ty.domain, TypingError.ofOperator_grammar]
    exact .throw _

theorem generate (env : Env Empty) (e : Expr Empty) :
    Records (Recording.generate env e) (e.generate env) := by
  induction e generalizing env with
  | var x =>
    unfold Recording.generate Expr.generate
    cases env.get? x with
    | some t => exact .pure _
    | none => exact .throw _
  | int | bool => exact .pure _
  | add l r left right =>
    unfold Recording.generate Expr.generate
    exact (left env).bind fun _ => (right env).bind fun _ => .pure _
  | lam x declared body ih =>
    cases declared with
    | none =>
      unfold Recording.generate Expr.generate
      exact freshVar.bind fun param => (ih _).bind fun _ => .pure _
    | some param =>
      unfold Recording.generate Expr.generate
      exact (ih _).bind fun _ => .pure _
  | app f a func argument =>
    unfold Recording.generate Expr.generate
    refine (func env).bind fun operator => (argument env).bind fun arg => ?_
    refine (codomain operator.1).bind fun result => ?_
    exact (domain operator.1 arg.1).bind fun _ => .pure _
  | host leaf => exact leaf.elim

theorem solve (constraints : ConstraintSet Empty) :
    Records (Recording.solve constraints) (Drawing.solve constraints) := by
  intro ledger
  cases outcome : constraints.solve ledger.supply.nextVar with
  | ok final =>
    have run := outcome
    unfold ConstraintSet.solve at run
    rw [Drawing.run_solve_ok outcome, Recording.solve]
    simp only [EStateM.run_bind, EStateM.run_get, run]
    exact .ok (Ledger.grows_enter (.inl outcome))
  | error failure =>
    have run := outcome
    unfold ConstraintSet.solve at run
    rw [Drawing.run_solve_error outcome, Recording.solve]
    simp only [EStateM.run_bind, EStateM.run_get, run]
    exact .error (Ledger.grows_enter (.inr ⟨failure.error, outcome⟩))

/-- The parameters that are put in are those that the plain generalisation counts. -/
theorem run_parametrize (xs : List Int) (t : Ty Empty) (ledger : Ledger) :
    let counted := xs.foldl (fun pair x => (pair.1.subst x (.param pair.2), pair.2 + 1))
      (t, ledger.supply.nextParam)
    ledger.Recorded ((Recording.parametrize t xs).run ledger)
      (.ok counted.1 { ledger.supply with nextParam := counted.2 }) := by
  induction xs generalizing t ledger with
  | nil => exact .ok (.refl ledger)
  | cons x xs ih =>
    have later := ih (t.subst x (.param ledger.supply.nextParam)) ledger.drawParam.2
    exact later.of_grows ledger.grows_drawParam

theorem generalize (t : Ty Empty) : Records (Recording.generalize t) (Drawing.generalize t) := by
  intro ledger
  rw [Drawing.run_generalize]
  exact run_parametrize t.distinctVars t ledger

theorem infer (env : Env Empty) (e : Expr Empty) :
    Records (Recording.infer env e) (e.infer env) := by
  unfold Recording.infer Expr.infer
  refine (generate env e).bind fun generated => ?_
  refine (solve generated.2).bind fun substitution => ?_
  rw [Substitution.tryApply_grammar]
  exact (generalize _).bind fun type => .pure _

end Records

end Gradual
