import Gradual.Proofs.Evaluation
import Gradual.Proofs.Parameters
import Gradual.Proofs.Recording
import Gradual.Session
import Mathlib.Data.List.Nodup

/-! Freshness over whole sessions. Each inference of a session is looked at with the ledger of the ids
that it draws. No id is drawn twice in a session, neither by one inference nor by two, whether they
succeed or fail half way. All variables that an inference brings up were drawn by it, those of its
substitution and of a blamed constraint too, and an environment that starts without variables and behind
the supply of parameters stays so. -/
namespace Gradual

namespace Env

variable {ε : Type} {env : Env ε} {t : Ty ε}

theorem Closed.extend (closed : env.Closed) (new : t.vars = []) (x : String) :
    (env.extend x t).Closed := by
  intro entry member
  obtain rfl | old := Entries.mem_put member
  · exact new
  · exact closed entry old

theorem mem_params_extend {x : String} {a : Int} (member : a ∈ (env.extend x t).params) :
    a ∈ t.params ∨ a ∈ env.params := by
  obtain ⟨entry, inside, occurs⟩ := List.mem_flatMap.mp member
  obtain rfl | old := Entries.mem_put inside
  · exact .inl occurs
  · exact .inr (List.mem_flatMap.mpr ⟨entry, old, occurs⟩)

end Env

/-- The condition holds of every variable in what an error reports. -/
def TypingError.VarsIn (P : Int → Prop) : TypingError Empty → Prop
  | .notApplicable t => t.VarsIn P
  | .conflict c => c.VarsIn P
  | .unbound _ | .fault _ => True

section Generation

variable {P : Int → Prop} {s s' : Supply} {error : TypingError Empty}

theorem Ty.codomain_error {operator : Ty Empty} (failed : operator.codomain.run s = .error error s') :
    error.VarsIn P := by
  cases operator with
  | var | arrow | dyn => cases failed
  | host leaf => exact leaf.elim
  | _ =>
    simp only [codomain, TypingError.ofOperator_grammar] at failed
    cases failed
    exact varsIn_closed rfl

theorem Ty.domain_error {operator arg : Ty Empty}
    (failed : (operator.domain arg).run s = .error error s') : error.VarsIn P := by
  cases operator with
  | var | arrow | dyn => cases failed
  | host leaf => exact leaf.elim
  | _ =>
    simp only [domain, TypingError.ofOperator_grammar] at failed
    cases failed
    exact varsIn_closed rfl

/-- Generation reports no variables: an operator that is no function has none. -/
theorem Expr.generate_error {env : Env Empty} {e : Expr Empty}
    (failed : (e.generate env).run s = .error error s') : error.VarsIn P := by
  induction e generalizing env s s' with
  | var x =>
    unfold generate at failed
    split at failed <;> cases failed
    trivial
  | int | bool => cases failed
  | add l r left right =>
    unfold generate at failed
    obtain failed | ⟨_, _, -, failed⟩ := Drawing.bind_error.mp failed
    · exact left failed
    obtain failed | ⟨_, _, -, failed⟩ := Drawing.bind_error.mp failed
    · exact right failed
    · cases failed
  | lam x declared body ih =>
    cases declared with
    | none =>
      unfold generate at failed
      obtain failed | ⟨_, _, -, failed⟩ := Drawing.bind_error.mp failed
      · cases failed
      obtain failed | ⟨_, _, -, failed⟩ := Drawing.bind_error.mp failed
      · exact ih failed
      · cases failed
    | some t =>
      unfold generate at failed
      obtain failed | ⟨_, _, -, failed⟩ := Drawing.bind_error.mp failed
      · exact ih failed
      · cases failed
  | app f a func argument =>
    unfold generate at failed
    obtain failed | ⟨_, _, -, failed⟩ := Drawing.bind_error.mp failed
    · exact func failed
    obtain failed | ⟨_, _, -, failed⟩ := Drawing.bind_error.mp failed
    · exact argument failed
    obtain failed | ⟨_, _, -, failed⟩ := Drawing.bind_error.mp failed
    · exact Ty.codomain_error failed
    obtain failed | ⟨_, _, -, failed⟩ := Drawing.bind_error.mp failed
    · exact Ty.domain_error failed
    · cases failed
  | host leaf => exact leaf.elim

end Generation

namespace Expr

variable {env : Env Empty} {e : Expr Empty} {supply rest : Supply} {inference : Inference Empty}

/-- What generation brings up was drawn by it, or is drawn later on. -/
theorem generate_vars {raw : Ty Empty} {constraints : ConstraintSet Empty} {generated : Supply}
    (closedEnv : env.Closed) (closed : e.Closed)
    (generate : (e.generate env).run supply = .ok (raw, constraints) generated)
    {last : Int} (later : generated.nextVar ≤ last) :
    raw.VarsIn (· ∈ Int.range supply.nextVar last) ∧
      ∀ c ∈ constraints, c.VarsIn (· ∈ Int.range supply.nextVar last) := by
  refine (generates_of_ok generate).varsIn (closedEnv.varsIn _)
    (fun t member => Ty.varsIn_closed (closed t member)) fun y le lt => ?_
  exact Int.mem_range_iff.mpr ⟨le, Int.lt_of_lt_of_le lt later⟩

theorem mem_range_of_mem {first middle last y : Int} (le : first ≤ middle)
    (member : y ∈ Int.range middle last) : y ∈ Int.range first last := by
  obtain ⟨least, lt⟩ := Int.mem_range_iff.mp member
  exact Int.mem_range_iff.mpr ⟨Int.le_trans le least, lt⟩

/-- All variables that an inference brings up are drawn while the supply becomes the one it leaves. -/
theorem infer_vars (closedEnv : env.Closed) (closed : e.Closed)
    (inferred : (e.infer env).run supply = .ok inference rest) :
    inference.raw.VarsIn (· ∈ Int.range supply.nextVar rest.nextVar) ∧
      (∀ c ∈ inference.constraints, c.VarsIn (· ∈ Int.range supply.nextVar rest.nextVar)) ∧
      ∀ binding ∈ inference.substitution.bindings,
        binding.1 ∈ Int.range supply.nextVar rest.nextVar ∧
          binding.2.VarsIn (· ∈ Int.range supply.nextVar rest.nextVar) := by
  obtain ⟨raw, constraints, solution, generated, solved, generate, solve, rfl, rfl⟩ :=
    infer_ok.mp inferred
  obtain ⟨final, outcome, rfl, rfl⟩ := Drawing.solve_ok.mp solve
  obtain ⟨later, issued⟩ := Solver.issued_range (.inl outcome)
  obtain ⟨inRaw, inConstraints⟩ := generate_vars closedEnv closed generate later
  refine ⟨inRaw, inConstraints, Solver.solve_varsIn outcome inConstraints fun y drawn => ?_⟩
  rw [issued] at drawn
  exact mem_range_of_mem (generates_of_ok generate).supply_le drawn

/-- So are those of a constraint that is blamed. -/
theorem infer_error_vars (closedEnv : env.Closed) (closed : e.Closed) {error : TypingError Empty}
    (failed : (e.infer env).run supply = .error error rest) :
    error.VarsIn (· ∈ Int.range supply.nextVar rest.nextVar) := by
  unfold infer at failed
  obtain failed | ⟨⟨raw, constraints⟩, generated, generate, failed⟩ := Drawing.bind_error.mp failed
  · exact generate_error failed
  obtain failed | ⟨substitution, solved, -, failed⟩ := Drawing.bind_error.mp failed
  · cases outcome : constraints.solve generated.nextVar with
    | ok final =>
      rw [Drawing.run_solve_ok outcome] at failed
      cases failed
    | error failure =>
      rw [Drawing.run_solve_error outcome] at failed
      cases failed
      obtain ⟨later, issued⟩ := Solver.issued_range (.inr ⟨failure.error, outcome⟩)
      obtain ⟨-, inConstraints⟩ := generate_vars closedEnv closed generate later
      obtain ⟨blamed, same, inside⟩ := Solver.blamed_varsIn outcome inConstraints fun y drawn => by
        rw [issued] at drawn
        exact mem_range_of_mem (generates_of_ok generate).supply_le drawn
      rw [same]
      exact inside
  · simp only [Substitution.tryApply_grammar, Drawing.bind_error, Drawing.run_generalize] at failed
    simp at failed

theorem infer_type_params (closedEnv : env.Closed) (closed : e.Closed) (plain : e.params = [])
    (inferred : (e.infer env).run supply = .ok inference rest) :
    ∀ a ∈ inference.type.params,
      a ∈ env.params ∨ a ∈ Int.range supply.nextParam rest.nextParam := by
  intro a member
  have inherited := infer_params closedEnv closed inferred
  rw [plain, List.append_nil] at inherited
  rw [infer_type inferred] at member
  obtain old | ⟨le, lt⟩ := Ty.mem_params_generalizeFrom member
  · exact .inl (inherited a old)
  · rw [infer_generalizes inferred] at lt
    exact .inr (Int.mem_range_iff.mpr ⟨le, lt⟩)

theorem infer_type_vars (inferred : (e.infer env).run supply = .ok inference rest) :
    inference.type.vars = [] := by
  rw [infer_type inferred]
  exact Ty.generalizeFrom_vars _ _

end Expr

namespace Session

/-- An expression to infer, and the name that its type is bound to. -/
structure Request (ε : Type) where
  expr : Expr ε
  name : Option String

/-- One inference of a session. -/
structure Step (ε : Type) where
  request : Request ε
  before : Session ε
  outcome : Except (TypingError ε) (Inference ε)
  after : Session ε

section Steps

variable {ε : Type} [DecidableEq ε] [ToString ε]

def step (session : Session ε) (request : Request ε) : Step ε :=
  ⟨request, session, (session.infer request.expr request.name).1,
    (session.infer request.expr request.name).2⟩

/-- The inferences that answer the requests, each in the session that the one before left. -/
def steps (session : Session ε) : List (Request ε) → List (Step ε)
  | [] => []
  | request :: rest => session.step request :: (session.step request).after.steps rest

end Steps

namespace Step

variable (step : Step Empty)

/-- The inference once more, with a ledger that is empty at first. -/
def replay : Except (TypingError Empty) (Inference Empty) × Ledger :=
  match (Recording.infer step.before.env step.request.expr).run (.ofSupply step.before.supply) with
  | .ok inference ledger => (.ok inference, ledger)
  | .error error ledger => (.error error, ledger)

/-- The variables that generation and the solver draw, in this order. -/
def issuedVars : List Int := step.replay.2.vars

/-- The parameters that generalisation draws. -/
def issuedParams : List Int := step.replay.2.params

end Step

/-- There are no variables in the environment, and the supply has passed its parameters. -/
structure Fresh (session : Session Empty) : Prop where
  closed : session.env.Closed
  older : ∀ a ∈ session.env.params, a < session.supply.nextParam

/-- The ledger is that of the inference itself. What it lists is new in the session, and all that is
new in what the inference finds, or in the error that it ends with, is listed. -/
structure Step.Fresh (step : Step Empty) : Prop where
  replayed : step.replay.1 = step.outcome ∧ step.replay.2.supply = step.after.supply
  closedBefore : step.before.env.Closed
  closedAfter : step.after.env.Closed
  unused : ∀ a ∈ step.issuedParams, a ∉ step.before.env.params
  params : ∀ inference, step.outcome = .ok inference →
    ∀ a ∈ inference.type.params, a ∈ step.before.env.params ∨ a ∈ step.issuedParams
  vars : ∀ inference, step.outcome = .ok inference →
    inference.raw.VarsIn (· ∈ step.issuedVars) ∧
      (∀ c ∈ inference.constraints, c.VarsIn (· ∈ step.issuedVars)) ∧
      ∀ binding ∈ inference.substitution.bindings,
        binding.1 ∈ step.issuedVars ∧ binding.2.VarsIn (· ∈ step.issuedVars)
  blamed : ∀ error, step.outcome = .error error → error.VarsIn (· ∈ step.issuedVars)

section

variable {session : Session Empty} {request : Request Empty} {rest : Supply}

/-- The ledger tells what a step does, whatever becomes of it. -/
theorem step_replay (session : Session Empty) (request : Request Empty) :
    (session.step request).replay.1 = (session.step request).outcome ∧
      (session.step request).replay.2.supply = (session.step request).after.supply ∧
      (Ledger.ofSupply session.supply).Grows (session.step request).replay.2 := by
  have recorded := Records.infer session.env request.expr (.ofSupply session.supply)
  change Ledger.Recorded _ _ ((request.expr.infer session.env).run session.supply) at recorded
  simp only [Step.replay, step, infer]
  generalize (Recording.infer _ _).run _ = recording at recorded
  generalize (request.expr.infer session.env).run session.supply = drawing at recorded
  cases recorded with
  | ok grows => exact ⟨rfl, rfl, grows⟩
  | error grows => exact ⟨rfl, rfl, grows⟩

theorem supply_le_step (session : Session Empty) (request : Request Empty) :
    session.supply ≤ (session.step request).after.supply := by
  obtain ⟨-, supply, grows⟩ := session.step_replay request
  rw [← supply]
  exact grows.le

theorem issuedVars_step (session : Session Empty) (request : Request Empty) :
    (session.step request).issuedVars =
      Int.range session.supply.nextVar (session.step request).after.supply.nextVar := by
  obtain ⟨-, supply, grows⟩ := session.step_replay request
  rw [Step.issuedVars, grows.vars, supply]
  rfl

theorem issuedParams_step (session : Session Empty) (request : Request Empty) :
    (session.step request).issuedParams =
      Int.range session.supply.nextParam (session.step request).after.supply.nextParam := by
  obtain ⟨-, supply, grows⟩ := session.step_replay request
  rw [Step.issuedParams, grows.params, supply]
  rfl

theorem step_ok {inference : Inference Empty}
    (inferred : (request.expr.infer session.env).run session.supply = .ok inference rest) :
    (session.step request).outcome = .ok inference ∧
      (session.step request).after.supply = rest ∧
      ((session.step request).after.env = session.env ∨
        ∃ x, (session.step request).after.env = session.env.extend x inference.type) := by
  simp only [step, infer, inferred, true_and]
  cases request.name with
  | none => exact .inl rfl
  | some x => exact .inr ⟨x, rfl⟩

theorem step_error {error : TypingError Empty}
    (failed : (request.expr.infer session.env).run session.supply = .error error rest) :
    (session.step request).outcome = .error error ∧
      (session.step request).after = ⟨session.env, rest⟩ := by
  simp only [step, infer, failed, true_and]

theorem run_of_ok {inference : Inference Empty}
    (found : (session.step request).outcome = .ok inference) :
    (request.expr.infer session.env).run session.supply =
      .ok inference (session.step request).after.supply := by
  cases ran : (request.expr.infer session.env).run session.supply with
  | error error rest =>
    rw [(step_error ran).1] at found
    cases found
  | ok other rest =>
    obtain ⟨outcome, supply, -⟩ := step_ok ran
    rw [outcome] at found
    cases found
    rw [supply]

theorem run_of_error {error : TypingError Empty}
    (found : (session.step request).outcome = .error error) :
    (request.expr.infer session.env).run session.supply =
      .error error (session.step request).after.supply := by
  cases ran : (request.expr.infer session.env).run session.supply with
  | error other rest =>
    obtain ⟨outcome, after⟩ := step_error ran
    rw [outcome] at found
    cases found
    rw [after]
  | ok inference rest =>
    rw [(step_ok ran).1] at found
    cases found

/-- Whatever becomes of a request, the session it leaves is as fresh as the one it came to. -/
theorem Fresh.after (fresh : session.Fresh) (closed : request.expr.Closed)
    (plain : request.expr.params = []) : (session.step request).after.Fresh := by
  have le := session.supply_le_step request
  have older : ∀ a ∈ session.env.params, a < (session.step request).after.supply.nextParam :=
    fun a member => Int.lt_of_lt_of_le (fresh.older a member) le.2
  cases ran : (request.expr.infer session.env).run session.supply with
  | error error rest =>
    obtain ⟨-, after⟩ := step_error ran
    rw [after] at older ⊢
    exact ⟨fresh.closed, older⟩
  | ok inference rest =>
    obtain ⟨-, supply, kept | ⟨x, bound⟩⟩ := step_ok ran
    · exact ⟨kept ▸ fresh.closed, by rwa [kept]⟩
    · constructor
      · rw [bound]
        exact fresh.closed.extend (Expr.infer_type_vars ran) x
      · intro a member
        rw [bound] at member
        obtain new | old := Env.mem_params_extend member
        · obtain old | drawn := Expr.infer_type_params fresh.closed closed plain ran a new
          · exact older a old
          · rw [supply]
            exact (Int.mem_range_iff.mp drawn).2
        · exact older a old

theorem Fresh.step (fresh : session.Fresh) (closed : request.expr.Closed)
    (plain : request.expr.params = []) : (session.step request).Fresh := by
  obtain ⟨outcome, supply, -⟩ := session.step_replay request
  constructor
  case replayed => exact ⟨outcome, supply⟩
  case closedBefore => exact fresh.closed
  case closedAfter => exact (fresh.after closed plain).closed
  case unused =>
    intro a drawn member
    rw [issuedParams_step] at drawn
    have new := (Int.mem_range_iff.mp drawn).1
    exact absurd (fresh.older a member) (Int.not_lt.mpr new)
  case params =>
    intro inference found
    rw [issuedParams_step]
    exact Expr.infer_type_params fresh.closed closed plain (run_of_ok found)
  case vars =>
    intro inference found
    rw [issuedVars_step]
    exact Expr.infer_vars fresh.closed closed (run_of_ok found)
  case blamed =>
    intro error found
    rw [issuedVars_step]
    exact Expr.infer_error_vars fresh.closed closed (run_of_error found)

end

theorem nodup_range (first last : Int) : (Int.range first last).Nodup := by
  refine List.nodup_range.map fun i j same => ?_
  omega

/-- The ids that a counter gives away in a session, request by request, only go up. -/
theorem nodup_steps {next : Supply → Int} (mono : ∀ s s', s ≤ s' → next s ≤ next s')
    {issued : Step Empty → List Int}
    (counts : ∀ (session : Session Empty) request, issued (session.step request) =
      Int.range (next session.supply) (next (session.step request).after.supply))
    (session : Session Empty) (requests : List (Request Empty)) :
    ((session.steps requests).flatMap issued).Nodup ∧
      ∀ x ∈ (session.steps requests).flatMap issued, next session.supply ≤ x := by
  induction requests generalizing session with
  | nil => exact ⟨List.nodup_nil, List.forall_mem_nil _⟩
  | cons request rest ih =>
    obtain ⟨distinct, later⟩ := ih (session.step request).after
    have le := mono _ _ (session.supply_le_step request)
    rw [steps, List.flatMap_cons, counts]
    constructor
    · -- What the first request is given lies below where the later ones begin.
      refine List.Nodup.append (nodup_range _ _) distinct fun x here there => ?_
      have lt := (Int.mem_range_iff.mp here).2
      exact absurd lt (Int.not_lt.mpr (later x there))
    · refine List.forall_mem_append.mpr ⟨fun x here => ?_, fun x there => ?_⟩
      · exact (Int.mem_range_iff.mp here).1
      · exact Int.le_trans le (later x there)

theorem Fresh.steps {session : Session Empty} (fresh : session.Fresh)
    {requests : List (Request Empty)}
    (plain : ∀ request ∈ requests, request.expr.Closed ∧ request.expr.params = []) :
    ∀ step ∈ session.steps requests, step.Fresh := by
  induction requests generalizing session with
  | nil => exact List.forall_mem_nil _
  | cons request rest ih =>
    obtain ⟨⟨closed, noParams⟩, others⟩ := List.forall_mem_cons.mp plain
    exact List.forall_mem_cons.mpr
      ⟨fresh.step closed noParams, ih (fresh.after closed noParams) others⟩

/-- In a session that starts fresh every inference is fresh, and no id is ever drawn twice. -/
theorem steps_fresh (session : Session Empty) (closed : session.env.Closed)
    (older : ∀ a ∈ session.env.params, a < session.supply.nextParam)
    (requests : List (Request Empty))
    (plain : ∀ request ∈ requests, request.expr.Closed ∧ request.expr.params = []) :
    (∀ step ∈ session.steps requests, step.Fresh) ∧
      ((session.steps requests).flatMap Step.issuedParams).Nodup ∧
      ((session.steps requests).flatMap Step.issuedVars).Nodup := by
  refine ⟨Fresh.steps ⟨closed, older⟩ plain, ?_, ?_⟩
  · exact (nodup_steps (fun s s' le => le.2) issuedParams_step session requests).1
  · exact (nodup_steps (fun s s' le => le.1) issuedVars_step session requests).1

/-- A type with a parameter of the environment is bound again under its name. An operator that takes
itself follows, and fails after variables were drawn for it. Then what was bound is given to an unknown
function, for the shape of which the solver draws the last four variables. -/
theorem steps_fresh_rebinding :
    let session : Session Empty :=
      ⟨⟨[("id", .arrow (.param 1) (.param 1))]⟩, .startingAt 2⟩
    let rebinding : Request Empty := ⟨.lam "x" none (.var "id"), some "id"⟩
    let failing : Request Empty := ⟨.lam "x" none (.app (.var "x") (.var "x")), some "id"⟩
    let applying : Request Empty := ⟨.lam "f" none (.app (.var "f") (.var "id")), some "k"⟩
    let steps := session.steps [rebinding, failing, applying]
    let bound : Ty Empty := .arrow (.param 2) (.arrow (.param 1) (.param 1))
    session.env.Closed ∧ (∀ a ∈ session.env.params, a < session.supply.nextParam) ∧
      (∀ request ∈ [rebinding, failing, applying],
        request.expr.Closed ∧ request.expr.params = []) ∧
      steps.map (fun step => step.outcome.map Inference.type) =
        [.ok bound, .error (.conflict (.equal (.var 4) (.arrow (.var 4) (.var 5)))),
          .ok (.arrow (.arrow bound (.param 3)) (.param 3))] ∧
      steps.map Step.issuedVars =
        [[2], [3, 4, 5, 6, 7], [8, 9, 10, 11, 12, 13, 14, 15, 16]] ∧
      steps.map Step.issuedParams = [[2], [], [3]] ∧
      (∀ step ∈ steps, step.Fresh) ∧ (steps.flatMap Step.issuedParams).Nodup ∧
      (steps.flatMap Step.issuedVars).Nodup := by
  intro session rebinding failing applying steps bound
  have closed : session.env.Closed := List.forall_mem_singleton.mpr rfl
  have older : ∀ a ∈ session.env.params, a < session.supply.nextParam := by decide
  have plain : ∀ request ∈ [rebinding, failing, applying],
      request.expr.Closed ∧ request.expr.params = [] := by
    intro request member
    have none : request.expr.declared = [] := by
      revert request
      decide
    constructor
    · rw [Expr.Closed, none]
      exact List.forall_mem_nil _
    · rw [Expr.params, none]
      rfl
  -- The three inferences, each in the session that the one before left.
  let second : Session Empty := ⟨⟨[("id", bound)]⟩, ⟨3, 3⟩⟩
  let third : Session Empty := ⟨⟨[("id", bound)]⟩, ⟨8, 3⟩⟩
  have ran₁ : (rebinding.expr.infer session.env).run session.supply =
      .ok ⟨rebinding.expr, .arrow (.var 2) (.arrow (.param 1) (.param 1)), ∅, ∅, bound⟩ ⟨3, 3⟩ :=
    Expr.infer_of_solve (.implicit (.var rfl)) (ConstraintSet.solve_of_runFor [] .nil .nil 1 rfl)
  have ran₂ : (failing.expr.infer second.env).run second.supply =
      .error (.conflict (.equal (.var 4) (.arrow (.var 4) (.var 5)))) ⟨8, 3⟩ :=
    Expr.infer_error_of_solve (.implicit (.appVar (.var rfl) (.var rfl)))
      (ConstraintSet.solve_of_runFor
        [.consistent (.var 6) (.var 3), .equal (.var 3) (.arrow (.var 4) (.var 5)),
          .equal (.var 3) (.arrow (.var 6) (.var 7))] (by decide) (by decide +kernel) 7 rfl)
  have generates₃ : Generates third.env applying.expr third.supply (.arrow (.var 8) (.var 10)) _
      ⟨13, 3⟩ := .implicit (.appVar (.var rfl) (.var rfl))
  have ran₃ := Expr.infer_of_solve generates₃ (ConstraintSet.solve_of_runFor
    [.consistent (.var 11) bound, .equal (.var 8) (.arrow (.var 11) (.var 12)),
      .equal (.var 8) (.arrow (.var 9) (.var 10))] (by decide) (by decide +kernel) 20 rfl :
    _ = .ok ⟨[], [], ⟨[(11, .arrow (.var 13) (.var 14)), (13, .param 2),
      (14, .arrow (.var 15) (.var 16)), (15, .param 1), (16, .param 1),
      (8, .arrow bound (.var 12)), (9, bound), (12, .var 10)]⟩, 17⟩)
  have left₁ : (session.step rebinding).after = second := by
    simp only [step, infer, ran₁]
    rfl
  obtain ⟨outcome₁, -⟩ := step_ok ran₁
  obtain ⟨outcome₂, left₂⟩ := step_error ran₂
  obtain ⟨outcome₃, left₃, -⟩ := step_ok ran₃
  have taken : steps = [session.step rebinding, second.step failing, third.step applying] := by
    simp only [steps, Session.steps, left₁, left₂]
    rfl
  refine ⟨closed, older, plain, ?_, ?_, ?_, steps_fresh session closed older _ plain⟩
  · rw [taken]
    simp only [List.map_cons, List.map_nil, outcome₁, outcome₂, outcome₃]
    rfl
  · rw [taken]
    simp only [List.map_cons, List.map_nil, issuedVars_step, left₁, left₂, left₃]
    rfl
  · rw [taken]
    simp only [List.map_cons, List.map_nil, issuedParams_step, left₁, left₂, left₃]
    rfl

end Session

end Gradual
