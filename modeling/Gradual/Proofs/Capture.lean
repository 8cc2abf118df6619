import Gradual.Proofs.Evaluation
import Gradual.Proofs.Parameters

/-! Capture of parameters. An inference without a supply of its own numbers new parameters from 1 on,
whatever parameters the environment has. So a parameter of the environment that is left in the type
can come to stand for a variable as well. Which types this happens to is said exactly: those that keep
a parameter of the environment whose number is among the new ones. -/
namespace Gradual

namespace Ty

variable {ε : Type}

/-- The two ways into a function type. -/
inductive Side where
  | dom
  | cod

/-- What stands at a position, reached from the root side by side. -/
def part? : List Side → Ty ε → Option (Ty ε)
  | [], t => some t
  | .dom :: rest, .arrow dom _ => dom.part? rest
  | .cod :: rest, .arrow _ cod => cod.part? rest
  | _ :: _, _ => none

theorem part?_inst (values : Int → Ty ε) {t u : Ty ε} {position : List Side}
    (stands : t.part? position = some u) :
    (t.inst values).part? position = some (u.inst values) := by
  induction position generalizing t with
  | nil =>
    cases stands
    rfl
  | cons side rest ih =>
    cases t with
    | arrow dom cod =>
      cases side with
      | dom => exact ih stands
      | cod => exact ih stands
    | _ => cases side <;> cases stands

theorem exists_part_arrow {dom cod u : Ty ε} :
    (∃ position, (Ty.arrow dom cod).part? position = some u) ↔
      .arrow dom cod = u ∨ (∃ position, dom.part? position = some u) ∨
        ∃ position, cod.part? position = some u := by
  constructor
  · rintro ⟨position, stands⟩
    cases position with
    | nil => exact .inl (Option.some.inj stands)
    | cons side rest =>
      cases side with
      | dom => exact .inr (.inl ⟨rest, stands⟩)
      | cod => exact .inr (.inr ⟨rest, stands⟩)
  · rintro (rfl | ⟨rest, stands⟩ | ⟨rest, stands⟩)
    · exact ⟨[], rfl⟩
    · exact ⟨.dom :: rest, stands⟩
    · exact ⟨.cod :: rest, stands⟩

theorem exists_part_leaf {t u : Ty ε} (leaf : t.isArrow = false) :
    (∃ position, t.part? position = some u) ↔ t = u := by
  constructor
  · rintro ⟨position, stands⟩
    cases position with
    | nil => exact Option.some.inj stands
    | cons side rest =>
      cases t with
      | arrow => cases leaf
      | _ => cases side <;> cases stands
  · rintro rfl
    exact ⟨[], rfl⟩

theorem exists_part_param {t : Ty ε} {a : Int} :
    (∃ position, t.part? position = some (.param a)) ↔ a ∈ t.params := by
  induction t with
  | arrow dom cod left right =>
    rw [exists_part_arrow, left, right]
    simp [params]
  | _ =>
    rw [exists_part_leaf rfl]
    simp [params, eq_comm]

theorem exists_part_var {t : Ty ε} {x : Int} :
    (∃ position, t.part? position = some (.var x)) ↔ x ∈ t.vars := by
  induction t with
  | arrow dom cod left right =>
    rw [exists_part_arrow, left, right]
    simp [vars]
  | _ =>
    rw [exists_part_leaf rfl]
    simp [vars, eq_comm]

theorem nodup_eraseDups (ids : List Int) : ids.eraseDups.Nodup := by
  induction ids using eraseDups_induction with
  | nil => exact List.nodup_nil
  | cons x rest ih =>
    rw [List.eraseDups_cons, List.nodup_cons]
    refine ⟨fun again => ?_, ih⟩
    have kept := (List.mem_filter.mp (List.mem_eraseDups.mp again)).2
    simp at kept

/-- The parameter stands in place of a variable. -/
def Introduces (before after : Ty ε) (b : Int) : Prop :=
  ∃ position x, before.part? position = some (.var x) ∧ after.part? position = some (.param b)

/-- The parameter stands where a parameter was, and in place of a variable too. -/
def Captures (before after : Ty ε) (b : Int) : Prop :=
  Introduces before after b ∧
    ∃ position a, before.part? position = some (.param a) ∧ after.part? position = some (.param b)

section Generalize

variable {t : Ty ε} {next b : Int}

theorem introduces_generalizeFrom_iff :
    Introduces t (t.generalizeFrom next).1 b ↔ next ≤ b ∧ b < next + t.distinctVars.length := by
  rw [generalizeFrom_eq]
  constructor
  · rintro ⟨position, x, was, is⟩
    rw [part?_inst _ was] at is
    obtain rfl := Ty.param.inj (Option.some.inj is)
    have occurs := List.mem_eraseDups.mpr (exists_part_var.mp ⟨position, was⟩)
    have inside := List.idxOf_lt_length_of_mem occurs
    constructor
    · omega
    · simp only [distinctVars]
      omega
  · rintro ⟨le, lt⟩
    obtain ⟨i, rfl⟩ := Int.le.dest le
    have inside : i < t.distinctVars.length := by omega
    have occurs := List.mem_eraseDups.mp (List.getElem_mem inside)
    obtain ⟨position, was⟩ := exists_part_var.mpr occurs
    refine ⟨position, _, was, ?_⟩
    have index : t.distinctVars.idxOf t.distinctVars[i] = i :=
      (nodup_eraseDups t.vars).idxOf_getElem i inside
    rw [part?_inst _ was, inst, index]

theorem captures_generalizeFrom_iff :
    Captures t (t.generalizeFrom next).1 b ↔
      b ∈ t.params ∧ next ≤ b ∧ b < next + t.distinctVars.length := by
  unfold Captures
  rw [introduces_generalizeFrom_iff, generalizeFrom_eq, and_comm]
  refine and_congr_left fun _ => ?_
  constructor
  · rintro ⟨position, a, was, is⟩
    rw [part?_inst _ was] at is
    obtain rfl := Ty.param.inj (Option.some.inj is)
    exact exists_part_param.mp ⟨position, was⟩
  · intro occurs
    obtain ⟨position, was⟩ := exists_part_param.mpr occurs
    exact ⟨position, b, was, part?_inst _ was⟩

end Generalize

end Ty

namespace Expr

variable {env : Env Empty}

/-- A function that ignores its argument and returns what the environment binds. -/
theorem inferAlone_constant {x y : String} (differ : y ≠ x) {t : Ty Empty}
    (bound : env.get? y = some t) :
    (lam x none (.var y)).inferAlone env = .ok ⟨.lam x none (.var y), .arrow (.var 1) t, ∅, ∅,
      ((Ty.arrow (.var 1) t).generalizeFrom 1).1⟩ := by
  have generated : Generates env (.lam x none (.var y)) .initial (.arrow (.var 1) t) ∅ ⟨2, 1⟩ := by
    refine .implicit (.var ?_)
    rw [Env.get?_extend, if_neg differ, bound]
  have solved : (∅ : ConstraintSet Empty).solve 2 = .ok (.initial [] 2) :=
    ConstraintSet.solve_of_runFor [] .nil .nil 1 rfl
  exact inferAlone_ok.mpr ⟨_, infer_of_solve generated solved⟩

end Expr

/-- The new parameters are numbered from 1 on, the others come from the environment, and what is
captured is what is both. -/
theorem inferAlone_captures (env : Env Empty) (e : Expr Empty) (closedEnv : env.Closed)
    (closed : e.Closed) (plain : e.params = []) (inference : Inference Empty)
    (inferred : e.inferAlone env = .ok inference) :
    let solved := inference.substitution.apply inference.raw
    (∀ a ∈ solved.params, a ∈ env.params) ∧
      (∀ b, solved.Introduces inference.type b ↔ 1 ≤ b ∧ b ≤ solved.distinctVars.length) ∧
      (∀ b, solved.Captures inference.type b ↔
        b ∈ solved.params ∧ 1 ≤ b ∧ b ≤ solved.distinctVars.length) := by
  intro solved
  obtain ⟨rest, ran⟩ := Expr.inferAlone_ok.mp inferred
  have type := Expr.infer_type ran
  have kept := Expr.infer_params closedEnv closed ran
  rw [plain, List.append_nil] at kept
  have shift : ∀ b : Int, b < 1 + solved.distinctVars.length ↔ b ≤ solved.distinctVars.length := by
    intro b
    omega
  refine ⟨kept, fun b => ?_, fun b => ?_⟩
  · rw [type, Ty.introduces_generalizeFrom_iff, ← shift]
    rfl
  · rw [type, Ty.captures_generalizeFrom_iff, ← shift]
    rfl

/-- A parameter with another number stays apart from the one that is new. -/
theorem inferAlone_captures_nothing :
    let env : Env Empty := ⟨[("id", .arrow (.param 7) (.param 7))]⟩
    let e : Expr Empty := .lam "x" none (.var "id")
    ∃ inference, e.inferAlone env = .ok inference ∧
      inference.type = .arrow (.param 1) (.arrow (.param 7) (.param 7)) ∧
      ∀ b, ¬ (inference.substitution.apply inference.raw).Captures inference.type b := by
  intro env e
  have differ : "id" ≠ "x" := by decide
  have inferred : e.inferAlone env = .ok _ := Expr.inferAlone_constant differ rfl
  refine ⟨_, inferred, rfl, ?_⟩
  intro b captured
  obtain ⟨-, -, captures⟩ := inferAlone_captures env e (List.forall_mem_singleton.mpr rfl)
    (List.forall_mem_nil _) rfl _ inferred
  obtain ⟨kept, -, small⟩ := (captures b).mp captured
  obtain rfl : b = 7 := List.eq_of_mem_replicate (n := 2) kept
  exact absurd small (by decide)

/-- The parameter of the environment is taken for the new one. -/
theorem inferAlone_captures_id :
    let env : Env Empty := ⟨[("id", .arrow (.param 1) (.param 1))]⟩
    let e : Expr Empty := .lam "x" none (.var "id")
    env.Closed ∧ e.Closed ∧ e.params = [] ∧ ∃ inference, e.inferAlone env = .ok inference ∧
      inference.substitution.apply inference.raw =
        .arrow (.var 1) (.arrow (.param 1) (.param 1)) ∧
      inference.type = .arrow (.param 1) (.arrow (.param 1) (.param 1)) ∧
      (inference.substitution.apply inference.raw).Captures inference.type 1 := by
  intro env e
  have differ : "id" ≠ "x" := by decide
  have inferred : e.inferAlone env = .ok _ := Expr.inferAlone_constant differ rfl
  refine ⟨List.forall_mem_singleton.mpr rfl, List.forall_mem_nil _, rfl, _, inferred, rfl, rfl, ?_⟩
  exact ⟨⟨[.dom], 1, rfl, rfl⟩, [.cod, .dom], 1, rfl, rfl⟩

end Gradual
