import Gradual.Proofs.Capture

/-! Where `?` stands. A variable is only ever bound to a static type: equations are generated between
static types, and the rules keep them so, while `?` is dropped wherever a consistency meets it. Thus
solving and generalising put nothing dynamic into a type and take nothing dynamic out of it, and
without `?` in the environment and the declared types there is none anywhere. -/
namespace Gradual

variable {ε : Type}

namespace Ty

theorem exists_part_dyn {t : Ty ε} :
    (∃ position, t.part? position = some .dyn) ↔ t.isStatic = false := by
  induction t with
  | arrow dom cod left right =>
    rw [exists_part_arrow, left, right]
    simp only [reduceCtorEq, false_or, isStatic, Bool.and_eq_false_iff]
  | _ =>
    rw [exists_part_leaf rfl]
    simp [isStatic]

theorem isStatic_iff_part {t : Ty ε} :
    t.isStatic = true ↔ ∀ position, t.part? position ≠ some .dyn := by
  rw [← not_exists, exists_part_dyn, Bool.not_eq_false]

/-- Static types in place of the variables leave `?` where it was. -/
theorem part?_inst_dyn {values : Int → Ty ε} (static : ∀ x, (values x).isStatic = true) (t : Ty ε)
    (position : List Side) :
    (t.inst values).part? position = some .dyn ↔ t.part? position = some .dyn := by
  induction t generalizing position with
  | var x =>
    have inside := isStatic_iff_part.mp (static x) position
    have outside := isStatic_iff_part.mp (rfl : (var x : Ty ε).isStatic = true) position
    exact iff_of_false inside outside
  | arrow dom cod left right =>
    cases position with
    | nil => simp [part?]
    | cons side rest =>
      cases side with
      | dom => exact left rest
      | cod => exact right rest
  | _ => rfl

end Ty

/-- No type of the environment mentions `?`. -/
def Env.IsStatic (env : Env ε) : Prop := ∀ entry ∈ env.entries, entry.2.isStatic = true

theorem Env.IsStatic.extend {env : Env ε} (static : env.IsStatic) {t : Ty ε}
    (new : t.isStatic = true) (x : String) : (env.extend x t).IsStatic := by
  intro entry member
  rcases Entries.mem_put member with rfl | old
  · exact new
  · exact static entry old

theorem Env.IsStatic.get? {env : Env ε} (static : env.IsStatic) {x : String} {t : Ty ε}
    (bound : env.get? x = some t) : t.isStatic = true := by
  obtain ⟨entry, found, rfl⟩ := Option.map_eq_some_iff.mp bound
  exact static entry (List.mem_of_find?_eq_some found)

/-- Generation brings in no `?` of its own. -/
theorem Generates.static_of_static {env : Env Empty} {e : Expr Empty} {s s' : Supply}
    {raw : Ty Empty} {constraints : ConstraintSet Empty}
    (generates : Generates env e s raw constraints s') (staticEnv : env.IsStatic)
    (staticDeclared : ∀ t ∈ e.declared, t.isStatic = true) :
    raw.isStatic = true ∧
      ∀ c ∈ constraints, c.left.isStatic = true ∧ c.right.isStatic = true := by
  induction generates with
  | var bound => exact ⟨staticEnv.get? bound, ConstraintSet.forall_empty⟩
  | int | bool => exact ⟨rfl, ConstraintSet.forall_empty⟩
  | add _ _ left right =>
    obtain ⟨declaredLeft, declaredRight⟩ := List.forall_mem_append.mp staticDeclared
    obtain ⟨onT, onC₁⟩ := left staticEnv declaredLeft
    obtain ⟨onU, onC₂⟩ := right staticEnv declaredRight
    exact ⟨rfl, ConstraintSet.forall_sum.mpr ⟨onC₁, onC₂, ⟨onT, rfl⟩, ⟨onU, rfl⟩⟩⟩
  | implicit _ ih => exact ih (staticEnv.extend rfl _) staticDeclared
  | explicit _ ih =>
    obtain ⟨onT, onBody⟩ := List.forall_mem_cons.mp staticDeclared
    obtain ⟨onU, onC⟩ := ih (staticEnv.extend onT _) onBody
    exact ⟨Bool.and_eq_true_iff.mpr ⟨onT, onU⟩, onC⟩
  | appVar _ _ func argument =>
    obtain ⟨declaredFunc, declaredArg⟩ := List.forall_mem_append.mp staticDeclared
    obtain ⟨_, onC₁⟩ := func staticEnv declaredFunc
    obtain ⟨onT, onC₂⟩ := argument staticEnv declaredArg
    exact ⟨rfl, ConstraintSet.forall_splitApplication.mpr
      ⟨onC₁, onC₂, ⟨rfl, rfl⟩, ⟨rfl, rfl⟩, ⟨rfl, onT⟩⟩⟩
  | appArrow _ _ func argument =>
    obtain ⟨declaredFunc, declaredArg⟩ := List.forall_mem_append.mp staticDeclared
    obtain ⟨onOperator, onC₁⟩ := func staticEnv declaredFunc
    obtain ⟨onT, onC₂⟩ := argument staticEnv declaredArg
    obtain ⟨onDom, onCod⟩ := Bool.and_eq_true_iff.mp onOperator
    exact ⟨onCod, ConstraintSet.forall_application.mpr ⟨onC₁, onC₂, ⟨onDom, onT⟩⟩⟩
  | appDyn _ _ func _ =>
    obtain ⟨declaredFunc, _⟩ := List.forall_mem_append.mp staticDeclared
    cases (func staticEnv declaredFunc).1

namespace Expr

variable {env : Env Empty} {e : Expr Empty} {supply rest : Supply} {inference : Inference Empty}

theorem infer_generates (inferred : (e.infer env).run supply = .ok inference rest) :
    ∃ generated, Generates env e supply inference.raw inference.constraints generated := by
  obtain ⟨raw, constraints, solution, generated, solved, generate, _, rfl, _⟩ := infer_ok.mp inferred
  exact ⟨generated, generates_of_ok generate⟩

theorem infer_substitution_static (inferred : (e.infer env).run supply = .ok inference rest) :
    inference.substitution.IsStatic := by
  obtain ⟨raw, constraints, solution, generated, solved, generate, solve, rfl, _⟩ :=
    infer_ok.mp inferred
  obtain ⟨final, ran, rfl, _⟩ := Drawing.solve_ok.mp solve
  exact Solver.solve_static (generates_of_ok generate).static ran

theorem infer_part?_dyn (inferred : (e.infer env).run supply = .ok inference rest)
    (position : List Ty.Side) :
    inference.type.part? position = some .dyn ↔ inference.raw.part? position = some .dyn := by
  have static := infer_substitution_static inferred
  calc inference.type.part? position = some .dyn
      ↔ (inference.substitution.apply inference.raw).part? position = some .dyn := by
        rw [infer_type inferred, Ty.generalizeFrom_eq]
        exact Ty.part?_inst_dyn (fun x => rfl) _ position
    _ ↔ inference.raw.part? position = some .dyn := by
        rw [Substitution.apply_eq_inst]
        exact Ty.part?_inst_dyn (fun x => static.apply rfl) _ position

end Expr

/-- Every bound type is static, and the inferred type has `?` where the raw type has it. Where neither
the environment nor a declared type mentions `?`, no part of the inference does. -/
theorem infer_dynamic_positions (env : Env Empty) (e : Expr Empty) (supply rest : Supply)
    (inference : Inference Empty) (inferred : (e.infer env).run supply = .ok inference rest) :
    (∀ binding ∈ inference.substitution.bindings, binding.2.isStatic = true) ∧
      (∀ position, inference.type.part? position = some .dyn ↔
        inference.raw.part? position = some .dyn) ∧
      (env.IsStatic → (∀ t ∈ e.declared, t.isStatic = true) →
        inference.raw.isStatic = true ∧
          (∀ c ∈ inference.constraints, c.left.isStatic = true ∧ c.right.isStatic = true) ∧
          (∀ binding ∈ inference.substitution.bindings, binding.2.isStatic = true) ∧
          inference.type.isStatic = true) := by
  have static := Expr.infer_substitution_static inferred
  have positions := Expr.infer_part?_dyn inferred
  refine ⟨static, positions, fun staticEnv staticDeclared => ?_⟩
  obtain ⟨generated, generates⟩ := Expr.infer_generates inferred
  obtain ⟨staticRaw, staticConstraints⟩ := generates.static_of_static staticEnv staticDeclared
  refine ⟨staticRaw, staticConstraints, static, ?_⟩
  rw [Ty.isStatic_iff_part] at staticRaw ⊢
  exact fun position dynamic => staticRaw position ((positions position).mp dynamic)

/-- The argument of a bound function that takes and returns the type: its domain is compared with a
variable, which stays one if the type is `?` and is bound otherwise. -/
theorem infer_dynamic_positions_argument :
    let env (t : Ty Empty) : Env Empty := ⟨[("g", .arrow (.arrow t .int) t)]⟩
    let e : Expr Empty := .lam "f" none (.app (.var "g") (.var "f"))
    (∃ inference rest, (e.infer (env .dyn)).run (.startingAt 1) = .ok inference rest ∧
        inference.type = .arrow (.arrow (.param 1) .int) .dyn ∧
        inference.substitution.bindings = [(1, .arrow (.var 2) (.var 3)), (3, .int)] ∧
        (∀ binding ∈ inference.substitution.bindings, binding.2.isStatic = true) ∧
        ∀ position, inference.type.part? position = some .dyn ↔
          inference.raw.part? position = some .dyn) ∧
      (env .bool).IsStatic ∧ (∀ t ∈ e.declared, t.isStatic = true) ∧
      ∃ inference rest, (e.infer (env .bool)).run (.startingAt 1) = .ok inference rest ∧
        inference.type = .arrow (.arrow .bool .int) .bool ∧
        inference.raw.isStatic = true ∧
        (∀ c ∈ inference.constraints, c.left.isStatic = true ∧ c.right.isStatic = true) ∧
        (∀ binding ∈ inference.substitution.bindings, binding.2.isStatic = true) ∧
        inference.type.isStatic = true := by
  intro env e
  have infers (t : Ty Empty) (final : Solver.State Empty)
      (ran : Solver.State.run (.initial [.consistent (.arrow t .int) (.var 1)] 2) = .ok final) :
      ∃ rest constraints, (e.infer (env t)).run (.startingAt 1) =
        .ok ⟨e, .arrow (.var 1) t, constraints, final.solved,
          ((final.solved.apply (.arrow (.var 1) t)).generalizeFrom 1).1⟩ rest := by
    have generates : Generates (env t) e (.startingAt 1) (.arrow (.var 1) t)
        ((((∅ : ConstraintSet Empty).union ∅).union ∅).union
          (.ofList [.consistent (.arrow t .int) (.var 1)])) ⟨2, 1⟩ :=
      .implicit (.appArrow (.var rfl) (.var rfl))
    refine ⟨_, _, Expr.infer_ok.mpr ⟨_, _, _, _, _, generates.run_ok,
      Drawing.solve_ok.mpr ⟨final, ?_, rfl, rfl⟩, rfl, rfl⟩⟩
    rw [ConstraintSet.solve, ConstraintSet.ordered_of_sorted (List.pairwise_singleton _ _)]
    exact ran
  obtain ⟨_, _, inferredDyn⟩ := infers .dyn
    ⟨[], [], ⟨[(1, .arrow (.var 2) (.var 3)), (3, .int)]⟩, 4⟩ (Solver.run_of_runFor 9 rfl)
  obtain ⟨_, _, inferredBool⟩ := infers .bool
    ⟨[], [], ⟨[(1, .arrow (.var 2) (.var 3)), (2, .bool), (3, .int)]⟩, 4⟩
    (Solver.run_of_runFor 9 rfl)
  have staticEnv : (env .bool).IsStatic := List.forall_mem_singleton.mpr rfl
  have staticDeclared : ∀ t ∈ e.declared, t.isStatic = true := List.forall_mem_nil _
  obtain ⟨static, positions, -⟩ := infer_dynamic_positions _ _ _ _ _ inferredDyn
  exact ⟨⟨_, _, inferredDyn, rfl, rfl, static, positions⟩, staticEnv, staticDeclared, _, _,
    inferredBool, rfl, (infer_dynamic_positions _ _ _ _ _ inferredBool).2.2 staticEnv staticDeclared⟩

end Gradual
