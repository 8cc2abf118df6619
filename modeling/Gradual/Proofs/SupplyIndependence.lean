import Gradual.Proofs.Evaluation
import Gradual.Proofs.Parameters

/-! An inference does not depend on where its supply of ids starts. Generation goes the same way up to
the ids it draws, so it fails with the same error or not at all. The solver may take the constraints
in another order and draw another number of variables; that it still succeeds or fails alike, and
finds the same type up to names, is because the type is principal. -/
namespace Gradual

variable {ε α β : Type}

/-- The same error, except that any two conflicts of constraints count as the same. -/
inductive TypingError.SameKind : TypingError ε → TypingError ε → Prop
  | unbound (x : String) : SameKind (.unbound x) (.unbound x)
  | notApplicable (t : Ty ε) : SameKind (.notApplicable t) (.notApplicable t)
  | conflict (c d : Constraint ε) : SameKind (.conflict c) (.conflict d)

theorem TypingError.SameKind.refl (error : TypingError Empty) : error.SameKind error := by
  cases error with
  | unbound x => exact .unbound x
  | notApplicable t => exact .notApplicable t
  | conflict c => exact .conflict c c
  | fault cause => exact cause.elim_grammar.elim

namespace Drawing

/-- Both computations failed with the same error, or both succeeded with related results. -/
inductive Alike (related : α → α → Prop) :
    EStateM.Result (TypingError ε) Supply α → EStateM.Result (TypingError ε) Supply α → Prop
  | ok {a a' : α} {s s' : Supply} (results : related a a') : Alike related (.ok a s) (.ok a' s')
  | error (error : TypingError ε) (s s' : Supply) : Alike related (.error error s) (.error error s')

theorem Alike.bind {related : α → α → Prop} {further : β → β → Prop} {first first' : Drawing ε α}
    {next next' : α → Drawing ε β} {s s' : Supply}
    (firsts : Alike related (first.run s) (first'.run s'))
    (nexts : ∀ a a' t t', related a a' → Alike further ((next a).run t) ((next' a').run t')) :
    Alike further ((first >>= next).run s) ((first' >>= next').run s') := by
  rw [EStateM.run_bind, EStateM.run_bind]
  generalize first.run s = ran at firsts
  generalize first'.run s' = ran' at firsts
  cases firsts with
  | ok results => exact nexts _ _ _ _ results
  | error error t t' => exact .error error t t'

theorem solve_error {constraints : ConstraintSet Empty} {s s' : Supply} {error : TypingError Empty}
    (failed : (solve constraints).run s = .error error s') : ∃ blamed, error = .conflict blamed := by
  obtain ⟨final, ran, _⟩ | ⟨blamed, state, ran⟩ :=
    Solver.run_outcome (.initial constraints.ordered s.nextVar)
  · rw [run_solve_ok ran] at failed
    cases failed
  · rw [run_solve_error ran] at failed
    cases failed
    exact ⟨blamed, rfl⟩

end Drawing

/-- The types differ in the ids of their variables at most. -/
inductive Ty.SameShape : Ty ε → Ty ε → Prop
  | param (a : Int) : SameShape (.param a) (.param a)
  | var (x y : Int) : SameShape (.var x) (.var y)
  | base (name : String) : SameShape (.base name) (.base name)
  | arrow {a b c d : Ty ε} (dom : SameShape a c) (cod : SameShape b d) :
      SameShape (.arrow a b) (.arrow c d)
  | dyn : SameShape .dyn .dyn

theorem Ty.SameShape.refl (t : Ty Empty) : t.SameShape t := by
  induction t with
  | param a => exact .param a
  | var x => exact .var x x
  | base name => exact .base name
  | arrow dom cod left right => exact .arrow left right
  | dyn => exact .dyn
  | host leaf => exact leaf.elim

/-! Generation looks at the outermost constructor of a type only, so it goes the same way whatever
the ids of variables are. -/
section Generation

variable {operator operator' : Ty Empty} (s s' : Supply)

theorem Drawing.freshVar_alike :
    Drawing.Alike Ty.SameShape ((Drawing.freshVar : Drawing Empty (Ty Empty)).run s)
      (Drawing.freshVar.run s') := .ok (.var _ _)

theorem Ty.SameShape.codomain (shapes : operator.SameShape operator') :
    Drawing.Alike (fun result result' => result.1.SameShape result'.1)
      (operator.codomain.run s) (operator'.codomain.run s') := by
  cases shapes with
  | param | base => exact .error _ s s'
  | var => exact .ok (.var _ _)
  | arrow dom cod => exact .ok cod
  | dyn => exact .ok .dyn

theorem Ty.SameShape.domain (shapes : operator.SameShape operator') (arg arg' : Ty Empty) :
    Drawing.Alike (fun _ _ => True) ((operator.domain arg).run s)
      ((operator'.domain arg').run s') := by
  cases shapes with
  | param | base => exact .error _ s s'
  | var | arrow | dyn => exact .ok trivial

theorem Expr.generate_alike (e : Expr Empty) {env env' : Env Empty}
    (envs : env.Related Ty.SameShape env') :
    Drawing.Alike (fun result result' => result.1.SameShape result'.1)
      ((e.generate env).run s) ((e.generate env').run s') := by
  induction e generalizing env env' s s' with
  | var x =>
    have entries := envs x
    unfold Expr.generate
    generalize env.get? x = entry at entries
    generalize env'.get? x = entry' at entries
    cases entries with
    | some shapes => exact .ok shapes
    | none => exact .error _ s s'
  | int value => exact .ok (.base _)
  | bool value => exact .ok (.base _)
  | add l r left right =>
    unfold Expr.generate
    refine (left s s' envs).bind fun _ _ t t' _ => ?_
    exact (right t t' envs).bind fun _ _ _ _ _ => .ok (.base _)
  | lam x declared body ih =>
    cases declared with
    | none =>
      unfold Expr.generate
      refine (Drawing.freshVar_alike s s').bind fun param param' t t' params => ?_
      exact (ih t t' (envs.extend params x)).bind fun _ _ _ _ results => .ok (.arrow params results)
    | some param =>
      unfold Expr.generate
      have params := Ty.SameShape.refl param
      exact (ih s s' (envs.extend params x)).bind fun _ _ _ _ results => .ok (.arrow params results)
  | app f a func argument =>
    unfold Expr.generate
    refine (func s s' envs).bind fun operator operator' t t' operators => ?_
    refine (argument t t' envs).bind fun arg arg' t t' _ => ?_
    refine (operators.codomain t t').bind fun result result' t t' results => ?_
    exact (operators.domain t t' arg.1 arg'.1).bind fun _ _ _ _ _ => .ok results
  | host leaf => exact leaf.elim

end Generation

section Inference

variable {env : Env Empty} {e : Expr Empty} {supply supply' rest rest' : Supply}

/-- An inference fails in its generation, or else with a conflict of constraints. -/
theorem Expr.infer_error {error : TypingError Empty}
    (failed : (e.infer env).run supply = .error error rest) :
    (e.generate env).run supply = .error error rest ∨
      (∃ result middle, (e.generate env).run supply = .ok result middle) ∧
        ∃ blamed, error = .conflict blamed := by
  unfold Expr.infer at failed
  obtain generated | ⟨⟨raw, constraints⟩, middle, generated, failed⟩ := Drawing.bind_error.mp failed
  · exact .inl generated
  · refine .inr ⟨⟨_, _, generated⟩, ?_⟩
    obtain unsolved | ⟨solution, solved, _, failed⟩ := Drawing.bind_error.mp failed
    · exact Drawing.solve_error unsolved
    · rw [Substitution.tryApply_grammar] at failed
      obtain stuck | ⟨_, _, _, failed⟩ := Drawing.bind_error.mp failed
      · rw [Drawing.run_generalize] at stuck
        cases stuck
      · cases failed

theorem Expr.infer_error_sameKind {error error' : TypingError Empty}
    (failed : (e.infer env).run supply = .error error rest)
    (failed' : (e.infer env).run supply' = .error error' rest') : error.SameKind error' := by
  have envs : env.Related Ty.SameShape env := by
    intro x
    cases env.get? x with
    | none => exact .none
    | some t => exact .some (.refl t)
  have alike := e.generate_alike supply supply' envs
  obtain generated | ⟨⟨_, _, generated⟩, blamed, rfl⟩ := Expr.infer_error failed
  · obtain generated' | ⟨⟨_, _, generated'⟩, _⟩ := Expr.infer_error failed'
    · rw [generated, generated'] at alike
      cases alike
      exact .refl error
    · rw [generated, generated'] at alike
      cases alike
  · obtain generated' | ⟨_, blamed', rfl⟩ := Expr.infer_error failed'
    · rw [generated, generated'] at alike
      cases alike
    · exact .conflict blamed blamed'

theorem Expr.infer_succeeds_other (closedEnv : env.Closed) (closed : e.Closed)
    {inference : Inference Empty} (inferred : (e.infer env).run supply = .ok inference rest)
    (supply' : Supply) : ∃ inference' rest', (e.infer env).run supply' = .ok inference' rest' := by
  have typed := Expr.infer_hasType closedEnv closed inferred .identity
  obtain ⟨inference', rest', inferred', _⟩ :=
    Expr.infer_of_hasType supply' closedEnv closed typed
  exact ⟨inference', rest', inferred'⟩

/-- Two inferences find the same principal type up to the names of its variables. -/
theorem Expr.infer_renaming (closedEnv : env.Closed) (closed : e.Closed)
    {inference inference' : Inference Empty}
    (inferred : (e.infer env).run supply = .ok inference rest)
    (inferred' : (e.infer env).run supply' = .ok inference' rest') :
    ∃ ρ : Equiv.Perm Int, inference'.substitution.apply inference'.raw =
      (inference.substitution.apply inference.raw).rename id ρ := by
  have typed := Expr.infer_hasType closedEnv closed inferred .identity
  have typed' := Expr.infer_hasType closedEnv closed inferred' .identity
  rw [StaticAssignment.identity_apply] at typed typed'
  obtain ⟨σ, forth⟩ := Expr.infer_factors closedEnv closed inferred typed'
  obtain ⟨τ, back⟩ := Expr.infer_factors closedEnv closed inferred' typed
  obtain ⟨ρ, renames⟩ := Ty.exists_renaming_of_instances forth.symm back.symm
  exact ⟨ρ, renames.symm⟩

end Inference

/-- Wherever the supply starts, provided that its parameters are new, an inference succeeds or fails
alike: the inferred types differ in the names of new parameters only, and errors are of one kind. -/
theorem infer_supply_independent (env : Env Empty) (e : Expr Empty) (supply supply' : Supply)
    (closedEnv : env.Closed) (closed : e.Closed)
    (older : ∀ a ∈ env.params ++ e.params, a < supply.nextParam ∧ a < supply'.nextParam) :
    ((∃ inference rest, (e.infer env).run supply = .ok inference rest) ↔
        ∃ inference' rest', (e.infer env).run supply' = .ok inference' rest') ∧
      (∀ inference rest inference' rest', (e.infer env).run supply = .ok inference rest →
        (e.infer env).run supply' = .ok inference' rest' →
          (∃ κ : Equiv.Perm Int, (∀ a ∈ env.params ++ e.params, κ a = a) ∧
            inference'.type = inference.type.rename κ id) ∧
          inference.type.alphaEquivalent inference'.type = true ∧
          inference.type.render = inference'.type.render) ∧
      ∀ error rest error' rest', (e.infer env).run supply = .error error rest →
        (e.infer env).run supply' = .error error' rest' → error.SameKind error' := by
  refine ⟨⟨?_, ?_⟩, ?_, ?_⟩
  · rintro ⟨inference, rest, inferred⟩
    exact Expr.infer_succeeds_other closedEnv closed inferred supply'
  · rintro ⟨inference, rest, inferred⟩
    exact Expr.infer_succeeds_other closedEnv closed inferred supply
  · intro inference rest inference' rest' inferred inferred'
    obtain ⟨ρ, renames⟩ := Expr.infer_renaming closedEnv closed inferred inferred'
    obtain ⟨κ, fixed, types⟩ := Ty.generalize_rename ρ
      (Expr.infer_params closedEnv closed inferred) older
    rw [← renames, ← Expr.infer_type inferred, ← Expr.infer_type inferred'] at types
    refine ⟨⟨κ, fixed, types⟩, ?_, ?_⟩
    · rw [types]
      exact Ty.alphaEquivalent_rename κ.injective Function.injective_id _
    · rw [types, Ty.render_rename κ.injective]
  · intro error rest error' rest' failed failed'
    exact Expr.infer_error_sameKind failed failed'

/-- The type of `p` is a parameter that must be kept. From 9 on, variables follow each other in another
order in the texts by which constraints are ordered, and so other variables are bound. -/
theorem infer_supply_independent_kept :
    let env : Env Empty := ⟨[("p", .param 1)]⟩
    let e : Expr Empty := .lam "f" none (.lam "x" none (.app (.app (.var "f") (.var "p")) (.var "x")))
    env.Closed ∧ e.Closed ∧
      (∀ a ∈ env.params ++ e.params, a < (Supply.startingAt 2).nextParam ∧
        a < (Supply.startingAt 9).nextParam) ∧
      ∃ inference rest inference' rest',
        (e.infer env).run (.startingAt 2) = .ok inference rest ∧
        inference.substitution.bindings.map Prod.fst = [10, 6, 2, 4, 5, 7, 3, 11] ∧
        inference.type = .arrow (.arrow (.param 1) (.arrow (.param 2) (.param 3)))
          (.arrow (.param 2) (.param 3)) ∧
        (e.infer env).run (.startingAt 9) = .ok inference' rest' ∧
        inference'.substitution.bindings.map Prod.fst = [13, 17, 12, 15, 16, 9, 11, 14] ∧
        inference'.type = .arrow (.arrow (.param 1) (.arrow (.param 9) (.param 10)))
          (.arrow (.param 9) (.param 10)) ∧
        (∃ κ : Equiv.Perm Int, κ 1 = 1 ∧ inference'.type = inference.type.rename κ id) ∧
        inference.type.render = inference'.type.render := by
  intro env e
  have closedEnv : env.Closed := List.forall_mem_singleton.mpr rfl
  have closed : e.Closed := List.forall_mem_nil _
  have older : ∀ a ∈ env.params ++ e.params, a < (Supply.startingAt 2).nextParam ∧
      a < (Supply.startingAt 9).nextParam := List.forall_mem_singleton.mpr (by decide)
  have generates : Generates env e (.startingAt 2) _ _ _ :=
    .implicit (.implicit (.appVar (.appVar (.var rfl) (.var rfl)) (.var rfl)))
  have inferred := Expr.infer_of_solve generates (ConstraintSet.solve_of_runFor
    [.consistent (.var 10) (.var 3), .consistent (.var 6) (.param 1),
      .equal (.var 2) (.arrow (.var 4) (.var 5)), .equal (.var 2) (.arrow (.var 6) (.var 7)),
      .equal (.var 5) (.arrow (.var 10) (.var 11)), .equal (.var 5) (.arrow (.var 8) (.var 9))]
    (by decide) (by decide +kernel) 11 rfl)
  have generates' : Generates env e (.startingAt 9) _ _ _ :=
    .implicit (.implicit (.appVar (.appVar (.var rfl) (.var rfl)) (.var rfl)))
  have inferred' := Expr.infer_of_solve generates' (ConstraintSet.solve_of_runFor
    [.consistent (.var 13) (.param 1), .consistent (.var 17) (.var 10),
      .equal (.var 12) (.arrow (.var 15) (.var 16)), .equal (.var 12) (.arrow (.var 17) (.var 18)),
      .equal (.var 9) (.arrow (.var 11) (.var 12)), .equal (.var 9) (.arrow (.var 13) (.var 14))]
    (by decide) (by decide +kernel) 12 rfl)
  obtain ⟨-, types, -⟩ :=
    infer_supply_independent env e (.startingAt 2) (.startingAt 9) closedEnv closed older
  obtain ⟨⟨κ, fixed, renamed⟩, -, texts⟩ := types _ _ _ _ inferred inferred'
  exact ⟨closedEnv, closed, older, _, _, _, _, inferred, rfl, rfl, inferred', rfl, rfl,
    ⟨κ, fixed 1 (by decide), renamed⟩, texts⟩

end Gradual
