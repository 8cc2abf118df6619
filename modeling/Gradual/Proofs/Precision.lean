import Gradual.Proofs.Evaluation
import Gradual.Proofs.Principality

/-! Precision: a type is at least as precise as another if the other one has `?` in place of some of
its parts. Typing is monotone in precision, so making declared types and the types of an environment
less precise never makes an inference fail. Two inferences cannot be compared step by step, since an
operator may be a function in one of them and `?` in the other; they are compared by the types of the
expression, of which each finds the most general one. -/
namespace Gradual

variable {ε : Type}

namespace Ty

/-- The second type is the first one with some of its parts replaced by `?`. -/
inductive MorePrecise : Ty ε → Ty ε → Prop
  | refl (t : Ty ε) : MorePrecise t t
  | dyn (t : Ty ε) : MorePrecise t .dyn
  | arrow {a b c d : Ty ε} (dom : MorePrecise a c) (cod : MorePrecise b d) :
      MorePrecise (.arrow a b) (.arrow c d)

theorem Consistent.loosen_left {t t' u : Ty ε} (consistent : Consistent t u)
    (precise : t.MorePrecise t') : Consistent t' u := by
  induction precise generalizing u with
  | refl t => exact consistent
  | dyn t => exact .dynLeft u
  | arrow _ _ dom cod =>
    cases consistent with
    | dynRight => exact .dynRight _
    | arrow left right => exact .arrow (dom left) (cod right)

theorem Consistent.loosen {t t' u u' : Ty ε} (consistent : Consistent t u)
    (left : t.MorePrecise t') (right : u.MorePrecise u') : Consistent t' u' :=
  ((consistent.loosen_left left).symm.loosen_left right).symm

/-- Less precise operators can still be applied, and they take and return less precise types. -/
theorem MorePrecise.function? {t t' dom cod : Ty ε} (precise : t.MorePrecise t')
    (function : t.function? = some (dom, cod)) :
    ∃ dom' cod', t'.function? = some (dom', cod') ∧ dom.MorePrecise dom' ∧ cod.MorePrecise cod' := by
  cases precise with
  | refl => exact ⟨dom, cod, function, .refl dom, .refl cod⟩
  | dyn => exact ⟨.dyn, .dyn, rfl, .dyn dom, .dyn cod⟩
  | arrow left right =>
    cases function
    exact ⟨_, _, rfl, left, right⟩

end Ty

/-- Both environments bind the same names, each to a type at least as precise in the first one. -/
def Env.MorePrecise (env env' : Env ε) : Prop := env.Related Ty.MorePrecise env'

theorem Env.MorePrecise.get? {env env' : Env ε} (envs : env.MorePrecise env') {x : String} {t : Ty ε}
    (bound : env.get? x = some t) : ∃ t', env'.get? x = some t' ∧ t.MorePrecise t' := by
  have entries := envs x
  rw [bound] at entries
  generalize found : env'.get? x = entry at entries
  cases entries with
  | some types => exact ⟨_, rfl, types⟩

/-- The expressions differ in the declared types of parameters at most, and each of these is at least
as precise in the first expression. -/
inductive Expr.MorePrecise : Expr ε → Expr ε → Prop
  | var (x : String) : MorePrecise (.var x) (.var x)
  | int (value : Int) : MorePrecise (.int value) (.int value)
  | bool (value : Bool) : MorePrecise (.bool value) (.bool value)
  | add {l l' r r' : Expr ε} (left : MorePrecise l l') (right : MorePrecise r r') :
      MorePrecise (.add l r) (.add l' r')
  | implicit {x : String} {body body' : Expr ε} (bodies : MorePrecise body body') :
      MorePrecise (.lam x none body) (.lam x none body')
  | explicit {x : String} {t t' : Ty ε} {body body' : Expr ε} (declared : t.MorePrecise t')
      (bodies : MorePrecise body body') :
      MorePrecise (.lam x (some t) body) (.lam x (some t') body')
  | app {f f' a a' : Expr ε} (func : MorePrecise f f') (argument : MorePrecise a a') :
      MorePrecise (.app f a) (.app f' a')

/-- A less precise expression has a less precise type, also in a less precise environment. -/
theorem HasType.loosen {env env' : Env ε} {e e' : Expr ε} {t : Ty ε} (typed : HasType env e t)
    (envs : env.MorePrecise env') (exprs : e.MorePrecise e') :
    ∃ t', HasType env' e' t' ∧ t.MorePrecise t' := by
  induction typed generalizing env' e' with
  | var bound =>
    cases exprs
    obtain ⟨t', bound', types⟩ := envs.get? bound
    exact ⟨t', .var bound', types⟩
  | int value =>
    cases exprs
    exact ⟨.int, .int value, .refl .int⟩
  | bool value =>
    cases exprs
    exact ⟨.bool, .bool value, .refl .bool⟩
  | add _ _ leftInt rightInt ihLeft ihRight =>
    cases exprs with
    | add left right =>
      obtain ⟨_, typedLeft, leftTypes⟩ := ihLeft envs left
      obtain ⟨_, typedRight, rightTypes⟩ := ihRight envs right
      exact ⟨.int, .add typedLeft typedRight (leftInt.loosen_left leftTypes)
        (rightInt.loosen_left rightTypes), .refl .int⟩
  | @implicit _ _ _ t _ static _ ih =>
    cases exprs with
    | implicit bodies =>
      -- Without a declared type the parameter may keep the type it has.
      obtain ⟨_, result, results⟩ := ih (Env.Related.extend envs (.refl t) _) bodies
      exact ⟨_, .implicit static result, .arrow (.refl t) results⟩
  | explicit _ ih =>
    cases exprs with
    | explicit declared bodies =>
      obtain ⟨_, result, results⟩ := ih (Env.Related.extend envs declared _) bodies
      exact ⟨_, .explicit result, .arrow declared results⟩
  | app _ _ function accepts ihFunc ihArg =>
    cases exprs with
    | app func argument =>
      obtain ⟨_, typedFunc, operators⟩ := ihFunc envs func
      obtain ⟨_, typedArg, arguments⟩ := ihArg envs argument
      obtain ⟨_, cod', function', doms, cods⟩ := operators.function? function
      exact ⟨cod', .app typedFunc typedArg function' (accepts.loosen doms arguments), cods⟩

/-- With less precise declarations and a less precise environment an inference still succeeds, and
the type it found before is at least as precise as a static instance of the one it finds now. -/
theorem infer_loosen (env env' : Env Empty) (e e' : Expr Empty) (supply supply' : Supply)
    (closedEnv : env.Closed) (closedEnv' : env'.Closed) (closed : e.Closed) (closed' : e'.Closed)
    (envs : env.MorePrecise env') (exprs : e.MorePrecise e') (inference : Inference Empty)
    (rest : Supply) (inferred : (e.infer env).run supply = .ok inference rest) :
    ∃ inference' rest', (e'.infer env').run supply' = .ok inference' rest' ∧
      ∃ σ : StaticAssignment Empty, (inference.substitution.apply inference.raw).MorePrecise
        (σ.apply (inference'.substitution.apply inference'.raw)) := by
  have typed := Expr.infer_hasType closedEnv closed inferred .identity
  rw [StaticAssignment.identity_apply] at typed
  obtain ⟨t', typed', types⟩ := typed.loosen envs exprs
  obtain ⟨inference', rest', inferred', σ, rfl⟩ :=
    Expr.infer_of_hasType supply' closedEnv' closed' typed'
  exact ⟨inference', rest', inferred', σ, types⟩

/-- The operator `g` becomes `?`, and the declared type of `f` loses its domain. The type of `x`, which
the operator had settled, is then left open. -/
theorem infer_loosen_operator :
    let env : Env Empty := ⟨[("g", .arrow .int .bool)]⟩
    let env' : Env Empty := ⟨[("g", .dyn)]⟩
    let e : Expr Empty := .lam "f" (some (.arrow .bool .int))
      (.lam "x" none (.app (.var "f") (.app (.var "g") (.var "x"))))
    let e' : Expr Empty := .lam "f" (some (.arrow .dyn .int))
      (.lam "x" none (.app (.var "f") (.app (.var "g") (.var "x"))))
    env.MorePrecise env' ∧ e.MorePrecise e' ∧
      ∃ inference rest, (e.infer env).run (.startingAt 1) = .ok inference rest ∧
        inference.substitution = ⟨[(1, .int)]⟩ ∧
        inference.type = .arrow (.arrow .bool .int) (.arrow .int .int) ∧
        ∃ inference' rest', (e'.infer env').run (.startingAt 7) = .ok inference' rest' ∧
          inference'.substitution = ∅ ∧
          inference'.type = .arrow (.arrow .dyn .int) (.arrow (.param 7) .int) ∧
          ∃ σ : StaticAssignment Empty, (inference.substitution.apply inference.raw).MorePrecise
            (σ.apply (inference'.substitution.apply inference'.raw)) := by
  intro env env' e e'
  have closedEnv : env.Closed := List.forall_mem_singleton.mpr rfl
  have closedEnv' : env'.Closed := List.forall_mem_singleton.mpr rfl
  have closed : e.Closed := List.forall_mem_singleton.mpr rfl
  have closed' : e'.Closed := List.forall_mem_singleton.mpr rfl
  have envs : env.MorePrecise env' := by
    intro x
    by_cases same : "g" = x
    · subst same
      exact .some (.dyn _)
    · simp [env, env', Env.get?, same]
  have exprs : e.MorePrecise e' :=
    .explicit (.arrow (.dyn _) (.refl _))
      (.implicit (.app (.var _) (.app (.var _) (.var _))))
  have generates : Generates env e (.startingAt 1) _ _ _ :=
    .explicit (.implicit (.appArrow (.var rfl) (.appArrow (.var rfl) (.var rfl))))
  have inferred := Expr.infer_of_solve generates (ConstraintSet.solve_of_runFor
    [.consistent .bool .bool, .consistent .int (.var 1)] (by decide) (by decide +kernel) 4 rfl)
  have generates' : Generates env' e' (.startingAt 7) _ _ _ :=
    .explicit (.implicit (.appArrow (.var rfl) (.appDyn (.var rfl) (.var rfl))))
  have inferred' := Expr.infer_of_solve generates' (ConstraintSet.solve_of_runFor
    [.consistent .dyn .dyn, .consistent .dyn (.var 7)] (by decide) (by decide +kernel) 3 rfl)
  obtain ⟨_, _, same, precise⟩ := infer_loosen env env' e e' (.startingAt 1) (.startingAt 7) closedEnv
    closedEnv' closed closed' envs exprs _ _ inferred
  cases inferred'.symm.trans same
  exact ⟨envs, exprs, _, _, inferred, rfl, rfl, _, _, inferred', rfl, rfl, precise⟩

end Gradual
