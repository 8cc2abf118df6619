import Gradual.Proofs.Evaluation

/-! Inference sees the binding structure of an expression and not the names its functions give to
their parameters. Two expressions are compared together with the binders around them, paired from the
inside out: a name on one side corresponds to a name on the other when the same pair binds both, or
when no pair binds either and they are the same name. Expressions that are equal up to such
correspondences generate the same computation in any two environments that agree on the free names,
so that their inferences go the same way with every supply. -/
namespace Gradual

variable {ε : Type}

namespace Expr

/-- Binders around two expressions, each with its counterpart, the innermost first. -/
abbrev Scope := List (String × String)

/-- The names have the same binder, or are one name that is bound on neither side. -/
def Scope.Matches : Scope → String → String → Prop
  | [], x, y => x = y
  | (a, b) :: outer, x, y => (x = a ∧ y = b) ∨ (x ≠ a ∧ y ≠ b ∧ Matches outer x y)

inductive AlphaEq : Scope → Expr ε → Expr ε → Prop
  | var {scope : Scope} {x y : String} (names : scope.Matches x y) :
      AlphaEq scope (.var x) (.var y)
  | int {scope : Scope} (value : Int) : AlphaEq scope (.int value) (.int value)
  | bool {scope : Scope} (value : Bool) : AlphaEq scope (.bool value) (.bool value)
  | add {scope : Scope} {l r l' r' : Expr ε} (left : AlphaEq scope l l')
      (right : AlphaEq scope r r') : AlphaEq scope (.add l r) (.add l' r')
  | lam {scope : Scope} {x y : String} {body body' : Expr ε} (declared : Option (Ty ε))
      (bodies : AlphaEq ((x, y) :: scope) body body') :
      AlphaEq scope (.lam x declared body) (.lam y declared body')
  | app {scope : Scope} {f a f' a' : Expr ε} (func : AlphaEq scope f f')
      (arg : AlphaEq scope a a') : AlphaEq scope (.app f a) (.app f' a')
  | host {scope : Scope} (leaf : ε) : AlphaEq scope (.host leaf) (.host leaf)

/-- Equal up to the names of parameters. -/
def AlphaEquivalent (e e' : Expr ε) : Prop := AlphaEq [] e e'

section Renaming

/-- Every name in the expression, also those of its parameters. -/
def names : Expr ε → List String
  | .var x => [x]
  | .add l r => l.names ++ r.names
  | .lam x _ body => x :: body.names
  | .app f a => f.names ++ a.names
  | .int _ | .bool _ | .host _ => []

/-- The expression with `y` in place of the free occurrences of `x`. -/
def renameFree (x y : String) : Expr ε → Expr ε
  | .var z => .var (if z = x then y else z)
  | .add l r => .add (l.renameFree x y) (r.renameFree x y)
  | .lam z declared body =>
    if z = x then .lam z declared body else .lam z declared (body.renameFree x y)
  | .app f a => .app (f.renameFree x y) (a.renameFree x y)
  | .int value => .int value
  | .bool value => .bool value
  | .host leaf => .host leaf

theorem AlphaEq.refl {scope : Scope} {e : Expr ε} (kept : ∀ z ∈ e.names, scope.Matches z z) :
    AlphaEq scope e e := by
  induction e generalizing scope with
  | var x => exact .var (kept x List.mem_cons_self)
  | int value => exact .int value
  | bool value => exact .bool value
  | add l r left right | app l r left right =>
    obtain ⟨inLeft, inRight⟩ := List.forall_mem_append.mp kept
    constructor
    · exact left inLeft
    · exact right inRight
  | lam x declared body ih =>
    refine .lam declared (ih fun z member => ?_)
    by_cases bound : z = x
    · exact .inl ⟨bound, bound⟩
    · exact .inr ⟨bound, bound, kept z (List.mem_cons_of_mem x member)⟩
  | host leaf => exact .host leaf

theorem AlphaEq.renameFree {scope : Scope} {e : Expr ε} {x y : String} (new : y ∉ e.names)
    (renamed : ∀ z ∈ e.names, scope.Matches z (if z = x then y else z)) :
    AlphaEq scope e (e.renameFree x y) := by
  induction e generalizing scope with
  | var z => exact .var (renamed z List.mem_cons_self)
  | int value => exact .int value
  | bool value => exact .bool value
  | add l r left right | app l r left right =>
    obtain ⟨inLeft, inRight⟩ := List.forall_mem_append.mp renamed
    simp only [names, List.mem_append, not_or] at new
    constructor
    · exact left new.1 inLeft
    · exact right new.2 inRight
  | lam z declared body ih =>
    obtain ⟨_, inBody⟩ := List.forall_mem_cons.mp renamed
    simp only [names, List.mem_cons, not_or] at new
    rw [Expr.renameFree]
    split
    · -- The parameter hides `x`, so the body stays as it is.
      rename_i hidden
      subst hidden
      refine .lam declared (.refl fun w member => ?_)
      by_cases bound : w = z
      · exact .inl ⟨bound, bound⟩
      · have outer := inBody w member
        rw [if_neg bound] at outer
        exact .inr ⟨bound, bound, outer⟩
    · rename_i other
      refine .lam declared (ih new.2 fun w member => ?_)
      by_cases bound : w = z
      · rw [bound, if_neg other]
        exact .inl ⟨rfl, rfl⟩
      · refine .inr ⟨bound, ?_, inBody w member⟩
        split
        · exact new.1
        · exact bound
  | host leaf => exact .host leaf

/-- A parameter can be given any name that does not occur in the function. -/
theorem alphaEquivalent_renameFree {x y : String} {body : Expr ε} (new : y ∉ body.names)
    (declared : Option (Ty ε)) :
    AlphaEquivalent (.lam x declared body) (.lam y declared (body.renameFree x y)) := by
  refine .lam declared (.renameFree new fun z member => ?_)
  by_cases bound : z = x
  · rw [if_pos bound]
    exact .inl ⟨bound, rfl⟩
  · rw [if_neg bound]
    exact .inr ⟨bound, fun same => new (same ▸ member), rfl⟩

end Renaming

section Generation

variable {scope : Scope} {e e' : Expr ε} {env env' : Env ε}

/-- Free names of the expression have the types of their counterparts, and those that have none are
the same on both sides. -/
def Agree (scope : Scope) (e : Expr ε) (env env' : Env ε) : Prop :=
  ∀ x ∈ e.free, ∀ y, scope.Matches x y →
    env.get? x = env'.get? y ∧ (env.get? x = none → x = y)

theorem Agree.mono {part : Expr ε} (agree : Agree scope e env env')
    (inside : ∀ x ∈ part.free, x ∈ e.free) : Agree scope part env env' :=
  fun x member => agree x (inside x member)

theorem Agree.extend {x y : String} {declared : Option (Ty ε)} {body : Expr ε}
    (agree : Agree scope (.lam x declared body) env env') (t : Ty ε) :
    Agree ((x, y) :: scope) body (env.extend x t) (env'.extend y t) := by
  intro z member w names
  rw [Env.get?_extend, Env.get?_extend]
  obtain ⟨rfl, rfl⟩ | ⟨left, right, outer⟩ := names
  · simp
  · rw [if_neg left, if_neg right]
    exact agree z (by simp [free, member, left]) w outer

variable [DecidableEq ε]

/-- Generation for one expression is generation for the other, with every supply. -/
theorem AlphaEq.generate (alike : AlphaEq scope e e') (agree : Agree scope e env env') :
    e.generate env = e'.generate env' := by
  induction alike generalizing env env' with
  | var names =>
    obtain ⟨types, unbound⟩ := agree _ List.mem_cons_self _ names
    simp only [Expr.generate, ← types]
    split
    · rfl
    · rename_i absent
      rw [unbound absent]
  | int | bool | host => rfl
  | add _ _ left right =>
    simp only [Expr.generate]
    rw [left (agree.mono fun x member => List.mem_append_left _ member),
      right (agree.mono fun x member => List.mem_append_right _ member)]
  | lam declared _ ih =>
    cases declared with
    | none => simp only [Expr.generate, ih (agree.extend _)]
    | some param => simp only [Expr.generate, ih (agree.extend _)]
  | app _ _ func arg =>
    simp only [Expr.generate]
    rw [func (agree.mono fun x member => List.mem_append_left _ member),
      arg (agree.mono fun x member => List.mem_append_right _ member)]

end Generation

end Expr

/-- Both inferences found the same, or both failed with the same error, and they left the same
supply. -/
inductive Inference.SameFindings :
    EStateM.Result (TypingError ε) Supply (Inference ε) →
      EStateM.Result (TypingError ε) Supply (Inference ε) → Prop
  | found {first second : Inference ε} {rest : Supply} (raw : first.raw = second.raw)
      (constraints : first.constraints = second.constraints)
      (substitution : first.substitution = second.substitution) (type : first.type = second.type) :
      SameFindings (.ok first rest) (.ok second rest)
  | failed (error : TypingError ε) (rest : Supply) :
      SameFindings (.error error rest) (.error error rest)

theorem Inference.SameFindings.bind {α : Type} {first : Drawing ε α}
    {next next' : α → Drawing ε (Inference ε)} {supply : Supply}
    (nexts : ∀ a rest, SameFindings ((next a).run rest) ((next' a).run rest)) :
    SameFindings ((first >>= next).run supply) ((first >>= next').run supply) := by
  rw [EStateM.run_bind, EStateM.run_bind]
  cases first.run supply with
  | ok a rest => exact nexts a rest
  | error error rest => exact .failed error rest

section Inference

variable [DecidableEq ε] [ToString ε]

theorem Expr.infer_of_generate {e e' : Expr ε} {env env' : Env ε}
    (generated : e.generate env = e'.generate env') (supply : Supply) :
    Inference.SameFindings ((e.infer env).run supply) ((e'.infer env').run supply) := by
  unfold Expr.infer
  rw [generated]
  refine .bind fun result supply => ?_
  obtain ⟨raw, constraints⟩ := result
  refine .bind fun substitution supply => ?_
  cases substitution.tryApply raw with
  | error fault => exact .failed (.fault fault) supply
  | ok solved => exact .bind fun type rest => .found rfl rfl rfl rfl

/-- Neither the names of parameters nor what the environment says of names that are not free in the
expression make a difference to its inference. -/
theorem infer_binding_structure (e e' : Expr ε) (env env' : Env ε) (supply : Supply)
    (alike : e.AlphaEquivalent e') (agree : ∀ x ∈ e.free, env.get? x = env'.get? x) :
    Inference.SameFindings ((e.infer env).run supply) ((e'.infer env').run supply) := by
  refine Expr.infer_of_generate (alike.generate fun x member y names => ?_) supply
  obtain rfl : x = y := names
  exact ⟨agree x member, fun _ => rfl⟩

end Inference

/-- The parameter `x` of `fun x -> (fun x -> x) (f x)` becomes `y`, a name that the first environment
binds, and the inner function keeps an `x`, which the second environment binds. -/
theorem infer_binding_structure_shadowing :
    let inner : Expr Empty := .lam "x" none (.var "x")
    let e : Expr Empty := .lam "x" none (.app inner (.app (.var "f") (.var "x")))
    let e' : Expr Empty := .lam "y" none (.app inner (.app (.var "f") (.var "y")))
    let env : Env Empty := .ofList [("f", .arrow .dyn .int), ("y", .bool)]
    let env' : Env Empty := .ofList [("x", .int), ("f", .arrow .dyn .int)]
    e.AlphaEquivalent e' ∧ (∀ x ∈ e.free, env.get? x = env'.get? x) ∧
      (∃ inference rest, (e.infer env).run .initial = .ok inference rest ∧
        inference.substitution = ⟨[(2, .int)]⟩ ∧ inference.type = .arrow (.param 1) .int) ∧
      Inference.SameFindings ((e.infer env).run .initial) ((e'.infer env').run .initial) := by
  intro inner e e' env env'
  have alike : e.AlphaEquivalent e' := Expr.alphaEquivalent_renameFree (by decide) none
  have agree : ∀ x ∈ e.free, env.get? x = env'.get? x := by decide
  have generates : Generates env e .initial _ _ _ :=
    .implicit (.appArrow (.implicit (.var rfl)) (.appArrow (.var rfl) (.var rfl)))
  have inferred := Expr.infer_of_solve generates (ConstraintSet.solve_of_runFor
    [.consistent .dyn (.var 1), .consistent (.var 2) .int] (by decide) (by decide +kernel) 3 rfl)
  exact ⟨alike, agree, ⟨_, _, inferred, rfl, rfl⟩,
    infer_binding_structure e e' env env' .initial alike agree⟩

end Gradual
