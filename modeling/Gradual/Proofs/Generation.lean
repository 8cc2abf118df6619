import Gradual.Proofs.Drawing
import Gradual.Proofs.Typing
import Mathlib.Tactic.Tauto

/-! Constraint generation as a relation between what goes in and what comes out, with one rule for
each way in which it can succeed. Generation adds no variables but those it draws, and its equations
are between static types. -/
namespace Gradual

/-! What holds of all constraints of a sum and of an application. -/
namespace ConstraintSet

variable {P : Constraint Empty → Prop} {c₁ c₂ : ConstraintSet Empty} {a b d : Constraint Empty}

theorem forall_empty : ∀ c ∈ (∅ : ConstraintSet Empty), P c :=
  fun c member => absurd member (not_mem_empty c)

theorem forall_sum : (∀ c ∈ ((c₁.union c₂).add a).add b, P c) ↔
    (∀ c ∈ c₁, P c) ∧ (∀ c ∈ c₂, P c) ∧ P a ∧ P b := by
  simp only [mem_add, mem_union, or_imp, forall_and, forall_eq]
  tauto

theorem forall_application : (∀ c ∈ ((c₁.union c₂).union ∅).union (ofList [a]), P c) ↔
    (∀ c ∈ c₁, P c) ∧ (∀ c ∈ c₂, P c) ∧ P a := by
  simp only [mem_union, mem_ofList, List.mem_singleton, or_imp, forall_and, forall_eq]
  have none : ∀ c ∈ (∅ : ConstraintSet Empty), P c := forall_empty
  tauto

theorem forall_splitApplication :
    (∀ c ∈ ((c₁.union c₂).union (ofList [a])).union (ofList [b, d]), P c) ↔
      (∀ c ∈ c₁, P c) ∧ (∀ c ∈ c₂, P c) ∧ P a ∧ P b ∧ P d := by
  simp only [mem_union, mem_ofList, List.mem_cons, List.not_mem_nil, or_false, or_imp, forall_and,
    forall_eq]
  tauto

end ConstraintSet

/-- The generation of a raw type and constraints, rule by rule: an application has one rule for each
kind of operator, and where the operator is a variable it is taken apart twice. -/
inductive Generates :
    Env Empty → Expr Empty → Supply → Ty Empty → ConstraintSet Empty → Supply → Prop
  | var {env : Env Empty} {x : String} {t : Ty Empty} {s : Supply} (bound : env.get? x = some t) :
      Generates env (.var x) s t ∅ s
  | int {env : Env Empty} {value : Int} {s : Supply} : Generates env (.int value) s .int ∅ s
  | bool {env : Env Empty} {value : Bool} {s : Supply} : Generates env (.bool value) s .bool ∅ s
  | add {env : Env Empty} {l r : Expr Empty} {t u : Ty Empty} {c₁ c₂ : ConstraintSet Empty}
      {s s₁ s₂ : Supply} (left : Generates env l s t c₁ s₁) (right : Generates env r s₁ u c₂ s₂) :
      Generates env (.add l r) s .int
        (((c₁.union c₂).add (.consistent t .int)).add (.consistent u .int)) s₂
  | implicit {env : Env Empty} {x : String} {body : Expr Empty} {u : Ty Empty}
      {c : ConstraintSet Empty} {s s' : Supply}
      (result : Generates (env.extend x (.var s.nextVar)) body
        { s with nextVar := s.nextVar + 1 } u c s') :
      Generates env (.lam x none body) s (.arrow (.var s.nextVar) u) c s'
  | explicit {env : Env Empty} {x : String} {body : Expr Empty} {t u : Ty Empty}
      {c : ConstraintSet Empty} {s s' : Supply}
      (result : Generates (env.extend x t) body s u c s') :
      Generates env (.lam x (some t) body) s (.arrow t u) c s'
  | appVar {env : Env Empty} {f a : Expr Empty} {x : Int} {t : Ty Empty}
      {c₁ c₂ : ConstraintSet Empty} {s s₁ s₂ : Supply} (func : Generates env f s (.var x) c₁ s₁)
      (argument : Generates env a s₁ t c₂ s₂) :
      Generates env (.app f a) s (.var (s₂.nextVar + 1))
        (((c₁.union c₂).union
          (.ofList [.equal (.var x) (.arrow (.var s₂.nextVar) (.var (s₂.nextVar + 1)))])).union
          (.ofList [.equal (.var x) (.arrow (.var (s₂.nextVar + 2)) (.var (s₂.nextVar + 2 + 1))),
            .consistent (.var (s₂.nextVar + 2)) t]))
        { s₂ with nextVar := s₂.nextVar + 2 + 2 }
  | appArrow {env : Env Empty} {f a : Expr Empty} {dom cod t : Ty Empty}
      {c₁ c₂ : ConstraintSet Empty} {s s₁ s₂ : Supply}
      (func : Generates env f s (.arrow dom cod) c₁ s₁) (argument : Generates env a s₁ t c₂ s₂) :
      Generates env (.app f a) s cod
        (((c₁.union c₂).union ∅).union (.ofList [.consistent dom t])) s₂
  | appDyn {env : Env Empty} {f a : Expr Empty} {t : Ty Empty} {c₁ c₂ : ConstraintSet Empty}
      {s s₁ s₂ : Supply} (func : Generates env f s .dyn c₁ s₁)
      (argument : Generates env a s₁ t c₂ s₂) :
      Generates env (.app f a) s .dyn
        (((c₁.union c₂).union ∅).union (.ofList [.consistent .dyn t])) s₂

theorem Expr.generates_of_ok {env : Env Empty} {e : Expr Empty} {s s' : Supply} {raw : Ty Empty}
    {constraints : ConstraintSet Empty}
    (ran : (e.generate env).run s = .ok (raw, constraints) s') :
    Generates env e s raw constraints s' := by
  induction e generalizing env s s' raw constraints with
  | var x =>
    unfold Expr.generate at ran
    split at ran
    · rename_i t bound
      obtain ⟨⟨rfl, rfl⟩, rfl⟩ := Drawing.pure_ok.mp ran
      exact .var bound
    · cases ran
  | int value =>
    obtain ⟨⟨rfl, rfl⟩, rfl⟩ := Drawing.pure_ok.mp ran
    exact .int
  | bool value =>
    obtain ⟨⟨rfl, rfl⟩, rfl⟩ := Drawing.pure_ok.mp ran
    exact .bool
  | add l r left right =>
    unfold Expr.generate at ran
    obtain ⟨⟨t, c₁⟩, s₁, ranLeft, ran⟩ := Drawing.bind_ok.mp ran
    obtain ⟨⟨u, c₂⟩, s₂, ranRight, ran⟩ := Drawing.bind_ok.mp ran
    obtain ⟨⟨rfl, rfl⟩, rfl⟩ := Drawing.pure_ok.mp ran
    exact .add (left ranLeft) (right ranRight)
  | lam x declared body ih =>
    cases declared with
    | none =>
      unfold Expr.generate at ran
      obtain ⟨_, _, drawn, ran⟩ := Drawing.bind_ok.mp ran
      rw [Drawing.run_freshVar] at drawn
      cases drawn
      obtain ⟨⟨u, c⟩, s₁, ranBody, ran⟩ := Drawing.bind_ok.mp ran
      obtain ⟨⟨rfl, rfl⟩, rfl⟩ := Drawing.pure_ok.mp ran
      exact .implicit (ih ranBody)
    | some t =>
      unfold Expr.generate at ran
      obtain ⟨⟨u, c⟩, s₁, ranBody, ran⟩ := Drawing.bind_ok.mp ran
      obtain ⟨⟨rfl, rfl⟩, rfl⟩ := Drawing.pure_ok.mp ran
      exact .explicit (ih ranBody)
  | app f a func argument =>
    unfold Expr.generate at ran
    obtain ⟨⟨operator, c₁⟩, s₁, ranFunc, ran⟩ := Drawing.bind_ok.mp ran
    obtain ⟨⟨arg, c₂⟩, s₂, ranArg, ran⟩ := Drawing.bind_ok.mp ran
    obtain ⟨⟨result, c₃⟩, s₃, ranCod, ran⟩ := Drawing.bind_ok.mp ran
    obtain ⟨c₄, s₄, ranDom, ran⟩ := Drawing.bind_ok.mp ran
    obtain ⟨⟨rfl, rfl⟩, rfl⟩ := Drawing.pure_ok.mp ran
    cases operator with
    | var x =>
      cases ranCod
      cases ranDom
      exact .appVar (func ranFunc) (argument ranArg)
    | arrow dom cod =>
      cases ranCod
      cases ranDom
      exact .appArrow (func ranFunc) (argument ranArg)
    | dyn =>
      cases ranCod
      cases ranDom
      exact .appDyn (func ranFunc) (argument ranArg)
    | _ => cases ranCod
  | host leaf => exact leaf.elim

namespace Generates

variable {env : Env Empty} {e : Expr Empty} {s s' : Supply} {raw : Ty Empty}
  {constraints : ConstraintSet Empty}

theorem run_ok (generates : Generates env e s raw constraints s') :
    (e.generate env).run s = .ok (raw, constraints) s' := by
  induction generates with
  | var bound => simp [Expr.generate, bound]
  | int | bool => rfl
  | add _ _ left right =>
    unfold Expr.generate
    exact Drawing.bind_ok.mpr ⟨_, _, left, Drawing.bind_ok.mpr ⟨_, _, right, rfl⟩⟩
  | implicit _ ih =>
    unfold Expr.generate
    exact Drawing.bind_ok.mpr ⟨_, _, rfl, Drawing.bind_ok.mpr ⟨_, _, ih, rfl⟩⟩
  | explicit _ ih =>
    unfold Expr.generate
    exact Drawing.bind_ok.mpr ⟨_, _, ih, rfl⟩
  | appVar _ _ func argument | appArrow _ _ func argument | appDyn _ _ func argument =>
    unfold Expr.generate
    exact Drawing.bind_ok.mpr ⟨_, _, func, Drawing.bind_ok.mpr ⟨_, _, argument, rfl⟩⟩

theorem supply_le (generates : Generates env e s raw constraints s') :
    s.nextVar ≤ s'.nextVar := by
  induction generates with
  | var | int | bool => exact Int.le_refl _
  | add _ _ left right => exact Int.le_trans left right
  | implicit _ ih =>
    simp only at ih
    omega
  | explicit _ ih => exact ih
  | appVar _ _ func argument =>
    simp only
    omega
  | appArrow _ _ func argument | appDyn _ _ func argument => exact Int.le_trans func argument

theorem static (generates : Generates env e s raw constraints s') :
    ∀ c ∈ constraints, c.IsStatic := by
  induction generates with
  | var | int | bool => exact ConstraintSet.forall_empty
  | add _ _ left right =>
    exact ConstraintSet.forall_sum.mpr ⟨left, right, trivial, trivial⟩
  | implicit _ ih | explicit _ ih => exact ih
  | appVar _ _ func argument =>
    exact ConstraintSet.forall_splitApplication.mpr
      ⟨func, argument, ⟨rfl, rfl⟩, ⟨rfl, rfl⟩, trivial⟩
  | appArrow _ _ func argument | appDyn _ _ func argument =>
    exact ConstraintSet.forall_application.mpr ⟨func, argument, trivial⟩

/-- Generation adds only the variables that it draws. -/
theorem varsIn {P : Int → Prop} (generates : Generates env e s raw constraints s')
    (inEnv : env.VarsIn P) (inDeclared : ∀ t ∈ e.declared, t.VarsIn P)
    (drawn : ∀ y, s.nextVar ≤ y → y < s'.nextVar → P y) :
    raw.VarsIn P ∧ ∀ c ∈ constraints, c.VarsIn P := by
  induction generates with
  | var bound => exact ⟨inEnv.get? bound, ConstraintSet.forall_empty⟩
  | int | bool => exact ⟨Ty.varsIn_closed rfl, ConstraintSet.forall_empty⟩
  | add left right ihLeft ihRight =>
    obtain ⟨declaredLeft, declaredRight⟩ := List.forall_mem_append.mp inDeclared
    have := left.supply_le
    have := right.supply_le
    obtain ⟨inT, inC₁⟩ := ihLeft inEnv declaredLeft fun y le lt => drawn y le (by omega)
    obtain ⟨inU, inC₂⟩ := ihRight inEnv declaredRight fun y le lt => drawn y (by omega) lt
    refine ⟨Ty.varsIn_closed rfl, ConstraintSet.forall_sum.mpr ⟨inC₁, inC₂, ?_, ?_⟩⟩
    · exact Constraint.varsIn_consistent.mpr ⟨inT, Ty.varsIn_closed rfl⟩
    · exact Constraint.varsIn_consistent.mpr ⟨inU, Ty.varsIn_closed rfl⟩
  | implicit result ih =>
    have := result.supply_le
    simp only at this
    have new : P _ := drawn _ (Int.le_refl _) (by omega)
    obtain ⟨inU, inC⟩ := ih (inEnv.extend (Ty.varsIn_var.mpr new) _) inDeclared
      fun y le lt => drawn y (by simp only at le; omega) lt
    exact ⟨Ty.varsIn_arrow.mpr ⟨Ty.varsIn_var.mpr new, inU⟩, inC⟩
  | explicit result ih =>
    obtain ⟨inT, inBody⟩ := List.forall_mem_cons.mp inDeclared
    obtain ⟨inU, inC⟩ := ih (inEnv.extend inT _) inBody drawn
    exact ⟨Ty.varsIn_arrow.mpr ⟨inT, inU⟩, inC⟩
  | @appVar _ _ _ _ _ _ _ _ _ s₂ func argument ihFunc ihArg =>
    obtain ⟨declaredFunc, declaredArg⟩ := List.forall_mem_append.mp inDeclared
    have := func.supply_le
    have := argument.supply_le
    simp only at drawn
    obtain ⟨inX, inC₁⟩ := ihFunc inEnv declaredFunc fun y le lt => drawn y le (by omega)
    obtain ⟨inT, inC₂⟩ := ihArg inEnv declaredArg fun y le lt => drawn y (by omega) (by omega)
    have first := drawn s₂.nextVar (by omega) (by omega)
    have second := drawn (s₂.nextVar + 1) (by omega) (by omega)
    have third := drawn (s₂.nextVar + 2) (by omega) (by omega)
    have fourth := drawn (s₂.nextVar + 2 + 1) (by omega) (by omega)
    rw [Ty.varsIn_var] at inX
    refine ⟨Ty.varsIn_var.mpr second,
      ConstraintSet.forall_splitApplication.mpr ⟨inC₁, inC₂, ?_, ?_, ?_⟩⟩
    · simp [inX, first, second]
    · simp [inX, third, fourth]
    · simp [third, inT]
  | appArrow func argument ihFunc ihArg =>
    obtain ⟨declaredFunc, declaredArg⟩ := List.forall_mem_append.mp inDeclared
    have := func.supply_le
    have := argument.supply_le
    obtain ⟨inOperator, inC₁⟩ := ihFunc inEnv declaredFunc fun y le lt => drawn y le (by omega)
    obtain ⟨inT, inC₂⟩ := ihArg inEnv declaredArg fun y le lt => drawn y (by omega) lt
    obtain ⟨inDom, inCod⟩ := Ty.varsIn_arrow.mp inOperator
    refine ⟨inCod, ConstraintSet.forall_application.mpr ⟨inC₁, inC₂, ?_⟩⟩
    exact Constraint.varsIn_consistent.mpr ⟨inDom, inT⟩
  | appDyn func argument ihFunc ihArg =>
    obtain ⟨declaredFunc, declaredArg⟩ := List.forall_mem_append.mp inDeclared
    have := func.supply_le
    have := argument.supply_le
    obtain ⟨inOperator, inC₁⟩ := ihFunc inEnv declaredFunc fun y le lt => drawn y le (by omega)
    obtain ⟨inT, inC₂⟩ := ihArg inEnv declaredArg fun y le lt => drawn y (by omega) lt
    refine ⟨inOperator, ConstraintSet.forall_application.mpr ⟨inC₁, inC₂, ?_⟩⟩
    exact Constraint.varsIn_consistent.mpr ⟨inOperator, inT⟩

theorem older (generates : Generates env e s raw constraints s')
    (inEnv : env.VarsIn (· < s.nextVar)) (closed : e.Closed) :
    raw.VarsIn (· < s'.nextVar) ∧ ∀ c ∈ constraints, c.VarsIn (· < s'.nextVar) := by
  have le := generates.supply_le
  exact generates.varsIn (inEnv.mono fun y old => Int.lt_of_lt_of_le old le)
    (fun t member => Ty.varsIn_closed (closed t member)) fun y _ new => new

end Generates

end Gradual
