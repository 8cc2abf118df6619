import Gradual.Proofs.Generation

/-! What generation draws and what it draws it for. The ids that come out are those of the environment
and of the declared types, and those drawn on the way. Equations only arise where an operator is a
variable, which is then split into a function between two variables drawn for this one equation. And
generation gets through only if all free names are bound; the name it reports otherwise is free and
unbound. -/
namespace Gradual

variable {ε : Type}

/-- Variable ids in the types of the environment, one for every occurrence. -/
def Env.vars (env : Env ε) : List Int := env.entries.flatMap fun entry => entry.2.vars

/-- Variable ids in the declared types, one for every occurrence. -/
def Expr.vars (e : Expr ε) : List Int := e.declared.flatMap Ty.vars

/-- Every equation splits a variable into a function from one drawn variable to the next, and no two
equations share a drawn variable. Variables are drawn from `first` on and before `last`. -/
structure FreshEquations (first last : Int) (set : ConstraintSet ε) : Prop where
  splits : ∀ l r, .equal l r ∈ set →
    ∃ x a, l = .var x ∧ r = .arrow (.var a) (.var (a + 1)) ∧ first ≤ a ∧ a + 1 < last
  unshared : ∀ l r l' r' y, .equal l r ∈ set → .equal l' r' ∈ set → y ∈ r.vars → y ∈ r'.vars →
    Constraint.equal l r = .equal l' r'

namespace FreshEquations

variable {first middle last : Int} {set other : ConstraintSet ε}

/-- The variables of a right side are drawn. -/
theorem range (fresh : FreshEquations first last set) {l r : Ty ε} (member : .equal l r ∈ set)
    {y : Int} (occurs : y ∈ r.vars) : first ≤ y ∧ y < last := by
  obtain ⟨x, a, -, rfl, le, lt⟩ := fresh.splits l r member
  obtain rfl | rfl : y = a ∨ y = a + 1 := by simpa [Ty.vars] using occurs
  · omega
  · omega

theorem mono (fresh : FreshEquations middle last set) (le : first ≤ middle) :
    FreshEquations first last set where
  splits l r member := by
    obtain ⟨x, a, left, right, above, below⟩ := fresh.splits l r member
    exact ⟨x, a, left, right, Int.le_trans le above, below⟩
  unshared := fresh.unshared

theorem empty (next : Int) : FreshEquations next next (∅ : ConstraintSet ε) where
  splits _ _ member := absurd member (ConstraintSet.not_mem_empty _)
  unshared _ _ _ _ _ member := absurd member (ConstraintSet.not_mem_empty _)

variable [DecidableEq ε]

theorem add_consistent (fresh : FreshEquations first last set) (t u : Ty ε) :
    FreshEquations first last (set.add (.consistent t u)) where
  splits l r member := fresh.splits l r (by simpa using member)
  unshared l r l' r' y member member' :=
    fresh.unshared l r l' r' y (by simpa using member) (by simpa using member')

/-- Equations for which different variables were drawn share none. -/
theorem union (fresh : FreshEquations first middle set) (later : FreshEquations middle last other)
    (le : first ≤ middle) (le' : middle ≤ last) : FreshEquations first last (set.union other) where
  splits l r member := by
    obtain new | old := (ConstraintSet.mem_union set other _).mp member
    · exact (later.mono le).splits l r new
    · obtain ⟨x, a, left, right, above, below⟩ := fresh.splits l r old
      exact ⟨x, a, left, right, above, Int.lt_of_lt_of_le below le'⟩
  unshared l r l' r' y member member' occurs occurs' := by
    obtain new | old := (ConstraintSet.mem_union set other _).mp member
    · obtain new' | old' := (ConstraintSet.mem_union set other _).mp member'
      · exact later.unshared l r l' r' y new new' occurs occurs'
      · have above := (later.range new occurs).1
        have below := (fresh.range old' occurs').2
        omega
    · obtain new' | old' := (ConstraintSet.mem_union set other _).mp member'
      · have above := (later.range new' occurs').1
        have below := (fresh.range old occurs).2
        omega
      · exact fresh.unshared l r l' r' y old old' occurs occurs'

theorem split (x next : Int) : FreshEquations next (next + 2)
    (.ofList [.equal (.var x) (.arrow (.var next) (.var (next + 1)))] : ConstraintSet ε) where
  splits l r member := by
    obtain ⟨rfl, rfl⟩ : l = .var x ∧ r = .arrow (.var next) (.var (next + 1)) := by
      simpa using member
    exact ⟨x, next, rfl, rfl, by omega, by omega⟩
  unshared l r l' r' y member member' _ _ := by
    rw [ConstraintSet.mem_ofList, List.mem_singleton] at member member'
    rw [member, member']

end FreshEquations

namespace Generates

variable {env : Env Empty} {e : Expr Empty} {s s' : Supply} {raw : Ty Empty}
  {constraints : ConstraintSet Empty}

theorem freshEquations (generates : Generates env e s raw constraints s') :
    FreshEquations s.nextVar s'.nextVar constraints := by
  induction generates with
  | var | int | bool => exact .empty _
  | add left right ihLeft ihRight =>
    have both := ihLeft.union ihRight left.supply_le right.supply_le
    exact (both.add_consistent _ _).add_consistent _ _
  | implicit _ ih => exact ih.mono (by simp only; omega)
  | explicit _ ih => exact ih
  | @appVar _ _ _ x _ _ _ _ _ s₂ func argument ihFunc ihArg =>
    have le := func.supply_le
    have le' := argument.supply_le
    have operands := ihFunc.union ihArg le le'
    -- The operator is split twice, each time into variables of its own.
    have codomain := operands.union (.split x s₂.nextVar) (by omega) (by omega)
    have domain := (FreshEquations.split (ε := Empty) x (s₂.nextVar + 2)).add_consistent
    exact codomain.union (domain _ _) (by omega) (by simp only; omega)
  | appArrow func argument ihFunc ihArg | appDyn func argument ihFunc ihArg =>
    have le := func.supply_le
    have le' := argument.supply_le
    have operands := ihFunc.union ihArg le le'
    have codomain := operands.union (.empty _) (by omega) (Int.le_refl _)
    exact codomain.union ((FreshEquations.empty _).add_consistent _ _) (by omega) (Int.le_refl _)

theorem free_bound (generates : Generates env e s raw constraints s') :
    ∀ x ∈ e.free, ∃ t, env.get? x = some t := by
  induction generates with
  | var bound => exact List.forall_mem_singleton.mpr ⟨_, bound⟩
  | int | bool => exact List.forall_mem_nil _
  | add _ _ left right | appVar _ _ left right | appArrow _ _ left right | appDyn _ _ left right =>
    exact List.forall_mem_append.mpr ⟨left, right⟩
  | implicit _ ih | explicit _ ih =>
    intro y member
    obtain ⟨inBody, other⟩ := List.mem_filter.mp member
    obtain ⟨t, bound⟩ := ih y inBody
    rw [Env.get?_extend, if_neg (by simpa using other)] at bound
    exact ⟨t, bound⟩

end Generates

namespace Expr

variable {env : Env Empty} {e : Expr Empty} {s s' : Supply} {x : String}

/-- A name that is free and unbound inside a function is so outside of it. -/
theorem unbound_outside {y : String} {t : Ty Empty} (free : x ∈ e.free)
    (absent : (env.extend y t).get? x = none) (declared : Option (Ty Empty)) :
    x ∈ (lam y declared e).free ∧ env.get? x = none := by
  rw [Env.get?_extend] at absent
  split at absent
  · cases absent
  · rename_i other
    exact ⟨List.mem_filter.mpr ⟨free, by simpa using other⟩, absent⟩

theorem generate_unbound (failed : (e.generate env).run s = .error (.unbound x) s') :
    x ∈ e.free ∧ env.get? x = none := by
  induction e generalizing env s s' with
  | var y =>
    unfold generate at failed
    split at failed
    · cases failed
    · rename_i absent
      cases failed
      exact ⟨List.mem_singleton_self x, absent⟩
  | int | bool => cases failed
  | add l r left right =>
    unfold generate at failed
    obtain failed | ⟨_, _, _, failed⟩ := Drawing.bind_error.mp failed
    · exact (left failed).imp_left (List.mem_append_left _)
    obtain failed | ⟨_, _, _, failed⟩ := Drawing.bind_error.mp failed
    · exact (right failed).imp_left (List.mem_append_right _)
    cases failed
  | lam y declared body ih =>
    cases declared with
    | none =>
      unfold generate at failed
      obtain failed | ⟨param, _, _, failed⟩ := Drawing.bind_error.mp failed
      · cases failed
      obtain failed | ⟨_, _, _, failed⟩ := Drawing.bind_error.mp failed
      · obtain ⟨free, absent⟩ := ih failed
        exact unbound_outside free absent none
      · cases failed
    | some param =>
      unfold generate at failed
      obtain failed | ⟨_, _, _, failed⟩ := Drawing.bind_error.mp failed
      · obtain ⟨free, absent⟩ := ih failed
        exact unbound_outside free absent (some param)
      · cases failed
  | app f a func argument =>
    unfold generate at failed
    obtain failed | ⟨⟨operator, _⟩, _, _, failed⟩ := Drawing.bind_error.mp failed
    · exact (func failed).imp_left (List.mem_append_left _)
    obtain failed | ⟨⟨arg, _⟩, _, _, failed⟩ := Drawing.bind_error.mp failed
    · exact (argument failed).imp_left (List.mem_append_right _)
    obtain failed | ⟨_, _, _, failed⟩ := Drawing.bind_error.mp failed
    · cases operator <;> cases failed
    obtain failed | ⟨_, _, _, failed⟩ := Drawing.bind_error.mp failed
    · cases operator <;> cases failed
    cases failed
  | host leaf => exact leaf.elim

end Expr

/-- What generation gives is made of old ids and of drawn ones, with fresh equations, and all free
names are bound; a name that is reported unbound is free and unbound. -/
theorem generate_fresh (env : Env Empty) (e : Expr Empty) (s : Supply) :
    (∀ raw constraints s', (e.generate env).run s = .ok (raw, constraints) s' →
      s.nextVar ≤ s'.nextVar ∧
        (∀ y, y ∈ raw.vars ∨ (∃ c ∈ constraints, y ∈ c.vars) →
          y ∈ env.vars ∨ y ∈ e.vars ∨ (s.nextVar ≤ y ∧ y < s'.nextVar)) ∧
        FreshEquations s.nextVar s'.nextVar constraints ∧
        ∀ x ∈ e.free, ∃ t, env.get? x = some t) ∧
      ∀ x s', (e.generate env).run s = .error (.unbound x) s' → x ∈ e.free ∧ env.get? x = none := by
  refine ⟨fun raw constraints s' ran => ?_, fun x s' failed => Expr.generate_unbound failed⟩
  have generates := Expr.generates_of_ok ran
  have inEnv : env.VarsIn (· ∈ env.vars) :=
    fun entry member y occurs => List.mem_flatMap.mpr ⟨entry, member, occurs⟩
  have inDeclared : ∀ t ∈ e.declared, t.VarsIn (· ∈ e.vars) :=
    fun t member y occurs => List.mem_flatMap.mpr ⟨t, member, occurs⟩
  obtain ⟨inRaw, inConstraints⟩ := generates.varsIn
    (P := fun y => y ∈ env.vars ∨ y ∈ e.vars ∨ (s.nextVar ≤ y ∧ y < s'.nextVar))
    (inEnv.mono fun y old => .inl old)
    (fun t member => (inDeclared t member).mono fun y old => .inr (.inl old))
    (fun y le lt => .inr (.inr ⟨le, lt⟩))
  refine ⟨generates.supply_le, ?_, generates.freshEquations, generates.free_bound⟩
  rintro y (occurs | ⟨c, member, occurs⟩)
  · exact inRaw y occurs
  · exact inConstraints c member y occurs

/-- In `fun f -> f (g x)` the variable of `f` is split twice, and the variable that the environment has
for `g` is one that is drawn too. Without `x` the same expression has an unbound name. -/
theorem generate_fresh_application :
    let env : Env Empty := .ofList [("g", .var 3), ("x", .int)]
    let e : Expr Empty := .lam "f" none (.app (.var "f") (.app (.var "g") (.var "x")))
    (∃ raw constraints s', (e.generate env).run .initial = .ok (raw, constraints) s' ∧
      .equal (.var 1) (.arrow (.var 6) (.var 7)) ∈ constraints ∧
      .equal (.var 1) (.arrow (.var 8) (.var 9)) ∈ constraints ∧
      .equal (.var 3) (.arrow (.var 2) (.var 3)) ∈ constraints ∧
      FreshEquations 1 10 constraints) ∧
      ∃ s', (e.generate (.ofList [("g", .var 3)])).run .initial = .error (.unbound "x") s' ∧
        "x" ∈ e.free := by
  intro env e
  constructor
  · have ran : (e.generate env).run .initial = .ok (_, _) _ := rfl
    obtain ⟨-, -, fresh, -⟩ := (generate_fresh env e .initial).1 _ _ _ ran
    exact ⟨_, _, _, ran, by decide, by decide, by decide, fresh⟩
  · have failed : (e.generate (.ofList [("g", .var 3)])).run .initial = .error (.unbound "x") _ := rfl
    exact ⟨_, failed, ((generate_fresh _ e .initial).2 "x" _ failed).1⟩

end Gradual
