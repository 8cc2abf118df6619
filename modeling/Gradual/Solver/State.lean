import Gradual.Supply
import Gradual.TypingError

/-! The constraint solver as a machine. It first works through the pairs that have to become
consistent and then through the equations; a binding found on the way is substituted into all that is
left and recorded. `step` applies one rule, and `Gradual.Solver.Rank` shows that the rules cannot go
on for ever. -/
namespace Gradual.Solver

variable {ε : Type}

/-- Fresh variables are numbered from `nextVar`. -/
structure State (ε : Type) where
  pairs : List (Ty ε × Ty ε)
  equations : List (Ty ε × Ty ε)
  solved : Substitution ε
  nextVar : Int

inductive Outcome (ε : Type) where
  | finished
  | next (state : State ε)
  | stuck (error : TypingError ε) (state : State ε)

def substPair (x : Int) (t : Ty ε) (pair : Ty ε × Ty ε) : Ty ε × Ty ε :=
  (pair.1.subst x t, pair.2.subst x t)

def substPairs (pairs : List (Ty ε × Ty ε)) (x : Int) (t : Ty ε) : List (Ty ε × Ty ε) :=
  pairs.map (substPair x t)

def hostIn (pairs : List (Ty ε × Ty ε)) : Option ε :=
  pairs.findSome? fun pair => pair.1.host?.or pair.2.host?

namespace State

/-- Records the binding and eliminates `x` from the work that is left. -/
def bind (s : State ε) (x : Int) (t : Ty ε) : Outcome ε :=
  match hostIn (s.pairs ++ s.equations) with
  | some leaf => .stuck (.fault (.undefined leaf)) s
  | none => .next {
      pairs := substPairs s.pairs x t
      equations := substPairs s.equations x t
      solved := s.solved.extend x t
      nextVar := s.nextVar }

/-- Gives `x` the shape of the function type `a -> b` it has to be consistent with: two fresh
variables become its domain and codomain and have to be consistent with `a` and `b` in turn. -/
def split (s : State ε) (x : Int) (a b : Ty ε) : Outcome ε :=
  match (Ty.arrow a b).host? with
  | some leaf => .stuck (.fault (.undefined leaf)) s
  | none =>
    if x ∈ a.vars ++ b.vars then
      .stuck (.ofConflict (.consistent (.var x) (.arrow a b))) s
    else
      let dom := s.nextVar
      let cod := s.nextVar + 1
      let shape : Ty ε := .arrow (.var dom) (.var cod)
      if x = dom ∨ x = cod then
        .stuck (.ofConflict (.equal (.var x) shape)) { s with nextVar := s.nextVar + 2 }
      else
        bind { s with
          pairs := (.var dom, a) :: (.var cod, b) :: s.pairs
          nextVar := s.nextVar + 2 } x shape

/-- One rule for two sides that have to become consistent. -/
def relate (s : State ε) (l r : Ty ε) : Outcome ε :=
  if l.sameAtom r then .next s
  else match l, r with
    | .dyn, _ => .next s
    | _, .dyn => .next s
    | .arrow a b, .arrow c d => .next { s with pairs := (a, c) :: (b, d) :: s.pairs }
    | .var x, .arrow a b => s.split x a b
    | .var x, u =>
      if u.isAtom then s.bind x u else .stuck (.ofConflict (.consistent (.var x) u)) s
    | u, .var x => .next { s with pairs := (.var x, u) :: s.pairs }
    | l, r => .stuck (.ofConflict (.consistent l r)) s

/-- One rule for two sides that have to become equal. Only static sides are taken apart. -/
def equate (s : State ε) (l r : Ty ε) : Outcome ε :=
  if l.sameAtom r then .next s
  else match l, r with
    | .arrow a b, .arrow c d =>
      if a.isStatic && b.isStatic && c.isStatic && d.isStatic then
        .next { s with equations := (a, c) :: (b, d) :: s.equations }
      else .stuck (.ofConflict (.equal (.arrow a b) (.arrow c d))) s
    | .var x, t =>
      match t.host? with
      | some leaf => .stuck (.fault (.undefined leaf)) s
      | none => if x ∈ t.vars then .stuck (.ofConflict (.equal (.var x) t)) s else s.bind x t
    | t, .var x =>
      if t.isStatic then .next { s with equations := (.var x, t) :: s.equations }
      else .stuck (.ofConflict (.equal t (.var x))) s
    | l, r => .stuck (.ofConflict (.equal l r)) s

def step (s : State ε) : Outcome ε :=
  match s.pairs with
  | (l, r) :: rest => { s with pairs := rest }.relate l r
  | [] =>
    match s.equations with
    | (l, r) :: rest => { s with equations := rest }.equate l r
    | [] => .finished

end State

end Gradual.Solver
