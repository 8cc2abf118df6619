import Gradual.Inference.Events
import Gradual.Proofs.CanonicalOrder
import Gradual.Proofs.Generation
import Gradual.Proofs.Solver.Runs
import Mathlib.Data.List.Chain

/-! Inference by computation. The rules of generation say which constraints there are, and in their
order a number of steps brings the solver to its end; what an inference comes to can be read off that. -/
namespace Gradual

/-- The canonical text as a list of characters, which can be computed fast. -/
def Ty.spelled : Ty Empty → List Char
  | .param a => "TypeParam(id=".toList ++ (toString a).toList ++ ")".toList
  | .var x => "TypeVar(id=".toList ++ (toString x).toList ++ ")".toList
  | .base name => "BaseType(name=".toList ++ (Text.quote name).toList ++ ")".toList
  | .arrow dom cod =>
    "TypeArrow(dom=".toList ++ dom.spelled ++ ", cod=".toList ++ cod.spelled ++ ")".toList
  | .dyn => "TypeDyn()".toList

theorem Ty.toList_canonical (t : Ty Empty) : t.canonical.toList = t.spelled := by
  induction t with
  | arrow dom cod ihDom ihCod =>
    rw [canonical_arrow, String.toList_append, String.toList_append, String.toList_append,
      String.toList_append, ihDom, ihCod]
    rfl
  | param a =>
    rw [canonical_param, String.toList_append, String.toList_append]
    rfl
  | var x =>
    rw [canonical_var, String.toList_append, String.toList_append]
    rfl
  | base name =>
    rw [canonical_base, String.toList_append, String.toList_append]
    rfl
  | dyn => rfl
  | host leaf => cases leaf

def Constraint.spelled : Constraint Empty → List Char
  | .equal l r => "Equal(left=".toList ++ l.spelled ++ ", right=".toList ++ r.spelled ++ ")".toList
  | .consistent l r =>
    "Consistent(left=".toList ++ l.spelled ++ ", right=".toList ++ r.spelled ++ ")".toList

theorem Constraint.toList_canonical (c : Constraint Empty) : c.canonical.toList = c.spelled := by
  cases c with
  | equal l r | consistent l r =>
    unfold canonical
    rw [String.toList_append, String.toList_append, String.toList_append, String.toList_append,
      l.toList_canonical, r.toList_canonical]
    rfl

section Solve

variable {set : ConstraintSet Empty} {nextVar : Int}
  {result : Except (Solver.Failure Empty) (Solver.State Empty)}

theorem ConstraintSet.solve_of_runFor (sorted : List (Constraint Empty))
    (perm : set.members.Perm sorted)
    (increasing : sorted.IsChain fun c d => ¬ List.Lex (· < ·) d.spelled c.spelled) (steps : Nat)
    (ended : (Solver.State.initial sorted nextVar).runFor steps = some result) :
    set.solve nextVar = result := by
  have texts : (sorted.map Constraint.canonical).IsChain fun text later => text ≤ later := by
    refine List.isChain_map _ |>.mpr (increasing.imp fun c d le => ?_)
    rw [← c.toList_canonical, ← d.toList_canonical] at le
    exact le
  have transitive : Trans (fun text later : String => text ≤ later) (fun text later => text ≤ later)
      (fun text later => text ≤ later) := ⟨String.le_trans⟩
  rw [solve, ordered_eq_of_perm perm (List.pairwise_map.mp texts.pairwise)]
  exact Solver.run_of_runFor steps ended

end Solve

namespace Expr

variable {env : Env Empty} {e : Expr Empty} {s generated : Supply} {raw : Ty Empty}
  {constraints : ConstraintSet Empty}

theorem infer_of_solve (generates : Generates env e s raw constraints generated)
    {final : Solver.State Empty} (solved : constraints.solve generated.nextVar = .ok final) :
    (e.infer env).run s =
      .ok ⟨e, raw, constraints, final.solved,
          ((final.solved.apply raw).generalizeFrom generated.nextParam).1⟩
        ⟨final.nextVar, ((final.solved.apply raw).generalizeFrom generated.nextParam).2⟩ :=
  infer_ok.mpr ⟨_, _, _, _, _, generates.run_ok, Drawing.solve_ok.mpr ⟨final, solved, rfl, rfl⟩,
    rfl, rfl⟩

theorem infer_error_of_solve (generates : Generates env e s raw constraints generated)
    {failure : Solver.Failure Empty}
    (failed : constraints.solve generated.nextVar = .error failure) :
    (e.infer env).run s = .error failure.error ⟨failure.state.nextVar, generated.nextParam⟩ := by
  unfold infer
  refine Drawing.bind_error.mpr (.inr ⟨_, _, generates.run_ok, ?_⟩)
  exact Drawing.bind_error.mpr (.inl (Drawing.run_solve_error failed))

theorem inferAlone_ok {inference : Inference Empty} :
    e.inferAlone env = .ok inference ↔
      ∃ rest, (e.infer env).run .initial = .ok inference rest := by
  unfold inferAlone
  cases (e.infer env).run .initial with
  | ok found rest => simp
  | error error rest => simp

end Expr

end Gradual
