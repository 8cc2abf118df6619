import Gradual.Env
import Gradual.Expr
import Gradual.Proofs.Assignment

/-! The declarative type system, and what an assignment makes of an environment. A function without
a declared parameter type may take any static type; a declared type is taken as it is, so `?` comes
in by declaration and from the environment only. -/
namespace Gradual

variable {ε : Type}

/-- What an operator of this type takes and what it returns. -/
def Ty.function? : Ty ε → Option (Ty ε × Ty ε)
  | .arrow dom cod => some (dom, cod)
  | .dyn => some (.dyn, .dyn)
  | .param _ | .var _ | .base _ | .host _ => none

/-- An operator of a static type is a function: only `?` can be applied without being one. -/
theorem Ty.function?_of_static {t dom cod : Ty ε} (function : t.function? = some (dom, cod))
    (static : t.isStatic = true) : t = .arrow dom cod := by
  cases t with
  | arrow dom' cod' => cases function; rfl
  | dyn => cases static
  | _ => cases function

inductive HasType : Env ε → Expr ε → Ty ε → Prop
  | var {env : Env ε} {x : String} {t : Ty ε} (bound : env.get? x = some t) :
      HasType env (.var x) t
  | int {env : Env ε} (value : Int) : HasType env (.int value) .int
  | bool {env : Env ε} (value : Bool) : HasType env (.bool value) .bool
  | add {env : Env ε} {l r : Expr ε} {t u : Ty ε} (left : HasType env l t)
      (right : HasType env r u) (leftInt : Ty.Consistent t .int)
      (rightInt : Ty.Consistent u .int) : HasType env (.add l r) .int
  | implicit {env : Env ε} {x : String} {body : Expr ε} {t u : Ty ε}
      (static : t.isStatic = true) (result : HasType (env.extend x t) body u) :
      HasType env (.lam x none body) (.arrow t u)
  | explicit {env : Env ε} {x : String} {body : Expr ε} {t u : Ty ε}
      (result : HasType (env.extend x t) body u) :
      HasType env (.lam x (some t) body) (.arrow t u)
  | app {env : Env ε} {f a : Expr ε} {operator arg dom cod : Ty ε} (func : HasType env f operator)
      (argument : HasType env a arg) (function : operator.function? = some (dom, cod))
      (accepts : Ty.Consistent dom arg) : HasType env (.app f a) cod

namespace Entries

variable {κ α β : Type} [DecidableEq κ]

theorem mem_put {key : κ} {value : α} {entries : List (κ × α)} {entry : κ × α}
    (member : entry ∈ put key value entries) : entry = (key, value) ∨ entry ∈ entries := by
  induction entries with
  | nil => exact .inl (List.mem_singleton.mp member)
  | cons first rest ih =>
    unfold put at member
    split at member
    · rcases List.mem_cons.mp member with new | old
      · exact .inl new
      · exact .inr (List.mem_cons_of_mem _ old)
    · rcases List.mem_cons.mp member with old | later
      · exact .inr (old ▸ List.mem_cons_self)
      · exact (ih later).imp id (List.mem_cons_of_mem _)

theorem map_put (f : α → β) (key : κ) (value : α) (entries : List (κ × α)) :
    (put key value entries).map (fun entry => (entry.1, f entry.2)) =
      put key (f value) (entries.map fun entry => (entry.1, f entry.2)) := by
  induction entries with
  | nil => rfl
  | cons first rest ih =>
    by_cases here : first.1 = key
    · simp [put, here]
    · simp [put, here, ih]

end Entries

namespace Env

def inst (values : Int → Ty ε) (env : Env ε) : Env ε :=
  ⟨env.entries.map fun entry => (entry.1, entry.2.inst values)⟩

theorem get?_inst (values : Int → Ty ε) (env : Env ε) (x : String) :
    (env.inst values).get? x = (env.get? x).map (·.inst values) := by
  obtain ⟨entries⟩ := env
  simp only [get?, inst, List.find?_map, Option.map_map]
  rfl

theorem inst_extend (values : Int → Ty ε) (env : Env ε) (x : String) (t : Ty ε) :
    (env.extend x t).inst values = (env.inst values).extend x (t.inst values) :=
  congrArg Env.mk (Entries.map_put (·.inst values) x t env.entries)

/-- Both environments bind the same names, each of them to related types. -/
def Related (env : Env ε) (related : Ty ε → Ty ε → Prop) (env' : Env ε) : Prop :=
  ∀ x, Option.Rel related (env.get? x) (env'.get? x)

theorem Related.extend {related : Ty ε → Ty ε → Prop} {env env' : Env ε}
    (envs : env.Related related env') {t t' : Ty ε} (types : related t t') (x : String) :
    (env.extend x t).Related related (env'.extend x t') := by
  intro y
  rw [get?_extend, get?_extend]
  split
  · exact .some types
  · exact envs y

/-- The condition holds of all variables of the types in the environment. -/
def VarsIn (P : Int → Prop) (env : Env ε) : Prop := ∀ entry ∈ env.entries, entry.2.VarsIn P

theorem VarsIn.mono {P Q : Int → Prop} {env : Env ε} (inside : env.VarsIn P)
    (imp : ∀ y, P y → Q y) : env.VarsIn Q := fun entry member => (inside entry member).mono imp

theorem VarsIn.extend {P : Int → Prop} {env : Env ε} (inside : env.VarsIn P) {t : Ty ε}
    (new : t.VarsIn P) (x : String) : (env.extend x t).VarsIn P := by
  intro entry member
  rcases Entries.mem_put member with rfl | old
  · exact new
  · exact inside entry old

theorem VarsIn.get? {P : Int → Prop} {env : Env ε} (inside : env.VarsIn P) {x : String} {t : Ty ε}
    (bound : env.get? x = some t) : t.VarsIn P := by
  obtain ⟨entry, found, rfl⟩ := Option.map_eq_some_iff.mp bound
  exact inside entry (List.mem_of_find?_eq_some found)

theorem inst_of_agree {next : Int} {σ τ : StaticAssignment ε} (agree : σ.AgreesBefore next τ)
    {env : Env ε} (older : env.VarsIn (· < next)) : env.inst σ.value = env.inst τ.value := by
  refine congrArg Env.mk (List.map_congr_left fun entry member => ?_)
  exact congrArg (entry.1, ·) (agree.apply (older entry member))

/-- No type of the environment has variables. -/
def Closed (env : Env ε) : Prop := ∀ entry ∈ env.entries, entry.2.vars = []

theorem Closed.varsIn {env : Env ε} (closed : env.Closed) (P : Int → Prop) : env.VarsIn P :=
  fun entry member => Ty.varsIn_closed (closed entry member)

theorem Closed.inst {env : Env ε} (closed : env.Closed) (values : Int → Ty ε) :
    env.inst values = env := by
  obtain ⟨entries⟩ := env
  refine congrArg Env.mk ?_
  calc entries.map (fun entry => (entry.1, entry.2.inst values))
      = entries.map id := List.map_congr_left fun entry member =>
        congrArg (entry.1, ·) (Ty.inst_closed (closed entry member) values)
    _ = entries := List.map_id entries

end Env

/-- No declared type has variables. -/
def Expr.Closed (e : Expr ε) : Prop := ∀ t ∈ e.declared, t.vars = []

namespace Expr.Closed

variable {l r body : Expr ε} {x : String}

@[simp] theorem add_iff : (Expr.add l r).Closed ↔ l.Closed ∧ r.Closed := by
  simp only [Closed, declared, List.forall_mem_append]

@[simp] theorem app_iff : (Expr.app l r).Closed ↔ l.Closed ∧ r.Closed := by
  simp only [Closed, declared, List.forall_mem_append]

@[simp] theorem implicit_iff : (Expr.lam x none body).Closed ↔ body.Closed := Iff.rfl

@[simp] theorem explicit_iff {t : Ty ε} :
    (Expr.lam x (some t) body).Closed ↔ t.vars = [] ∧ body.Closed := by
  simp only [Closed, declared, List.forall_mem_cons]

end Expr.Closed

end Gradual
