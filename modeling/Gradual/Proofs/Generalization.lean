import Gradual.Proofs.AlphaEquivalence
import Gradual.Proofs.Parameters

/-! Generalisation as a canonical form. It numbers the variables of a type in the order in which they
first occur. The numbering can be undone, since parameters that were there before are older; and types
that differ in the names of their variables only are numbered alike, so that without parameters the
generalised type stands for the whole class of alpha-equivalent types. -/
namespace Gradual

/-- The ids of a list without repetitions, in the order in which they first occur. -/
structure FirstOccurrences (ids firsts : List Int) : Prop where
  members : ∀ x, x ∈ firsts ↔ x ∈ ids
  order : firsts.Pairwise fun x y => ids.idxOf x < ids.idxOf y

theorem idxOf_lt_of_filter {p : Int → Bool} {ids : List Int} {x y : Int} (keptX : p x = true)
    (keptY : p y = true) (before : (ids.filter p).idxOf x < (ids.filter p).idxOf y) :
    ids.idxOf x < ids.idxOf y := by
  induction ids with
  | nil => cases before
  | cons z rest ih =>
    simp only [List.filter_cons, List.idxOf_cons] at *
    grind

theorem firstOccurrences_eraseDups (ids : List Int) : FirstOccurrences ids ids.eraseDups where
  members x := List.mem_eraseDups
  order := by
    induction ids using eraseDups_induction with
    | nil => exact .nil
    | cons x rest ih =>
      have kept : ∀ y ∈ (rest.filter fun y => !y == x).eraseDups, (!y == x) = true :=
        fun y member => (List.mem_filter.mp (List.mem_eraseDups.mp member)).2
      have later : ∀ y, (!y == x) = true → (x :: rest).idxOf y = rest.idxOf y + 1 := by
        intro y other
        exact List.idxOf_cons_ne _ fun same => by simp [same] at other
      rw [List.eraseDups_cons, List.pairwise_cons]
      constructor
      · intro y member
        rw [List.idxOf_cons_self, later y (kept y member)]
        exact Nat.succ_pos _
      · refine ih.imp_of_mem fun {y z} memberY memberZ before => ?_
        rw [later y (kept y memberY), later z (kept z memberZ)]
        exact Nat.succ_lt_succ (idxOf_lt_of_filter (kept y memberY) (kept z memberZ) before)

theorem eraseDups_map {f : Int → Int} (injective : Function.Injective f) (ids : List Int) :
    (ids.map f).eraseDups = ids.eraseDups.map f := by
  induction ids using eraseDups_induction with
  | nil => rfl
  | cons x rest ih =>
    have same : (fun y => !y == f x) ∘ f = fun y => !y == x := by
      funext y
      simp [injective.eq_iff]
    rw [List.map_cons, List.eraseDups_cons, List.eraseDups_cons, List.filter_map, same, ih,
      List.map_cons]

namespace Ty

variable {ε : Type} {t u : Ty ε} {next : Int}

/-- The type with `values a` in place of every parameter `a`, all replaced at the same time. -/
def instParams (values : Int → Ty ε) : Ty ε → Ty ε
  | .param a => values a
  | .arrow dom cod => .arrow (dom.instParams values) (cod.instParams values)
  | .var x => .var x
  | .base name => .base name
  | .dyn => .dyn
  | .host leaf => .host leaf

theorem instParams_inst {values others : Int → Ty ε} (kept : ∀ a ∈ t.params, values a = .param a) :
    (t.inst others).instParams values = t.inst fun x => (others x).instParams values := by
  induction t with
  | param a => exact kept a (by simp [params])
  | arrow dom cod left right =>
    obtain ⟨onDom, onCod⟩ := List.forall_mem_append.mp kept
    simp [instParams, left onDom, right onCod]
  | _ => rfl

/-- What a parameter stands for when the variables `xs` were given the parameters from `next` on. -/
def numbered (xs : List Int) (next a : Int) : Ty ε :=
  if next ≤ a then (xs[(a - next).toNat]?).elim (.param a) .var else .param a

theorem numbered_of_lt {a : Int} (older : a < next) (xs : List Int) :
    (numbered xs next a : Ty ε) = .param a := if_neg (Int.not_le.mpr older)

theorem numbered_idxOf {xs : List Int} {x : Int} (member : x ∈ xs) (next : Int) :
    (numbered xs next (next + xs.idxOf x) : Ty ε) = .var x := by
  have offset : (next + xs.idxOf x - next).toNat = xs.idxOf x := by omega
  rw [numbered, if_pos (by omega), offset, List.getElem?_idxOf member, Option.elim_some]

/-- Generalisation can be undone. -/
theorem instParams_generalizeFrom (older : ∀ a ∈ t.params, a < next) :
    (t.generalizeFrom next).1.instParams (numbered t.distinctVars next) = t := by
  rw [generalizeFrom_eq, instParams_inst fun a member => numbered_of_lt (older a member) _]
  calc t.inst _ = t.inst .var :=
        inst_congr fun x member => numbered_idxOf (List.mem_eraseDups.mpr member) next
    _ = t := t.inst_var

theorem generalizeFrom_of_closed (closed : t.vars = []) (next : Int) :
    t.generalizeFrom next = (t, next) := by
  rw [generalizeFrom, distinctVars, closed]
  rfl

theorem vars_rename (f g : Int → Int) (t : Ty ε) : (t.rename f g).vars = t.vars.map g := by
  induction t with
  | arrow dom cod left right => simp [vars, left, right]
  | _ => rfl

theorem rename_congr {f g f' g' : Int → Int} (onParams : ∀ a ∈ t.params, f a = f' a)
    (onVars : ∀ x ∈ t.vars, g x = g' x) : t.rename f g = t.rename f' g' := by
  induction t with
  | param a => exact congrArg param (onParams a (by simp [params]))
  | var x => exact congrArg var (onVars x (by simp [vars]))
  | arrow dom cod left right =>
    obtain ⟨paramsDom, paramsCod⟩ := List.forall_mem_append.mp onParams
    obtain ⟨varsDom, varsCod⟩ := List.forall_mem_append.mp onVars
    rw [rename, rename, left paramsDom varsDom, right paramsCod varsCod]
  | _ => rfl

/-- Types that differ in the names of their variables are generalised alike. -/
theorem generalizeFrom_rename (ρ : Equiv.Perm Int) (t : Ty ε) (next : Int) :
    (t.rename id ρ).generalizeFrom next = t.generalizeFrom next := by
  have distinct : (t.rename id ρ).distinctVars = t.distinctVars.map ρ := by
    rw [distinctVars, vars_rename, eraseDups_map ρ.injective, distinctVars]
  rw [generalizeFrom_eq, generalizeFrom_eq, distinct, List.length_map, rename_vars, inst_inst]
  simp only [inst, idxOf_map ρ.injective]

/-- Undone with the variables of another type, a common scheme makes that type an instance. -/
theorem exists_inst_of_generalizeFrom (plain : t.params = []) (plain' : u.params = [])
    (same : (t.generalizeFrom next).1 = (u.generalizeFrom next).1) :
    ∃ values, t.inst values = u := by
  refine ⟨fun x => (param (next + t.distinctVars.idxOf x)).instParams
    (numbered u.distinctVars next), ?_⟩
  have scheme : (u.generalizeFrom next).1 =
      t.inst fun x => .param (next + t.distinctVars.idxOf x) := by
    rw [← same, generalizeFrom_eq]
  rw [← instParams_inst (by simp [plain]), ← scheme]
  exact instParams_generalizeFrom (by simp [plain'])

/-- Without parameters, types generalise alike exactly when they are alpha-equivalent. -/
theorem generalizeFrom_eq_iff [DecidableEq ε] (plain : t.params = []) (plain' : u.params = []) :
    (t.generalizeFrom next).1 = (u.generalizeFrom next).1 ↔ t.alphaEquivalent u = true := by
  rw [alphaEquivalent_iff_rename]
  constructor
  · intro same
    obtain ⟨values, forth⟩ := exists_inst_of_generalizeFrom plain plain' same
    obtain ⟨others, back⟩ := exists_inst_of_generalizeFrom plain' plain same.symm
    obtain ⟨ρ, renamed⟩ := exists_renaming_of_instances forth back
    exact ⟨.refl Int, ρ, renamed⟩
  · rintro ⟨κ, ρ, rfl⟩
    have onlyVars : t.rename κ ρ = t.rename id ρ := rename_congr (by simp [plain]) fun _ _ => rfl
    rw [onlyVars, generalizeFrom_rename]

end Ty

/-- The scheme is the type with its variables numbered from `next` on, as parameters. -/
structure Ty.Numbers (t : Ty Empty) (next : Int) (scheme : Ty Empty) : Prop where
  order : FirstOccurrences t.vars t.distinctVars
  closed : scheme.vars = []
  replaced : scheme = t.inst fun x => .param (next + t.distinctVars.idxOf x)
  restored : scheme.instParams (numbered t.distinctVars next) = t
  stable : ∀ s : Supply, s.generalize scheme = (.ok scheme, s)

/-- Generalisation draws a parameter for each variable, in a way that can be undone and that leaves
nothing to be generalised; what it makes of types without parameters tells whether they are
alpha-equivalent. -/
theorem Supply.generalize_canonical :
    (∀ (s : Supply) (t : Ty Empty), (∀ a ∈ t.params, a < s.nextParam) →
      ∃ scheme, t.Numbers s.nextParam scheme ∧ s.generalize t =
        (.ok scheme, ⟨s.nextVar, s.nextParam + t.distinctVars.length⟩)) ∧
      ∀ (s s' : Supply) (t u : Ty Empty), s.nextParam = s'.nextParam →
        t.params = [] → u.params = [] →
          ((s.generalize t).1 = (s'.generalize u).1 ↔ t.alphaEquivalent u = true) := by
  constructor
  · intro s t older
    have closed := t.generalizeFrom_vars s.nextParam
    refine ⟨(t.generalizeFrom s.nextParam).1, ⟨firstOccurrences_eraseDups t.vars, closed, ?_,
      Ty.instParams_generalizeFrom older, fun s' => ?_⟩, ?_⟩
    · rw [Ty.generalizeFrom_eq]
    · rw [generalize_grammar, Ty.generalizeFrom_of_closed closed]
    · rw [generalize_grammar, Ty.generalizeFrom_eq]
  · intro s s' t u starts plain plain'
    rw [generalize_grammar, generalize_grammar, ← starts, Except.ok.injEq]
    exact Ty.generalizeFrom_eq_iff plain plain'

/-- A parameter that is kept stands between the variables, of which one occurs twice. -/
theorem Supply.generalize_canonical_kept :
    let t : Ty Empty := .arrow (.var 7) (.arrow (.param 2) (.arrow (.var 3) (.var 7)))
    let scheme : Ty Empty := .arrow (.param 4) (.arrow (.param 2) (.arrow (.param 5) (.param 4)))
    (∀ a ∈ t.params, a < (Supply.mk 5 4).nextParam) ∧ t.Numbers 4 scheme ∧
      (Supply.mk 5 4).generalize t = (.ok scheme, ⟨5, 6⟩) ∧
      ((Supply.mk 5 4).generalize (.arrow (.var 1) (.var 2) : Ty Empty)).1 =
        ((Supply.mk 8 4).generalize (.arrow (.var 9) (.var (-3)))).1 := by
  intro t scheme
  have older : ∀ a ∈ t.params, a < (Supply.mk 5 4).nextParam := by decide
  obtain ⟨numbering, canonical⟩ := Supply.generalize_canonical
  obtain ⟨found, numbers, run⟩ := numbering ⟨5, 4⟩ t older
  obtain rfl : found = scheme := numbers.replaced.trans (by decide)
  refine ⟨older, numbers, run, ?_⟩
  exact (canonical ⟨5, 4⟩ ⟨8, 4⟩ _ _ rfl rfl rfl).mpr (by decide)

end Gradual
