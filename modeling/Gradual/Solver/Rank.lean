import Gradual.Solver.State
import Gradual.Ty.Measure

/-! Every rule of the solver makes its state smaller in a well-founded order. Taking a variable apart
replaces it by two new ones all over the work that is left, so neither the number of variables nor
the size goes down by itself. The order compares, one after the other:

* how far the fresh ids can still run into ids that occur in the pairs;
* the number of `?` in the pairs plus the number of variables that are not waiting;
* the size of what the waiting variables are matched with;
* the weight of the pairs;
* the number of variables in the equations, and their weight.

A variable is waiting if it stands on the left of one of the leading pairs and occurs in none of
their right sides. Taking a waiting variable apart gives two that wait for smaller types, and one that
waits for `?` stops waiting but uses up that `?`. -/
namespace Gradual.Solver

variable {ε : Type}

/-- Number of different members. -/
def distinct : List Int → Nat
  | [] => 0
  | a :: rest => if a ∈ rest then distinct rest else distinct rest + 1

theorem distinct_filter_ne {a : Int} {m : List Int} (member : a ∈ m) :
    distinct (m.filter (· ≠ a)) + 1 = distinct m := by
  induction m with
  | nil => cases member
  | cons b rest ih =>
    by_cases same : b = a
    · subst same
      by_cases again : b ∈ rest
      · simpa [distinct, again] using ih again
      · have all : rest.filter (· ≠ b) = rest := by
          apply List.filter_eq_self.mpr
          intro c hc
          simpa using fun eq : c = b => again (eq ▸ hc)
        simp only [distinct, again, if_false]
        rw [List.filter_cons_of_neg (by simp), all]
    · have later : a ∈ rest := by
        rcases List.mem_cons.mp member with eq | later
        · exact absurd eq.symm same
        · exact later
      have kept : b ∈ rest.filter (· ≠ a) ↔ b ∈ rest := by simp [same]
      rw [List.filter_cons_of_pos (by simpa using same)]
      simp only [distinct, kept]
      have := ih later
      split <;> omega

theorem distinct_le {l m : List Int} (subset : l ⊆ m) : distinct l ≤ distinct m := by
  induction l generalizing m with
  | nil => exact Nat.zero_le _
  | cons a rest ih =>
    have tail : rest ⊆ m := fun c hc => subset (List.mem_cons_of_mem a hc)
    by_cases again : a ∈ rest
    · simpa [distinct, again] using ih tail
    · have without : rest ⊆ m.filter (· ≠ a) := by
        intro c hc
        simpa using And.intro (tail hc) (fun eq : c = a => again (eq ▸ hc))
      have := ih without
      have := distinct_filter_ne (subset (List.mem_cons.mpr (.inl rfl)))
      simp only [distinct, again, if_false]
      omega

theorem distinct_lt {l m : List Int} (subset : l ⊆ m) {z : Int} (inside : z ∈ m) (outside : z ∉ l) :
    distinct l < distinct m := by
  have without : l ⊆ m.filter (· ≠ z) := by
    intro c hc
    simpa using And.intro (subset hc) (fun eq : c = z => outside (eq ▸ hc))
  have := distinct_le without
  have := distinct_filter_ne inside
  omega

def varsOf (pairs : List (Ty ε × Ty ε)) : List Int :=
  pairs.flatMap fun pair => pair.1.vars ++ pair.2.vars

def dynsOf (pairs : List (Ty ε × Ty ε)) : Nat :=
  pairs.foldr (fun pair total => pair.1.dyns + pair.2.dyns + total) 0

/-- A pair that only has to be turned round is heavier than its turned form. -/
def turns : Ty ε → Ty ε → Nat
  | .var _, _ => 0
  | _, .var _ => 1
  | _, _ => 0

def weight (pairs : List (Ty ε × Ty ε)) : Nat :=
  pairs.foldr (fun pair total => 3 * (pair.1.size + pair.2.size) + turns pair.1 pair.2 + total) 0

/-- The longest run of leading pairs `(x, u)` with different variables on the left that are not in
`heads` or `seen` and occur in none of the right sides, nor do `heads`. -/
def leading (heads seen : List Int) : List (Ty ε × Ty ε) → List (Int × Ty ε)
  | (.var x, u) :: rest =>
    if x ∉ heads ∧ x ∉ seen ∧ x ∉ u.vars ∧ ∀ y ∈ heads, y ∉ u.vars then
      (x, u) :: leading (x :: heads) (u.vars ++ seen) rest
    else []
  | _ => []

def waiting (pairs : List (Ty ε × Ty ε)) : List (Int × Ty ε) := leading [] [] pairs

def headsOf (run : List (Int × Ty ε)) : List Int := run.map Prod.fst

def settled (pairs : List (Ty ε × Ty ε)) : List Int :=
  (varsOf pairs).filter (· ∉ headsOf (waiting pairs))

/-- The number of `?` and of variables that are not waiting. -/
def unsettled (pairs : List (Ty ε × Ty ε)) : Nat := distinct (settled pairs) + dynsOf pairs

def sizeOfRun (run : List (Int × Ty ε)) : Nat :=
  run.foldr (fun entry total => entry.2.size + total) 0

/-- How far ids from `next` on can still meet an id that is in use. -/
def reach (next : Int) (ids : List Int) : Nat :=
  (ids.map fun id => (id + 1 - next).toNat).foldr max 0

def State.rank (s : State ε) : Nat × Nat × Nat × Nat × Nat × Nat :=
  (reach s.nextVar (varsOf s.pairs), unsettled s.pairs, sizeOfRun (waiting s.pairs),
    weight s.pairs, distinct (varsOf s.equations), weight s.equations)

theorem mem_varsOf {pairs : List (Ty ε × Ty ε)} {c : Int} :
    c ∈ varsOf pairs ↔ ∃ pair ∈ pairs, c ∈ pair.1.vars ∨ c ∈ pair.2.vars := by
  simp [varsOf, List.mem_flatMap]

@[simp] theorem varsOf_cons (l r : Ty ε) (rest : List (Ty ε × Ty ε)) :
    varsOf ((l, r) :: rest) = l.vars ++ r.vars ++ varsOf rest := rfl

@[simp] theorem dynsOf_cons (l r : Ty ε) (rest : List (Ty ε × Ty ε)) :
    dynsOf ((l, r) :: rest) = l.dyns + r.dyns + dynsOf rest := rfl

@[simp] theorem weight_cons (l r : Ty ε) (rest : List (Ty ε × Ty ε)) :
    weight ((l, r) :: rest) = 3 * (l.size + r.size) + turns l r + weight rest := rfl

@[simp] theorem sizeOfRun_cons (entry : Int × Ty ε) (rest : List (Int × Ty ε)) :
    sizeOfRun (entry :: rest) = entry.2.size + sizeOfRun rest := rfl

@[simp] theorem sizeOfRun_append (front rest : List (Int × Ty ε)) :
    sizeOfRun (front ++ rest) = sizeOfRun front + sizeOfRun rest := by
  induction front with
  | nil => simp [sizeOfRun]
  | cons entry front ih => simp [ih, Nat.add_assoc]

theorem mem_varsOf_substPairs {pairs : List (Ty ε × Ty ε)} {x c : Int} {t : Ty ε}
    (member : c ∈ varsOf (substPairs pairs x t)) :
    (c ∈ varsOf pairs ∧ c ≠ x) ∨ c ∈ t.vars := by
  obtain ⟨_, image, side⟩ := mem_varsOf.mp member
  obtain ⟨pair, inside, rfl⟩ := List.mem_map.mp image
  rcases side with side | side <;> rcases Ty.mem_vars_subst.mp side with ⟨old, ne⟩ | ⟨_, new⟩
  · exact .inl ⟨mem_varsOf.mpr ⟨pair, inside, .inl old⟩, ne⟩
  · exact .inr new
  · exact .inl ⟨mem_varsOf.mpr ⟨pair, inside, .inr old⟩, ne⟩
  · exact .inr new

theorem dynsOf_substPairs {t : Ty ε} (static : t.dyns = 0) (pairs : List (Ty ε × Ty ε)) (x : Int) :
    dynsOf (substPairs pairs x t) = dynsOf pairs := by
  induction pairs with
  | nil => rfl
  | cons pair rest ih =>
    have tail : dynsOf (rest.map (substPair x t)) = dynsOf rest := ih
    simp [substPairs, substPair, tail, Ty.dyns_subst static, dynsOf_cons pair.1 pair.2]

/-! ### The run of waiting variables -/

theorem head_of_leading {heads seen : List Int} {pairs : List (Ty ε × Ty ε)} {x : Int}
    (member : x ∈ headsOf (leading heads seen pairs)) : x ∉ heads ∧ x ∈ varsOf pairs := by
  fun_induction leading heads seen pairs with
  | case1 heads seen y u rest accepted ih =>
    simp only [headsOf, List.map_cons, List.mem_cons] at member
    rcases member with rfl | later
    · exact ⟨accepted.1, by simp [Ty.vars]⟩
    · obtain ⟨new, inside⟩ := ih later
      exact ⟨fun old => new (List.mem_cons_of_mem y old), by simp [inside]⟩
  | case2 => cases member
  | case3 => cases member

theorem nodup_heads (heads seen : List Int) (pairs : List (Ty ε × Ty ε)) :
    (headsOf (leading heads seen pairs)).Nodup := by
  fun_induction leading heads seen pairs with
  | case1 heads seen y u rest accepted ih =>
    simp only [headsOf, List.map_cons, List.nodup_cons]
    exact ⟨fun again => (head_of_leading again).1 List.mem_cons_self, ih⟩
  | case2 => exact List.nodup_nil
  | case3 => exact List.nodup_nil

/-- A run outlives a change of the pairs after it that leaves alone the pairs without `x`, if the
variables and right sides in front of it are among those before or new. -/
theorem leading_extends {x : Int} (change : Ty ε × Ty ε → Ty ε × Ty ε)
    (keeps : ∀ y u, y ≠ x → x ∉ u.vars → change (.var y, u) = (.var y, u))
    (pairs : List (Ty ε × Ty ε)) (fresh : List Int) (unused : ∀ z ∈ fresh, z ∉ varsOf pairs)
    (heads seen heads' seen' : List Int) (present : x ∈ heads)
    (known : ∀ h ∈ heads', h ∈ heads ∨ h ∈ fresh) (fewer : seen' ⊆ seen) :
    ∃ more, leading heads' seen' (pairs.map change) = leading heads seen pairs ++ more := by
  fun_induction leading heads seen pairs generalizing heads' seen' with
  | case1 heads seen y u rest accepted ih =>
    obtain ⟨new, unseen, acyclic, apart⟩ := accepted
    have other : y ≠ x := fun eq => new (eq ▸ present)
    have stays : change (.var y, u) = (.var y, u) := keeps y u other (apart x present)
    have accepted' : y ∉ heads' ∧ y ∉ seen' ∧ y ∉ u.vars ∧ ∀ h ∈ heads', h ∉ u.vars := by
      refine ⟨fun old => ?_, fun old => unseen (fewer old), acyclic, fun h old inside => ?_⟩
      · rcases known y old with old | old
        · exact new old
        · exact unused y old (by simp [Ty.vars])
      · rcases known h old with old | old
        · exact apart h old inside
        · exact unused h old (by simp [inside])
    have known' : ∀ h ∈ y :: heads', h ∈ y :: heads ∨ h ∈ fresh := by
      intro h member
      rcases List.mem_cons.mp member with rfl | old
      · exact .inl List.mem_cons_self
      · exact (known h old).imp (List.mem_cons_of_mem y) id
    have fewer' : u.vars ++ seen' ⊆ u.vars ++ seen := by
      intro c member
      rcases List.mem_append.mp member with inside | old
      · exact List.mem_append_left _ inside
      · exact List.mem_append_right _ (fewer old)
    obtain ⟨more, extended⟩ := ih (fun z member inside => unused z member (by simp [inside]))
      _ _ (List.mem_cons_of_mem y present) known' fewer'
    exact ⟨more, by rw [List.map_cons, stays, leading, if_pos accepted', extended]; rfl⟩
  | case2 => exact ⟨_, rfl⟩
  | case3 => exact ⟨_, rfl⟩

/-! ### The order on pairs -/

/-- The part of the order that looks at the pairs and not at the supply. -/
def Below (pairs' pairs : List (Ty ε × Ty ε)) : Prop :=
  unsettled pairs' < unsettled pairs ∨ unsettled pairs' ≤ unsettled pairs ∧
    (sizeOfRun (waiting pairs') < sizeOfRun (waiting pairs) ∨
      sizeOfRun (waiting pairs') ≤ sizeOfRun (waiting pairs) ∧ weight pairs' < weight pairs)

theorem mem_settled {pairs : List (Ty ε × Ty ε)} {c : Int} :
    c ∈ settled pairs ↔ c ∈ varsOf pairs ∧ c ∉ headsOf (waiting pairs) := by
  simp [settled]

/-- No variable waits: a change that adds no variables and no `?` and loses weight goes down. -/
theorem below_of_idle {pairs' pairs : List (Ty ε × Ty ε)} (idle : waiting pairs = [])
    (vars : varsOf pairs' ⊆ varsOf pairs) (dyns : dynsOf pairs' ≤ dynsOf pairs)
    (lighter : weight pairs' < weight pairs) : Below pairs' pairs := by
  have all : settled pairs = varsOf pairs := by simp [settled, idle, headsOf]
  have subset : settled pairs' ⊆ varsOf pairs := fun c member => vars (mem_settled.mp member).1
  cases run : waiting pairs' with
  | nil =>
    have := distinct_le subset
    refine .inr ⟨?_, .inr ⟨by simp [run, idle], lighter⟩⟩
    simp only [unsettled, all]
    omega
  | cons entry more =>
    have head : entry.1 ∈ headsOf (waiting pairs') := by simp [run, headsOf]
    have := distinct_lt subset (vars (head_of_leading head).2)
      (fun member => (mem_settled.mp member).2 head)
    refine .inl ?_
    simp only [unsettled, all]
    omega

/-- Variables wait: either the run shrinks, or it takes in a variable that was counted before. -/
theorem below_of_run {pairs' pairs : List (Ty ε × Ty ε)} {counted : List Int}
    (subset : settled pairs' ⊆ counted) (count : distinct counted + dynsOf pairs' ≤ unsettled pairs)
    (progress : sizeOfRun (waiting pairs') < sizeOfRun (waiting pairs) ∨
      ∃ z ∈ counted, z ∈ headsOf (waiting pairs')) : Below pairs' pairs := by
  rcases progress with shorter | ⟨z, member, head⟩
  · have := distinct_le subset
    exact .inr ⟨by unfold unsettled at *; omega, .inl shorter⟩
  · have := distinct_lt subset member (fun inside => (mem_settled.mp inside).2 head)
    exact .inl (by unfold unsettled at *; omega)

theorem waiting_cons {x : Int} {u : Ty ε} (acyclic : x ∉ u.vars) (rest : List (Ty ε × Ty ε)) :
    waiting ((.var x, u) :: rest) = (x, u) :: leading [x] u.vars rest := by
  simp [waiting, leading, acyclic]

/-- The first waiting variable is dealt with, those in `front` wait for less in its place, and all
the others go on waiting. -/
theorem below_of_front {x : Int} {u : Ty ε} {rest pairs' : List (Ty ε × Ty ε)}
    (front more : List (Int × Ty ε)) (counted : List Int) (acyclic : x ∉ u.vars)
    (after : waiting pairs' = front ++ (leading [x] u.vars rest ++ more))
    (smaller : sizeOfRun front < u.size)
    (inside : ∀ z ∈ varsOf pairs', z ∉ headsOf front → z ∉ headsOf (leading [x] u.vars rest) →
      z ∈ counted)
    (count : distinct counted + dynsOf pairs' ≤ unsettled ((.var x, u) :: rest)) :
    Below pairs' ((.var x, u) :: rest) := by
  have before := waiting_cons acyclic rest
  have heads : headsOf (waiting pairs') =
      headsOf front ++ (headsOf (leading [x] u.vars rest) ++ headsOf more) := by
    simp [after, headsOf]
  refine below_of_run (fun z member => ?_) count ?_
  · obtain ⟨occurs, awake⟩ := mem_settled.mp member
    simp only [heads, List.mem_append, not_or] at awake
    exact inside z occurs awake.1 awake.2.1
  · cases more with
    | nil =>
      refine .inl ?_
      simp only [after, before, List.append_nil, sizeOfRun_append, sizeOfRun_cons]
      omega
    | cons entry others =>
      have head : entry.1 ∈ headsOf (waiting pairs') := by
        rw [heads]
        exact List.mem_append_right _ (List.mem_append_right _ List.mem_cons_self)
      have unique : (headsOf (waiting pairs')).Nodup := nodup_heads _ _ _
      rw [heads, List.nodup_append, List.nodup_append] at unique
      obtain ⟨_, ⟨_, _, afterRun⟩, afterFront⟩ := unique
      have listed : entry.1 ∈ headsOf (entry :: others) := List.mem_cons_self
      exact .inr ⟨entry.1, inside _ (head_of_leading head).2
        (fun old => afterFront _ old _ (List.mem_append_right _ listed) rfl)
        (fun old => afterRun _ old _ listed rfl), head⟩

/-- A waiting variable that meets `?` is free again. -/
theorem below_release (x : Int) (rest : List (Ty ε × Ty ε)) :
    Below rest ((.var x, .dyn) :: rest) := by
  have acyclic : x ∉ (Ty.dyn : Ty ε).vars := List.not_mem_nil
  obtain ⟨more, after⟩ := leading_extends id (fun y u _ _ => rfl) rest []
    (fun z member => absurd member List.not_mem_nil) [x] (Ty.dyn : Ty ε).vars [] []
    (List.mem_singleton_self x) (by simp) (by simp)
  rw [List.map_id] at after
  refine below_of_front [] more (x :: settled ((.var x, .dyn) :: rest)) acyclic after
    (by simp [sizeOfRun, Ty.size]) ?_ ?_
  · intro z occurs _ awake
    by_cases same : z = x
    · simp [same]
    · refine List.mem_cons_of_mem x (mem_settled.mpr ⟨by simp [occurs], ?_⟩)
      simpa [waiting_cons acyclic, headsOf, same] using awake
  · have bound : distinct (x :: settled ((.var x, .dyn) :: rest)) ≤
        distinct (settled ((.var x, .dyn) :: rest)) + 1 := by
      rw [distinct]; split <;> omega
    simp only [unsettled, dynsOf_cons, Ty.dyns]
    omega

theorem substPair_keeps (x : Int) (t : Ty ε) (y : Int) (u : Ty ε) (other : y ≠ x)
    (absent : x ∉ u.vars) :
    substPair x t (.var y, u) = (.var y, u) := by
  simp [substPair, Ty.subst_of_not_mem absent, Ty.subst, other]

/-- A waiting variable is eliminated by an atom. -/
theorem below_bind {x : Int} {u : Ty ε} (acyclic : x ∉ u.vars) (static : u.dyns = 0)
    (rest : List (Ty ε × Ty ε)) : Below (substPairs rest x u) ((.var x, u) :: rest) := by
  obtain ⟨more, after⟩ := leading_extends (substPair x u) (substPair_keeps x u) rest []
    (fun z member => absurd member List.not_mem_nil) [x] u.vars [] []
    (List.mem_singleton_self x) (by simp) (by simp)
  refine below_of_front [] more (settled ((.var x, u) :: rest)) acyclic after
    (by simpa [sizeOfRun] using u.size_pos) ?_ ?_
  · intro z occurs _ awake
    have other : z ≠ x ∧ (z ∈ varsOf rest ∨ z ∈ u.vars) := by
      rcases mem_varsOf_substPairs occurs with ⟨old, ne⟩ | new
      · exact ⟨ne, .inl old⟩
      · exact ⟨fun eq => acyclic (eq ▸ new), .inr new⟩
    refine mem_settled.mpr ⟨?_, ?_⟩
    · rcases other.2 with old | new <;> simp [*]
    · simpa [waiting_cons acyclic, headsOf, other.1] using awake
  · simp [unsettled, dynsOf_substPairs static, Ty.dyns, static]

/-- A waiting variable is taken apart, and the ids of its parts occur nowhere yet. -/
theorem below_split {x dom cod : Int} {a b : Ty ε} {rest : List (Ty ε × Ty ε)}
    (acyclic : x ∉ (Ty.arrow a b).vars) (apart : dom ≠ cod)
    (freshDom : dom ∉ varsOf ((.var x, .arrow a b) :: rest))
    (freshCod : cod ∉ varsOf ((.var x, .arrow a b) :: rest)) :
    Below (substPairs ((.var dom, a) :: (.var cod, b) :: rest) x (.arrow (.var dom) (.var cod)))
      ((.var x, .arrow a b) :: rest) := by
  simp only [varsOf_cons, Ty.vars, List.mem_append, List.mem_singleton, not_or] at freshDom freshCod
  obtain ⟨⟨domX, domA, domB⟩, domRest⟩ := freshDom
  obtain ⟨⟨codX, codA, codB⟩, codRest⟩ := freshCod
  have sides : x ∉ a.vars ∧ x ∉ b.vars := by simpa [Ty.vars] using acyclic
  obtain ⟨more, after⟩ := leading_extends (substPair x (.arrow (.var dom) (.var cod)))
    (substPair_keeps x (.arrow (.var dom) (.var cod))) rest [dom, cod] (by simp [domRest, codRest]) [x] (Ty.arrow a b).vars [cod, dom] (b.vars ++ a.vars)
    (List.mem_singleton_self x) (by simp) (by intro c; simp [Ty.vars, or_comm])
  have form : substPairs ((.var dom, a) :: (.var cod, b) :: rest) x (.arrow (.var dom) (.var cod)) =
      (.var dom, a) :: (.var cod, b) :: substPairs rest x (.arrow (.var dom) (.var cod)) := by
    simp [substPairs, substPair, Ty.subst, domX, codX, Ty.subst_of_not_mem sides.1,
      Ty.subst_of_not_mem sides.2]
  rw [form]
  refine below_of_front [(dom, a), (cod, b)] more (settled ((.var x, .arrow a b) :: rest)) acyclic
    ?_ (by simp [sizeOfRun, Ty.size]) ?_ ?_
  · have new : leading [] [] ((.var dom, a) :: (.var cod, b) ::
        substPairs rest x (.arrow (.var dom) (.var cod))) = (dom, a) :: (cod, b) ::
          leading [cod, dom] (b.vars ++ a.vars)
            (substPairs rest x (.arrow (.var dom) (.var cod))) := by
      simp [leading, domA, domB, codA, codB, Ne.symm apart]
    rw [waiting, new]
    exact congrArg (fun run => (dom, a) :: (cod, b) :: run) after
  · intro z occurs front awake
    have ends : z ≠ dom ∧ z ≠ cod := by simpa [headsOf] using front
    have other : z ≠ x ∧ (z ∈ a.vars ∨ z ∈ b.vars ∨ z ∈ varsOf rest) := by
      simp only [varsOf_cons, Ty.vars, List.mem_append, List.mem_singleton] at occurs
      rcases occurs with (eq | inA) | (eq | inB) | inRest
      · exact absurd eq ends.1
      · exact ⟨fun eq => sides.1 (eq ▸ inA), .inl inA⟩
      · exact absurd eq ends.2
      · exact ⟨fun eq => sides.2 (eq ▸ inB), .inr (.inl inB)⟩
      · rcases mem_varsOf_substPairs inRest with ⟨old, ne⟩ | new
        · exact ⟨ne, .inr (.inr old)⟩
        · simp [Ty.vars, ends] at new
    refine mem_settled.mpr ⟨?_, ?_⟩
    · rcases other.2 with old | old | old <;> simp [Ty.vars, old]
    · simpa [waiting_cons acyclic, headsOf, other.1] using awake
  · have static : (Ty.arrow (.var dom) (.var cod) : Ty ε).dyns = 0 := rfl
    simp only [unsettled, dynsOf_cons, dynsOf_substPairs static, Ty.dyns]
    omega

/-! ### Running into ids in use -/

theorem reach_le {next : Int} {ids : List Int} {bound : Nat} :
    reach next ids ≤ bound ↔ ∀ id ∈ ids, (id + 1 - next).toNat ≤ bound := by
  unfold reach
  induction ids with
  | nil => simp
  | cons id rest ih => rw [List.map_cons, List.foldr_cons, Nat.max_le, List.forall_mem_cons, ih]

theorem reach_mono {next : Int} {ids' ids : List Int} (subset : ids' ⊆ ids) :
    reach next ids' ≤ reach next ids :=
  reach_le.mpr fun id member => reach_le.mp (Nat.le_refl _) id (subset member)

/-- Two ids more are drawn: the supply comes closer to the end of the ids in use, or has passed it. -/
theorem reach_draw {next : Int} {ids' ids : List Int}
    (drawn : ∀ id ∈ ids', id ∈ ids ∨ id = next ∨ id = next + 1) :
    reach (next + 2) ids' ≤ reach next ids - 2 := by
  refine reach_le.mpr fun id member => ?_
  rcases drawn id member with old | new | new
  · have := reach_le.mp (Nat.le_refl (reach next ids)) id old
    omega
  · omega
  · omega

theorem lt_of_reach {next : Int} {ids : List Int} (passed : reach next ids = 0) {id : Int}
    (member : id ∈ ids) : id < next := by
  have := reach_le.mp (Nat.le_of_eq passed) id member
  omega

/-! ### The order on states -/

theorem lex_of_le {α : Type} {order : α → α → Prop} {a' a : Nat} {b' b : α} (le : a' ≤ a)
    (rest : a' = a → order b' b) : Prod.Lex (· < ·) order (a', b') (a, b) := by
  rcases Nat.lt_or_eq_of_le le with lt | eq
  · exact .left _ _ lt
  · exact eq ▸ .right _ (rest eq)

/-- The lexicographic order of ranks. -/
abbrev Smaller : Nat × Nat × Nat × Nat × Nat × Nat → Nat × Nat × Nat × Nat × Nat × Nat → Prop :=
  Prod.Lex (· < ·) (Prod.Lex (· < ·) (Prod.Lex (· < ·) (Prod.Lex (· < ·)
    (Prod.Lex (· < ·) (· < ·)))))

theorem smaller_wf : WellFounded Smaller :=
  (Prod.lex ⟨_, Nat.lt_wfRel.wf⟩ (Prod.lex ⟨_, Nat.lt_wfRel.wf⟩ (Prod.lex ⟨_, Nat.lt_wfRel.wf⟩
    (Prod.lex ⟨_, Nat.lt_wfRel.wf⟩ (Prod.lex ⟨_, Nat.lt_wfRel.wf⟩ ⟨_, Nat.lt_wfRel.wf⟩))))).wf

theorem smaller_of_below {s' s : State ε}
    (supply : reach s'.nextVar (varsOf s'.pairs) ≤ reach s.nextVar (varsOf s.pairs))
    (below : reach s'.nextVar (varsOf s'.pairs) = reach s.nextVar (varsOf s.pairs) →
      Below s'.pairs s.pairs) : Smaller s'.rank s.rank := by
  refine lex_of_le supply fun same => ?_
  rcases below same with unsettled | ⟨unsettled, run | ⟨run, lighter⟩⟩
  · exact .left _ _ unsettled
  · exact lex_of_le unsettled fun _ => .left _ _ run
  · exact lex_of_le unsettled fun _ => lex_of_le run fun _ => .left _ _ lighter

theorem smaller_of_equations {s' s : State ε} (pairs : s'.pairs = s.pairs)
    (supply : s'.nextVar = s.nextVar)
    (vars : distinct (varsOf s'.equations) ≤ distinct (varsOf s.equations))
    (lighter : distinct (varsOf s'.equations) = distinct (varsOf s.equations) →
      weight s'.equations < weight s.equations) : Smaller s'.rank s.rank := by
  unfold State.rank
  rw [pairs, supply]
  exact .right _ (.right _ (.right _ (.right _ (lex_of_le vars lighter))))

theorem bind_eq_next {s s' : State ε} {x : Int} {t : Ty ε} (next : s.bind x t = .next s') :
    s' = ⟨substPairs s.pairs x t, substPairs s.equations x t, s.solved.extend x t, s.nextVar⟩ := by
  unfold State.bind at next
  split at next
  · cases next
  · exact (Outcome.next.inj next).symm

theorem waiting_idle {l r : Ty ε} (cyclic : ∀ x, l = .var x → x ∈ r.vars)
    (rest : List (Ty ε × Ty ε)) : waiting ((l, r) :: rest) = [] := by
  cases l with
  | var x => simp [waiting, leading, cyclic x rfl]
  | _ => rfl

/-- Dropping the first pair when its variable, if it has one, does not wait. -/
theorem below_drop {l r : Ty ε} (cyclic : ∀ x, l = .var x → x ∈ r.vars)
    (rest : List (Ty ε × Ty ε)) : Below rest ((l, r) :: rest) := by
  refine below_of_idle (waiting_idle cyclic rest) (by intro c; simp +contextual) ?_ ?_
  · rw [dynsOf_cons]; omega
  · have := l.size_pos
    rw [weight_cons]; omega

theorem split_smaller {s s' : State ε} {x : Int} {a b : Ty ε} (next : s.split x a b = .next s') :
    Smaller s'.rank { s with pairs := (.var x, .arrow a b) :: s.pairs }.rank := by
  unfold State.split at next
  split at next
  · cases next
  split at next
  · cases next
  rename_i acyclic
  simp only at next
  split at next
  · cases next
  rename_i clash
  have vars : ∀ id ∈ varsOf (substPairs ((.var s.nextVar, a) :: (.var (s.nextVar + 1), b) :: s.pairs)
      x (.arrow (.var s.nextVar) (.var (s.nextVar + 1)))),
      id ∈ varsOf ((.var x, .arrow a b) :: s.pairs) ∨ id = s.nextVar ∨ id = s.nextVar + 1 := by
    intro id member
    rcases mem_varsOf_substPairs member with ⟨old, _⟩ | new
    · simp only [varsOf_cons, Ty.vars, List.mem_append, List.mem_singleton] at old ⊢
      grind
    · simp only [Ty.vars, List.mem_append, List.mem_singleton] at new
      exact .inr new
  have drawn := reach_draw vars
  rw [bind_eq_next next]
  refine smaller_of_below (by simp only; omega) fun same => ?_
  have passed : reach s.nextVar (varsOf ((.var x, .arrow a b) :: s.pairs)) = 0 := by
    simp only at same
    omega
  exact below_split acyclic (by omega)
    (fun member => by have := lt_of_reach passed member; omega)
    (fun member => by have := lt_of_reach passed member; omega)

theorem relate_smaller {s s' : State ε} {l r : Ty ε} (next : s.relate l r = .next s') :
    Smaller s'.rank { s with pairs := (l, r) :: s.pairs }.rank := by
  have fewer : ∀ {pairs' : List (Ty ε × Ty ε)}, varsOf pairs' ⊆ varsOf ((l, r) :: s.pairs) →
      Below pairs' ((l, r) :: s.pairs) →
      Smaller { s with pairs := pairs' }.rank { s with pairs := (l, r) :: s.pairs }.rank :=
    fun subset below => smaller_of_below (reach_mono subset) fun _ => below
  have tail : varsOf s.pairs ⊆ varsOf ((l, r) :: s.pairs) := by intro c; simp +contextual
  unfold State.relate at next
  split at next
  · rename_i same
    cases next
    refine fewer tail (below_drop (fun x eq => ?_) _)
    rw [← (Ty.sameAtom_iff.mp same).1, eq]
    exact List.mem_singleton_self x
  rename_i differ
  split at next
  · cases next
    exact fewer tail (below_drop (fun _ eq => by cases eq) _)
  · cases next
    refine fewer tail ?_
    cases l with
    | var x => exact below_release x s.pairs
    | _ => exact below_drop (fun _ eq => by cases eq) _
  · cases next
    refine fewer (by intro c; simp only [varsOf_cons, Ty.vars, List.mem_append]; grind)
      (below_of_idle rfl (by intro c; simp only [varsOf_cons, Ty.vars, List.mem_append]; grind)
        (by simp only [dynsOf_cons, Ty.dyns]; omega) ?_)
    have bound : ∀ t u : Ty ε, turns t u ≤ 1 := by intro t u; unfold turns; split <;> omega
    rename_i a b c d
    have := bound a c
    have := bound b d
    simp only [weight_cons, Ty.size]
    omega
  · exact split_smaller next
  · rename_i x _ _
    split at next
    · rename_i atom
      have acyclic : x ∉ r.vars := by
        intro member
        cases r with
        | var y =>
          obtain rfl : x = y := by simpa [Ty.vars] using member
          simp [Ty.sameAtom] at differ
        | _ => simp [Ty.isAtom, Ty.vars] at atom member
      have static : r.dyns = 0 := by cases r <;> simp [Ty.isAtom, Ty.dyns] at atom ⊢
      rw [bind_eq_next next]
      refine smaller_of_below (reach_mono ?_) fun _ => below_bind acyclic static s.pairs
      intro c member
      rcases mem_varsOf_substPairs member with ⟨old, _⟩ | new
      · exact tail old
      · simp [new]
    · cases next
  · cases next
    rename_i x _ notVar
    have turned : turns l (.var x) = 1 := by
      cases l with
      | var y => exact absurd rfl (notVar y)
      | _ => rfl
    refine fewer (by intro c; simp only [varsOf_cons, Ty.vars, List.mem_append]; grind)
      (below_of_idle (waiting_idle (fun y eq => absurd eq (notVar y)) _)
        (by intro c; simp only [varsOf_cons, Ty.vars, List.mem_append]; grind)
        (by simp only [dynsOf_cons, Ty.dyns]; omega) ?_)
    rw [weight_cons, weight_cons, turned]
    simp only [Ty.size, turns]
    omega
  · cases next

theorem equate_smaller {s s' : State ε} {l r : Ty ε} (done : s.pairs = [])
    (next : s.equate l r = .next s') :
    Smaller s'.rank { s with equations := (l, r) :: s.equations }.rank := by
  have fewer : ∀ {equations' : List (Ty ε × Ty ε)},
      varsOf equations' ⊆ varsOf ((l, r) :: s.equations) →
      weight equations' < weight ((l, r) :: s.equations) →
      Smaller { s with equations := equations' }.rank
        { s with equations := (l, r) :: s.equations }.rank :=
    fun subset lighter => smaller_of_equations rfl rfl (distinct_le subset) fun _ => lighter
  have tail : varsOf s.equations ⊆ varsOf ((l, r) :: s.equations) := by intro c; simp +contextual
  unfold State.equate at next
  split at next
  · cases next
    have := l.size_pos
    exact fewer tail (by rw [weight_cons]; omega)
  split at next
  · split at next
    · cases next
      refine fewer (by intro c; simp only [varsOf_cons, Ty.vars, List.mem_append]; grind) ?_
      have bound : ∀ t u : Ty ε, turns t u ≤ 1 := by intro t u; unfold turns; split <;> omega
      rename_i a b c d _ _
      have := bound a c
      have := bound b d
      simp only [weight_cons, Ty.size]
      omega
    · cases next
  · split at next
    · cases next
    · split at next
      · cases next
      · rename_i x _ _ _ acyclic
        rw [bind_eq_next next]
        have kept : ∀ c ∈ varsOf (substPairs s.equations x r),
            c ≠ x ∧ c ∈ varsOf ((.var x, r) :: s.equations) := by
          intro c member
          rcases mem_varsOf_substPairs member with ⟨old, ne⟩ | new
          · exact ⟨ne, by simp [old]⟩
          · exact ⟨fun eq => acyclic (eq ▸ new), by simp [new]⟩
        have lost : distinct (varsOf (substPairs s.equations x r)) <
            distinct (varsOf ((.var x, r) :: s.equations)) :=
          distinct_lt (fun c member => (kept c member).2) (by simp [Ty.vars])
            (fun member => (kept x member).1 rfl)
        exact smaller_of_equations (by simp [done, substPairs]) rfl (Nat.le_of_lt lost)
          (fun same => absurd same (Nat.ne_of_lt lost))
  · split at next
    · cases next
      rename_i x notVar _ _
      have turned : turns l (.var x) = 1 := by
        cases l with
        | var y => exact absurd rfl (notVar y)
        | _ => rfl
      refine fewer (by intro c; simp only [varsOf_cons, Ty.vars, List.mem_append]; grind) ?_
      rw [weight_cons, weight_cons, turned]
      simp only [Ty.size, turns]
      omega
    · cases next
  · cases next

theorem step_smaller {s s' : State ε} (next : s.step = .next s') : Smaller s'.rank s.rank := by
  obtain ⟨pairs, equations, solved, nextVar⟩ := s
  cases pairs with
  | cons pair rest => exact relate_smaller next
  | nil =>
    cases equations with
    | cons pair rest => exact equate_smaller rfl next
    | nil => cases next

end Gradual.Solver
