import Gradual.Proofs.Walks.Basic

/-! Walks and readers agree. A budget of four calls for each token that is left, and five more, is
enough: then every walk ends, and it comes to the outcome of the reader that takes tokens off a list,
at the position where the tokens begin that this reader leaves. -/
namespace Gradual

variable {ε α β : Type}

/-- The outcome, as that of a walk through the whole text. -/
def Reading.outcome {least : Nat} {input : List Token} (reader : Reader) :
    Reading least α input → EStateM.Result (Option ReadError) Nat α
  | .value a rest _ => .ok a (reader.tokens.length - rest.length)
  | .stuck complaint rest _ =>
    .error (some (.ofComplaint reader.stop complaint)) (reader.tokens.length - rest.length)

theorem Reading.andThen_value {least more : Nat} {input rest : List Token} {a : α}
    (next : α → (rest : List Token) → rest.length + least ≤ input.length → Reading more β rest)
    (fits : rest.length + least ≤ input.length) :
    ((value a rest fits).andThen next).rest = (next a rest fits).rest ∧
      ∀ reader,
        ((value a rest fits).andThen next).outcome reader = (next a rest fits).outcome reader := by
  simp only [andThen]
  cases next a rest fits <;> exact ⟨rfl, fun _ => rfl⟩

/-- A reading leaves the last tokens of its input, and the walk, from the position where this input
begins, comes to the same outcome at the position where they begin. -/
structure Agrees {least : Nat} {input : List Token} (reader : Reader) (walk : Walk α)
    (reading : Reading least α input) : Prop where
  leaves : reading.rest <:+ input
  runs : ∀ taken, reader.tokens = taken ++ input →
    walk.run taken.length = reading.outcome reader

namespace Reader

variable {reader : Reader} {input taken : List Token}

/-- The token that comes next when these are left. -/
def next (reader : Reader) (input : List Token) : Token := input.headD reader.endMark

@[simp] theorem kind_next (reader : Reader) (input : List Token) :
    (reader.next input).kind = kindOf input := by
  cases input <;> rfl

theorem kind_next_drop : (reader.next (input.drop 2)).kind = kindOfThird input := by
  match input with
  | [] | [_] | [_, _] | _ :: _ :: _ :: _ => rfl

theorem tokenAt_append (same : reader.tokens = taken ++ input) (i : Nat) :
    reader.tokenAt (taken.length + i) = reader.next (input.drop i) := by
  have listed : reader.listing = taken ++ (input ++ [reader.endMark]) := by
    rw [listing, same, List.append_assoc]
    rfl
  rw [tokenAt, next, List.headD_eq_head?_getD, List.head?_drop, List.getD_eq_getElem?_getD, listed,
    List.getElem?_append_right (by omega), Nat.add_sub_cancel_left]
  by_cases within : i < input.length
  · rw [List.getElem?_append_left within]
  · have past : input.length ≤ i := Nat.not_lt.mp within
    rw [List.getElem?_append_right past, List.getElem?_eq_none past, List.getElem?_singleton]
    split <;> rfl

theorem run_peek (same : reader.tokens = taken ++ input) (offset : Nat) :
    (reader.peek offset).run taken.length = .ok (reader.next (input.drop offset)) taken.length := by
  rw [← tokenAt_append same]
  rfl

theorem run_current (same : reader.tokens = taken ++ input) :
    reader.current.run taken.length = .ok (reader.next input) taken.length := run_peek same 0

theorem run_advance (same : reader.tokens = taken ++ input) :
    reader.advance.run taken.length =
      .ok (reader.next input) (reader.tokens.length - input.tail.length) := by
  have moved : (if taken.length < reader.listing.length - 1 then taken.length + 1
      else taken.length) = reader.tokens.length - input.tail.length := by
    simp only [listing, same, List.length_append, List.length_singleton, List.length_tail]
    split <;> omega
  rw [← moved, ← input.drop_zero, ← tokenAt_append same]
  rfl

end Reader

namespace Agrees

variable {reader : Reader} {least more : Nat} {input : List Token}

theorem of_eq {walk other : Walk α} {reading : Reading least α input}
    (agrees : Agrees reader other reading)
    (same : ∀ taken, reader.tokens = taken ++ input →
      walk.run taken.length = other.run taken.length) :
    Agrees reader walk reading where
  leaves := agrees.leaves
  runs taken whole := (same taken whole).trans (agrees.runs taken whole)

theorem done (a : α) : Agrees reader (pure a) (.done a : Reading 0 α input) where
  leaves := List.suffix_refl input
  runs taken whole := by
    rw [Reading.done, Reading.outcome, whole, List.length_append, Nat.add_sub_cancel]
    rfl

theorem stuck (complaint : Complaint) :
    Agrees reader (throw (some (.ofComplaint reader.stop complaint)))
      (.stuck complaint input (Nat.le_refl _) : Reading least α input) where
  leaves := List.suffix_refl input
  runs taken whole := by
    rw [Reading.outcome, whole, List.length_append, Nat.add_sub_cancel]
    rfl

theorem fail (cause : SyntaxError.Cause) (place : Option Location) :
    Agrees reader (throw (some (.malformed ⟨cause, place.getD reader.stop⟩)))
      (.fail cause place : Reading least α input) :=
  stuck (.cause cause place)

theorem relax {walk : Walk α} {reading : Reading least α input}
    (agrees : Agrees reader walk reading) : Agrees reader walk reading.relax := by
  cases reading <;> exact ⟨agrees.leaves, agrees.runs⟩

theorem andThen {walk : Walk α} {go : α → Walk β} {first : Reading least α input}
    {next : α → (rest : List Token) → rest.length + least ≤ input.length → Reading more β rest}
    (agrees : Agrees reader walk first)
    (later : ∀ a rest fits, Agrees reader (go a) (next a rest fits)) :
    Agrees reader (walk >>= go) (first.andThen next) := by
  cases first with
  | stuck complaint rest within =>
    refine ⟨agrees.leaves, fun taken whole => ?_⟩
    rw [EStateM.run_bind, agrees.runs taken whole]
    rfl
  | value a rest fits =>
    obtain ⟨left, outcome⟩ := Reading.andThen_value next fits
    have ends : rest <:+ input := agrees.leaves
    constructor
    · rw [left]
      exact (later a rest fits).leaves.trans ends
    · intro taken whole
      obtain ⟨front, rfl⟩ := ends
      rw [← List.append_assoc] at whole
      have start : reader.tokens.length - rest.length = (taken ++ front).length := by
        rw [whole, List.length_append, Nat.add_sub_cancel]
      rw [outcome, ← (later a rest fits).runs _ whole, EStateM.run_bind,
        agrees.runs taken (by rw [whole, List.append_assoc]), ← start]
      rfl

theorem map {walk : Walk α} {reading : Reading least α input} (agrees : Agrees reader walk reading)
    (f : α → β) : Agrees reader (walk >>= fun a => pure (f a)) (reading.map f) := by
  cases reading with
  | value a rest fits | stuck a rest fits =>
    refine ⟨agrees.leaves, fun taken whole => ?_⟩
    rw [EStateM.run_bind, agrees.runs taken whole]
    rfl

theorem peek {go : Token → Walk α} {reading : Reading least α input} {offset : Nat}
    (agrees : Agrees reader (go (reader.next (input.drop offset))) reading) :
    Agrees reader (reader.peek offset >>= go) reading :=
  agrees.of_eq fun taken whole => by rw [EStateM.run_bind, Reader.run_peek whole]

theorem current {go : Token → Walk α} {reading : Reading least α input}
    (agrees : Agrees reader (go (reader.next input)) reading) :
    Agrees reader (reader.current >>= go) reading := peek agrees

/-- A token is taken, unless none is left, before the reading goes on. -/
theorem advance (input : List Token) {go : Token → Walk α} {later : Reading least α input.tail}
    {reading : Reading more α input} (agrees : Agrees reader (go (reader.next input)) later)
    (left : reading.rest = later.rest)
    (outcome : reading.outcome reader = later.outcome reader) :
    Agrees reader (reader.advance >>= go) reading := by
  constructor
  · rw [left]
    exact agrees.leaves.trans (List.tail_suffix input)
  · intro taken whole
    have split : reader.tokens = taken ++ input.take 1 ++ input.tail := by
      rw [whole, List.append_assoc, ← List.drop_one, List.take_append_drop]
    have start : reader.tokens.length - input.tail.length = (taken ++ input.take 1).length := by
      rw [split, List.length_append, Nat.add_sub_cancel]
    rw [EStateM.run_bind, Reader.run_advance whole, start, outcome]
    exact agrees.runs _ split

theorem after {go : Token → Walk α} {t : Token} {reading : Reading least α input}
    (agrees : Agrees reader (go t) reading) :
    Agrees reader (reader.advance >>= go) (reading.after t) := by
  cases reading <;> exact advance (t :: input) agrees rfl rfl

theorem widen {go : Token → Walk α} {reading : Reading 1 α input.tail}
    {le : input.tail.length ≤ input.length}
    (agrees : Agrees reader (go (reader.next input)) reading) :
    Agrees reader (reader.advance >>= go) (reading.widen le) := by
  cases reading <;> exact advance input agrees rfl rfl

section Tokens

variable {kind : Token.Kind}

theorem run_consume_of_eq {t : Token} {taken : List Token}
    (whole : reader.tokens = taken ++ t :: input) (same : t.kind = kind) :
    (reader.consume kind).run taken.length = .ok true (reader.tokens.length - input.length) := by
  have here : (reader.next (t :: input)).kind = kind := same
  simp only [Reader.consume, EStateM.run_bind, Reader.run_current whole, if_pos here,
    Reader.run_advance whole]
  rfl

theorem run_consume_of_ne {taken : List Token} (whole : reader.tokens = taken ++ input)
    (other : kindOf input ≠ kind) :
    (reader.consume kind).run taken.length = .ok false taken.length := by
  rw [← reader.kind_next input] at other
  simp only [Reader.consume, EStateM.run_bind, Reader.run_current whole, if_neg other]
  rfl

theorem consumed {yes no : Walk α} {t : Token} {reading : Reading least α input}
    (same : t.kind = kind) (agrees : Agrees reader yes reading) :
    Agrees reader (reader.consume kind >>= fun present => if present = true then yes else no)
      (reading.after t) := by
  have agrees : Agrees reader (reader.advance >>= fun _ => yes) (reading.after t) := agrees.after
  refine agrees.of_eq fun taken whole => ?_
  rw [EStateM.run_bind, EStateM.run_bind, run_consume_of_eq whole same, Reader.run_advance whole]
  rfl

theorem unconsumed {yes no : Walk α} {reading : Reading least α input} (other : kindOf input ≠ kind)
    (agrees : Agrees reader no reading) :
    Agrees reader (reader.consume kind >>= fun present => if present = true then yes else no)
      reading := by
  refine agrees.of_eq fun taken whole => ?_
  rw [EStateM.run_bind, run_consume_of_ne whole other]
  rfl

theorem take {wanted : Token.Kind} (inside : wanted ≠ .eof) (same : kindOf input = wanted) :
    Agrees reader reader.advance (expect wanted input) := by
  cases input with
  | nil => exact absurd same.symm inside
  | cons t rest =>
    have here : t.kind = wanted := same
    rw [← bind_pure reader.advance, expect, if_pos here]
    exact .after (.done t)

theorem require {wanted : Token.Kind} (inside : wanted ≠ .eof) (input : List Token) :
    Agrees reader (reader.require wanted) (expect wanted input) := by
  refine .current ?_
  rw [reader.kind_next]
  split
  next same => exact take inside same
  next other =>
    cases input with
    | nil => exact .fail _ none
    | cons t rest =>
      have other : ¬ t.kind = wanted := other
      rw [expect, if_neg other]
      exact .fail _ (some t.location)

theorem optional (kind : Token.Kind) (inside : kind ≠ .eof) (input : List Token) :
    Agrees reader (reader.consume kind) (Gradual.optional kind input) := by
  refine .current ?_
  rw [reader.kind_next]
  cases input with
  | nil =>
    rw [kindOf, if_neg (Ne.symm inside)]
    exact .done false
  | cons t rest =>
    rw [kindOf, Gradual.optional]
    split
    · exact .relax (.after (.done true))
    · exact .done false

theorem requireEnd (a : α) (input : List Token) :
    Agrees reader (reader.require .eof >>= fun _ => pure a) ((expectEnd input).map fun _ => a) := by
  rw [Reader.require, bind_assoc]
  refine .current ?_
  cases input with
  | nil =>
    have here : (reader.next []).kind = .eof := rfl
    rw [if_pos here]
    exact advance [] (.done a) rfl rfl
  | cons t rest =>
    by_cases ends : t.kind = .eof
    · have here : (reader.next (t :: rest)).kind = .eof := ends
      rw [if_pos here, expectEnd, if_pos ends]
      exact advance (t :: rest) (.done a) rfl rfl
    · have other : (reader.next (t :: rest)).kind ≠ .eof := ends
      rw [if_neg other, expectEnd, if_neg ends]
      exact .fail _ (some t.location)

end Tokens

end Agrees

namespace Ty

variable {reader : Reader}

theorem agrees_walk (reader : Reader) (input : List Token) (budget : Nat) :
    (4 * input.length + 1 ≤ budget →
        Agrees reader (walkAtom reader budget) (readAtom input : Reading 1 (Ty ε) input)) ∧
      (4 * input.length + 2 ≤ budget →
        Agrees reader (walk reader budget) (read input : Reading 1 (Ty ε) input)) := by
  induction length : input.length using Nat.strongRecOn generalizing input budget with
  | ind n ih =>
  have atom (budget : Nat) (enough : 4 * n + 1 ≤ budget) :
      Agrees reader (walkAtom reader budget) (readAtom input : Reading 1 (Ty ε) input) := by
    obtain ⟨budget, rfl⟩ := Nat.exists_eq_add_of_le' (by omega : 1 ≤ budget)
    rw [walkAtom, readAtom.eq_def]
    refine .current ?_
    cases input with
    | nil =>
      refine .unconsumed (by simp [kindOf]) (.unconsumed (by simp [kindOf]) ?_)
      exact .unconsumed (by simp [kindOf]) (.unconsumed (by simp [kindOf]) (.fail _ none))
    | cons t rest =>
      simp only [List.length_cons] at length
      have inner := (ih rest.length (by omega) rest budget rfl).2 (by omega)
      simp only
      split
      next kind =>
        exact .consumed kind (inner.andThen fun _ left _ => (Agrees.require (by decide) left).map _)
      next kind => exact .unconsumed (by simp [kindOf, kind]) (.consumed kind (.done _))
      next kind =>
        refine .unconsumed (by simp [kindOf, kind]) (.unconsumed (by simp [kindOf, kind]) ?_)
        exact .consumed kind (.done _)
      next kind =>
        refine .unconsumed (by simp [kindOf, kind]) (.unconsumed (by simp [kindOf, kind]) ?_)
        exact .unconsumed (by simp [kindOf, kind]) (.consumed kind (.done _))
      next noParen noInt noBool noQuestion =>
        refine .unconsumed noParen (.unconsumed noInt ?_)
        exact .unconsumed noBool (.unconsumed noQuestion (.fail _ (some t.location)))
  refine ⟨atom budget, fun enough => ?_⟩
  obtain ⟨budget, rfl⟩ := Nat.exists_eq_add_of_le' (by omega : 1 ≤ budget)
  rw [walk, read]
  refine (atom budget (by omega)).andThen fun dom rest fits => ?_
  cases rest with
  | nil => exact .unconsumed (by simp [kindOf]) (.done dom)
  | cons t rest =>
    simp only [List.length_cons] at fits
    have later := (ih rest.length (by omega) rest budget rfl).2 (by omega)
    by_cases mark : t.kind = .arrow
    · simp only [if_pos mark]
      exact .relax (.consumed mark (later.map _))
    · simp only [if_neg mark]
      exact .unconsumed mark (.done dom)

theorem agrees_walkOnly {input : List Token} {budget : Nat} (enough : 4 * input.length + 2 ≤ budget) :
    Agrees reader (walkOnly reader budget) (readOnly input : Reading 1 (Ty ε) input) :=
  ((agrees_walk reader input budget).2 enough).andThen fun type rest _ => .requireEnd type rest

theorem agrees_walkBinding {input : List Token} {budget : Nat}
    (enough : 4 * input.length + 2 ≤ budget) :
    Agrees reader (walkBinding reader budget) (readBinding input : Reading 1 (String × Ty ε) input) :=
  (Agrees.require (by decide) input).andThen fun _ rest _ =>
    (Agrees.require (by decide) rest).andThen fun _ left _ => (agrees_walkOnly (by omega)).map _

end Ty

namespace Expr

variable {reader : Reader}

theorem agrees_walkBinder {input : List Token} {budget : Nat} (enough : 4 * input.length ≤ budget) :
    Agrees reader (walkBinder reader budget)
      (readBinder input : Reading 1 (String × Option (Ty ε)) input) := by
  rw [walkBinder, readBinder]
  refine .current (.peek ?_)
  rw [reader.kind_next, Reader.kind_next_drop]
  split
  next opening =>
    refine (Agrees.take (by decide) opening.1).andThen fun _ rest fits => ?_
    refine (Agrees.require (by decide) rest).andThen fun name rest fits' => ?_
    refine (Agrees.require (by decide) rest).andThen fun _ rest fits'' => ?_
    refine ((Ty.agrees_walk reader rest budget).2 (by omega)).andThen fun type rest _ => ?_
    exact (Agrees.require (by decide) rest).map _
  next =>
    refine (Agrees.require (by decide) input).andThen fun name rest fits => ?_
    cases rest with
    | nil => exact .unconsumed (by simp [kindOf]) (.done _)
    | cons t rest =>
      simp only [List.length_cons] at fits
      by_cases colon : t.kind = .colon
      · simp only [if_pos colon]
        exact .relax (.consumed colon (((Ty.agrees_walk reader rest budget).1 (by omega)).map _))
      · simp only [if_neg colon]
        exact .unconsumed colon (.done _)

theorem agrees_walkBodyMark (input : List Token) :
    Agrees reader (walkBodyMark reader) (readBodyMark input) := by
  refine .current ?_
  rw [readBodyMark]
  split
  next arrow =>
    cases input with
    | nil => cases arrow
    | cons t rest =>
      have arrow : t.kind = .arrow := arrow
      rw [expect, if_pos arrow]
      exact .consumed arrow (.done t)
  next other => exact .unconsumed other (.require (by decide) input)

theorem agrees_walkNumber (t : Token) (rest : List Token) :
    Agrees reader (walkNumber reader) (readNumber t rest : Reading 1 (Expr ε) (t :: rest)) := by
  refine .current ?_
  have here : (reader.next (t :: rest)).text = t.text := rfl
  rw [here, readNumber]
  split
  next =>
    split
    next => exact .after (.done _)
    next =>
      have complains : Agrees reader (throw (some (.numberTooLong t.text.length)))
          (.stuck (.numberTooLong t.text.length) rest (Nat.le_refl _) : Reading 1 (Expr ε) rest) :=
        .stuck (.numberTooLong t.text.length)
      exact .advance (t :: rest) complains rfl rfl
  next => exact .fail _ (some t.location)

/-- The walks agree with the readers of expressions on `input` if their budget is large enough. -/
structure AllAgree (ε : Type) (reader : Reader) (input : List Token) (budget : Nat) : Prop where
  atom : 4 * input.length + 1 ≤ budget →
    Agrees reader (walkAtom reader budget) (readAtom input : Reading 1 (Expr ε) input)
  moreApplication : ∀ f : Expr ε, 4 * input.length + 2 ≤ budget →
    Agrees reader (walkMoreApplication reader budget f) (readMoreApplication f input)
  application : 4 * input.length + 2 ≤ budget →
    Agrees reader (walkApplication reader budget) (readApplication input : Reading 1 (Expr ε) input)
  moreSum : ∀ l : Expr ε, 4 * input.length + 1 ≤ budget →
    Agrees reader (walkMoreSum reader budget l) (readMoreSum l input)
  sum : 4 * input.length + 3 ≤ budget →
    Agrees reader (walkSum reader budget) (readSum input : Reading 1 (Expr ε) input)
  lambda : 4 * input.length + 1 ≤ budget →
    Agrees reader (walkLambda reader budget) (readLambda input : Reading 1 (Expr ε) input)
  expr : 4 * input.length + 4 ≤ budget →
    Agrees reader (walk reader budget) (read input : Reading 1 (Expr ε) input)

-- Each walk spends one call of its budget and goes on with what is left. Where the next call is for
-- as many tokens it needs less, and where it is for fewer tokens it may need more, but four calls are
-- free for every token.
section Below

variable {input : List Token} {budget : Nat}
  (below : ∀ shorter : List Token, shorter.length < input.length →
    ∀ budget, AllAgree ε reader shorter budget)
include below

theorem agrees_walkAtom (enough : 4 * input.length + 1 ≤ budget) :
    Agrees reader (walkAtom reader budget) (readAtom input : Reading 1 (Expr ε) input) := by
  obtain ⟨budget, rfl⟩ := Nat.exists_eq_add_of_le' (by omega : 1 ≤ budget)
  rw [walkAtom, readAtom.eq_def]
  refine .current ?_
  cases input with
  | nil =>
    refine .unconsumed (by simp [kindOf]) ?_
    rw [if_neg (by simp [kindOf]), if_neg (by simp [kindOf])]
    exact .unconsumed (by simp [kindOf]) (.unconsumed (by simp [kindOf]) (.fail _ none))
  | cons t rest =>
    simp only [List.length_cons] at enough below
    have inner := (below rest (by omega) budget).expr (by omega)
    have here : kindOf (t :: rest) = t.kind := rfl
    simp only [reader.kind_next, here]
    by_cases paren : t.kind = .lparen
    · simp only [paren]
      exact .consumed paren (inner.andThen fun _ left _ => (Agrees.require (by decide) left).map _)
    refine .unconsumed paren ?_
    by_cases name : t.kind = .ident
    · simp only [name, if_true]
      exact .after (.done _)
    rw [if_neg name]
    by_cases number : t.kind = .number
    · simp only [number, if_true]
      exact agrees_walkNumber t rest
    rw [if_neg number]
    by_cases tru : t.kind = .tru
    · simp only [tru]
      exact .consumed tru (.done _)
    refine .unconsumed tru ?_
    by_cases fls : t.kind = .fls
    · simp only [fls]
      exact .consumed fls (.done _)
    refine .unconsumed fls ?_
    split
    next kind => exact absurd kind paren
    next kind => exact absurd kind name
    next kind => exact absurd kind number
    next kind => exact absurd kind tru
    next kind => exact absurd kind fls
    next => exact .fail _ (some t.location)

theorem agrees_walkMoreApplication (f : Expr ε) (enough : 4 * input.length + 2 ≤ budget) :
    Agrees reader (walkMoreApplication reader budget f) (readMoreApplication f input) := by
  obtain ⟨budget, rfl⟩ := Nat.exists_eq_add_of_le' (by omega : 1 ≤ budget)
  rw [walkMoreApplication, readMoreApplication]
  refine .current ?_
  rw [reader.kind_next]
  split
  · refine .relax ((agrees_walkAtom below (by omega)).andThen fun arg rest fits => ?_)
    exact (below rest (by omega) budget).moreApplication (.app f arg) (by omega)
  · exact .done f

theorem agrees_walkApplication (enough : 4 * input.length + 2 ≤ budget) :
    Agrees reader (walkApplication reader budget)
      (readApplication input : Reading 1 (Expr ε) input) := by
  obtain ⟨budget, rfl⟩ := Nat.exists_eq_add_of_le' (by omega : 1 ≤ budget)
  rw [walkApplication, readApplication]
  refine (agrees_walkAtom below (by omega)).andThen fun f rest fits => ?_
  exact (below rest (by omega) budget).moreApplication f (by omega)

theorem agrees_walkMoreSum (l : Expr ε) (enough : 4 * input.length + 1 ≤ budget) :
    Agrees reader (walkMoreSum reader budget l) (readMoreSum l input) := by
  obtain ⟨budget, rfl⟩ := Nat.exists_eq_add_of_le' (by omega : 1 ≤ budget)
  rw [walkMoreSum, readMoreSum.eq_def]
  cases input with
  | nil => exact .unconsumed (by simp [kindOf]) (.done l)
  | cons t rest =>
    simp only [List.length_cons] at enough below
    have readers := below rest (by omega) budget
    have further (r : Expr ε) (left : List Token) (fits : left.length + 1 ≤ rest.length) :=
      (below left (by omega) budget).moreSum (.add l r) (by omega)
    by_cases plus : t.kind = .plus
    · simp only [if_pos plus]
      split
      next begins =>
        refine .relax (.consumed plus (.current ?_))
        rw [reader.kind_next, if_pos begins]
        exact (readers.lambda (by omega)).andThen further
      next begins =>
        refine .relax (.consumed plus (.current ?_))
        rw [reader.kind_next, if_neg begins]
        exact (readers.application (by omega)).andThen further
    · simp only [if_neg plus]
      exact .unconsumed plus (.done l)

theorem agrees_walkSum (enough : 4 * input.length + 3 ≤ budget) :
    Agrees reader (walkSum reader budget) (readSum input : Reading 1 (Expr ε) input) := by
  obtain ⟨budget, rfl⟩ := Nat.exists_eq_add_of_le' (by omega : 1 ≤ budget)
  rw [walkSum, readSum]
  refine (agrees_walkApplication below (by omega)).andThen fun l rest fits => ?_
  exact (below rest (by omega) budget).moreSum l (by omega)

theorem agrees_walkLambda (enough : 4 * input.length + 1 ≤ budget) :
    Agrees reader (walkLambda reader budget) (readLambda input : Reading 1 (Expr ε) input) := by
  obtain ⟨budget, rfl⟩ := Nat.exists_eq_add_of_le' (by omega : 1 ≤ budget)
  have shorter : input.tail.length ≤ input.length := by simp
  rw [walkLambda, readLambda]
  refine .widen ((agrees_walkBinder (by omega)).andThen fun binder rest fits => ?_)
  refine (agrees_walkBodyMark rest).andThen fun _ left fits' => ?_
  exact ((below left (by omega) budget).expr (by omega)).map _

theorem agrees_walk (enough : 4 * input.length + 4 ≤ budget) :
    Agrees reader (walk reader budget) (read input : Reading 1 (Expr ε) input) := by
  obtain ⟨budget, rfl⟩ := Nat.exists_eq_add_of_le' (by omega : 1 ≤ budget)
  rw [walk, read]
  refine .current ?_
  rw [reader.kind_next]
  split
  · exact agrees_walkLambda below (by omega)
  · exact agrees_walkSum below (by omega)

end Below

theorem walks_agree (reader : Reader) (input : List Token) (budget : Nat) :
    AllAgree ε reader input budget := by
  induction length : input.length using Nat.strongRecOn generalizing input budget with
  | ind n ih =>
  have below : ∀ shorter : List Token, shorter.length < input.length →
      ∀ budget, AllAgree ε reader shorter budget :=
    fun shorter less budget => ih _ (length ▸ less) shorter budget rfl
  exact {
    atom := agrees_walkAtom below
    moreApplication := agrees_walkMoreApplication below
    application := agrees_walkApplication below
    moreSum := agrees_walkMoreSum below
    sum := agrees_walkSum below
    lambda := agrees_walkLambda below
    expr := agrees_walk below }

theorem agrees_walkProgram {input : List Token} {budget : Nat}
    (enough : 4 * input.length + 5 ≤ budget) :
    Agrees reader (walkProgram reader budget)
      (readProgram input : Reading 0 (List (Expr ε)) input) := by
  induction length : input.length using Nat.strongRecOn generalizing input budget with
  | ind n ih =>
  obtain ⟨budget, rfl⟩ := Nat.exists_eq_add_of_le' (by omega : 1 ≤ budget)
  rw [walkProgram, readProgram.eq_def]
  refine .current ?_
  cases input with
  | nil => exact .done []
  | cons t rest =>
    have here : kindOf (t :: rest) = t.kind := rfl
    simp only [reader.kind_next, here]
    by_cases ends : t.kind = .eof
    · rw [if_pos ends, if_pos ends]
      exact .done []
    rw [if_neg ends, if_neg ends]
    by_cases mark : t.kind = .semisemi
    · rw [if_pos mark]
      simp only [List.length_cons] at length enough
      exact .relax (.consumed mark (ih rest.length (by omega) (by omega) rfl))
    rw [if_neg mark]
    have expr := (walks_agree (ε := ε) reader (t :: rest) budget).expr (by omega)
    refine .unconsumed mark (.relax (expr.andThen fun e left fits => .current ?_))
    rw [reader.kind_next]
    split
    · exact .done [e]
    · refine .relax ((Agrees.require (by decide) left).andThen fun _ later fits' => ?_)
      exact (ih later.length (by omega) (by omega) rfl).map _

theorem agrees_walkOnly {input : List Token} {budget : Nat} (enough : 4 * input.length + 4 ≤ budget) :
    Agrees reader (walkOnly reader budget) (readOnly input : Reading 1 (Expr ε) input) :=
  ((walks_agree reader input budget).expr enough).andThen fun e rest _ =>
    (Agrees.optional .semisemi (by decide) rest).andThen fun _ left _ => .requireEnd e left

end Expr

theorem Production.agrees_walk (production : Production) (reader : Reader) {input : List Token}
    {budget : Nat} (enough : 4 * input.length + 5 ≤ budget) :
    Agrees reader (production.walk reader budget)
      (production.read input : Reading 0 (Phrase ε) input) := by
  have exprs := Expr.walks_agree (ε := ε) reader input budget
  have types := Ty.agrees_walk (ε := ε) reader input budget
  cases production with
  | program => exact (Expr.agrees_walkProgram enough).map _
  | onlyExpr => exact .relax ((Expr.agrees_walkOnly (by omega)).map _)
  | expr => exact .relax ((exprs.expr (by omega)).map _)
  | lambda => exact .relax ((exprs.lambda (by omega)).map _)
  | binder => exact .relax ((Expr.agrees_walkBinder (by omega)).map _)
  | sum => exact .relax ((exprs.sum (by omega)).map _)
  | application => exact .relax ((exprs.application (by omega)).map _)
  | atom => exact .relax ((exprs.atom (by omega)).map _)
  | type => exact .relax ((types.2 (by omega)).map _)
  | atomType => exact .relax ((types.1 (by omega)).map _)
  | onlyType => exact .relax ((Ty.agrees_walkOnly (by omega)).map _)
  | binding => exact .relax ((Ty.agrees_walkBinding (by omega)).map _)
  | atEnd =>
    refine .current ?_
    rw [reader.kind_next]
    exact .done _

namespace Reader

/-- With enough of a budget a walk ends, and it comes to what the reader answers and to the position
where the reader is then. -/
theorem call_eq_ask {reader : Reader} (stands : reader.rest <:+ reader.tokens) {budget : Nat}
    (enough : 4 * reader.rest.length + 5 ≤ budget) (production : Production) :
    reader.call budget production =
      some ((reader.ask production : Except ReadError (Phrase ε) × Reader).1,
        (reader.ask production : Except ReadError (Phrase ε) × Reader).2.position) := by
  obtain ⟨taken, same⟩ := stands
  have runs := (production.agrees_walk (ε := ε) reader enough).runs taken same.symm
  rw [call, position_of_append same.symm, runs, ask]
  cases (production.read reader.rest : Reading 0 (Phrase ε) reader.rest) <;> rfl

end Reader

end Gradual
