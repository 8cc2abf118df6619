import Gradual.Proofs.Grammar
import Gradual.Proofs.Reading

/-! The readers follow the grammar. In one direction, a phrase is read whole as the tree it derives,
provided that what follows cannot extend it. In the other, what a reader has taken is a phrase of
the tree it returns. -/
namespace Gradual

variable {ε : Type}

/-- What stands before `rest` in `input` satisfies `phrase`. -/
def Before (input rest : List Token) (phrase : List Word → Prop) : Prop :=
  ∃ tokens, input = tokens ++ rest ∧ phrase (tokens.map Token.word)

namespace Before

variable {input middle rest : List Token} {first phrase : List Word → Prop}

theorem nil (empty : phrase []) : Before rest rest phrase := ⟨[], rfl, empty⟩

theorem prepend (tokens : List Token)
    (before : Before input rest fun ws => phrase (tokens.map Token.word ++ ws)) :
    Before (tokens ++ input) rest phrase := by
  obtain ⟨more, rfl, holds⟩ := before
  exact ⟨tokens ++ more, by simp, by simpa using holds⟩

theorem cons (t : Token) (before : Before input rest fun ws => phrase (t.word :: ws)) :
    Before (t :: input) rest phrase :=
  prepend [t] before

theorem append (front : Before input middle first)
    (back : ∀ ws, first ws → Before middle rest fun us => phrase (ws ++ us)) :
    Before input rest phrase := by
  obtain ⟨tokens, rfl, holds⟩ := front
  exact prepend tokens (back _ holds)

theorem mono (before : Before input rest first) (weaken : ∀ ws, first ws → phrase ws) :
    Before input rest phrase := by
  obtain ⟨tokens, rfl, holds⟩ := before
  exact ⟨tokens, rfl, weaken _ holds⟩

end Before

theorem kindOf_append {tokens : List Token} {w : Word} {ws : List Word}
    (words : tokens.map Token.word = w :: ws) (rest : List Token) :
    kindOf (tokens ++ rest) = w.kind := by
  obtain ⟨t, ts, rfl, rfl, -⟩ := List.map_eq_cons_iff.mp words
  rfl

namespace Ty

/-- The reader of a phrase returns its type; for a whole type, unless an arrow follows. -/
def Recognised : Nonterminal → List Word → Ty ε → Prop
  | .atom, ws, t => ∀ tokens rest, tokens.map Token.word = ws →
      (readAtom (tokens ++ rest)).value? = some (t, rest)
  | .type, ws, t => ∀ tokens rest, tokens.map Token.word = ws → kindOf rest ≠ .arrow →
      (read (tokens ++ rest)).value? = some (t, rest)

theorem Derives.recognised {n : Nonterminal} {ws : List Word} {t : Ty ε}
    (derives : Derives n ws t) : Recognised n ws t := by
  induction derives with
  | int kind | bool kind | dyn kind =>
    intro tokens rest words
    obtain ⟨t, rfl, rfl⟩ := List.map_eq_singleton_iff.mp words
    rw [Token.kind_word] at kind
    simp [readAtom, kind]
  | paren opening inner closing ih =>
    intro tokens rest words
    obtain ⟨l, _, rfl, rfl, later⟩ := List.map_eq_cons_iff.mp words
    obtain ⟨ts, _, rfl, rfl, last⟩ := List.map_eq_append_iff.mp later
    obtain ⟨r, rfl, rfl⟩ := List.map_eq_singleton_iff.mp last
    rw [Token.kind_word] at opening closing
    have inside := ih ts (r :: rest) rfl (by simp [kindOf, closing])
    have split : l :: (ts ++ [r]) ++ rest = l :: (ts ++ r :: rest) := by simp
    rw [split]
    simp only [readAtom, opening, Reading.value?_after]
    exact Reading.value?_closed.mpr ⟨_, r, inside, closing, rfl⟩
  | ofAtom atom ih =>
    intro tokens rest words stops
    rw [read]
    refine Reading.value?_andThen (ih tokens rest words) fun _ => ?_
    cases rest with
    | nil => simp
    | cons next rest => simp [show next.kind ≠ .arrow from stops]
  | arrow dom mark cod domIH codIH =>
    intro tokens rest words stops
    obtain ⟨ts, _, rfl, domWords, later⟩ := List.map_eq_append_iff.mp words
    obtain ⟨a, us, rfl, rfl, codWords⟩ := List.map_eq_cons_iff.mp later
    rw [Token.kind_word] at mark
    rw [read, List.append_assoc, List.cons_append]
    refine Reading.value?_andThen (domIH ts _ domWords) fun _ => ?_
    simp [mark, codIH us rest codWords stops]

/-- What the readers of types have taken is a phrase; no arrow follows a whole type. -/
theorem derives_of_read (input : List Token) :
    (∀ (t : Ty ε) rest, (readAtom input).value? = some (t, rest) →
      Before input rest (Derives .atom · t)) ∧
    (∀ (t : Ty ε) rest, (read input).value? = some (t, rest) →
      Before input rest (Derives .type · t) ∧ kindOf rest ≠ .arrow) := by
  induction length : input.length using Nat.strongRecOn generalizing input with
  | ind n ih =>
  have atoms : ∀ (t : Ty ε) rest, (readAtom input).value? = some (t, rest) →
      Before input rest (Derives .atom · t) := by
    intro t rest found
    cases input with
    | nil => simp [readAtom] at found
    | cons first tokens =>
      cases kind : first.kind with
      | lparen =>
        simp only [readAtom, kind, Reading.value?_after] at found
        obtain ⟨_, r, inside, closing, rfl⟩ := Reading.value?_closed.mp found
        have inner := ((ih _ (by simp [← length]) tokens rfl).2 _ _ inside).1
        exact .cons first (inner.append fun ws type => .cons r (.nil (.paren kind type closing)))
      | int =>
        simp only [readAtom, kind, Reading.value?_after, Reading.value?_done] at found
        cases found
        exact .cons first (.nil (.int kind))
      | bool =>
        simp only [readAtom, kind, Reading.value?_after, Reading.value?_done] at found
        cases found
        exact .cons first (.nil (.bool kind))
      | question =>
        simp only [readAtom, kind, Reading.value?_after, Reading.value?_done] at found
        cases found
        exact .cons first (.nil (.dyn kind))
      | _ => simp [readAtom, kind] at found
  refine ⟨atoms, ?_⟩
  intro t rest found
  rw [read] at found
  obtain ⟨dom, left, taken, front, later⟩ := Reading.exists_of_andThen found
  have atom := atoms dom left front
  cases left with
  | nil =>
    cases later
    exact ⟨atom.mono fun _ => .ofAtom, by simp [kindOf]⟩
  | cons next left =>
    by_cases mark : next.kind = .arrow
    · simp only [if_pos mark, Reading.value?_relax, Reading.value?_after] at later
      obtain ⟨cod, inside, rfl⟩ := Reading.exists_of_map later
      have below : left.length < n := by simp only [List.length_cons] at taken; omega
      obtain ⟨inner, stops⟩ := (ih _ below left rfl).2 _ _ inside
      exact ⟨atom.append fun _ atom => .cons next (inner.mono fun _ => .arrow atom mark), stops⟩
    · simp only [if_neg mark, Reading.value?_done] at later
      cases later
      exact ⟨atom.mono fun _ => .ofAtom, mark⟩

end Ty

namespace Expr

theorem Derives.begins_kindOf {n : Nonterminal} {tokens : List Token} {ws : List Word} {e : Expr ε}
    (derives : Derives n ws e) (words : tokens.map Token.word = ws) (rest : List Token) :
    n.Begins (kindOf (tokens ++ rest)) := by
  obtain ⟨w, us, rfl, begins⟩ := derives.begins
  rwa [kindOf_append words]

theorem beginsLambda_of_beginsAtom {kind : Token.Kind} (begins : kind.beginsAtom = true) :
    kind.beginsLambda = false := by
  cases kind <;> simp [Token.Kind.beginsAtom, Token.Kind.beginsLambda] at *

/-- The tokens go on neither an application nor a sum. -/
def Stops (rest : List Token) : Prop := (kindOf rest).beginsAtom = false ∧ kindOf rest ≠ .plus

theorem stops_of_kindOf_eof {rest : List Token} (ends : kindOf rest = .eof) : Stops rest := by
  simp [Stops, ends, Token.Kind.beginsAtom]

theorem stops_nil : Stops [] := stops_of_kindOf_eof rfl

theorem Binder.recognised {ws : List Word} {x : String} {declared : Option (Ty ε)}
    (binder : Binder ws x declared) {tokens rest : List Token}
    (words : tokens.map Token.word = ws) (stops : kindOf rest ≠ .colon) :
    (readBinder (tokens ++ rest)).value? = some ((x, declared), rest) := by
  cases binder with
  | plain name =>
    obtain ⟨t, rfl, rfl⟩ := List.map_eq_singleton_iff.mp words
    rw [Token.kind_word] at name
    rw [List.singleton_append, readBinder, if_neg (by simp [kindOf, name])]
    refine Reading.value?_andThen (value?_expect_eq_some.mpr ⟨rfl, name⟩) fun _ => ?_
    cases rest with
    | nil => simp
    | cons next rest => simp [show next.kind ≠ .colon from stops]
  | declared name colon type =>
    obtain ⟨t, _, rfl, rfl, later⟩ := List.map_eq_cons_iff.mp words
    obtain ⟨c, ts, rfl, rfl, typeWords⟩ := List.map_eq_cons_iff.mp later
    rw [Token.kind_word] at name colon
    rw [List.cons_append, List.cons_append, readBinder, if_neg (by simp [kindOf, name])]
    refine Reading.value?_andThen (value?_expect_eq_some.mpr ⟨rfl, name⟩) fun _ => ?_
    simp [colon, type.recognised ts rest typeWords]
  | paren opening name colon type closing =>
    obtain ⟨l, _, rfl, rfl, later⟩ := List.map_eq_cons_iff.mp words
    obtain ⟨t, _, rfl, rfl, typed⟩ := List.map_eq_cons_iff.mp later
    obtain ⟨c, _, rfl, rfl, closed⟩ := List.map_eq_cons_iff.mp typed
    obtain ⟨ts, _, rfl, rfl, last⟩ := List.map_eq_append_iff.mp closed
    obtain ⟨r, rfl, rfl⟩ := List.map_eq_singleton_iff.mp last
    rw [Token.kind_word] at opening name colon closing
    have inside := type.recognised ts (r :: rest) rfl (by simp [kindOf, closing])
    have split : l :: t :: c :: (ts ++ [r]) ++ rest = l :: t :: c :: (ts ++ r :: rest) := by simp
    rw [split, readBinder, if_pos (by simp [kindOf, kindOfThird, opening, colon])]
    refine Reading.value?_andThen (value?_expect_eq_some.mpr ⟨rfl, opening⟩) fun _ => ?_
    refine Reading.value?_andThen (value?_expect_eq_some.mpr ⟨rfl, name⟩) fun _ => ?_
    refine Reading.value?_andThen (value?_expect_eq_some.mpr ⟨rfl, colon⟩) fun _ => ?_
    exact Reading.value?_closed.mpr ⟨_, r, inside, closing, rfl⟩

theorem value?_readBodyMark {t : Token} (rest : List Token) (mark : t.kind = .arrow ∨ t.kind = .dot) :
    (readBodyMark (t :: rest)).value? = some (t, rest) := by
  obtain arrow | dot := mark
  · simp [readBodyMark, kindOf, arrow]
  · simp [readBodyMark, kindOf, dot]

theorem value?_readMoreApplication_done (f : Expr ε) {rest : List Token}
    (stops : (kindOf rest).beginsAtom = false) :
    (readMoreApplication f rest).value? = some (f, rest) := by
  rw [readMoreApplication, if_neg (by simp [stops])]
  rfl

theorem value?_readMoreSum_done (e : Expr ε) {rest : List Token} (stops : kindOf rest ≠ .plus) :
    (readMoreSum e rest).value? = some (e, rest) := by
  cases rest with
  | nil => simp [readMoreSum.eq_def]
  | cons next rest => simp [readMoreSum.eq_def, show next.kind ≠ .plus from stops]

/-- The reader of a phrase returns its tree if nothing follows that extends the phrase. On a phrase
that can be the left part of a longer one, it goes on from the tree of that phrase. -/
def Recognised : Nonterminal → List Word → Expr ε → Prop
  | .atom, ws, e => ∀ tokens rest, tokens.map Token.word = ws →
      (readAtom (tokens ++ rest)).value? = some (e, rest)
  | .application, ws, e => ∀ tokens rest final left, tokens.map Token.word = ws →
      (readMoreApplication e rest).value? = some (final, left) →
      (readApplication (tokens ++ rest)).value? = some (final, left)
  | .terms, ws, e => ∀ tokens rest final left, tokens.map Token.word = ws →
      (kindOf rest).beginsAtom = false → (readMoreSum e rest).value? = some (final, left) →
      (readSum (tokens ++ rest)).value? = some (final, left)
  | .sum, ws, e => ∀ tokens rest, tokens.map Token.word = ws → Stops rest →
      (readSum (tokens ++ rest)).value? = some (e, rest)
  | .lambda, ws, e => ∀ tokens rest, tokens.map Token.word = ws → Stops rest →
      (readLambda (tokens ++ rest)).value? = some (e, rest)
  | .expr, ws, e => ∀ tokens rest, tokens.map Token.word = ws → Stops rest →
      (read (tokens ++ rest)).value? = some (e, rest)

theorem Derives.recognised {n : Nonterminal} {ws : List Word} {e : Expr ε}
    (derives : Derives n ws e) : Recognised n ws e := by
  induction derives with
  | ofLambda lambda ih =>
    intro tokens rest words stops
    have begins : (kindOf (tokens ++ rest)).beginsLambda = true := lambda.begins_kindOf words rest
    rw [read, if_pos begins]
    exact ih tokens rest words stops
  | ofSum sum ih =>
    intro tokens rest words stops
    have begins := beginsLambda_of_beginsAtom (sum.begins_kindOf words rest)
    rw [read, if_neg (by simp [begins])]
    exact ih tokens rest words stops
  | lambda mark binder dot body ih =>
    intro tokens rest words stops
    obtain ⟨w, _, rfl, rfl, later⟩ := List.map_eq_cons_iff.mp words
    obtain ⟨bs, _, rfl, binderWords, later⟩ := List.map_eq_append_iff.mp later
    obtain ⟨d, ts, rfl, rfl, bodyWords⟩ := List.map_eq_cons_iff.mp later
    rw [Token.kind_word] at dot
    have split : w :: (bs ++ d :: ts) ++ rest = w :: (bs ++ d :: (ts ++ rest)) := by simp
    have stopsBinder : kindOf (d :: (ts ++ rest)) ≠ .colon := by
      obtain arrow | dot := dot <;> simp [kindOf, *]
    rw [split, readLambda, Reading.value?_widen, List.tail_cons]
    refine Reading.value?_andThen (binder.recognised binderWords stopsBinder) fun _ => ?_
    refine Reading.value?_andThen (value?_readBodyMark _ dot) fun _ => ?_
    simp [ih ts rest bodyWords stops]
  | ofTerms terms ih =>
    intro tokens rest words stops
    exact ih tokens rest _ _ words stops.1 (value?_readMoreSum_done _ stops.2)
  | addLambda left plus right leftIH rightIH =>
    intro tokens rest words stops
    obtain ⟨ts, _, rfl, leftWords, later⟩ := List.map_eq_append_iff.mp words
    obtain ⟨p, us, rfl, rfl, rightWords⟩ := List.map_eq_cons_iff.mp later
    rw [Token.kind_word] at plus
    rw [List.append_assoc, List.cons_append]
    refine leftIH ts _ _ _ leftWords (by simp [kindOf, plus, Token.Kind.beginsAtom]) ?_
    have begins : (kindOf (us ++ rest)).beginsLambda = true := right.begins_kindOf rightWords rest
    rw [readMoreSum.eq_def]
    simp only [if_pos plus, if_pos begins, Reading.value?_relax, Reading.value?_after]
    exact Reading.value?_andThen (rightIH us rest rightWords stops) fun _ =>
      value?_readMoreSum_done _ stops.2
  | ofApplication application ih =>
    intro tokens rest final last words stops more
    rw [readSum]
    exact Reading.value?_andThen
      (ih tokens rest _ _ words (value?_readMoreApplication_done _ stops)) fun _ => more
  | add left plus right leftIH rightIH =>
    intro tokens rest final last words stops more
    obtain ⟨ts, _, rfl, leftWords, later⟩ := List.map_eq_append_iff.mp words
    obtain ⟨p, us, rfl, rfl, rightWords⟩ := List.map_eq_cons_iff.mp later
    rw [Token.kind_word] at plus
    rw [List.append_assoc, List.cons_append]
    -- The left part is read first; it goes on with this operand, and then with what `more` says.
    refine leftIH ts _ _ _ leftWords (by simp [kindOf, plus, Token.Kind.beginsAtom]) ?_
    have begins := beginsLambda_of_beginsAtom (right.begins_kindOf rightWords rest)
    rw [readMoreSum.eq_def]
    simp only [if_pos plus, begins, Bool.false_eq_true, if_false, Reading.value?_relax,
      Reading.value?_after]
    exact Reading.value?_andThen
      (rightIH us rest _ _ rightWords (value?_readMoreApplication_done _ stops)) fun _ => more
  | ofAtom atom ih =>
    intro tokens rest final last words more
    rw [readApplication]
    exact Reading.value?_andThen (ih tokens rest words) fun _ => more
  | app func argument funcIH argumentIH =>
    intro tokens rest final last words more
    obtain ⟨ts, us, rfl, funcWords, argumentWords⟩ := List.map_eq_append_iff.mp words
    rw [List.append_assoc]
    refine funcIH ts _ _ _ funcWords ?_
    have begins : (kindOf (us ++ rest)).beginsAtom = true :=
      argument.begins_kindOf argumentWords rest
    rw [readMoreApplication, if_pos begins, Reading.value?_relax]
    exact Reading.value?_andThen (argumentIH us rest argumentWords) fun _ => more
  | var kind | tru kind | fls kind =>
    intro tokens rest words
    obtain ⟨t, rfl, rfl⟩ := List.map_eq_singleton_iff.mp words
    rw [Token.kind_word] at kind
    simp [readAtom.eq_def, kind]
  | int kind numeral short =>
    intro tokens rest words
    obtain ⟨t, rfl, rfl⟩ := List.map_eq_singleton_iff.mp words
    rw [Token.kind_word] at kind
    rw [Token.text_word] at numeral short
    simp [readAtom.eq_def, kind, readNumber, numeral, short]
  | paren opening inner closing ih =>
    intro tokens rest words
    obtain ⟨l, _, rfl, rfl, later⟩ := List.map_eq_cons_iff.mp words
    obtain ⟨ts, _, rfl, rfl, last⟩ := List.map_eq_append_iff.mp later
    obtain ⟨r, rfl, rfl⟩ := List.map_eq_singleton_iff.mp last
    rw [Token.kind_word] at opening closing
    have stops : Stops (r :: rest) := by simp [Stops, kindOf, closing, Token.Kind.beginsAtom]
    have split : l :: (ts ++ [r]) ++ rest = l :: (ts ++ r :: rest) := by simp
    rw [split, readAtom.eq_def]
    simp only [opening, Reading.value?_after]
    exact Reading.value?_closed.mpr ⟨_, r, ih ts (r :: rest) rfl stops, closing, rfl⟩

theorem binder_of_readBinder {input rest : List Token} {x : String} {declared : Option (Ty ε)}
    (found : (readBinder input).value? = some ((x, declared), rest)) :
    Before input rest (Binder · x declared) := by
  rw [readBinder] at found
  split at found
  · obtain ⟨l, _, _, opened, found⟩ := Reading.exists_of_andThen found
    obtain ⟨t, _, _, named, found⟩ := Reading.exists_of_andThen found
    obtain ⟨c, _, _, marked, found⟩ := Reading.exists_of_andThen found
    obtain ⟨type, r, inside, closing, same⟩ := Reading.value?_closed.mp found
    obtain ⟨rfl, opening⟩ := value?_expect_eq_some.mp opened
    obtain ⟨rfl, name⟩ := value?_expect_eq_some.mp named
    obtain ⟨rfl, colon⟩ := value?_expect_eq_some.mp marked
    cases same
    have inner := ((Ty.derives_of_read _).2 _ _ inside).1
    exact .cons l (.cons t (.cons c (inner.append fun _ type =>
      .cons r (.nil (.paren opening name colon type closing)))))
  · obtain ⟨t, left, _, named, later⟩ := Reading.exists_of_andThen found
    obtain ⟨rfl, name⟩ := value?_expect_eq_some.mp named
    cases left with
    | nil =>
      cases later
      exact .cons t (.nil (.plain name))
    | cons c left =>
      by_cases colon : c.kind = .colon
      · simp only [if_pos colon, Reading.value?_relax, Reading.value?_after] at later
        obtain ⟨type, inside, same⟩ := Reading.exists_of_map later
        cases same
        have inner := (Ty.derives_of_read _).1 _ _ inside
        exact .cons t (.cons c (inner.mono fun _ => .declared name colon))
      · simp only [if_neg colon, Reading.value?_done] at later
        cases later
        exact .cons t (.nil (.plain name))

theorem mark_of_readBodyMark {input rest : List Token} {t : Token}
    (found : (readBodyMark input).value? = some (t, rest)) :
    input = t :: rest ∧ (t.kind = .arrow ∨ t.kind = .dot) := by
  rw [readBodyMark] at found
  split at found
  · obtain ⟨same, arrow⟩ := value?_expect_eq_some.mp found
    exact ⟨same, .inl arrow⟩
  · obtain ⟨same, dot⟩ := value?_expect_eq_some.mp found
    exact ⟨same, .inr dot⟩

/-- What the readers of expressions take from `input` is a phrase of the tree they return, or goes on
a phrase of which the tree so far is known. They stop only where nothing extends the phrase. -/
structure Exact (ε : Type) (input : List Token) : Prop where
  atom : ∀ {e : Expr ε} {rest : List Token}, (readAtom input).value? = some (e, rest) →
    Before input rest (Derives .atom · e)
  moreApplication : ∀ {f e : Expr ε} {ws : List Word} {rest : List Token},
    Derives .application ws f → (readMoreApplication f input).value? = some (e, rest) →
    Before input rest (fun us => Derives .application (ws ++ us) e) ∧
      (kindOf rest).beginsAtom = false
  application : ∀ {e : Expr ε} {rest : List Token},
    (readApplication input).value? = some (e, rest) →
    Before input rest (Derives .application · e) ∧ (kindOf rest).beginsAtom = false
  moreSum : ∀ {l e : Expr ε} {ws : List Word} {rest : List Token}, Derives .terms ws l →
    (kindOf input).beginsAtom = false → (readMoreSum l input).value? = some (e, rest) →
    Before input rest (fun us => Derives .sum (ws ++ us) e) ∧ Stops rest
  lambda : ∀ {e : Expr ε} {rest : List Token}, (kindOf input).beginsLambda = true →
    (readLambda input).value? = some (e, rest) →
    Before input rest (Derives .lambda · e) ∧ Stops rest
  expr : ∀ {e : Expr ε} {rest : List Token}, (read input).value? = some (e, rest) →
    Before input rest (Derives .expr · e) ∧ Stops rest

-- The readers call one another on the same tokens or on fewer, so each is taken in turn while all of
-- them are exact on fewer tokens.
section Below

variable {input rest : List Token} {e : Expr ε}
  (below : ∀ shorter : List Token, shorter.length < input.length → Exact ε shorter)
include below

theorem atom_of_readAtom (found : (readAtom input).value? = some (e, rest)) :
    Before input rest (Derives .atom · e) := by
  rw [readAtom.eq_def] at found
  cases input with
  | nil => cases found
  | cons first tokens =>
    cases kind : first.kind with
    | lparen =>
      simp only [kind, Reading.value?_after] at found
      obtain ⟨_, r, inside, closing, rfl⟩ := Reading.value?_closed.mp found
      have inner := ((below tokens (by simp)).expr inside).1
      exact .cons first (inner.append fun _ inner => .cons r (.nil (.paren kind inner closing)))
    | ident =>
      simp only [kind, Reading.value?_after, Reading.value?_done] at found
      cases found
      exact .cons first (.nil (.var kind))
    | number =>
      simp only [kind, readNumber] at found
      split at found
      next numeral =>
        split at found
        next short =>
          cases found
          exact .cons first (.nil (.int kind numeral short))
        next => cases found
      next => cases found
    | tru =>
      simp only [kind, Reading.value?_after, Reading.value?_done] at found
      cases found
      exact .cons first (.nil (.tru kind))
    | fls =>
      simp only [kind, Reading.value?_after, Reading.value?_done] at found
      cases found
      exact .cons first (.nil (.fls kind))
    | _ => simp [kind] at found

theorem application_of_readMore {f : Expr ε} {ws : List Word} (func : Derives .application ws f)
    (found : (readMoreApplication f input).value? = some (e, rest)) :
    Before input rest (fun us => Derives .application (ws ++ us) e) ∧
      (kindOf rest).beginsAtom = false := by
  rw [readMoreApplication] at found
  split at found
  next begins =>
    rw [Reading.value?_relax] at found
    obtain ⟨a, left, taken, front, later⟩ := Reading.exists_of_andThen found
    obtain ⟨tokens, rfl, arg⟩ := atom_of_readAtom below front
    obtain ⟨more, stops⟩ := (below left (by omega)).moreApplication (.app func arg) later
    simp only [List.append_assoc] at more
    exact ⟨.prepend tokens more, stops⟩
  next stops =>
    cases found
    exact ⟨.nil (by simpa using func), by simpa using stops⟩

theorem application_of_read (found : (readApplication input).value? = some (e, rest)) :
    Before input rest (Derives .application · e) ∧ (kindOf rest).beginsAtom = false := by
  rw [readApplication] at found
  obtain ⟨a, left, taken, front, later⟩ := Reading.exists_of_andThen found
  obtain ⟨tokens, rfl, atom⟩ := atom_of_readAtom below front
  obtain ⟨more, stops⟩ := (below left (by omega)).moreApplication (.ofAtom atom) later
  exact ⟨.prepend tokens more, stops⟩

theorem sum_of_readMore {l : Expr ε} {ws : List Word} (terms : Derives .terms ws l)
    (begins : (kindOf input).beginsAtom = false)
    (found : (readMoreSum l input).value? = some (e, rest)) :
    Before input rest (fun us => Derives .sum (ws ++ us) e) ∧ Stops rest := by
  rw [readMoreSum.eq_def] at found
  cases input with
  | nil =>
    cases found
    exact ⟨.nil (by simpa using .ofTerms terms), stops_nil⟩
  | cons p tokens =>
    by_cases plus : p.kind = .plus
    · simp only [if_pos plus] at found
      have readers : Exact ε tokens := below tokens (by simp)
      split at found
      next lambda =>
        simp only [Reading.value?_relax, Reading.value?_after] at found
        obtain ⟨r, left, taken, front, later⟩ := Reading.exists_of_andThen found
        obtain ⟨right, stops⟩ := readers.lambda lambda front
        -- The body of the function has taken in all that could go on the sum.
        rw [value?_readMoreSum_done _ stops.2] at later
        cases later
        exact ⟨.cons p (right.mono fun _ right => .addLambda terms plus right), stops⟩
      next =>
        simp only [Reading.value?_relax, Reading.value?_after] at found
        obtain ⟨r, left, taken, front, later⟩ := Reading.exists_of_andThen found
        obtain ⟨⟨us, rfl, right⟩, stops⟩ := readers.application front
        have shorter : left.length < (p :: (us ++ left)).length := by
          simp only [List.length_cons, List.length_append]
          omega
        obtain ⟨more, stops⟩ :=
          (below left shorter).moreSum (.add (p := p.word) terms plus right) stops later
        simp only [List.append_assoc, List.cons_append] at more
        exact ⟨.cons p (.prepend us more), stops⟩
    · simp only [if_neg plus] at found
      cases found
      exact ⟨.nil (by simpa using .ofTerms terms), begins, plus⟩

theorem sum_of_read (found : (readSum input).value? = some (e, rest)) :
    Before input rest (Derives .sum · e) ∧ Stops rest := by
  rw [readSum] at found
  obtain ⟨l, left, taken, front, later⟩ := Reading.exists_of_andThen found
  obtain ⟨⟨tokens, rfl, application⟩, stops⟩ := application_of_read below front
  obtain ⟨more, stops⟩ :=
    (below left (by omega)).moreSum (.ofApplication application) stops later
  exact ⟨.prepend tokens more, stops⟩

theorem lambda_of_read (begins : (kindOf input).beginsLambda = true)
    (found : (readLambda input).value? = some (e, rest)) :
    Before input rest (Derives .lambda · e) ∧ Stops rest := by
  cases input with
  | nil => cases begins
  | cons first tokens =>
    rw [readLambda, Reading.value?_widen, List.tail_cons] at found
    obtain ⟨⟨x, declared⟩, left, taken, front, later⟩ := Reading.exists_of_andThen found
    obtain ⟨d, body, taken', marked, later⟩ := Reading.exists_of_andThen later
    obtain ⟨b, inside, rfl⟩ := Reading.exists_of_map later
    obtain ⟨rfl, dot⟩ := mark_of_readBodyMark marked
    have shorter : body.length < (first :: tokens).length := by
      simp only [List.length_cons] at taken taken' ⊢
      omega
    obtain ⟨inner, stops⟩ := (below body shorter).expr inside
    exact ⟨.cons first ((binder_of_readBinder front).append fun _ binder =>
      .cons d (inner.mono fun _ inner => .lambda begins binder dot inner)), stops⟩

theorem expr_of_read (found : (read input).value? = some (e, rest)) :
    Before input rest (Derives .expr · e) ∧ Stops rest := by
  rw [read] at found
  split at found
  next begins =>
    obtain ⟨lambda, stops⟩ := lambda_of_read below begins found
    exact ⟨lambda.mono fun _ => .ofLambda, stops⟩
  next =>
    obtain ⟨sum, stops⟩ := sum_of_read below found
    exact ⟨sum.mono fun _ => .ofSum, stops⟩

end Below

theorem readers_exact (input : List Token) : Exact ε input := by
  induction length : input.length using Nat.strongRecOn generalizing input with
  | ind n ih =>
  have below : ∀ shorter : List Token, shorter.length < input.length → Exact ε shorter :=
    fun shorter less => ih _ (length ▸ less) shorter rfl
  exact {
    atom := atom_of_readAtom below
    moreApplication := application_of_readMore below
    application := application_of_read below
    moreSum := sum_of_readMore below
    lambda := lambda_of_read below
    expr := expr_of_read below }

/-- `;;` or nothing. -/
inductive OptionalMark : List Token → Prop
  | none : OptionalMark []
  | some {t : Token} (mark : t.kind = .semisemi) : OptionalMark [t]

theorem value?_optionalMark {marks ending : List Token} (marked : OptionalMark marks)
    (ends : kindOf ending = .eof) :
    ∃ present, (optional .semisemi (marks ++ ending)).value? = some (present, ending) := by
  cases marked with
  | some mark => exact ⟨true, by simp [mark]⟩
  | none =>
    cases ending with
    | nil => exact ⟨false, rfl⟩
    | cons stop rest => exact ⟨false, by simp [show stop.kind = .eof from ends]⟩

theorem exists_optionalMark {input rest : List Token} {present : Bool}
    (found : (optional .semisemi input).value? = some (present, rest)) :
    ∃ marks, OptionalMark marks ∧ input = marks ++ rest := by
  cases input with
  | nil =>
    cases found
    exact ⟨[], .none, rfl⟩
  | cons t tokens =>
    by_cases mark : t.kind = .semisemi
    · simp only [value?_optional, if_pos mark] at found
      cases found
      exact ⟨[t], .some mark, rfl⟩
    · simp only [value?_optional, if_neg mark] at found
      cases found
      exact ⟨[], .none, rfl⟩

theorem Derives.value?_readOnly_append {ws : List Word} {e : Expr ε} (derives : Derives .expr ws e)
    {tokens marks ending : List Token} (words : tokens.map Token.word = ws)
    (marked : OptionalMark marks) (ends : kindOf ending = .eof) :
    (readOnly (tokens ++ (marks ++ ending))).value? = some (e, ending.tail) := by
  have stops : Stops (marks ++ ending) := by
    cases marked with
    | none => exact stops_of_kindOf_eof ends
    | some mark => simp [Stops, kindOf, mark, Token.Kind.beginsAtom]
  refine Reading.value?_andThen (derives.recognised tokens _ words stops) fun _ => ?_
  obtain ⟨present, found⟩ := value?_optionalMark marked ends
  refine Reading.value?_andThen found fun _ => ?_
  rw [Reading.value?_map, value?_expectEnd_eq_some.mpr ⟨ends, rfl⟩]
  rfl

theorem Derives.value?_readOnly {ws : List Word} {e : Expr ε} (derives : Derives .expr ws e)
    {tokens : List Token} (words : tokens.map Token.word = ws) :
    (readOnly tokens).value? = some (e, []) := by
  have found := derives.value?_readOnly_append words .none (rfl : kindOf [] = .eof)
  rwa [List.append_nil, List.append_nil] at found

theorem derives_of_readOnly {input rest : List Token} {e : Expr ε}
    (found : (readOnly input).value? = some (e, rest)) :
    ∃ marks ending, Before input (marks ++ ending) (Derives .expr · e) ∧ OptionalMark marks ∧
      kindOf ending = .eof := by
  obtain ⟨e', middle, _, first, later⟩ := Reading.exists_of_andThen found
  obtain ⟨present, ending, _, mark, last⟩ := Reading.exists_of_andThen later
  obtain ⟨_, ends, rfl⟩ := Reading.exists_of_map last
  obtain ⟨marks, marked, rfl⟩ := exists_optionalMark mark
  exact ⟨marks, ending, ((readers_exact input).expr first).1, marked,
    (value?_expectEnd_eq_some.mp ends).1⟩

theorem derives_of_readProgram {input rest : List Token} {es : List (Expr ε)}
    (found : (readProgram input).value? = some (es, rest)) :
    Before input rest (ProgramDerives · es) ∧ kindOf rest = .eof := by
  induction length : input.length using Nat.strongRecOn generalizing input es with
  | ind n ih =>
  rw [readProgram.eq_def] at found
  cases input with
  | nil =>
    cases found
    exact ⟨.nil .nil, rfl⟩
  | cons t tokens =>
    by_cases ends : t.kind = .eof
    · simp only [if_pos ends] at found
      cases found
      exact ⟨.nil .nil, ends⟩
    by_cases mark : t.kind = .semisemi
    · simp only [if_neg ends, if_pos mark, Reading.value?_relax, Reading.value?_after] at found
      obtain ⟨later, stop⟩ := ih _ (by simp [← length]) found rfl
      exact ⟨.cons t (later.mono fun _ => .mark mark), stop⟩
    · simp only [if_neg ends, if_neg mark, Reading.value?_relax] at found
      obtain ⟨e, left, taken, first, later⟩ := Reading.exists_of_andThen found
      have expr := ((readers_exact (t :: tokens)).expr first).1
      split at later
      next stop =>
        cases later
        exact ⟨expr.mono fun _ => .last, stop⟩
      next =>
        rw [Reading.value?_relax] at later
        obtain ⟨s, left, taken', marked, later⟩ := Reading.exists_of_andThen later
        obtain ⟨es, inside, rfl⟩ := Reading.exists_of_map later
        obtain ⟨rfl, mark⟩ := value?_expect_eq_some.mp marked
        obtain ⟨more, stop⟩ := ih _ (by simp only [List.length_cons] at *; omega) inside rfl
        exact ⟨expr.append fun _ expr => .cons s (more.mono fun _ => .cons expr mark), stop⟩

theorem value?_readProgram_expr {input : List Token}
    (begins : Nonterminal.expr.Begins (kindOf input)) :
    (readProgram input : Reading 0 (List (Expr ε)) input).value? =
      ((read input).andThen fun e rest _ =>
        if kindOf rest = .eof then (.done [e] : Reading 0 _ rest)
        else .relax ((expect .semisemi rest).andThen fun _ rest _ =>
          (readProgram rest).map (e :: ·))).value? := by
  cases input with
  | nil => simp [Nonterminal.Begins, kindOf, Token.Kind.beginsAtom, Token.Kind.beginsLambda] at begins
  | cons t rest =>
    have others : t.kind ≠ .eof ∧ t.kind ≠ .semisemi := by
      constructor <;> intro kind <;>
        simp [Nonterminal.Begins, kindOf, kind, Token.Kind.beginsAtom, Token.Kind.beginsLambda]
          at begins
    rw [readProgram.eq_def]
    simp only [if_neg others.1, if_neg others.2, Reading.value?_relax]

theorem value?_readProgram_append {ws : List Word} {es : List (Expr ε)}
    (program : ProgramDerives ws es) {tokens ending : List Token}
    (words : tokens.map Token.word = ws) (ends : kindOf ending = .eof) :
    (readProgram (tokens ++ ending)).value? = some (es, ending) := by
  induction program generalizing tokens with
  | nil =>
    cases List.map_eq_nil_iff.mp words
    rw [List.nil_append, readProgram.eq_def]
    cases ending with
    | nil => rfl
    | cons stop rest => simp [show stop.kind = .eof from ends]
  | mark mark _ ih =>
    obtain ⟨t, rest, rfl, rfl, later⟩ := List.map_eq_cons_iff.mp words
    rw [Token.kind_word] at mark
    rw [List.cons_append, readProgram.eq_def]
    simp [mark, ih later]
  | last expr =>
    have found := expr.recognised tokens ending words (stops_of_kindOf_eof ends)
    rw [value?_readProgram_expr (expr.begins_kindOf words ending)]
    exact Reading.value?_andThen found fun _ => by simp [ends]
  | cons expr mark _ ih =>
    obtain ⟨ts, _, rfl, exprWords, later⟩ := List.map_eq_append_iff.mp words
    obtain ⟨s, us, rfl, rfl, restWords⟩ := List.map_eq_cons_iff.mp later
    rw [Token.kind_word] at mark
    have stops : Stops (s :: (us ++ ending)) := by
      simp [Stops, kindOf, mark, Token.Kind.beginsAtom]
    have goesOn : kindOf (s :: (us ++ ending)) ≠ .eof := by simp [kindOf, mark]
    rw [List.append_assoc, List.cons_append,
      value?_readProgram_expr (expr.begins_kindOf exprWords (s :: (us ++ ending)))]
    refine Reading.value?_andThen (expr.recognised ts _ exprWords stops) fun _ => ?_
    rw [if_neg goesOn, Reading.value?_relax]
    refine Reading.value?_andThen (value?_expect_eq_some.mpr ⟨rfl, mark⟩) fun _ => ?_
    simp [ih restWords]

theorem value?_readProgram {ws : List Word} {es : List (Expr ε)} (program : ProgramDerives ws es)
    {tokens : List Token} (words : tokens.map Token.word = ws) :
    (readProgram tokens).value? = some (es, []) := by
  have found := value?_readProgram_append program words (rfl : kindOf [] = .eof)
  rwa [List.append_nil] at found

end Expr

namespace Ty

theorem Derives.value?_readOnly_append {ws : List Word} {t : Ty ε} (derives : Derives .type ws t)
    {tokens ending : List Token} (words : tokens.map Token.word = ws)
    (ends : kindOf ending = .eof) :
    (readOnly (tokens ++ ending)).value? = some (t, ending.tail) := by
  refine Reading.value?_andThen (derives.recognised tokens ending words (by simp [ends])) fun _ => ?_
  rw [Reading.value?_map, value?_expectEnd_eq_some.mpr ⟨ends, rfl⟩]
  rfl

theorem Derives.value?_readOnly {ws : List Word} {t : Ty ε} (derives : Derives .type ws t)
    {tokens : List Token} (words : tokens.map Token.word = ws) :
    (readOnly tokens).value? = some (t, []) := by
  have found := derives.value?_readOnly_append words (rfl : kindOf [] = .eof)
  rwa [List.append_nil] at found

theorem derives_of_readOnly {input rest : List Token} {t : Ty ε}
    (found : (readOnly input).value? = some (t, rest)) :
    ∃ ending, Before input ending (Derives .type · t) ∧ kindOf ending = .eof := by
  obtain ⟨t, ending, _, first, last⟩ := Reading.exists_of_andThen found
  obtain ⟨_, ends, rfl⟩ := Reading.exists_of_map last
  exact ⟨ending, ((derives_of_read input).2 t ending first).1, (value?_expectEnd_eq_some.mp ends).1⟩

theorem Derives.value?_readBinding_append {name colon : Word} {ws : List Word} {t : Ty ε}
    (ident : name.kind = .ident) (mark : colon.kind = .colon) (type : Derives .type ws t)
    {tokens ending : List Token} (words : tokens.map Token.word = name :: colon :: ws)
    (ends : kindOf ending = .eof) :
    (readBinding (tokens ++ ending)).value? = some ((name.text, t), ending.tail) := by
  obtain ⟨n, _, rfl, rfl, later⟩ := List.map_eq_cons_iff.mp words
  obtain ⟨c, ts, rfl, rfl, typeWords⟩ := List.map_eq_cons_iff.mp later
  refine Reading.value?_andThen (value?_expect_eq_some.mpr ⟨rfl, ident⟩) fun _ => ?_
  refine Reading.value?_andThen (value?_expect_eq_some.mpr ⟨rfl, mark⟩) fun _ => ?_
  simp [type.value?_readOnly_append typeWords ends]

theorem Derives.value?_readBinding {name colon : Word} {ws : List Word} {t : Ty ε}
    (ident : name.kind = .ident) (mark : colon.kind = .colon) (type : Derives .type ws t)
    {tokens : List Token} (words : tokens.map Token.word = name :: colon :: ws) :
    (readBinding tokens).value? = some ((name.text, t), []) := by
  have found := type.value?_readBinding_append ident mark words (rfl : kindOf [] = .eof)
  rwa [List.append_nil] at found

theorem derives_of_readBinding {input rest : List Token} {x : String} {t : Ty ε}
    (found : (readBinding input).value? = some ((x, t), rest)) :
    ∃ name colon later ending, input = name :: colon :: later ∧ name.kind = .ident ∧
      colon.kind = .colon ∧ name.text = x ∧ Before later ending (Derives .type · t) ∧
      kindOf ending = .eof := by
  obtain ⟨name, _, _, named, found⟩ := Reading.exists_of_andThen found
  obtain ⟨colon, later, _, marked, found⟩ := Reading.exists_of_andThen found
  obtain ⟨_, value, same⟩ := Reading.exists_of_map found
  obtain ⟨rfl, ident⟩ := value?_expect_eq_some.mp named
  obtain ⟨rfl, mark⟩ := value?_expect_eq_some.mp marked
  cases same
  obtain ⟨ending, type, ends⟩ := derives_of_readOnly value
  exact ⟨name, colon, later, ending, rfl, ident, mark, rfl, type, ends⟩

end Ty

end Gradual
