import Gradual.Production
import Gradual.Proofs.Acceptance
import Gradual.Proofs.RoundTrip

/-! Where mistakes are reported. A reader that gets stuck names the place of the token in front of it,
and has taken the beginning of a phrase: with other words after it, what was read so far could have
gone on to a whole text. So the place of an error is never past the mistake. It can be before it: a parenthesis that opens no binder is reported
itself, and not the token that keeps it from opening one. -/
namespace Gradual

variable {ε : Type}

/-- Words can be put after these to make up a phrase. -/
def Begins (phrase : List Word → Prop) (ws : List Word) : Prop := ∃ more, phrase (ws ++ more)

section Begins

variable {phrase inner : List Word → Prop} {ws us : List Word}

theorem begins_nil (ws : List Word) (holds : phrase ws) : Begins phrase [] := ⟨ws, holds⟩

theorem begins_of_phrase (holds : phrase ws) : Begins phrase ws := ⟨[], by rwa [List.append_nil]⟩

theorem Begins.append (begins : Begins (fun us => phrase (ws ++ us)) us) :
    Begins phrase (ws ++ us) := by
  obtain ⟨more, holds⟩ := begins
  exact ⟨more, by rwa [List.append_assoc]⟩

theorem Begins.trans (begins : Begins inner ws) (goesOn : ∀ us, inner us → Begins phrase us) :
    Begins phrase ws := by
  obtain ⟨more, holds⟩ := begins
  obtain ⟨last, whole⟩ := goesOn _ holds
  exact ⟨more ++ last, by rwa [← List.append_assoc]⟩

end Begins

namespace Reading

variable {α β : Type} {least more : Nat} {input : List Token} {phrase inner : List Word → Prop}

/-- Where a reading got stuck because of a mistake, it has taken the beginning of a phrase and names
the place of the token that comes next. -/
def Viable (phrase : List Word → Prop) : Reading least α input → Prop
  | .value _ _ _ => True
  | .stuck (.numberTooLong _) _ _ => True
  | .stuck (.cause _ place) rest _ =>
    place = rest.head?.map Token.location ∧ Before input rest (Begins phrase)

theorem viable_fail (begins : Begins phrase []) (cause : SyntaxError.Cause) {place : Option Location}
    (here : place = input.head?.map Token.location) :
    (fail cause place : Reading least α input).Viable phrase := ⟨here, Before.nil begins⟩

theorem viable_of_value? {reading : Reading least α input} {found : α × List Token}
    (value : reading.value? = some found) : reading.Viable phrase := by
  cases reading with
  | value => trivial
  | stuck => cases value

theorem Viable.mono {reading : Reading least α input} (viable : reading.Viable inner)
    (begins : ∀ ws, inner ws → Begins phrase ws) : reading.Viable phrase := by
  cases reading with
  | value => trivial
  | stuck complaint rest within =>
    cases complaint with
    | cause => exact ⟨viable.1, viable.2.mono fun ws begun => begun.trans begins⟩
    | numberTooLong => trivial

theorem Viable.imp {reading : Reading least α input} (viable : reading.Viable inner)
    (weaken : ∀ ws, inner ws → phrase ws) : reading.Viable phrase :=
  viable.mono fun ws holds => begins_of_phrase (weaken ws holds)

theorem Viable.map {reading : Reading least α input} (viable : reading.Viable phrase) (f : α → β) :
    (reading.map f).Viable phrase := by
  cases reading with
  | value => trivial
  | stuck complaint => cases complaint <;> exact viable

theorem Viable.relax {reading : Reading least α input} (viable : reading.Viable phrase) :
    reading.relax.Viable phrase := by
  cases reading with
  | value => trivial
  | stuck complaint => cases complaint <;> exact viable

theorem Viable.after {reading : Reading least α input} {t : Token}
    (viable : reading.Viable fun ws => phrase (t.word :: ws)) : (reading.after t).Viable phrase := by
  cases reading with
  | value => trivial
  | stuck complaint =>
    cases complaint with
    | cause => exact ⟨viable.1, viable.2.cons t⟩
    | numberTooLong => trivial

theorem Viable.widen {t : Token} {reading : Reading 1 α input}
    {le : input.length ≤ (t :: input).length}
    (viable : reading.Viable fun ws => phrase (t.word :: ws)) :
    (reading.widen le).Viable phrase := by
  cases reading with
  | value => trivial
  | stuck complaint =>
    cases complaint with
    | cause => exact ⟨viable.1, viable.2.cons t⟩
    | numberTooLong => trivial

/-- What is read after a value goes on the phrase that the words of the value begin. -/
theorem Viable.andThen {first : Reading least α input}
    {next : α → (rest : List Token) → rest.length + least ≤ input.length → Reading more β rest}
    (viable : first.Viable phrase)
    (later : ∀ a rest taken, first.value? = some (a, rest) →
      Before input rest fun ws => (next a rest taken).Viable fun us => phrase (ws ++ us)) :
    (first.andThen next).Viable phrase := by
  cases first with
  | stuck complaint => cases complaint <;> exact viable
  | value a rest taken =>
    obtain ⟨tokens, rfl, viableNext⟩ := later a rest taken rfl
    simp only [Reading.andThen]
    cases reading : next a rest taken with
    | value => trivial
    | stuck complaint left =>
      rw [reading] at viableNext
      cases complaint with
      | cause =>
        exact ⟨viableNext.1, (viableNext.2.mono fun ws => Begins.append).prepend tokens⟩
      | numberTooLong => trivial

end Reading

open Reading

section Tokens

variable {α β : Type} {least more : Nat} {input : List Token} {phrase : List Word → Prop}
  {wanted : Token.Kind}

theorem viable_expect (begins : Begins phrase []) : (expect wanted input).Viable phrase := by
  cases input with
  | nil => exact viable_fail begins _ rfl
  | cons t rest =>
    simp only [expect]
    split
    · trivial
    · exact viable_fail begins _ rfl

theorem viable_optional : (optional wanted input).Viable phrase := by
  cases input with
  | nil => trivial
  | cons t rest =>
    simp only [optional]
    split <;> trivial

theorem viable_expectEnd (begins : Begins phrase []) : (expectEnd input).Viable phrase := by
  cases input with
  | nil => trivial
  | cons t rest =>
    simp only [expectEnd]
    split
    · trivial
    · exact viable_fail begins _ rfl

theorem viable_expect_andThen
    {next : Token → (rest : List Token) → rest.length + 1 ≤ input.length → Reading more β rest}
    (begins : Begins phrase [])
    (later : ∀ t rest taken, t.kind = wanted →
      (next t rest taken).Viable fun ws => phrase (t.word :: ws)) :
    ((expect wanted input).andThen next).Viable phrase := by
  refine (viable_expect begins).andThen fun t rest taken found => ?_
  obtain ⟨rfl, kind⟩ := value?_expect_eq_some.mp found
  exact .cons t (.nil (later t rest taken kind))

/-- A phrase up to the parenthesis that closes it. -/
theorem viable_closed {reading : Reading least α input} {f : α → Token → β}
    {inner : List Word → α → Prop} (viable : reading.Viable fun ws => ∃ a, inner ws a)
    (taken : ∀ a rest, reading.value? = some (a, rest) → Before input rest (inner · a))
    (closed : ∀ ws a r, inner ws a → r.kind = .rparen → phrase (ws ++ [r])) :
    (reading.andThen fun a rest _ => (expect .rparen rest).map (f a)).Viable phrase := by
  have closable : ∀ ws a, inner ws a → phrase (ws ++ [⟨.rparen, ")"⟩]) :=
    fun ws a holds => closed ws a _ holds rfl
  refine (viable.mono ?_).andThen fun a rest _ found => ?_
  · rintro ws ⟨a, holds⟩
    exact ⟨_, closable ws a holds⟩
  · refine (taken a rest found).mono fun ws holds => ?_
    exact (viable_expect (begins_nil [⟨.rparen, ")"⟩] (closable ws a holds))).map _

end Tokens

namespace Ty

def Derivable (ε : Type) (n : Nonterminal) (ws : List Word) : Prop := ∃ t : Ty ε, Derives n ws t

theorem derives_int : Derives (ε := ε) .atom [⟨.int, "int"⟩] .int := .int rfl

theorem viable_read (input : List Token) :
    (readAtom input : Reading 1 (Ty ε) input).Viable (Derivable ε .atom) ∧
      (read input : Reading 1 (Ty ε) input).Viable (Derivable ε .type) := by
  induction length : input.length using Nat.strongRecOn generalizing input with
  | ind n ih =>
  have atom : (readAtom input : Reading 1 (Ty ε) input).Viable (Derivable ε .atom) := by
    have begins : Begins (Derivable ε .atom) [] := begins_nil _ ⟨_, derives_int⟩
    rw [readAtom.eq_def]
    cases input with
    | nil => exact viable_fail begins _ rfl
    | cons l tokens =>
      simp only
      split
      next opening =>
        have inner := (ih tokens.length (by simp [← length]) tokens rfl).2
        refine .after (viable_closed inner ?_ fun ws t r type closing => ?_)
        · exact fun t rest found => ((derives_of_read tokens).2 t rest found).1
        · exact ⟨t, .paren opening type closing⟩
      next => trivial
      next => trivial
      next => trivial
      next => exact viable_fail begins _ rfl
  refine ⟨atom, ?_⟩
  rw [read]
  refine .andThen (atom.imp ?_) fun dom rest taken found => ?_
  · rintro ws ⟨t, derives⟩
    exact ⟨t, .ofAtom derives⟩
  refine ((derives_of_read input).1 dom rest found).mono fun ws derives => ?_
  cases rest with
  | nil => trivial
  | cons t rest =>
    have below : rest.length < n := by
      simp only [List.length_cons] at taken
      omega
    simp only
    split
    next mark =>
      refine .relax (.after (.map ((ih rest.length below rest rfl).2.imp ?_) _))
      rintro us ⟨cod, type⟩
      exact ⟨_, .arrow derives mark type⟩
    next => trivial

end Ty

namespace Expr

def Derivable (ε : Type) (n : Nonterminal) (ws : List Word) : Prop := ∃ e : Expr ε, Derives n ws e

theorem derives_name : Derives (ε := ε) .atom [⟨.ident, "x"⟩] (.var "x") := .var rfl

theorem Derives.ofAtomExpr {ws : List Word} {e : Expr ε} (atom : Derives .atom ws e) :
    Derives .expr ws e :=
  .ofSum (.ofTerms (.ofApplication (.ofAtom atom)))

def IsBinder (ε : Type) (ws : List Word) : Prop :=
  ∃ (x : String) (declared : Option (Ty ε)), Binder ws x declared

theorem viable_readBinder (input : List Token) :
    (readBinder input : Reading 1 (String × Option (Ty ε)) input).Viable (IsBinder ε) := by
  have begins : Begins (IsBinder ε) [] :=
    begins_nil [⟨.ident, "x"⟩] ⟨_, _, .plain rfl⟩
  rw [readBinder]
  split
  · -- Whatever comes next, after each part the rest of a binder could have come.
    refine viable_expect_andThen begins fun l rest _ opening => ?_
    refine viable_expect_andThen ?_ fun x rest _ name => ?_
    · exact begins_nil [⟨.ident, "x"⟩, ⟨.colon, ":"⟩, ⟨.int, "int"⟩, ⟨.rparen, ")"⟩]
        ⟨_, _, .paren opening rfl rfl (.ofAtom Ty.derives_int) rfl⟩
    refine viable_expect_andThen ?_ fun c rest _ colon => ?_
    · exact begins_nil [⟨.colon, ":"⟩, ⟨.int, "int"⟩, ⟨.rparen, ")"⟩]
        ⟨_, _, .paren opening name rfl (.ofAtom Ty.derives_int) rfl⟩
    refine viable_closed (Ty.viable_read rest).2 ?_ fun ws t r type closing => ?_
    · exact fun t left found => ((Ty.derives_of_read rest).2 t left found).1
    · exact ⟨_, _, .paren opening name colon type closing⟩
  · refine viable_expect_andThen begins fun x rest _ name => ?_
    cases rest with
    | nil => trivial
    | cons c rest =>
      simp only
      split
      next colon =>
        refine .relax (.after (.map ((Ty.viable_read rest).1.imp ?_) _))
        rintro ws ⟨t, type⟩
        exact ⟨_, _, .declared name colon type⟩
      next => trivial

theorem viable_readBodyMark {phrase : List Word → Prop} (begins : Begins phrase [])
    (input : List Token) : (readBodyMark input).Viable phrase := by
  rw [readBodyMark]
  split <;> exact viable_expect begins

/-- Where the readers of expressions get stuck on `input`, what they have taken can be completed to a
phrase, or to one that goes on a phrase that has been read before. -/
structure AllViable (ε : Type) (input : List Token) : Prop where
  moreApplication : ∀ {f : Expr ε} {ws : List Word}, Derives .application ws f →
    (readMoreApplication f input).Viable fun us => Derivable ε .application (ws ++ us)
  application : (readApplication input : Reading 1 (Expr ε) input).Viable (Derivable ε .application)
  moreSum : ∀ {l : Expr ε} {ws : List Word}, Derives .terms ws l →
    (readMoreSum l input).Viable fun us => Derivable ε .sum (ws ++ us)
  lambda : (kindOf input).beginsLambda = true →
    (readLambda input : Reading 1 (Expr ε) input).Viable (Derivable ε .lambda)
  expr : (read input : Reading 1 (Expr ε) input).Viable (Derivable ε .expr)

-- As with exactness, each reader is taken in turn while all are viable on fewer tokens. A later part
-- gets stuck behind a phrase that is there in full, which exactness says.
section Below

variable {input : List Token}
  (below : ∀ shorter : List Token, shorter.length < input.length → AllViable ε shorter)
include below

theorem viable_readAtom :
    (readAtom input : Reading 1 (Expr ε) input).Viable (Derivable ε .atom) := by
  have begins : Begins (Derivable ε .atom) [] := begins_nil _ ⟨_, derives_name⟩
  rw [readAtom.eq_def]
  cases input with
  | nil => exact viable_fail begins _ rfl
  | cons l tokens =>
    simp only
    split
    next opening =>
      refine .after (viable_closed (below tokens (by simp)).expr ?_ fun ws e r inner closing => ?_)
      · exact fun e rest found => ((readers_exact tokens).expr found).1
      · exact ⟨e, .paren opening inner closing⟩
    next => trivial
    next =>
      rw [readNumber]
      split
      · split <;> trivial
      · exact viable_fail begins _ rfl
    next => trivial
    next => trivial
    next => exact viable_fail begins _ rfl

theorem viable_readMoreApplication {f : Expr ε} {ws : List Word} (func : Derives .application ws f) :
    (readMoreApplication f input).Viable fun us => Derivable ε .application (ws ++ us) := by
  rw [readMoreApplication]
  split
  next =>
    refine .relax (.andThen ((viable_readAtom below).imp ?_) fun a rest taken found => ?_)
    · rintro us ⟨a, arg⟩
      exact ⟨_, .app func arg⟩
    · refine ((readers_exact input).atom found).mono fun us arg => ?_
      simpa using (below rest (by omega)).moreApplication (.app func arg)
  next => trivial

theorem viable_readApplication :
    (readApplication input : Reading 1 (Expr ε) input).Viable (Derivable ε .application) := by
  rw [readApplication]
  refine .andThen ((viable_readAtom below).imp ?_) fun f rest taken found => ?_
  · rintro ws ⟨e, atom⟩
    exact ⟨e, .ofAtom atom⟩
  · refine ((readers_exact input).atom found).mono fun ws atom => ?_
    exact (below rest (by omega)).moreApplication (.ofAtom atom)

theorem viable_readMoreSum {l : Expr ε} {ws : List Word} (terms : Derives .terms ws l) :
    (readMoreSum l input).Viable fun us => Derivable ε .sum (ws ++ us) := by
  rw [readMoreSum.eq_def]
  cases input with
  | nil => trivial
  | cons p tokens =>
    have readers : AllViable ε tokens := below tokens (by simp)
    simp only
    split
    next plus =>
      split
      next begins =>
        refine .relax (.after (.andThen ((readers.lambda begins).imp ?_) fun r rest _ found => ?_))
        · rintro us ⟨r, right⟩
          exact ⟨_, .addLambda terms plus right⟩
        · -- After a function the sum does not go on, so there is nothing to get stuck on.
          obtain ⟨right, stops⟩ := (readers_exact tokens).lambda begins found
          exact right.mono fun us _ => viable_of_value? (value?_readMoreSum_done _ stops.2)
      next =>
        refine .relax (.after (.andThen (readers.application.imp ?_) fun r rest taken found => ?_))
        · rintro us ⟨r, right⟩
          exact ⟨_, .ofTerms (.add terms plus right)⟩
        · refine ((readers_exact tokens).application found).1.mono fun us right => ?_
          have shorter : rest.length < (p :: tokens).length := by
            simp only [List.length_cons]
            omega
          simpa using (below rest shorter).moreSum (.add (p := p.word) terms plus right)
    next => trivial

theorem viable_readSum :
    (readSum input : Reading 1 (Expr ε) input).Viable (Derivable ε .sum) := by
  rw [readSum]
  refine .andThen ((viable_readApplication below).imp ?_) fun l rest taken found => ?_
  · rintro ws ⟨e, application⟩
    exact ⟨e, .ofTerms (.ofApplication application)⟩
  · refine ((readers_exact input).application found).1.mono fun ws application => ?_
    exact (below rest (by omega)).moreSum (.ofApplication application)

theorem viable_readLambda (begins : (kindOf input).beginsLambda = true) :
    (readLambda input : Reading 1 (Expr ε) input).Viable (Derivable ε .lambda) := by
  cases input with
  | nil => cases begins
  | cons first tokens =>
    have completed : ∀ bs, IsBinder ε bs →
        Begins (fun us => Derivable ε .lambda (first.word :: (bs ++ us))) [] := by
      rintro bs ⟨x, declared, binder⟩
      exact begins_nil [⟨.dot, "."⟩, ⟨.ident, "x"⟩]
        ⟨_, .lambda begins binder (.inr rfl) derives_name.ofAtomExpr⟩
    rw [readLambda]
    refine .widen (.andThen ((viable_readBinder tokens).mono completed) ?_)
    rintro ⟨x, declared⟩ rest taken found
    refine (binder_of_readBinder found).mono fun bs binder => ?_
    refine .andThen (viable_readBodyMark (completed bs ⟨x, declared, binder⟩) rest) ?_
    intro d left taken' marked
    obtain ⟨rfl, dot⟩ := mark_of_readBodyMark marked
    have shorter : left.length < (first :: tokens).length := by
      simp only [List.length_cons, List.tail_cons] at taken taken' ⊢
      omega
    refine .cons d (.nil (.map ((below left shorter).expr.imp ?_) _))
    rintro us ⟨e, inner⟩
    exact ⟨_, .lambda begins binder dot inner⟩

theorem viable_read : (read input : Reading 1 (Expr ε) input).Viable (Derivable ε .expr) := by
  rw [read]
  split
  next begins =>
    refine (viable_readLambda below begins).imp ?_
    rintro ws ⟨e, lambda⟩
    exact ⟨e, .ofLambda lambda⟩
  next =>
    refine (viable_readSum below).imp ?_
    rintro ws ⟨e, sum⟩
    exact ⟨e, .ofSum sum⟩

end Below

theorem readers_viable (input : List Token) : AllViable ε input := by
  induction length : input.length using Nat.strongRecOn generalizing input with
  | ind n ih =>
  have below : ∀ shorter : List Token, shorter.length < input.length → AllViable ε shorter :=
    fun shorter less => ih _ (length ▸ less) shorter rfl
  exact {
    moreApplication := viable_readMoreApplication below
    application := viable_readApplication below
    moreSum := viable_readMoreSum below
    lambda := viable_readLambda below
    expr := viable_read below }

/-- Tokens with these words, none of which is the end, are read as the only expression of a text. -/
structure Accepted (ε : Type) (ws : List Word) : Prop where
  noEnd : ∀ w ∈ ws, w.kind ≠ .eof
  reads : ∀ tokens, tokens.map Token.word = ws → ∃ e : Expr ε, (readOnly tokens).value? = some (e, [])

theorem Derives.accepted {ws : List Word} {e : Expr ε} (derives : Derives .expr ws e)
    {marks : List Token} (marked : OptionalMark marks) :
    Accepted ε (ws ++ marks.map Token.word) := by
  constructor
  · obtain ⟨expr, rfl, -⟩ := derives.hasTree
    obtain ⟨tree, rfl, same⟩ := OnlyTree.exists_of_optionalMark expr marked
    rw [← same]
    exact tree.ne_eof
  · intro tokens words
    obtain ⟨ts, ms, rfl, exprWords, markWords⟩ := List.map_eq_append_iff.mp words
    have marked : OptionalMark ms := by
      cases marked with
      | none =>
        cases List.map_eq_nil_iff.mp markWords
        exact .none
      | some mark =>
        obtain ⟨m, rfl, same⟩ := List.map_eq_singleton_iff.mp markWords
        exact .some ((congrArg Word.kind same).trans mark)
    have found := derives.value?_readOnly_append exprWords marked (rfl : kindOf [] = .eof)
    exact ⟨e, by rwa [List.append_nil] at found⟩

theorem viable_readOnly (input : List Token) :
    (readOnly input : Reading 1 (Expr ε) input).Viable (Accepted ε) := by
  refine .andThen ((readers_viable input).expr.imp ?_) fun e rest _ found => ?_
  · rintro ws ⟨e, derives⟩
    simpa using derives.accepted .none
  refine ((readers_exact input).expr found).1.mono fun ws derives => ?_
  refine .andThen viable_optional fun present left _ found => ?_
  obtain ⟨marks, marked, rfl⟩ := exists_optionalMark found
  refine ⟨marks, rfl, (viable_expectEnd ?_).map _⟩
  exact begins_of_phrase (by simpa using derives.accepted marked)

end Expr

/-- A token that says the word. -/
def Word.token (w : Word) (place : Location) : Token := ⟨w.kind, w.text, place⟩

theorem Expr.Accepted.exists_tokens {taken : List Token}
    (begins : Begins (Accepted ε) (taken.map Token.word)) :
    ∃ more, (∀ t ∈ taken ++ more, t.kind ≠ .eof) ∧
      ∃ e : Expr ε, (readOnly (taken ++ more)).value? = some (e, []) := by
  obtain ⟨ws, accepted⟩ := begins
  let more := ws.map (Word.token · ⟨1, 1, none⟩)
  have words : (taken ++ more).map Token.word = taken.map Token.word ++ ws := by
    rw [List.map_append, List.map_map]
    exact congrArg _ (List.map_id ws)
  exact ⟨more, ne_eof_of_words (words ▸ accepted.noEnd), accepted.reads _ words⟩

namespace Reader

/-- A reader that has not begun. -/
def start (tokens : List Token) (stop : Location) : Reader := ⟨tokens, stop, tokens⟩

/-- The tokens of the text, with a mark for its end. -/
def listing (reader : Reader) : List Token := reader.tokens ++ [⟨.eof, "", reader.stop⟩]

theorem position_of_append {reader : Reader} {taken : List Token}
    (same : reader.tokens = taken ++ reader.rest) : reader.position = taken.length := by
  rw [position, same, List.length_append, Nat.add_sub_cancel]

theorem location_listing (taken rest : List Token) (stop : Location) :
    (start (taken ++ rest) stop).listing[taken.length]?.map Token.location =
      some ((rest.head?.map Token.location).getD stop) := by
  rw [listing, start, List.append_assoc, List.getElem?_append_right (Nat.le_refl _), Nat.sub_self]
  cases rest <;> rfl

/-- A reader that reports a mistake stands where it got stuck. -/
theorem ask_malformed {reader after : Reader} {production : Production} {phrase : List Word → Prop}
    {error : SyntaxError}
    (viable : (production.read reader.rest : Reading 0 (Phrase ε) reader.rest).Viable phrase)
    (failed : reader.ask production =
      ((.error (.malformed error) : Except ReadError (Phrase ε)), after)) :
    Before reader.rest after.rest (Begins phrase) ∧ after.tokens = reader.tokens ∧
      error.location = (after.rest.head?.map Token.location).getD reader.stop := by
  obtain ⟨concluded, rfl⟩ := Prod.mk.inj failed
  cases reading : (production.read reader.rest : Reading 0 (Phrase ε) reader.rest) with
  | value => simp [reading, Source.conclude] at concluded
  | stuck complaint rest within =>
    rw [reading] at viable concluded
    cases complaint with
    | cause =>
      cases concluded
      exact ⟨viable.2, rfl, congrArg (Option.getD · reader.stop) viable.1⟩
    | numberTooLong => cases concluded

/-- The place of a mistake in a text of one expression is that of the next token. The tokens before
it begin another text, which is read without a mistake. -/
theorem ask_onlyExpr_malformed {tokens : List Token} {stop : Location} {error : SyntaxError}
    {after : Reader}
    (failed : (start tokens stop).ask .onlyExpr =
      ((.error (.malformed error) : Except ReadError (Phrase ε)), after)) :
    (start tokens stop).listing[after.position]?.map Token.location = some error.location ∧
      ∃ more, (∀ t ∈ tokens.take after.position ++ more, t.kind ≠ .eof) ∧ ∃ e : Expr ε,
        ((start (tokens.take after.position ++ more) stop).ask .onlyExpr).1 = .ok (.expr e) := by
  have viable := ((Expr.viable_readOnly (ε := ε) tokens).map Phrase.expr).relax
  obtain ⟨⟨taken, same, begins⟩, kept, located⟩ := ask_malformed viable failed
  have same : tokens = taken ++ after.rest := same
  rw [position_of_append (kept.trans same), located, same, List.take_left]
  refine ⟨location_listing taken after.rest stop, ?_⟩
  obtain ⟨more, noEnd, e, found⟩ := Expr.Accepted.exists_tokens begins
  refine ⟨more, noEnd, e, Source.conclude_eq_ok.mpr ⟨[], ?_⟩⟩
  rw [Production.read, Reading.value?_relax, Reading.value?_map]
  exact congrArg (Option.map _) found

/-- A type without its right side, deep inside a text: the parenthesis is reported. -/
theorem ask_onlyExpr_malformed_type :
    let token (kind : Token.Kind) (text : String) (column : Int) : Token :=
      ⟨kind, text, ⟨1, column, none⟩⟩
    let before := [token .ident "f" 1, token .lparen "(" 3, token .fn "fun" 4,
      token .lparen "(" 8, token .ident "x" 9, token .colon ":" 11, token .lparen "(" 13,
      token .int "int" 14, token .arrow "->" 18]
    let rest := [token .rparen ")" 21, token .rparen ")" 23, token .dot "." 25, token .ident "x" 27,
      token .rparen ")" 28]
    let stop : Location := ⟨1, 29, none⟩
    ∃ (error : SyntaxError) (after : Reader),
      (start (before ++ rest) stop).ask .onlyExpr =
        ((.error (.malformed error) : Except ReadError (Phrase Empty)), after) ∧
      after.position = 9 ∧ error.location = ⟨1, 21, none⟩ ∧
      (start (before ++ rest) stop).listing[9]?.map Token.location = some error.location ∧
      ∃ more, (∀ t ∈ before ++ more, t.kind ≠ .eof) ∧ ∃ e : Expr Empty,
        ((start (before ++ more) stop).ask .onlyExpr).1 = .ok (.expr e) := by
  intro token before rest stop
  have failed : (start (before ++ rest) stop).ask .onlyExpr =
      ((.error (.malformed ⟨.unexpectedInType .rparen, ⟨1, 21, none⟩⟩) :
        Except ReadError (Phrase Empty)), ⟨before ++ rest, stop, rest⟩) := by
    simp [token, before, rest, start, ask, Production.read, Expr.readOnly, Expr.read, Expr.readSum,
      Expr.readApplication, Expr.readAtom, Expr.readMoreApplication, Expr.readLambda,
      Expr.readBinder, Ty.read, Ty.readAtom, expect, kindOf, kindOfThird, Token.Kind.beginsLambda,
      Token.Kind.beginsAtom, Reading.andThen, Reading.after, Reading.map, Reading.relax,
      Reading.widen, Reading.done, Reading.fail, Reading.rest, Source.conclude,
      ReadError.ofComplaint]
  exact ⟨_, _, failed, rfl, rfl, ask_onlyExpr_malformed failed⟩

end Reader

end Gradual
