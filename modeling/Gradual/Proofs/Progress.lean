import Gradual.Proofs.NumberLimit
import Gradual.Proofs.Walks.Agreement

/-! A reader in use. It can be asked for one phrase after another, in any order, and goes on from where
it is also after a phrase that it could not read. Whatever it was asked for before, each walk to a
phrase ends, at a position that is neither before the last one nor beyond the mark for the end of the
text. A phrase that is read takes up tokens, and one that has to reach the end leaves none. -/
namespace Gradual

variable {ε α β : Type}

namespace Reading

variable {least more : Nat} {input : List Token}

theorem taken_of_value? {reading : Reading 1 α input} {f : α → β} {b : β} {rest : List Token}
    (found : (reading.map f).relax.value? = some (b, rest)) : rest.length < input.length := by
  cases reading with
  | value a left taken =>
    cases found
    exact taken
  | stuck => cases found

theorem rest_of_value? {reading : Reading least α input} {a : α} {rest : List Token}
    (found : reading.value? = some (a, rest)) : reading.rest = rest := by
  cases reading with
  | value =>
    cases found
    rfl
  | stuck => cases found

/-- If the end of the text is no token, then a value leaves no tokens. -/
def Finishes (reading : Reading least α input) : Prop :=
  ∀ a rest, reading.value? = some (a, rest) → (∀ t ∈ input, t.kind ≠ .eof) → rest = []

theorem Finishes.map {reading : Reading least α input} (finishes : reading.Finishes) (f : α → β) :
    (reading.map f).Finishes := by
  intro b rest found noEnd
  obtain ⟨a, value, _⟩ := exists_of_map found
  exact finishes a rest value noEnd

theorem Finishes.relax {reading : Reading least α input} (finishes : reading.Finishes) :
    reading.relax.Finishes := by
  intro a rest found
  rw [value?_relax] at found
  exact finishes a rest found

theorem Fair.suffix_of_value? {reading : Reading least α input} (fair : reading.Fair) {a : α}
    {rest : List Token} (found : reading.value? = some (a, rest)) : rest <:+ input := by
  cases reading with
  | value =>
    cases found
    exact fair
  | stuck => cases found

theorem Finishes.andThen {first : Reading least α input}
    {next : α → (rest : List Token) → rest.length + least ≤ input.length → Reading more β rest}
    (fair : first.Fair) (later : ∀ a rest taken, (next a rest taken).Finishes) :
    (first.andThen next).Finishes := by
  intro b left found noEnd
  obtain ⟨a, rest, taken, value, last⟩ := exists_of_andThen found
  have ends := fair.suffix_of_value? value
  exact later a rest taken b left last fun t member => noEnd t (ends.subset member)

end Reading

open Reading

theorem eq_nil_of_kindOf {input : List Token} (noEnd : ∀ t ∈ input, t.kind ≠ .eof)
    (ends : kindOf input = .eof) : input = [] := by
  cases input with
  | nil => rfl
  | cons t rest => exact absurd ends (noEnd t List.mem_cons_self)

theorem finishes_expectEnd (input : List Token) : (expectEnd input).Finishes := by
  intro _ rest found noEnd
  obtain ⟨ends, rfl⟩ := value?_expectEnd_eq_some.mp found
  rw [eq_nil_of_kindOf noEnd ends, List.tail_nil]

namespace Ty

theorem finishes_readOnly (input : List Token) :
    (readOnly input : Reading 1 (Ty ε) input).Finishes :=
  .andThen (fair_read input).2 fun _ rest _ => (finishes_expectEnd rest).map _

theorem finishes_readBinding (input : List Token) :
    (readBinding input : Reading 1 (String × Ty ε) input).Finishes :=
  .andThen (fair_expect .ident input) fun _ rest _ =>
    .andThen (fair_expect .colon rest) fun _ rest _ => (finishes_readOnly rest).map _

end Ty

namespace Expr

theorem finishes_readOnly (input : List Token) :
    (readOnly input : Reading 1 (Expr ε) input).Finishes :=
  .andThen (readers_fair input).expr fun _ rest _ =>
    .andThen (fair_optional .semisemi rest) fun _ rest _ => (finishes_expectEnd rest).map _

theorem finishes_readProgram (input : List Token) :
    (readProgram input : Reading 0 (List (Expr ε)) input).Finishes := by
  intro es rest found noEnd
  obtain ⟨⟨front, rfl, _⟩, ends⟩ := derives_of_readProgram found
  exact eq_nil_of_kindOf (fun t member => noEnd t (List.mem_append_right front member)) ends

end Expr

namespace Production

theorem fair_read (production : Production) (input : List Token) :
    (production.read input : Reading 0 (Phrase ε) input).Fair := by
  have exprs := Expr.readers_fair (ε := ε) input
  have types := Ty.fair_read (ε := ε) input
  cases production with
  | program => exact (Expr.fair_readProgram input).map _
  | onlyExpr => exact ((Expr.fair_readOnly input).map _).relax
  | expr => exact (exprs.expr.map _).relax
  | lambda => exact (exprs.lambda.map _).relax
  | binder => exact ((Expr.fair_readBinder input).map _).relax
  | sum => exact ((Expr.fair_readSum fun shorter _ => Expr.readers_fair shorter).map _).relax
  | application => exact (exprs.application.map _).relax
  | atom => exact (exprs.atom.map _).relax
  | type => exact (types.2.map _).relax
  | atomType => exact (types.1.map _).relax
  | onlyType => exact ((Ty.fair_readOnly input).map _).relax
  | binding => exact ((Ty.fair_readBinding input).map _).relax
  | atEnd => exact fair_done _

variable {production : Production} {input : List Token}

/-- Only a program can be empty, and a look at the end takes nothing. -/
theorem length_lt_of_value? {phrase : Phrase ε} {rest : List Token}
    (other : production ∉ [.program, .atEnd])
    (found : (production.read input).value? = some (phrase, rest)) : rest.length < input.length := by
  cases production
  case program | atEnd => simp at other
  all_goals exact taken_of_value? found

theorem finishes_read (closing : production ∈ [.program, .onlyExpr, .onlyType, .binding]) :
    (production.read input : Reading 0 (Phrase ε) input).Finishes := by
  simp only [List.mem_cons, List.not_mem_nil, or_false] at closing
  rcases closing with rfl | rfl | rfl | rfl
  · exact (Expr.finishes_readProgram input).map _
  · exact ((Expr.finishes_readOnly input).map _).relax
  · exact ((Ty.finishes_readOnly input).map _).relax
  · exact ((Ty.finishes_readBinding input).map _).relax

end Production

namespace Reader

/-- The reader after it was asked for some phrases, one after the other. -/
def after (ε : Type) (reader : Reader) (asked : List Production) : Reader :=
  asked.foldl
    (fun reader production => (reader.ask production : Except ReadError (Phrase ε) × Reader).2) reader

/-- The text is the same, and what is left of it are the last of the tokens that were left. -/
structure Continues (before after : Reader) : Prop where
  tokens : after.tokens = before.tokens
  stop : after.stop = before.stop
  rest : after.rest <:+ before.rest

theorem Continues.refl (reader : Reader) : Continues reader reader :=
  ⟨rfl, rfl, List.suffix_refl reader.rest⟩

theorem Continues.trans {first second third : Reader} (front : Continues first second)
    (back : Continues second third) : Continues first third where
  tokens := back.tokens.trans front.tokens
  stop := back.stop.trans front.stop
  rest := back.rest.trans front.rest

theorem continues_ask (reader : Reader) (production : Production) :
    Continues reader (reader.ask production : Except ReadError (Phrase ε) × Reader).2 :=
  ⟨rfl, rfl, (production.agrees_walk reader (Nat.le_refl _)).leaves⟩

theorem continues_after (reader : Reader) (asked : List Production) :
    Continues reader (reader.after ε asked) := by
  induction asked generalizing reader with
  | nil => exact .refl reader
  | cons production asked ih => exact (reader.continues_ask production).trans (ih _)

variable {before after : Reader}

theorem Continues.listing (continues : Continues before after) : after.listing = before.listing := by
  rw [Reader.listing, Reader.listing, continues.tokens, continues.stop]

theorem Continues.position_le (continues : Continues before after) :
    before.position ≤ after.position := by
  have shorter := continues.rest.length_le
  rw [position, position, continues.tokens]
  omega

theorem position_lt_length (reader : Reader) : reader.position < reader.listing.length := by
  rw [position, Reader.listing, List.length_append, List.length_singleton]
  omega

/-- The number of tokens that are gone is where those begin that are left. -/
theorem drop_position {reader : Reader} (stands : reader.rest <:+ reader.tokens) :
    reader.tokens.drop reader.position = reader.rest :=
  (List.suffix_iff_eq_drop.mp stands).symm

/-- What becomes of a reader that is asked for a phrase. -/
structure Answers (before : Reader) (production : Production) (outcome : Except ReadError (Phrase ε))
    (after : Reader) : Prop where
  /-- The walk from the position of the reader ends, at the position of the reader after it. -/
  ends : ∀ budget, 4 * before.listing.length + 1 ≤ budget →
    before.call budget production = some (outcome, after.position)
  outcomes : (∃ phrase, outcome = .ok phrase) ∨ ∃ error, outcome = .error (.malformed error)
  text : after.listing = before.listing
  left : after.rest = after.tokens.drop after.position
  forward : before.position ≤ after.position
  within : after.position ≤ before.listing.length - 1
  /-- A phrase takes up tokens, unless it is an empty program or a look at the end. -/
  progress : ∀ phrase, outcome = .ok phrase → production ∉ [.program, .atEnd] →
    before.position < after.position
  /-- A phrase that has to reach the end of the text leaves the mark for it. -/
  finish : ∀ phrase, outcome = .ok phrase →
    production ∈ [.program, .onlyExpr, .onlyType, .binding] →
      after.position = before.listing.length - 1 ∧
        before.listing[after.position]? = some before.endMark

/-- What is left are the last tokens of the text, none of which marks its end, and no number is too
long. -/
structure Proper (reader : Reader) : Prop where
  stands : reader.rest <:+ reader.tokens
  noEnd : ∀ t ∈ reader.tokens, t.kind ≠ .eof
  short : ∀ t ∈ reader.tokens, t.kind = .number → t.text.length ≤ numberLimit

theorem Proper.onward (proper : Proper before) (continues : Continues before after) :
    Proper after where
  stands := continues.tokens ▸ continues.rest.trans proper.stands
  noEnd := continues.tokens ▸ proper.noEnd
  short := continues.tokens ▸ proper.short

theorem length_listing (reader : Reader) : reader.listing.length = reader.tokens.length + 1 := by
  rw [Reader.listing, List.length_append, List.length_singleton]

theorem Proper.answers {reader : Reader} (proper : Proper reader) (production : Production) :
    Answers reader production (reader.ask production : Except ReadError (Phrase ε) × Reader).1
      (reader.ask production : Except ReadError (Phrase ε) × Reader).2 := by
  have continues := reader.continues_ask (ε := ε) production
  have length := reader.length_listing
  have fits := proper.stands.length_le
  constructor
  case ends => exact fun budget enough => call_eq_ask proper.stands (by omega) production
  case outcomes =>
    exact Source.conclude_of_short (production.fair_read reader.rest)
      (fun t member => proper.short t (proper.stands.subset member)) reader.stop
  case text => exact continues.listing
  case left => exact (drop_position (proper.onward continues).stands).symm
  case forward => exact continues.position_le
  case within => exact Nat.le_sub_one_of_lt (continues.listing ▸ position_lt_length _)
  case progress =>
    intro phrase found other
    obtain ⟨rest, value⟩ := Source.conclude_eq_ok.mp found
    have taken := Production.length_lt_of_value? other value
    rw [position, position, continues.tokens]
    simp only [ask, rest_of_value? value]
    omega
  case finish =>
    intro phrase found closing
    obtain ⟨rest, value⟩ := Source.conclude_eq_ok.mp found
    have noEnd : ∀ t ∈ reader.rest, t.kind ≠ .eof :=
      fun t member => proper.noEnd t (proper.stands.subset member)
    have nothing : rest = [] := Production.finishes_read closing phrase rest value noEnd
    have last : (reader.ask production : Except ReadError (Phrase ε) × Reader).2.position =
        reader.tokens.length := by
      simp only [ask, position, rest_of_value? value, nothing, List.length_nil, Nat.sub_zero]
    rw [last, length, Nat.add_sub_cancel]
    exact ⟨rfl, List.getElem?_concat_length⟩

/-- A walk that has ended says what the reader answers, and where it is then. -/
theorem Proper.ask_of_call {reader : Reader} (proper : Proper reader) (production : Production)
    {outcome : Except ReadError (Phrase ε)} {position : Nat} (budget : Nat)
    (enough : 4 * reader.listing.length + 1 ≤ budget)
    (called : reader.call budget production = some (outcome, position)) :
    reader.ask production = (outcome, ⟨reader.tokens, reader.stop, reader.tokens.drop position⟩) ∧
      Proper ⟨reader.tokens, reader.stop, reader.tokens.drop position⟩ := by
  have answers := proper.answers (ε := ε) production
  obtain ⟨rfl, rfl⟩ := Prod.mk.inj (Option.some.inj (called.symm.trans (answers.ends budget enough)))
  have moved := congrArg (Reader.mk reader.tokens reader.stop) answers.left
  exact ⟨Prod.ext rfl moved, proper.onward (moved ▸ reader.continues_ask production)⟩

theorem proper_ofSource {source : String} {file : Option String} {reader : Reader}
    (opened : ofSource source file = .ok reader)
    (short : ∀ t ∈ reader.tokens, t.kind = .number → t.text.length ≤ numberLimit) :
    Proper reader ∧ reader.listing = (Lexed.ofSource source file).listing file ∧
      reader.position = 0 := by
  simp only [ofSource] at opened
  cases error : (Lexed.ofSource source file).error with
  | some found =>
    rw [error] at opened
    cases opened
  | none =>
    rw [error] at opened
    cases opened
    have cuts := Lexed.cuts_of_scan error
    refine ⟨⟨List.suffix_refl _, fun t member => ?_, short⟩, ?_, Nat.sub_self _⟩
    · exact (cuts.spells t.word (List.mem_map_of_mem member)).ne_eof
    · simp only [Reader.listing, Lexed.listing, error]

/-- A reader of a text without overlong numbers answers whatever it is asked for, and whatever it was
asked for before. It never goes back, and it stays in the text. -/
theorem ask_after {source : String} {file : Option String} {reader : Reader}
    (opened : ofSource source file = .ok reader)
    (short : ∀ t ∈ reader.tokens, t.kind = .number → t.text.length ≤ numberLimit)
    (asked : List Production) (production : Production) :
    reader.listing = (Lexed.ofSource source file).listing file ∧ reader.position = 0 ∧
      (reader.after ε asked).listing = reader.listing ∧
      Answers (reader.after ε asked) production
        ((reader.after ε asked).ask production : Except ReadError (Phrase ε) × Reader).1
        ((reader.after ε asked).ask production : Except ReadError (Phrase ε) × Reader).2 := by
  obtain ⟨proper, listing, start⟩ := proper_ofSource opened short
  have continues := reader.continues_after (ε := ε) asked
  exact ⟨listing, start, continues.listing, (proper.onward continues).answers production⟩

/-- Twice a function is asked for that is not there. The first time only the parenthesis is gone, and
the second time all that comes before the number, which is then read up to the end. -/
theorem ask_after_mistakes :
    ∃ reader : Reader, ofSource "(fun y 12" none = .ok reader ∧
      (∀ t ∈ reader.tokens, t.kind = .number → t.text.length ≤ numberLimit) ∧
      (reader.after Empty [.lambda]).position = 1 ∧
      (reader.after Empty [.lambda, .lambda]).position = 3 ∧
      (reader.after Empty [.lambda, .lambda, .onlyExpr]).position = 4 ∧
      Answers (reader.after Empty [.lambda, .lambda]) .onlyExpr
        (.ok (.expr (.int 12)) : Except ReadError (Phrase Empty))
        (reader.after Empty [.lambda, .lambda, .onlyExpr]) := by
  let tokens : List Token := [⟨.lparen, "(", ⟨1, 1, none⟩⟩, ⟨.fn, "fun", ⟨1, 2, none⟩⟩,
    ⟨.ident, "y", ⟨1, 6, none⟩⟩, ⟨.number, "12", ⟨1, 8, none⟩⟩]
  let reader (position : Nat) : Reader := ⟨tokens, ⟨1, 10, none⟩, tokens.drop position⟩
  have opened : ofSource "(fun y 12" none = .ok (reader 0) := by
    have error : (Lexed.ofSource "(fun y 12" none).error = none := by decide +kernel
    have found : (Lexed.ofSource "(fun y 12" none).tokens = tokens := by decide +kernel
    have stop : (Lexed.ofSource "(fun y 12" none).cursor.location none = ⟨1, 10, none⟩ := by
      decide +kernel
    simp only [ofSource, error, found, stop, reader, List.drop_zero]
  have short : ∀ t ∈ tokens, t.kind = .number → t.text.length ≤ numberLimit := by decide +kernel
  -- Unlike the readers, the walks can be evaluated.
  have noName : (reader 0).call 21 .lambda =
      some ((.error (.malformed ⟨.expected .ident .fn, ⟨1, 2, none⟩⟩) :
        Except ReadError (Phrase Empty)), 1) := by rfl
  have noDot : (reader 1).call 21 .lambda =
      some ((.error (.malformed ⟨.expected .dot .number, ⟨1, 8, none⟩⟩) :
        Except ReadError (Phrase Empty)), 3) := by rfl
  have number : (reader 3).call 21 .onlyExpr =
      some ((.ok (.expr (.int 12)) : Except ReadError (Phrase Empty)), 4) := by
    simp only [reader, tokens]
    rfl
  have proper := (proper_ofSource opened short).1
  obtain ⟨first, proper⟩ : _ ∧ Proper (reader 1) := proper.ask_of_call .lambda 21 (by decide) noName
  obtain ⟨second, proper⟩ : _ ∧ Proper (reader 3) := proper.ask_of_call .lambda 21 (by decide) noDot
  obtain ⟨third, -⟩ := proper.ask_of_call .onlyExpr 21 (by decide) number
  have once : (reader 0).after Empty [.lambda] = reader 1 := congrArg Prod.snd first
  have twice : (reader 0).after Empty [.lambda, .lambda] = reader 3 := by
    change ((reader 0).after Empty [.lambda]).after Empty [.lambda] = reader 3
    rw [once]
    exact congrArg Prod.snd second
  have last : (reader 3).after Empty [.onlyExpr] = reader 4 := congrArg Prod.snd third
  have outcome : ((reader 3).ask .onlyExpr).1 = .ok (.expr (.int 12)) := congrArg Prod.fst third
  obtain ⟨-, -, -, answers⟩ := ask_after (ε := Empty) opened short [.lambda, .lambda] .onlyExpr
  refine ⟨reader 0, opened, short, ?_, ?_, ?_, ?_⟩
  · rw [once]
    rfl
  · rw [twice]
    rfl
  · change (((reader 0).after Empty [.lambda, .lambda]).after Empty [.onlyExpr]).position = 4
    rw [twice, last]
    rfl
  · change Answers _ _ _ (((reader 0).after Empty [.lambda, .lambda]).after Empty [.onlyExpr])
    rw [twice] at answers ⊢
    rw [outcome] at answers
    exact answers

end Reader

end Gradual
