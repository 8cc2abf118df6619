import Gradual.Abort
import Gradual.Proofs.RoundTrip
import Gradual.Proofs.Seams

/-! Complaints about long numbers. What a reader leaves are the last of its tokens, so whatever it
complains of stands in the text: if that is the length of a number, then some run of digits passes the
limit. A text without such a run is read, or it has a mistake in it. -/
namespace Gradual

variable {ε : Type}

/-- One of the tokens is a number of so many digits, which are too many. -/
def TooLong (digits : Nat) (tokens : List Token) : Prop :=
  ∃ t ∈ tokens, t.kind = .number ∧ t.text.length = digits ∧ numberLimit < digits

theorem TooLong.of_suffix {digits : Nat} {tokens input : List Token} (long : TooLong digits tokens)
    (ends : tokens <:+ input) : TooLong digits input := by
  obtain ⟨t, member, tooLong⟩ := long
  exact ⟨t, ends.subset member, tooLong⟩

namespace Reading

variable {α β : Type} {least more : Nat} {input : List Token}

/-- What is left are the last tokens, and a number that is complained of is one of the tokens. -/
def Fair : Reading least α input → Prop
  | .value _ rest _ => rest <:+ input
  | .stuck (.cause _ _) _ _ => True
  | .stuck (.numberTooLong digits) _ _ => TooLong digits input

theorem fair_done (a : α) : (done a : Reading 0 α input).Fair := List.suffix_refl input

theorem fair_fail (cause : SyntaxError.Cause) (place : Option Location) :
    (fail cause place : Reading least α input).Fair := trivial

theorem Fair.map {reading : Reading least α input} (fair : reading.Fair) (f : α → β) :
    (reading.map f).Fair := by
  cases reading with
  | value => exact fair
  | stuck complaint => cases complaint <;> exact fair

theorem Fair.relax {reading : Reading least α input} (fair : reading.Fair) : reading.relax.Fair := by
  cases reading with
  | value => exact fair
  | stuck complaint => cases complaint <;> exact fair

theorem Fair.after {reading : Reading least α input} (fair : reading.Fair) (t : Token) :
    (reading.after t).Fair := by
  cases reading with
  | value => exact fair.trans (List.suffix_cons t input)
  | stuck complaint =>
    cases complaint with
    | cause => trivial
    | numberTooLong => exact fair.of_suffix (List.suffix_cons t input)

theorem Fair.widen {shorter : List Token} {reading : Reading 1 α shorter} (fair : reading.Fair)
    (ends : shorter <:+ input) : (reading.widen ends.length_le).Fair := by
  cases reading with
  | value => exact fair.trans ends
  | stuck complaint =>
    cases complaint with
    | cause => trivial
    | numberTooLong => exact fair.of_suffix ends

theorem Fair.andThen {first : Reading least α input}
    {next : α → (rest : List Token) → rest.length + least ≤ input.length → Reading more β rest}
    (fair : first.Fair) (later : ∀ a rest taken, (next a rest taken).Fair) :
    (first.andThen next).Fair := by
  cases first with
  | stuck complaint => cases complaint <;> exact fair
  | value a rest taken =>
    have fairLater := later a rest taken
    have ends : rest <:+ input := fair
    simp only [Reading.andThen]
    cases reading : next a rest taken with
    | value b left =>
      rw [reading] at fairLater
      exact fairLater.trans ends
    | stuck complaint =>
      rw [reading] at fairLater
      cases complaint with
      | cause => trivial
      | numberTooLong => exact fairLater.of_suffix ends

end Reading

open Reading

theorem fair_expect (wanted : Token.Kind) (input : List Token) : (expect wanted input).Fair := by
  cases input with
  | nil => exact fair_fail _ _
  | cons t rest =>
    simp only [expect]
    split
    · exact (fair_done t).after t
    · exact fair_fail _ _

theorem fair_optional (kind : Token.Kind) (input : List Token) : (optional kind input).Fair := by
  cases input with
  | nil => exact fair_done false
  | cons t rest =>
    simp only [optional]
    split
    · exact ((fair_done true).after t).relax
    · exact fair_done false

theorem fair_expectEnd (input : List Token) : (expectEnd input).Fair := by
  cases input with
  | nil => exact fair_done ()
  | cons t rest =>
    simp only [expectEnd]
    split
    · exact ((fair_done ()).after t).relax
    · exact fair_fail _ _

namespace Ty

theorem fair_read (input : List Token) :
    (readAtom input : Reading 1 (Ty ε) input).Fair ∧ (read input : Reading 1 (Ty ε) input).Fair := by
  induction length : input.length using Nat.strongRecOn generalizing input with
  | ind n ih =>
  have atom : (readAtom input : Reading 1 (Ty ε) input).Fair := by
    rw [readAtom.eq_def]
    cases input with
    | nil => exact fair_fail _ _
    | cons t rest =>
      have inner := (ih rest.length (by simp [← length]) rest rfl).2
      simp only
      split
      · exact (inner.andThen fun _ rest _ => (fair_expect .rparen rest).map _).after t
      · exact (fair_done _).after t
      · exact (fair_done _).after t
      · exact (fair_done _).after t
      · exact fair_fail _ _
  refine ⟨atom, ?_⟩
  rw [read]
  refine atom.andThen fun dom rest taken => ?_
  cases rest with
  | nil => exact fair_done dom
  | cons t rest =>
    have below : rest.length < n := by
      simp only [List.length_cons] at taken
      omega
    simp only
    split
    · exact (((ih rest.length below rest rfl).2.map _).after t).relax
    · exact fair_done dom

theorem fair_readOnly (input : List Token) : (readOnly input : Reading 1 (Ty ε) input).Fair :=
  (fair_read input).2.andThen fun _ rest _ => (fair_expectEnd rest).map _

theorem fair_readBinding (input : List Token) :
    (readBinding input : Reading 1 (String × Ty ε) input).Fair :=
  (fair_expect .ident input).andThen fun _ rest _ =>
    (fair_expect .colon rest).andThen fun _ rest _ => (fair_readOnly rest).map _

end Ty

namespace Expr

theorem fair_readBinder (input : List Token) :
    (readBinder input : Reading 1 (String × Option (Ty ε)) input).Fair := by
  unfold readBinder
  split
  · exact (fair_expect .lparen input).andThen fun _ rest _ =>
      (fair_expect .ident rest).andThen fun _ rest _ =>
        (fair_expect .colon rest).andThen fun _ rest _ =>
          (Ty.fair_read rest).2.andThen fun _ rest _ => (fair_expect .rparen rest).map _
  · refine (fair_expect .ident input).andThen fun name rest _ => ?_
    cases rest with
    | nil => exact fair_done _
    | cons t rest =>
      simp only
      split
      · exact (((Ty.fair_read rest).1.map _).after t).relax
      · exact fair_done _

theorem fair_readBodyMark (input : List Token) : (readBodyMark input).Fair := by
  unfold readBodyMark
  split
  · exact fair_expect .arrow input
  · exact fair_expect .dot input

theorem fair_readNumber {t : Token} (kind : t.kind = .number) (rest : List Token) :
    (readNumber t rest : Reading 1 (Expr ε) (t :: rest)).Fair := by
  unfold readNumber
  split
  · split
    next => exact (fair_done _).after t
    next long => exact ⟨t, List.mem_cons_self, kind, rfl, Nat.not_le.mp long⟩
  · exact fair_fail _ _

structure AllFair (ε : Type) (input : List Token) : Prop where
  atom : (readAtom input : Reading 1 (Expr ε) input).Fair
  moreApplication : ∀ f : Expr ε, (readMoreApplication f input).Fair
  moreSum : ∀ l : Expr ε, (readMoreSum l input).Fair
  application : (readApplication input : Reading 1 (Expr ε) input).Fair
  lambda : (readLambda input : Reading 1 (Expr ε) input).Fair
  expr : (read input : Reading 1 (Expr ε) input).Fair

-- As with exactness, each reader is taken in turn while all of them are fair on fewer tokens.
section Below

variable {input : List Token}
  (below : ∀ shorter : List Token, shorter.length < input.length → AllFair ε shorter)
include below

theorem fair_readAtom : (readAtom input : Reading 1 (Expr ε) input).Fair := by
  rw [readAtom.eq_def]
  cases input with
  | nil => exact fair_fail _ _
  | cons t rest =>
    have inner := (below rest (by simp)).expr
    simp only
    split
    next => exact (inner.andThen fun _ rest _ => (fair_expect .rparen rest).map _).after t
    next => exact (fair_done _).after t
    next kind => exact fair_readNumber kind rest
    next => exact (fair_done _).after t
    next => exact (fair_done _).after t
    next => exact fair_fail _ _

theorem fair_readMoreApplication (f : Expr ε) : (readMoreApplication f input).Fair := by
  rw [readMoreApplication]
  split
  · refine ((fair_readAtom below).andThen fun arg rest taken => ?_).relax
    exact (below rest (by omega)).moreApplication (.app f arg)
  · exact fair_done f

theorem fair_readApplication : (readApplication input : Reading 1 (Expr ε) input).Fair := by
  rw [readApplication]
  refine (fair_readAtom below).andThen fun f rest taken => ?_
  exact (below rest (by omega)).moreApplication f

theorem fair_readMoreSum (l : Expr ε) : (readMoreSum l input).Fair := by
  rw [readMoreSum.eq_def]
  cases input with
  | nil => exact fair_done l
  | cons t rest =>
    have readers := below rest (by simp)
    have further (r : Expr ε) (left : List Token) (taken : left.length + 1 ≤ rest.length) :=
      (below left (by simp only [List.length_cons]; omega)).moreSum (.add l r)
    simp only
    split
    · split
      · exact ((readers.lambda.andThen further).after t).relax
      · exact ((readers.application.andThen further).after t).relax
    · exact fair_done l

theorem fair_readLambda : (readLambda input : Reading 1 (Expr ε) input).Fair := by
  rw [readLambda]
  refine Fair.widen ?_ (List.tail_suffix input)
  refine (fair_readBinder _).andThen fun binder rest taken => ?_
  refine (fair_readBodyMark rest).andThen fun _ left taken' => ?_
  exact (below left (by simp only [List.length_tail] at taken; omega)).expr.map _

theorem fair_readSum : (readSum input : Reading 1 (Expr ε) input).Fair := by
  rw [readSum]
  refine (fair_readApplication below).andThen fun left rest taken => ?_
  exact (below rest (by omega)).moreSum left

theorem fair_read : (read input : Reading 1 (Expr ε) input).Fair := by
  rw [read]
  split
  · exact fair_readLambda below
  · exact fair_readSum below

end Below

theorem readers_fair (input : List Token) : AllFair ε input := by
  induction length : input.length using Nat.strongRecOn generalizing input with
  | ind n ih =>
  have below : ∀ shorter : List Token, shorter.length < input.length → AllFair ε shorter :=
    fun shorter less => ih _ (length ▸ less) shorter rfl
  exact {
    atom := fair_readAtom below
    moreApplication := fair_readMoreApplication below
    moreSum := fair_readMoreSum below
    application := fair_readApplication below
    lambda := fair_readLambda below
    expr := fair_read below }

theorem fair_readProgram (input : List Token) :
    (readProgram input : Reading 0 (List (Expr ε)) input).Fair := by
  induction length : input.length using Nat.strongRecOn generalizing input with
  | ind n ih =>
  rw [readProgram.eq_def]
  cases input with
  | nil => exact fair_done []
  | cons t rest =>
    simp only [List.length_cons] at length
    simp only
    split
    · exact fair_done []
    split
    · exact ((ih rest.length (by omega) rest rfl).after t).relax
    refine ((readers_fair (t :: rest)).expr.andThen fun e left taken => ?_).relax
    split
    · exact fair_done [e]
    · refine ((fair_expect .semisemi left).andThen fun _ later taken' => ?_).relax
      exact (ih later.length (by simp only [List.length_cons] at taken; omega) later rfl).map _

theorem fair_readOnly (input : List Token) : (readOnly input : Reading 1 (Expr ε) input).Fair :=
  (readers_fair input).expr.andThen fun _ rest _ =>
    (fair_optional .semisemi rest).andThen fun _ rest _ => (fair_expectEnd rest).map _

end Expr

/-- No run of digits is longer than a number may be. -/
def ShortRuns (text : List Char) : Prop :=
  ∀ run, run <:+: text → (∀ c ∈ run, c.isDigit = true) → run.length ≤ numberLimit

theorem ShortRuns.of_inside {text part : List Char} (short : ShortRuns text) (inside : part <:+: text) :
    ShortRuns part := fun run within digits => short run (within.trans inside) digits

theorem Cuts.words_inside {input rest : List Char} {ws : List Word} (cuts : Cuts input ws rest) :
    ∀ w ∈ ws, w.text.toList <:+: input := by
  induction cuts with
  | nil => exact List.forall_mem_nil _
  | @token input text middle _ _ _ found _ ih =>
    have same := Lexeme.append_of_token found
    refine List.forall_mem_cons.mpr ⟨?_, fun w member => ?_⟩
    · rw [String.toList_ofList, ← same]
      exact (List.prefix_append text middle).isInfix
    · rw [← same]
      exact (ih w member).trans (List.suffix_append text middle).isInfix
  | @skipped input text middle _ _ found _ ih =>
    have same := Lexeme.append_of_skipped found
    intro w member
    rw [← same]
    exact (ih w member).trans (List.suffix_append text middle).isInfix

theorem Source.conclude_of_short {α : Type} {least : Nat} {input : List Token}
    {reading : Reading least α input} (fair : reading.Fair)
    (short : ∀ t ∈ input, t.kind = .number → t.text.length ≤ numberLimit) (stop : Location) :
    (∃ a, conclude stop reading = .ok a) ∨
      ∃ error, conclude stop reading = .error (.malformed error) := by
  cases reading with
  | value a => exact .inl ⟨a, rfl⟩
  | stuck complaint rest =>
    cases complaint with
    | cause cause place => exact .inr ⟨_, rfl⟩
    | numberTooLong digits =>
      obtain ⟨t, member, number, length, long⟩ := fair
      have fits := short t member number
      omega

theorem Source.attempt_of_short {α : Type} {least : Nat}
    {reader : (input : List Token) → Reading least α input} (fair : ∀ input, (reader input).Fair)
    {source : String} (short : ShortRuns source.toList) (file : Option String) :
    ∃ outcome, Source.attempt (Source.readWith reader source file) = .ok outcome := by
  simp only [readWith]
  cases error : (Lexed.ofSource source file).error with
  | some error => exact ⟨_, rfl⟩
  | none =>
    have cuts := Lexed.cuts_of_scan error
    have fits : ∀ t ∈ (Lexed.ofSource source file).tokens, t.kind = .number →
        t.text.length ≤ numberLimit := by
      intro t member number
      have word := List.mem_map_of_mem (f := Token.word) member
      have within := short _ (cuts.words_inside t.word word)
        (Lexeme.digits_of_spells (cuts.spells t.word word) number)
      simpa only [Token.text_word, String.length_toList] using within
    have concluded := conclude_of_short (fair _) fits ((Lexed.ofSource source file).cursor.location file)
    simp only
    obtain ⟨a, same⟩ | ⟨error, same⟩ := concluded
    · exact ⟨.ok a, by rw [same]; rfl⟩
    · exact ⟨.error error, by rw [same]; rfl⟩

end Gradual
