import Gradual.Proofs.Seams

/-! What is skipped only separates. Blanks that meet blanks make up one stretch, and a carriage return
that meets a line feed makes up one line end with it; otherwise a stretch that is skipped goes on no
piece before it, and nothing after it goes on the stretch. So a text with such a stretch in its middle
has the words of both sides, and whether a pass reaches its end is up to the second side alone. -/
namespace Gradual

/-- The lexer cuts nothing off: the text is at its end, or there is a cause why it goes no further. -/
inductive Halts : List Char → Option SyntaxError.Cause → Prop
  | finished : Halts [] none
  | unclosed {rest : List Char} (found : Lexeme.first rest = .unclosed) :
      Halts rest (some .unclosedComment)
  | unexpected {rest : List Char} {c : Char} (found : Lexeme.first rest = .unexpected c) :
      Halts rest (some (.unexpectedCharacter c))

theorem Halts.first_ne_skipped {rest : List Char} {cause : Option SyntaxError.Cause}
    (halts : Halts rest cause) (text middle : List Char) :
    Lexeme.first rest ≠ .skipped text middle := by
  cases halts with
  | finished => exact Lexeme.noConfusion
  | unclosed found | unexpected found =>
    rw [found]
    exact Lexeme.noConfusion

namespace Lexeme

variable {input text middle later : List Char}

theorem matches_of_skipped (found : first input = .skipped text middle) :
    Matches none text middle := by
  have shows := first_shows input
  rw [found] at shows
  cases shows with
  | blanks nonempty blank => exact .blanks nonempty blank
  | lineEnd member => exact .lineEnd member
  | comment tail => exact .comment tail

theorem StopsAt.append {inClass : Char → Bool} (ends : StopsAt inClass middle)
    (begins : StopsAt inClass later) : StopsAt inClass (middle ++ later) := by
  cases middle with
  | nil => exact begins
  | cons c middle => exact ends

/-- The next character goes on no token and opens no comment after a parenthesis. -/
structure Separates (later : List Char) : Prop where
  noWord : StopsAt isWordChar later
  noStar : later.head? ≠ some '*'

theorem Separates.noDigit (separates : Separates later) : StopsAt Char.isDigit later := by
  intro c next
  refine Bool.eq_false_iff.mpr fun digit => ?_
  have outside := separates.noWord c next
  rw [isWordChar_of_digit digit] at outside
  cases outside

theorem Matches.separates (matched : Matches none text middle) (later : List Char) :
    Separates (text ++ later) := by
  suffices begins : (∀ c ∈ text.head?, isWordChar c = false) ∧ text.head? ≠ some '*' by
    rw [← head?_append matched.ne_nil later] at begins
    exact ⟨begins.1, begins.2⟩
  cases matched with
  | blanks nonempty blank =>
    obtain ⟨c, more, rfl⟩ := List.exists_cons_of_ne_nil nonempty
    have here := blank c List.mem_cons_self
    constructor
    · rintro _ ⟨rfl⟩
      exact isWordChar_of_blank here
    · rintro ⟨rfl⟩
      cases here
  | lineEnd member =>
    simp only [lineEnds, List.mem_cons, List.not_mem_nil, or_false] at member
    obtain rfl | rfl | rfl := member <;>
    · constructor
      · rintro _ ⟨rfl⟩
        rfl
      · simp
  | comment =>
    constructor
    · rintro _ ⟨rfl⟩
      rfl
    · simp

theorem first_token_separates {kind : Token.Kind} (found : first input = .token kind text middle)
    (separates : Separates later) :
    first (text ++ (middle ++ later)) = .token kind text (middle ++ later) := by
  refine first_token_before found ?_ ?_ ?_
  · exact fun ends => ends.append separates.noWord
  · exact fun ends => ends.append separates.noDigit
  · intro noStar
    cases middle with
    | nil => exact separates.noStar
    | cons c middle => exact noStar

end Lexeme

namespace Lexed

/-- A pass finds the words before the place where the lexer goes no further. -/
theorem scan_cuts (file : Option String) (cursor : Cursor) (input : List Char) :
    ∃ rest, Cuts input ((scan file cursor input).tokens.map Token.word) rest ∧
      Halts rest ((scan file cursor input).error.map SyntaxError.cause) := by
  fun_induction scan file cursor input with
  | case1 cursor input kind text middle found later ih =>
    obtain ⟨rest, cuts, halts⟩ := ih
    exact ⟨rest, .token found cuts, halts⟩
  | case2 cursor input text middle found ih =>
    obtain ⟨rest, cuts, halts⟩ := ih
    exact ⟨rest, .skipped found cuts, halts⟩
  | case3 cursor input found => exact ⟨input, .nil, .unclosed found⟩
  | case4 cursor input c found => exact ⟨input, .nil, .unexpected found⟩
  | case5 cursor input found =>
    obtain rfl := Lexeme.eq_nil_of_finished found
    exact ⟨[], .nil, .finished⟩

theorem scan_of_halts {input rest : List Char} {ws : List Word} {cause : Option SyntaxError.Cause}
    (cuts : Cuts input ws rest) (halts : Halts rest cause) (file : Option String) (cursor : Cursor) :
    (scan file cursor input).tokens.map Token.word = ws ∧
      (scan file cursor input).error.map SyntaxError.cause = cause := by
  induction cuts generalizing cursor with
  | nil =>
    cases halts with
    | finished =>
      rw [scan_nil]
      exact ⟨rfl, rfl⟩
    | unclosed found =>
      rw [scan_unclosed cursor found]
      exact ⟨rfl, rfl⟩
    | unexpected found =>
      rw [scan_unexpected cursor found]
      exact ⟨rfl, rfl⟩
  | token found _ ih =>
    obtain ⟨words, stopped⟩ := ih halts (cursor.advance _)
    rw [scan_token cursor found]
    exact ⟨congrArg _ words, stopped⟩
  | skipped found _ ih =>
    rw [scan_skipped cursor found]
    exact ih halts _

end Lexed

namespace Cuts

open Lexeme

variable {input text middle later rest : List Char} {ws us : List Word}
  {cause : Option SyntaxError.Cause}

theorem after_skipped (cuts : Cuts input ws rest) (halts : Halts rest cause)
    (found : first input = .skipped text middle) : Cuts middle ws rest := by
  cases cuts with
  | nil => exact absurd found (halts.first_ne_skipped text middle)
  | token other => rw [found] at other; cases other
  | skipped other later =>
    rw [found] at other
    cases other
    exact later

theorem dropBlanks (cuts : Cuts later ws rest) (halts : Halts rest cause) :
    Cuts (later.dropWhile isBlank) ws rest := by
  cases later with
  | nil => exact cuts
  | cons c tail =>
    cases blank : isBlank c with
    | false => simpa [blank] using cuts
    | true => simpa [blank] using cuts.after_skipped halts (first_blank blank tail)

/-- Whatever fits a pattern that is skipped can be put before a text. -/
theorem skip (matched : Matches none text middle) (cuts : Cuts later ws rest)
    (halts : Halts rest cause) : Cuts (text ++ later) ws rest := by
  cases matched with
  | blanks nonempty blank =>
    -- The blanks at the beginning of the text belong to the same stretch.
    have joined : text ++ later = text ++ later.takeWhile isBlank ++ later.dropWhile isBlank := by
      rw [List.append_assoc, List.takeWhile_append_dropWhile]
    have blanks : ∀ c ∈ text ++ later.takeWhile isBlank, isBlank c = true :=
      List.forall_mem_append.mpr ⟨blank, List.all_eq_true.mp List.all_takeWhile⟩
    have shows := Shows.blanks (List.append_ne_nil_of_left_ne_nil nonempty _) blanks
      (stopsAt_dropWhile isBlank later)
    rw [joined]
    exact .skipped shows.first_skipped (cuts.dropBlanks halts)
  | lineEnd member =>
    by_cases whole : text = ['\r'] → later.head? ≠ some '\n'
    · exact .skipped (Shows.lineEnd member whole).first_skipped cuts
    · -- The text begins with the other half of the line end.
      obtain ⟨rfl, feed⟩ := Decidable.not_imp_iff_and_not.mp whole
      obtain ⟨tail, rfl⟩ := List.head?_eq_some_iff.mp (Decidable.not_not.mp feed)
      have feed : Shows (['\n'] ++ tail) (.skipped ['\n'] tail) :=
        .lineEnd (by decide) (by simp)
      have both : first ('\r' :: '\n' :: tail) = .skipped ['\r', '\n'] tail := rfl
      exact .skipped both (cuts.after_skipped halts feed.first_skipped)
  | comment tail => exact .skipped (Shows.comment tail).first_skipped cuts

/-- A text without words can be put before another one. -/
theorem after_separator (separator : Cuts input [] []) (cuts : Cuts later ws rest)
    (halts : Halts rest cause) : Cuts (input ++ later) ws rest := by
  generalize noWords : ([] : List Word) = us at separator
  generalize ends : ([] : List Char) = left at separator
  induction separator with
  | nil =>
    subst ends
    exact cuts
  | token => cases noWords
  | skipped found _ ih =>
    rw [← append_of_skipped found, List.append_assoc]
    exact (ih noWords ends).skip (matches_of_skipped found) halts

theorem separates (separator : Cuts input [] []) (nonempty : input ≠ []) (later : List Char) :
    Separates (input ++ later) := by
  cases separator with
  | nil => exact absurd rfl nonempty
  | skipped found =>
    rw [← append_of_skipped found, List.append_assoc]
    exact (matches_of_skipped found).separates _

/-- A text that is cut to its end is cut the same before a text that goes on no token. -/
theorem before_separator (cuts : Cuts input ws []) (separates : Separates later)
    (back : Cuts later us rest) (halts : Halts rest cause) :
    Cuts (input ++ later) (ws ++ us) rest := by
  generalize ends : ([] : List Char) = left at cuts
  induction cuts with
  | nil =>
    subst ends
    exact back
  | token found _ ih =>
    rw [← append_of_token found, List.append_assoc]
    exact .token (first_token_separates found separates) (ih ends)
  | skipped found _ ih =>
    rw [← append_of_skipped found, List.append_assoc]
    exact (ih ends).skip (matches_of_skipped found) halts

end Cuts

namespace Lexed

theorem error_eq_none_iff {lexed other : Lexed}
    (causes : lexed.error.map SyntaxError.cause = other.error.map SyntaxError.cause) :
    lexed.error = none ↔ other.error = none := by
  rw [← Option.map_eq_none_iff (f := SyntaxError.cause), causes, Option.map_eq_none_iff]

theorem listing_words {lexed : Lexed} (finished : lexed.error = none) (file : Option String) :
    (lexed.listing file).map Token.word = lexed.tokens.map Token.word ++ [⟨.eof, ""⟩] := by
  simp [listing, finished, Token.word]

/-- A text that is cut to its end, something to be skipped and another text together are cut to the
end exactly if the other text is. The words are then those of the two texts, with one mark for the
end, and otherwise the pass goes no further for the same cause. -/
theorem ofSource_separated (p w s : String) (file fileP fileW fileS : Option String)
    (cleanP : (ofSource p fileP).error = none) (nonempty : w ≠ "")
    (cleanW : (ofSource w fileW).error = none) (noTokens : (ofSource w fileW).tokens = []) :
    ((ofSource (p ++ w ++ s) file).error = none ↔ (ofSource s fileS).error = none) ∧
      ((ofSource s fileS).error = none →
        ((ofSource (p ++ w ++ s) file).listing file).map Token.word =
          ((ofSource p fileP).listing fileP).dropLast.map Token.word ++
            ((ofSource s fileS).listing fileS).map Token.word) ∧
      (ofSource (p ++ w ++ s) file).error.map SyntaxError.cause =
        (ofSource s fileS).error.map SyntaxError.cause := by
  have cutsP := cuts_of_scan cleanP
  have cutsW := cuts_of_scan cleanW
  rw [ofSource] at noTokens
  rw [noTokens] at cutsW
  obtain ⟨rest, cutsS, halts⟩ := scan_cuts fileS .start s.toList
  have separates := cutsW.separates (by simpa using nonempty) s.toList
  have cuts := cutsP.before_separator separates (cutsW.after_separator cutsS halts) halts
  rw [← String.toList_append, ← String.toList_append, ← String.append_assoc] at cuts
  obtain ⟨words, cause⟩ := scan_of_halts cuts halts file .start
  have errors : (ofSource (p ++ w ++ s) file).error = none ↔ (ofSource s fileS).error = none :=
    error_eq_none_iff cause
  refine ⟨errors, fun cleanS => ?_, cause⟩
  rw [listing_words (errors.mpr cleanS), listing_words cleanS, List.map_dropLast,
    listing_words cleanP, List.dropLast_concat, ← List.append_assoc]
  exact congrArg (· ++ _) words

/-- A comment after a parenthesis, whose first star does not close it, with half a line end after it:
the other half belongs to what follows, once a text that is cut to its end and once one that is not. -/
theorem ofSource_separated_lineEnd :
    let p := "f("
    let w := "(*)*)\r"
    (ofSource p none).error = none ∧ w ≠ "" ∧ (ofSource w none).error = none ∧
      (ofSource w none).tokens = [] ∧
      (ofSource (p ++ w ++ "\n12 fun") none).error = none ∧
      ((ofSource (p ++ w ++ "\n12 fun") none).listing none).map Token.word =
        [⟨.ident, "f"⟩, ⟨.lparen, "("⟩, ⟨.number, "12"⟩, ⟨.fn, "fun"⟩, ⟨.eof, ""⟩] ∧
      (ofSource (p ++ w ++ "\n)*") none).error.map SyntaxError.cause =
        some (.unexpectedCharacter '*') := by
  intro p w
  have cleanP : (ofSource p none).error = none := by decide +kernel
  have nonempty : w ≠ "" := by decide
  have cleanW : (ofSource w none).error = none := by decide +kernel
  have noTokens : (ofSource w none).tokens = [] := by decide +kernel
  have joined (s : String) :=
    ofSource_separated p w s none none none none cleanP nonempty cleanW noTokens
  obtain ⟨errors, words, -⟩ := joined "\n12 fun"
  have clean : (ofSource "\n12 fun" none).error = none := by decide +kernel
  refine ⟨cleanP, nonempty, cleanW, noTokens, errors.mpr clean, ?_, ?_⟩
  · rw [words clean]
    decide +kernel
  · rw [(joined "\n)*").2.2]
    decide +kernel

end Lexed

end Gradual
