import Gradual.Proofs.Grammar
import Gradual.Token.Lexer

/-! Cutting a text into words, one lexeme after the other. Each lexeme is cut with all the text after
it present, so that words and numbers are as long as they can be. A pass over a text succeeds
exactly if the text can be cut to its end, and finds the words of that cut. -/
namespace Gradual

namespace Lexeme

/-- Two characters that make up one lexeme, or open a comment. -/
def isPair (c d : Char) : Bool := (c, d) ∈ [('(', '*'), (';', ';'), ('-', '>'), ('\r', '\n')]

/-- The lexeme at a character that does not make a pair with the next one. -/
def single (c : Char) (rest : List Char) : Lexeme :=
  if isBlank c then .skipped (c :: rest.takeWhile isBlank) (rest.dropWhile isBlank)
  else if c = '\n' || c = '\r' then .skipped [c] rest
  else if isWordStart c then
    .token ((keyword? (c :: rest.takeWhile isWordChar)).getD .ident)
      (c :: rest.takeWhile isWordChar) (rest.dropWhile isWordChar)
  else if c.isDigit then
    .token .number (c :: rest.takeWhile Char.isDigit) (rest.dropWhile Char.isDigit)
  else
    match symbol? c with
    | some kind => .token kind [c] rest
    | none => .unexpected c

theorem first_cons {c : Char} {rest : List Char} (alone : ∀ d ∈ rest.head?, isPair c d = false) :
    first (c :: rest) = single c rest := by
  rw [first.eq_def]
  split
  case h_6 same => cases same; rfl
  all_goals simp_all [isPair]

theorem not_mem_of_class {p : Char → Bool} {c : Char} {others : List Char} (inside : p c = true)
    (outside : others.any p = false) : c ∉ others :=
  fun member => absurd inside (by simpa using List.any_eq_false.mp outside c member)

theorem first_blank {c : Char} (blank : isBlank c = true) (rest : List Char) :
    first (c :: rest) = .skipped (c :: rest.takeWhile isBlank) (rest.dropWhile isBlank) := by
  have others : c ∉ ['\r', '(', ';', '-'] := not_mem_of_class blank rfl
  simp only [List.mem_cons, List.not_mem_nil, or_false, not_or] at others
  rw [first_cons (by simp [isPair, others])]
  simp [single, blank]

theorem first_word {c : Char} (start : isWordStart c = true) (rest : List Char) :
    first (c :: rest) = .token ((keyword? (c :: rest.takeWhile isWordChar)).getD .ident)
      (c :: rest.takeWhile isWordChar) (rest.dropWhile isWordChar) := by
  have others : c ∉ [' ', '\t', '\n', '\r', '(', ';', '-'] := not_mem_of_class start rfl
  simp only [List.mem_cons, List.not_mem_nil, or_false, not_or] at others
  rw [first_cons (by simp [isPair, others])]
  simp [single, isBlank, others, start]

theorem isWordStart_digit {c : Char} (digit : c.isDigit = true) : isWordStart c = false := by
  have bounds := Char.isDigit_iff_toNat.mp digit
  have nine : '9'.toNat = 57 := rfl
  refine Bool.eq_false_iff.mpr fun start => ?_
  obtain lower | underscore := Bool.or_eq_true_iff.mp start
  · have low : 97 ≤ c.toNat := (of_decide_eq_true (Bool.and_eq_true_iff.mp lower).1 : 'a'.val ≤ c.val)
    omega
  · cases of_decide_eq_true underscore
    cases digit

theorem first_number {c : Char} (digit : c.isDigit = true) (rest : List Char) :
    first (c :: rest) = .token .number (c :: rest.takeWhile Char.isDigit)
      (rest.dropWhile Char.isDigit) := by
  have others : c ∉ [' ', '\t', '\n', '\r', '(', ';', '-'] := not_mem_of_class digit rfl
  simp only [List.mem_cons, List.not_mem_nil, or_false, not_or] at others
  rw [first_cons (by simp [isPair, others])]
  simp [single, isBlank, others, isWordStart_digit digit, digit]

theorem first_symbol {c : Char} {kind : Token.Kind} {rest : List Char}
    (symbol : symbol? c = some kind) (noComment : c = '(' → rest.head? ≠ some '*') :
    first (c :: rest) = .token kind [c] rest := by
  unfold symbol? at symbol
  have alone : ∀ d ∈ rest.head?, isPair c d = false := by
    intro d member
    split at symbol <;> simp_all [isPair]
  rw [first_cons alone]
  split at symbol <;> cases symbol <;> rfl

/-- Spellings of the tokens of each kind. -/
inductive Spells : Token.Kind → List Char → Prop
  | semisemi : Spells .semisemi [';', ';']
  | arrow : Spells .arrow ['-', '>']
  | symbol {c : Char} {kind : Token.Kind} (symbol : symbol? c = some kind) : Spells kind [c]
  | number {text : List Char} (digits : ∀ c ∈ text, c.isDigit = true) : Spells .number text
  | word {c : Char} {text : List Char} (start : isWordStart c = true)
      (rest : ∀ d ∈ text, isWordChar d = true) :
      Spells ((keyword? (c :: text)).getD .ident) (c :: text)

theorem Spells.ne_eof {kind : Token.Kind} {text : List Char} (spells : Spells kind text) :
    kind ≠ .eof := by
  cases spells with
  | semisemi | arrow | number => simp
  | symbol symbol =>
    unfold symbol? at symbol
    split at symbol <;> cases symbol <;> simp
  | word =>
    unfold keyword?
    split <;> simp

theorem single_spells {c : Char} {text rest left : List Char} {kind : Token.Kind}
    (found : single c rest = .token kind text left) : Spells kind text := by
  unfold single at found
  split at found
  · cases found
  split at found
  · cases found
  split at found
  next start =>
    cases found
    exact .word start (List.all_eq_true.mp List.all_takeWhile)
  split at found
  next digit =>
    cases found
    refine .number fun d member => ?_
    obtain rfl | member := List.mem_cons.mp member
    · exact digit
    · exact List.all_eq_true.mp List.all_takeWhile d member
  split at found
  next symbol =>
    cases found
    exact .symbol symbol
  next => cases found

theorem first_spells {input text rest : List Char} {kind : Token.Kind}
    (found : first input = .token kind text rest) : Spells kind text := by
  rw [first.eq_def] at found
  split at found
  next => cases found
  next => split at found <;> cases found
  next => cases found; exact .semisemi
  next => cases found; exact .arrow
  next => cases found
  next => exact single_spells found

theorem single_ne_finished (c : Char) (rest : List Char) : single c rest ≠ .finished := by
  unfold single
  repeat' split
  all_goals exact Lexeme.noConfusion

theorem eq_nil_of_finished {input : List Char} (found : first input = .finished) : input = [] := by
  rw [first.eq_def] at found
  split at found
  next => rfl
  next => split at found <;> cases found
  next => cases found
  next => cases found
  next => cases found
  next => exact absurd found (single_ne_finished _ _)

end Lexeme

/-- The text before `rest` is cut into the words, and blanks and comments between them. -/
inductive Cuts : List Char → List Word → List Char → Prop
  | nil {rest : List Char} : Cuts rest [] rest
  | token {input text middle rest : List Char} {kind : Token.Kind} {ws : List Word}
      (found : Lexeme.first input = .token kind text middle) (later : Cuts middle ws rest) :
      Cuts input (⟨kind, String.ofList text⟩ :: ws) rest
  | skipped {input text middle rest : List Char} {ws : List Word}
      (found : Lexeme.first input = .skipped text middle) (later : Cuts middle ws rest) :
      Cuts input ws rest

namespace Cuts

variable {input middle rest : List Char} {ws us : List Word}

theorem append (front : Cuts input ws middle) (back : Cuts middle us rest) :
    Cuts input (ws ++ us) rest := by
  induction front with
  | nil => exact back
  | token found _ ih => exact .token found (ih back)
  | skipped found _ ih => exact .skipped found (ih back)

theorem spells (cuts : Cuts input ws rest) :
    ∀ w ∈ ws, Lexeme.Spells w.kind w.text.toList := by
  induction cuts with
  | nil => simp
  | token found _ ih =>
    intro w member
    obtain rfl | member := List.mem_cons.mp member
    · simpa using Lexeme.first_spells found
    · exact ih w member
  | skipped _ _ ih => exact ih

/-- No lexeme begins with a star. -/
theorem head?_ne_star (cuts : Cuts input ws rest) (nonempty : ws ≠ []) :
    input.head? ≠ some '*' := by
  intro star
  obtain ⟨tail, rfl⟩ := List.head?_eq_some_iff.mp star
  have unexpected : Lexeme.first ('*' :: tail) = .unexpected '*' := by
    rw [Lexeme.first_cons (by simp [Lexeme.isPair])]
    rfl
  cases cuts with
  | nil => exact nonempty rfl
  | token found => rw [unexpected] at found; cases found
  | skipped found => rw [unexpected] at found; cases found

theorem symbol {c : Char} {kind : Token.Kind} (symbol : Lexeme.symbol? c = some kind)
    (noComment : c = '(' → ws ≠ []) (cuts : Cuts input ws rest) :
    Cuts (c :: input) (⟨kind, String.ofList [c]⟩ :: ws) rest :=
  .token (Lexeme.first_symbol symbol fun paren => cuts.head?_ne_star (noComment paren)) cuts

/-- A blank before a text does not change its words. -/
theorem blank {c : Char} (blank : Lexeme.isBlank c = true) (nonempty : ws ≠ [])
    (cuts : Cuts input ws rest) : Cuts (c :: input) ws rest := by
  refine .skipped (Lexeme.first_blank blank input) ?_
  cases input with
  | nil => exact cuts
  | cons d input =>
    cases next : Lexeme.isBlank d with
    | false => simpa [next] using cuts
    | true =>
      -- The blanks make up one lexeme, which the cut has to skip.
      have found := Lexeme.first_blank next input
      cases cuts with
      | nil => exact absurd rfl nonempty
      | token other => rw [found] at other; cases other
      | skipped other later =>
        rw [found] at other
        cases other
        simpa [next] using later

end Cuts

namespace Lexed

variable {file : Option String}

theorem scan_nil (cursor : Cursor) : scan file cursor [] = ⟨[], cursor, [], none⟩ := by
  rw [scan.eq_def]
  rfl

theorem scan_token {input text rest : List Char} {kind : Token.Kind} (cursor : Cursor)
    (found : Lexeme.first input = .token kind text rest) :
    scan file cursor input =
      { scan file (cursor.advance text) rest with
        tokens := ⟨kind, String.ofList text, cursor.location file⟩ ::
          (scan file (cursor.advance text) rest).tokens } := by
  rw [scan.eq_def]
  split <;> simp_all

theorem scan_skipped {input text rest : List Char} (cursor : Cursor)
    (found : Lexeme.first input = .skipped text rest) :
    scan file cursor input = scan file (cursor.advance text) rest := by
  rw [scan.eq_def]
  split <;> simp_all

theorem scan_unclosed {input : List Char} (cursor : Cursor)
    (found : Lexeme.first input = .unclosed) :
    scan file cursor input =
      ⟨[], cursor.advance input, [], some ⟨.unclosedComment, cursor.location file⟩⟩ := by
  rw [scan.eq_def]
  split <;> simp_all

theorem scan_unexpected {input : List Char} {c : Char} (cursor : Cursor)
    (found : Lexeme.first input = .unexpected c) :
    scan file cursor input =
      ⟨[], cursor, input, some ⟨.unexpectedCharacter c, cursor.location file⟩⟩ := by
  rw [scan.eq_def]
  split <;> simp_all

theorem cuts_of_scan {cursor : Cursor} {input : List Char}
    (finished : (scan file cursor input).error = none) :
    Cuts input ((scan file cursor input).tokens.map Token.word) [] := by
  fun_induction scan file cursor input with
  | case1 cursor input kind text rest found later ih =>
    exact .token found (ih finished)
  | case2 cursor input text rest found ih => exact .skipped found (ih finished)
  | case3 | case4 => cases finished
  | case5 cursor input found =>
    rw [Lexeme.eq_nil_of_finished found]
    exact .nil

theorem scan_of_cuts {input : List Char} {ws : List Word} (cuts : Cuts input ws [])
    (file : Option String) (cursor : Cursor) :
    (scan file cursor input).error = none ∧
      (scan file cursor input).tokens.map Token.word = ws := by
  generalize ends : ([] : List Char) = rest at cuts
  induction cuts generalizing cursor with
  | nil =>
    subst ends
    simp [scan_nil]
  | token found _ ih =>
    obtain ⟨finished, words⟩ := ih (cursor.advance _) ends
    rw [scan_token cursor found]
    exact ⟨finished, by simpa [Token.word] using words⟩
  | skipped found _ ih =>
    rw [scan_skipped cursor found]
    exact ih _ ends

end Lexed

end Gradual
