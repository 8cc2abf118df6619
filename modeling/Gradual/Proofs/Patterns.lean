import Gradual.Proofs.Lexing

/-! Patterns by which a text can be cut, and what the lexer finds at the beginning of a text. A
pattern may fit in more than one way; of a word, a number or a stretch of blanks the lexer takes as
much as there is, and otherwise there is no choice. -/
namespace Gradual

namespace Lexeme

theorem head?_append {front : List Char} (nonempty : front ≠ []) (back : List Char) :
    (front ++ back).head? = front.head? := by
  cases front with
  | nil => exact absurd rfl nonempty
  | cons => rfl

/-- What follows the mark that opens a comment, with the mark that closes it. A mark is taken as
soon as it is met, so that `(*)` opens a comment and closes none. -/
inductive CommentTail : List Char → Prop
  | close : CommentTail ['*', ')']
  | nested {inner rest : List Char} (comment : CommentTail inner) (later : CommentTail rest) :
      CommentTail ('(' :: '*' :: (inner ++ rest))
  | char {c : Char} {rest : List Char}
      (noMark : ∀ d ∈ rest.head?, (c, d) ∉ [('(', '*'), ('*', ')')]) (later : CommentTail rest) :
      CommentTail (c :: rest)

theorem CommentTail.ne_nil {text : List Char} (tail : CommentTail text) : text ≠ [] := by
  cases tail <;> exact List.cons_ne_nil _ _

theorem closeComment_char {c : Char} {rest : List Char}
    (noMark : ∀ d ∈ rest.head?, (c, d) ∉ [('(', '*'), ('*', ')')]) (depth : Nat) :
    closeComment depth (c :: rest) =
      (closeComment depth rest).map fun closed => (c :: closed.1, closed.2) := by
  rw [closeComment.eq_def]
  split
  case h_4 same =>
    cases same
    rfl
  all_goals simp_all

/-- Where the walk through a comment takes a single character, no mark stands. -/
theorem noMark_of_walk {depth : Nat} {c : Char} {rest : List Char}
    (noClose : ∀ more, depth = 0 → c = '*' → rest = ')' :: more → False)
    (noDeepClose : ∀ inner more, depth = inner + 1 → c = '*' → rest = ')' :: more → False)
    (noOpen : ∀ more, c = '(' → rest = '*' :: more → False) :
    ∀ d ∈ rest.head?, (c, d) ∉ [('(', '*'), ('*', ')')] := by
  intro d member mark
  obtain ⟨more, rfl⟩ := List.head?_eq_some_iff.mp member
  simp only [List.mem_cons, Prod.mk.injEq, List.not_mem_nil, or_false] at mark
  obtain ⟨rfl, rfl⟩ | ⟨rfl, rfl⟩ := mark
  · exact noOpen more rfl rfl
  · cases depth with
    | zero => exact noClose more rfl rfl rfl
    | succ depth => exact noDeepClose depth more rfl rfl rfl

theorem CommentTail.closeComment {text : List Char} (tail : CommentTail text) (more : List Char) :
    closeComment 0 (text ++ more) = some (text, more) ∧
      ∀ depth, Lexeme.closeComment (depth + 1) (text ++ more) =
        (Lexeme.closeComment depth more).map fun closed => (text ++ closed.1, closed.2) := by
  induction tail generalizing more with
  | close => exact ⟨rfl, fun depth => rfl⟩
  | @nested inner rest _ _ comment later =>
    obtain ⟨-, inside⟩ := comment (rest ++ more)
    obtain ⟨outermost, deeper⟩ := later more
    constructor
    · simp [Lexeme.closeComment, inside, outermost]
    · intro depth
      simp [Lexeme.closeComment, inside, deeper, Function.comp_def]
  | @char c rest noMark tail later =>
    obtain ⟨outermost, deeper⟩ := later more
    -- What comes after the tail cannot make up a mark with `c`, as the tail is not empty.
    have next : ∀ d ∈ (rest ++ more).head?, (c, d) ∉ [('(', '*'), ('*', ')')] := by
      rwa [head?_append tail.ne_nil]
    constructor
    · rw [List.cons_append, closeComment_char next, outermost]
      rfl
    · intro depth
      rw [List.cons_append, closeComment_char next, deeper, Option.map_map]
      rfl

/-- The rest of as many nested comments as are open. -/
inductive CommentTails : Nat → List Char → Prop
  | last {text : List Char} (tail : CommentTail text) : CommentTails 0 text
  | cons {depth : Nat} {text rest : List Char} (tail : CommentTail text)
      (later : CommentTails depth rest) : CommentTails (depth + 1) (text ++ rest)

namespace CommentTails

variable {depth : Nat} {text : List Char}

theorem ne_nil (tails : CommentTails depth text) : text ≠ [] := by
  cases tails with
  | last tail => exact tail.ne_nil
  | cons tail => exact List.append_ne_nil_of_left_ne_nil tail.ne_nil _

theorem nested (tails : CommentTails (depth + 1) text) :
    CommentTails depth ('(' :: '*' :: text) := by
  cases tails with
  | cons comment later =>
    cases later with
    | last tail => exact .last (.nested comment tail)
    | cons tail later =>
      rw [← List.append_assoc]
      exact .cons (.nested comment tail) later

theorem char {c : Char} (noMark : ∀ d ∈ text.head?, (c, d) ∉ [('(', '*'), ('*', ')')])
    (tails : CommentTails depth text) : CommentTails depth (c :: text) := by
  cases tails with
  | last tail => exact .last (.char noMark tail)
  | cons tail later =>
    rw [head?_append tail.ne_nil] at noMark
    exact .cons (.char noMark tail) later

theorem of_closeComment {input rest : List Char}
    (closed : closeComment depth input = some (text, rest)) : CommentTails depth text := by
  fun_induction closeComment depth input generalizing text rest with
  | case1 =>
    cases closed
    exact .last .close
  | case2 depth input ih =>
    obtain ⟨⟨text', rest'⟩, inner, same⟩ := Option.map_eq_some_iff.mp closed
    cases same
    exact .cons .close (ih inner)
  | case3 depth input ih =>
    obtain ⟨⟨text', rest'⟩, inner, same⟩ := Option.map_eq_some_iff.mp closed
    cases same
    exact (ih inner).nested
  | case4 depth c input noClose noDeepClose noOpen ih =>
    obtain ⟨⟨text', rest'⟩, inner, same⟩ := Option.map_eq_some_iff.mp closed
    cases same
    have tails := ih inner
    refine tails.char ?_
    -- The walk looks at the whole input, whose next character is that of the tails.
    rw [← head?_append tails.ne_nil rest, closeComment_append inner]
    exact noMark_of_walk noClose noDeepClose noOpen
  | case5 => cases closed

end CommentTails

/-- A comment is closed by what the walk through it finds. -/
theorem closeComment_eq_some {input text rest : List Char} :
    closeComment 0 input = some (text, rest) ↔ CommentTail text ∧ text ++ rest = input := by
  constructor
  · intro closed
    cases CommentTails.of_closeComment closed with
    | last tail => exact ⟨tail, closeComment_append closed⟩
  · rintro ⟨tail, rfl⟩
    exact (tail.closeComment rest).1

/-- Tokens that are always spelled the same, or in one of two ways. -/
def literals : List (Token.Kind × List Char) :=
  [(.semisemi, [';', ';']), (.arrow, ['-', '>']), (.arrow, ['→']), (.lambda, ['\\']),
    (.lambda, ['λ']), (.plus, ['+']), (.colon, [':']), (.dot, ['.']), (.question, ['?']),
    (.lparen, ['(']), (.rparen, [')'])]

def keywords : List (Token.Kind × List Char) :=
  [(.fn, ['f', 'u', 'n']), (.tru, ['t', 'r', 'u', 'e']), (.fls, ['f', 'a', 'l', 's', 'e']),
    (.int, ['i', 'n', 't']), (.bool, ['b', 'o', 'o', 'l'])]

def lineEnds : List (List Char) := [['\n'], ['\r'], ['\r', '\n']]

/-- No character of the class comes next. -/
def StopsAt (inClass : Char → Bool) (rest : List Char) : Prop := ∀ c ∈ rest.head?, inClass c = false

/-- The patterns by which a text can be cut, of the tokens of each kind and of what is skipped. A
pattern may look at what follows. -/
inductive Matches : Option Token.Kind → List Char → List Char → Prop
  | literal {kind : Token.Kind} {text rest : List Char} (member : (kind, text) ∈ literals)
      (noComment : text = ['('] → rest.head? ≠ some '*') : Matches (some kind) text rest
  | keyword {kind : Token.Kind} {text rest : List Char} (member : (kind, text) ∈ keywords)
      (ends : StopsAt isWordChar rest) : Matches (some kind) text rest
  | ident {c : Char} {text rest : List Char} (start : isWordStart c = true)
      (word : ∀ d ∈ text, isWordChar d = true) : Matches (some .ident) (c :: text) rest
  | number {text rest : List Char} (nonempty : text ≠ []) (digits : ∀ c ∈ text, c.isDigit = true) :
      Matches (some .number) text rest
  | blanks {text rest : List Char} (nonempty : text ≠ []) (blank : ∀ c ∈ text, isBlank c = true) :
      Matches none text rest
  | lineEnd {text rest : List Char} (member : text ∈ lineEnds) : Matches none text rest
  | comment {text rest : List Char} (tail : CommentTail text) :
      Matches none ('(' :: '*' :: text) rest

/-- What is found at the beginning of a text. A piece goes on as long as it can, and what is no
keyword is a name. -/
inductive Shows : List Char → Lexeme → Prop
  | finished : Shows [] .finished
  | literal {kind : Token.Kind} {text rest : List Char} (member : (kind, text) ∈ literals)
      (noComment : text = ['('] → rest.head? ≠ some '*') :
      Shows (text ++ rest) (.token kind text rest)
  | keyword {kind : Token.Kind} {text rest : List Char} (member : (kind, text) ∈ keywords)
      (ends : StopsAt isWordChar rest) : Shows (text ++ rest) (.token kind text rest)
  | ident {c : Char} {text rest : List Char} (start : isWordStart c = true)
      (word : ∀ d ∈ text, isWordChar d = true) (noKeyword : ∀ kind, (kind, c :: text) ∉ keywords)
      (ends : StopsAt isWordChar rest) : Shows (c :: text ++ rest) (.token .ident (c :: text) rest)
  | number {text rest : List Char} (nonempty : text ≠ []) (digits : ∀ c ∈ text, c.isDigit = true)
      (ends : StopsAt Char.isDigit rest) : Shows (text ++ rest) (.token .number text rest)
  | blanks {text rest : List Char} (nonempty : text ≠ []) (blank : ∀ c ∈ text, isBlank c = true)
      (ends : StopsAt isBlank rest) : Shows (text ++ rest) (.skipped text rest)
  | lineEnd {text rest : List Char} (member : text ∈ lineEnds)
      (whole : text = ['\r'] → rest.head? ≠ some '\n') : Shows (text ++ rest) (.skipped text rest)
  | comment {text rest : List Char} (tail : CommentTail text) :
      Shows ('(' :: '*' :: text ++ rest) (.skipped ('(' :: '*' :: text) rest)
  | unclosed {inside : List Char}
      (noTail : ∀ text rest, text ++ rest = inside → ¬ CommentTail text) :
      Shows ('(' :: '*' :: inside) .unclosed
  | unexpected {c : Char} {rest : List Char} (noComment : c = '(' → rest.head? ≠ some '*')
      (nothing : ∀ kind text later, text ++ later = c :: rest → ¬ Matches kind text later) :
      Shows (c :: rest) (.unexpected c)

theorem keyword?_eq_some {text : List Char} {kind : Token.Kind} :
    keyword? text = some kind ↔ (kind, text) ∈ keywords := by
  constructor
  · intro keyword
    unfold keyword? at keyword
    split at keyword <;> cases keyword <;> rename_i spelled <;>
      cases String.ofList_inj.mp spelled <;> decide
  · intro member
    simp only [keywords, List.mem_cons, Prod.mk.injEq, List.not_mem_nil, or_false] at member
    obtain ⟨rfl, rfl⟩ | ⟨rfl, rfl⟩ | ⟨rfl, rfl⟩ | ⟨rfl, rfl⟩ | ⟨rfl, rfl⟩ := member <;> rfl

theorem symbol?_literals {c : Char} {kind : Token.Kind} (symbol : symbol? c = some kind) :
    (kind, [c]) ∈ literals := by
  unfold symbol? at symbol
  split at symbol <;> cases symbol <;> decide

theorem stopsAt_dropWhile (inClass : Char → Bool) (text : List Char) :
    StopsAt inClass (text.dropWhile inClass) := by
  intro c member
  have stopped := List.head?_dropWhile_not inClass text
  rwa [Option.mem_def.mp member] at stopped

theorem forall_mem_run {inClass : Char → Bool} {c : Char} (first : inClass c = true)
    (rest : List Char) : ∀ d ∈ c :: rest.takeWhile inClass, inClass d = true :=
  List.forall_mem_cons.mpr ⟨first, List.all_eq_true.mp List.all_takeWhile⟩

theorem of_mem_literals {kind : Token.Kind} {text : List Char} (member : (kind, text) ∈ literals) :
    (∃ c, text = [c] ∧ symbol? c = some kind) ∨ text = [';', ';'] ∨ text = ['-', '>'] := by
  simp only [literals, List.mem_cons, Prod.mk.injEq, List.not_mem_nil, or_false] at member
  obtain ⟨-, rfl⟩ | ⟨-, rfl⟩ | member := member
  · exact .inr (.inl rfl)
  · exact .inr (.inr rfl)
  · left
    obtain ⟨rfl, rfl⟩ | ⟨rfl, rfl⟩ | ⟨rfl, rfl⟩ | ⟨rfl, rfl⟩ | ⟨rfl, rfl⟩ | ⟨rfl, rfl⟩ |
      ⟨rfl, rfl⟩ | ⟨rfl, rfl⟩ | ⟨rfl, rfl⟩ := member <;> exact ⟨_, rfl, rfl⟩

theorem of_mem_keywords {kind : Token.Kind} {text : List Char} (member : (kind, text) ∈ keywords) :
    ∃ c more, text = c :: more ∧ isWordStart c = true ∧ ∀ d ∈ more, isWordChar d = true := by
  simp only [keywords, List.mem_cons, Prod.mk.injEq, List.not_mem_nil, or_false] at member
  obtain ⟨-, rfl⟩ | ⟨-, rfl⟩ | ⟨-, rfl⟩ | ⟨-, rfl⟩ | ⟨-, rfl⟩ := member <;>
    exact ⟨_, _, rfl, rfl, List.all_eq_true.mp rfl⟩

/-- Pieces whose length does not depend on where a run of characters ends. -/
inductive Fixed : List Char → List Char → Prop
  | literal {kind : Token.Kind} {text rest : List Char} (member : (kind, text) ∈ literals)
      (noComment : text = ['('] → rest.head? ≠ some '*') : Fixed text rest
  | lineEnd {text rest : List Char} (member : text ∈ lineEnds) : Fixed text rest
  | comment {text rest : List Char} (tail : CommentTail text) : Fixed ('(' :: '*' :: text) rest

/-- Classes of characters of which a run makes one piece. -/
def runClasses : List (Char → Bool) := [isBlank, Char.isDigit, isWordChar]

theorem blank_mem : isBlank ∈ runClasses := by simp [runClasses]

theorem digit_mem : Char.isDigit ∈ runClasses := by simp [runClasses]

theorem word_mem : isWordChar ∈ runClasses := by simp [runClasses]

theorem Fixed.head {text rest : List Char} (fixed : Fixed text rest) :
    ∃ c more, text = c :: more ∧ ∀ inClass ∈ runClasses, inClass c = false := by
  cases fixed with
  | literal member =>
    obtain ⟨c, rfl, symbol⟩ | rfl | rfl := of_mem_literals member
    · refine ⟨c, [], rfl, ?_⟩
      unfold symbol? at symbol
      split at symbol <;> cases symbol <;> decide
    · exact ⟨_, _, rfl, by decide⟩
    · exact ⟨_, _, rfl, by decide⟩
  | lineEnd member =>
    simp only [lineEnds, List.mem_cons, List.not_mem_nil, or_false] at member
    obtain rfl | rfl | rfl := member <;> exact ⟨_, _, rfl, by decide⟩
  | comment => exact ⟨_, _, rfl, by decide⟩

theorem isWordChar_of_digit {c : Char} (digit : c.isDigit = true) : isWordChar c = true := by
  simp [isWordChar, Char.isAlphanum, digit]

theorem isWordChar_of_start {c : Char} (start : isWordStart c = true) : isWordChar c = true := by
  obtain lower | underscore := Bool.or_eq_true_iff.mp start
  · have alpha : c.isAlpha = true := Bool.or_eq_true_iff.mpr (.inr lower)
    simp [isWordChar, Char.isAlphanum, alpha]
  · simp [isWordChar, underscore]

theorem isWordChar_of_blank {c : Char} (blank : isBlank c = true) : isWordChar c = false := by
  simp only [isBlank, Bool.or_eq_true, decide_eq_true_eq] at blank
  obtain rfl | rfl := blank <;> rfl

/-- What a piece looks like: a run of characters of a class, or a piece that takes no such run. -/
theorem Matches.shape {kind : Option Token.Kind} {text rest : List Char}
    (matched : Matches kind text rest) :
    (text ≠ [] ∧ ∀ c ∈ text, isBlank c = true) ∨ (text ≠ [] ∧ ∀ c ∈ text, c.isDigit = true) ∨
      (∃ c more, text = c :: more ∧ isWordStart c = true ∧ ∀ d ∈ more, isWordChar d = true) ∨
      Fixed text rest := by
  cases matched with
  | literal member noComment => exact .inr (.inr (.inr (.literal member noComment)))
  | keyword member => exact .inr (.inr (.inl (of_mem_keywords member)))
  | ident start word => exact .inr (.inr (.inl ⟨_, _, rfl, start, word⟩))
  | number nonempty digits => exact .inr (.inl ⟨nonempty, digits⟩)
  | blanks nonempty blank => exact .inl ⟨nonempty, blank⟩
  | lineEnd member => exact .inr (.inr (.inr (.lineEnd member)))
  | comment tail => exact .inr (.inr (.inr (.comment tail)))

theorem Matches.ne_nil {kind : Option Token.Kind} {text rest : List Char}
    (matched : Matches kind text rest) : text ≠ [] := by
  obtain ⟨nonempty, -⟩ | ⟨nonempty, -⟩ | ⟨c, more, rfl, -⟩ | fixed := matched.shape
  · exact nonempty
  · exact nonempty
  · exact List.cons_ne_nil _ _
  · obtain ⟨c, more, rfl, -⟩ := fixed.head
    exact List.cons_ne_nil _ _

/-- A piece that begins with a character of a class is a run of such characters. -/
theorem Matches.run {kind : Option Token.Kind} {c : Char} {more rest : List Char}
    (matched : Matches kind (c :: more) rest) {inClass : Char → Bool}
    (member : inClass ∈ runClasses) (inside : inClass c = true) :
    ∀ d ∈ c :: more, inClass d = true := by
  simp only [runClasses, List.mem_cons, List.not_mem_nil, or_false] at member
  obtain ⟨-, blank⟩ | ⟨-, digits⟩ | ⟨_, _, ⟨rfl, rfl⟩, start, word⟩ | fixed := matched.shape
  · have first := blank c List.mem_cons_self
    obtain rfl | rfl | rfl := member
    · exact blank
    · have := isWordChar_of_digit inside
      simp [isWordChar_of_blank first] at this
    · simp [isWordChar_of_blank first] at inside
  · have first := digits c List.mem_cons_self
    obtain rfl | rfl | rfl := member
    · have := isWordChar_of_blank inside
      simp [isWordChar_of_digit first] at this
    · exact digits
    · exact fun d inside => isWordChar_of_digit (digits d inside)
  · obtain rfl | rfl | rfl := member
    · have := isWordChar_of_blank inside
      simp [isWordChar_of_start start] at this
    · simp [isWordStart_digit inside] at start
    · exact List.forall_mem_cons.mpr ⟨inside, word⟩
  · obtain ⟨_, _, ⟨rfl, rfl⟩, outside⟩ := fixed.head
    have := outside inClass (by simp [runClasses, member])
    simp [this] at inside

theorem Matches.fixed {kind : Option Token.Kind} {c : Char} {text later rest : List Char}
    (matched : Matches kind text later) (same : text ++ later = c :: rest)
    (outside : ∀ inClass ∈ runClasses, inClass c = false) : Fixed text later := by
  obtain ⟨_, more, rfl⟩ := List.exists_cons_of_ne_nil matched.ne_nil
  cases same
  have notWord := outside _ word_mem
  obtain ⟨-, blank⟩ | ⟨-, digits⟩ | ⟨_, _, ⟨rfl, rfl⟩, start, -⟩ | fixed := matched.shape
  · simp [outside _ blank_mem] at blank
  · simp [outside _ digit_mem] at digits
  · simp [isWordChar_of_start start] at notWord
  · exact fixed

theorem Fixed.begins {text later rest : List Char} {c : Char} (fixed : Fixed text later)
    (same : text ++ later = c :: rest) :
    (c = '\n' ∨ c = '\r') ∨ (∃ kind, symbol? c = some kind) ∨
      ∃ d ∈ rest.head?, isPair c d = true := by
  cases fixed with
  | literal member =>
    obtain ⟨_, rfl, symbol⟩ | rfl | rfl := of_mem_literals member
    · cases same
      exact .inr (.inl ⟨_, symbol⟩)
    · cases same
      exact .inr (.inr ⟨';', rfl, rfl⟩)
    · cases same
      exact .inr (.inr ⟨'>', rfl, rfl⟩)
  | lineEnd member =>
    simp only [lineEnds, List.mem_cons, List.not_mem_nil, or_false] at member
    obtain rfl | rfl | rfl := member <;> cases same <;> simp
  | comment =>
    cases same
    exact .inr (.inr ⟨'*', rfl, rfl⟩)

/-- Where the lexer takes up no character, no piece can be cut. -/
theorem not_matches {c : Char} {rest : List Char} (notBlank : isBlank c = false)
    (notLineEnd : ¬ (c = '\n' ∨ c = '\r')) (notStart : isWordStart c = false)
    (notDigit : c.isDigit = false) (noSymbol : symbol? c = none)
    (alone : ∀ d ∈ rest.head?, isPair c d = false) (kind : Option Token.Kind)
    (text later : List Char) (same : text ++ later = c :: rest) : ¬ Matches kind text later := by
  intro matched
  obtain ⟨first, more, rfl⟩ := List.exists_cons_of_ne_nil matched.ne_nil
  obtain ⟨-, blank⟩ | ⟨-, digits⟩ | ⟨_, _, ⟨rfl, rfl⟩, start, -⟩ | fixed := matched.shape
  · cases same
    simp [notBlank] at blank
  · cases same
    simp [notDigit] at digits
  · cases same
    simp [notStart] at start
  · obtain lineEnd | ⟨_, symbol⟩ | ⟨d, member, pair⟩ := fixed.begins same
    · exact notLineEnd lineEnd
    · simp [noSymbol] at symbol
    · simp [alone d member] at pair

theorem shows_word {c : Char} {text rest : List Char} (start : isWordStart c = true)
    (word : ∀ d ∈ text, isWordChar d = true) (ends : StopsAt isWordChar rest) :
    Shows (c :: text ++ rest) (.token ((keyword? (c :: text)).getD .ident) (c :: text) rest) := by
  cases keyword : keyword? (c :: text) with
  | some kind => exact .keyword (keyword?_eq_some.mp keyword) ends
  | none =>
    refine .ident start word (fun kind member => ?_) ends
    rw [keyword?_eq_some.mpr member] at keyword
    cases keyword

theorem single_shows {c : Char} {rest : List Char} (alone : ∀ d ∈ rest.head?, isPair c d = false) :
    Shows (c :: rest) (single c rest) := by
  have parts (inClass : Char → Bool) :
      c :: rest = c :: rest.takeWhile inClass ++ rest.dropWhile inClass := by
    rw [List.cons_append, List.takeWhile_append_dropWhile]
  have noPair {d : Char} (pair : isPair c d = true) : rest.head? ≠ some d := by
    intro next
    rw [alone d next] at pair
    cases pair
  unfold single
  split
  next blank =>
    rw [parts isBlank]
    exact .blanks (List.cons_ne_nil _ _) (forall_mem_run blank rest) (stopsAt_dropWhile _ _)
  next notBlank =>
  split
  next lineEnd =>
    simp only [Bool.or_eq_true, decide_eq_true_eq] at lineEnd
    have member : [c] ∈ lineEnds := by obtain rfl | rfl := lineEnd <;> decide
    refine Shows.lineEnd member fun feed => ?_
    cases feed
    exact noPair rfl
  next notLineEnd =>
  split
  next start =>
    rw [parts isWordChar]
    exact shows_word start (List.all_eq_true.mp List.all_takeWhile) (stopsAt_dropWhile _ _)
  next notStart =>
  split
  next digit =>
    rw [parts Char.isDigit]
    exact .number (List.cons_ne_nil _ _) (forall_mem_run digit rest) (stopsAt_dropWhile _ _)
  next notDigit =>
  split
  next kind symbol =>
    refine Shows.literal (symbol?_literals symbol) fun paren => ?_
    cases paren
    exact noPair rfl
  next noSymbol =>
    simp only [Bool.or_eq_true, decide_eq_true_eq, Bool.not_eq_true]
      at notBlank notLineEnd notStart notDigit
    refine .unexpected (fun paren => ?_)
      (not_matches notBlank notLineEnd notStart notDigit noSymbol alone)
    subst paren
    exact noPair rfl

theorem first_shows (input : List Char) : Shows input (first input) := by
  rw [first.eq_def]
  split
  next => exact .finished
  next inside =>
    split
    next text rest closed =>
      obtain ⟨tail, rfl⟩ := closeComment_eq_some.mp closed
      exact .comment tail
    next unclosed =>
      refine .unclosed fun text rest same tail => ?_
      rw [closeComment_eq_some.mpr ⟨tail, same⟩] at unclosed
      cases unclosed
  next rest =>
    have member : (.semisemi, [';', ';']) ∈ literals := by decide
    exact .literal member (by simp)
  next rest =>
    have member : (.arrow, ['-', '>']) ∈ literals := by decide
    exact .literal member (by simp)
  next rest =>
    have member : ['\r', '\n'] ∈ lineEnds := by decide
    exact .lineEnd member (by simp)
  next c rest noComment noSemisemi noArrow noLineEnd =>
    refine single_shows fun d next => ?_
    obtain ⟨more, rfl⟩ := List.head?_eq_some_iff.mp next
    refine Bool.eq_false_iff.mpr fun pair => ?_
    simp only [isPair, List.mem_cons, Prod.mk.injEq, List.not_mem_nil, or_false,
      decide_eq_true_eq] at pair
    obtain ⟨rfl, rfl⟩ | ⟨rfl, rfl⟩ | ⟨rfl, rfl⟩ | ⟨rfl, rfl⟩ := pair
    · exact noComment more rfl rfl
    · exact noSemisemi more rfl rfl
    · exact noArrow more rfl rfl
    · exact noLineEnd more rfl rfl

theorem Fixed.ne_nil {text rest : List Char} (fixed : Fixed text rest) : text ≠ [] := by
  obtain ⟨c, more, rfl, -⟩ := fixed.head
  exact List.cons_ne_nil _ _

section Unique

variable {text rest text' rest' : List Char}

theorem literal_unique {kind kind' : Token.Kind} (member : (kind, text) ∈ literals)
    (member' : (kind', text') ∈ literals) (heads : text.head? = text'.head?) : text = text' := by
  have unique : ∀ entry ∈ literals, ∀ entry' ∈ literals,
      entry.2.head? = entry'.2.head? → entry.2 = entry'.2 := by decide
  exact unique _ member _ member' heads

theorem literal_head_ne_lineEnd {kind : Token.Kind} (member : (kind, text) ∈ literals)
    (member' : text' ∈ lineEnds) : text.head? ≠ text'.head? := by
  have apart : ∀ entry ∈ literals, ∀ text' ∈ lineEnds, entry.2.head? ≠ text'.head? := by decide
  exact apart _ member _ member'

theorem lineEnd_head_ne (member : text ∈ lineEnds) : text.head? ≠ some '(' := by
  have apart : ∀ text ∈ lineEnds, text.head? ≠ some '(' := by decide
  exact apart _ member

theorem literal_paren {kind : Token.Kind} (member : (kind, text) ∈ literals)
    (head : text.head? = some '(') : text = ['('] := by
  have paren : ∀ entry ∈ literals, entry.2.head? = some '(' → entry.2 = ['('] := by decide
  exact paren _ member head

/-- An opening parenthesis and a comment do not begin at the same place. -/
theorem literal_ne_comment {kind : Token.Kind} (member : (kind, text) ∈ literals)
    (noComment : text = ['('] → rest.head? ≠ some '*') {inside : List Char}
    (same : text ++ rest = '(' :: '*' :: inside) : False := by
  have head : text.head? = some '(' := by
    rw [← head?_append (Fixed.literal member noComment).ne_nil rest, same]
    rfl
  obtain rfl := literal_paren member head
  obtain rfl : rest = '*' :: inside := (List.cons.inj same).2
  exact noComment rfl rfl

/-- Two such pieces at one place are the same, but for a carriage return and the line end that it
begins. -/
theorem Fixed.unique (fixed : Fixed text rest) (fixed' : Fixed text' rest')
    (same : text ++ rest = text' ++ rest') :
    text = text' ∨ (text = ['\r'] ∧ text' = ['\r', '\n']) ∨
      (text = ['\r', '\n'] ∧ text' = ['\r']) := by
  have heads : text.head? = text'.head? := by
    rw [← head?_append fixed.ne_nil rest, same, head?_append fixed'.ne_nil]
  cases fixed with
  | literal member noComment =>
    cases fixed' with
    | literal member' => exact .inl (literal_unique member member' heads)
    | lineEnd member' => exact absurd heads (literal_head_ne_lineEnd member member')
    | comment => exact (literal_ne_comment member noComment same).elim
  | lineEnd member =>
    cases fixed' with
    | literal member' => exact absurd heads.symm (literal_head_ne_lineEnd member' member)
    | lineEnd member' =>
      have pairs : ∀ text ∈ lineEnds, ∀ text' ∈ lineEnds, text.head? = text'.head? →
          text = text' ∨ (text = ['\r'] ∧ text' = ['\r', '\n']) ∨
            (text = ['\r', '\n'] ∧ text' = ['\r']) := by decide
      exact pairs _ member _ member' heads
    | comment => exact absurd heads (lineEnd_head_ne member)
  | comment tail =>
    cases fixed' with
    | literal member' noComment' => exact (literal_ne_comment member' noComment' same.symm).elim
    | lineEnd member' => exact absurd heads.symm (lineEnd_head_ne member')
    | comment tail' =>
      have closed := (tail.closeComment rest).1
      have closed' := (tail'.closeComment rest').1
      simp only [List.cons_append, List.cons.injEq, true_and] at same
      rw [same, closed'] at closed
      cases closed
      exact .inl rfl

end Unique

end Lexeme

end Gradual
