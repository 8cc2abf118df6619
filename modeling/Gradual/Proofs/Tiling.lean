import Gradual.Proofs.Patterns
import Mathlib.Data.List.Induction

/-! Tilings of a source text. A text may be cut by the patterns in more than one way, but no cut goes
further than the lexer does: a cut that passes the end of a piece that the lexer finds has a cut there.
So the lexer succeeds exactly if some cut takes up the whole text, and where it fails every cut ends. The
places it reports are counted from the text in front of them. -/
namespace Gradual

/-- A stretch of a text: a token of some kind, or something skipped. -/
structure Piece where
  kind : Option Token.Kind
  text : List Char

/-- The piece that a lexeme is, with what follows it. -/
def Lexeme.piece? : Lexeme → Option (Piece × List Char)
  | .token kind text rest => some (⟨some kind, text⟩, rest)
  | .skipped text rest => some (⟨none, text⟩, rest)
  | .unclosed | .unexpected _ | .finished => none

/-- The text before `rest` is cut into the pieces, each by a pattern. -/
inductive Tiled : List Char → List Piece → List Char → Prop
  | nil {rest : List Char} : Tiled rest [] rest
  | cons {piece : Piece} {pieces : List Piece} {middle rest : List Char}
      (matched : Lexeme.Matches piece.kind piece.text middle) (later : Tiled middle pieces rest) :
      Tiled (piece.text ++ middle) (piece :: pieces) rest

namespace Tiled

open Lexeme

variable {input text middle rest : List Char} {pieces : List Piece}

theorem texts (tiled : Tiled input pieces rest) : pieces.flatMap Piece.text ++ rest = input := by
  induction tiled with
  | nil => rfl
  | cons _ _ ih => rw [List.flatMap_cons, List.append_assoc, ih]

theorem length_le (tiled : Tiled input pieces rest) : rest.length ≤ input.length := by
  rw [← tiled.texts, List.length_append]
  omega

/-- No cut ends beyond a run of characters without a cut at its end. -/
theorem afterRun {inClass : Char → Bool} (member : inClass ∈ runClasses)
    (tiled : Tiled input pieces rest) (same : text ++ middle = input)
    (inside : ∀ c ∈ text, inClass c = true) (ends : StopsAt inClass middle) :
    middle.length ≤ rest.length ∨ ∃ pieces, Tiled middle pieces rest := by
  induction tiled generalizing text with
  | nil =>
    left
    rw [← same, List.length_append]
    omega
  | @cons piece pieces m rest matched later ih =>
    cases text with
    | nil =>
      rw [List.nil_append] at same
      rw [same]
      exact .inr ⟨_, .cons matched later⟩
    | cons c text =>
      obtain ⟨kind, spelled⟩ := piece
      obtain ⟨d, more, rfl⟩ := List.exists_cons_of_ne_nil matched.ne_nil
      obtain ⟨rfl, tails⟩ := List.cons.inj same
      obtain ⟨first, others⟩ := List.forall_mem_cons.mp inside
      have run := (List.forall_mem_cons.mp (matched.run member first)).2
      obtain ⟨as, rfl, rfl⟩ | ⟨bs, rfl, rfl⟩ := List.append_eq_append_iff.mp tails
      · cases as with
        | nil => exact .inr ⟨_, later⟩
        | cons e as =>
          have stops := ends e rfl
          rw [run e (by simp)] at stops
          cases stops
      · exact ih rfl fun c member => others c (by simp [member])

theorem afterFixed (fixed : Fixed text middle) (whole : text = ['\r'] → middle.head? ≠ some '\n')
    (tiled : Tiled (text ++ middle) pieces rest) :
    middle.length ≤ rest.length ∨ (∃ pieces, Tiled middle pieces rest) ∨
      text = ['\r', '\n'] ∧ ∃ pieces, Tiled ('\n' :: middle) pieces rest := by
  generalize same : text ++ middle = input at tiled
  cases tiled with
  | nil =>
    left
    rw [← same, List.length_append]
    omega
  | @cons piece pieces m _ matched later =>
    obtain ⟨c, more, rfl, outside⟩ := fixed.head
    have fixed' := matched.fixed same.symm outside
    obtain equal | ⟨equal, crlf⟩ | ⟨crlf, equal⟩ := fixed.unique fixed' same
    · rw [equal] at same
      obtain rfl := List.append_cancel_left same
      exact .inr (.inl ⟨_, later⟩)
    · rw [equal, crlf] at same
      cases same
      exact absurd rfl (whole equal)
    · rw [equal, crlf] at same
      cases same
      exact .inr (.inr ⟨crlf, _, later⟩)

theorem afterWhole (fixed : Fixed text middle) (whole : text = ['\r'] → middle.head? ≠ some '\n')
    (tiled : Tiled (text ++ middle) pieces rest) :
    middle.length ≤ rest.length ∨ ∃ pieces, Tiled middle pieces rest := by
  obtain short | found | ⟨-, _, feed⟩ := afterFixed fixed whole tiled
  · exact .inl short
  · exact .inr found
  · have lineFeed : Fixed ['\n'] middle := .lineEnd (by decide)
    obtain short | found | ⟨⟨⟩, -⟩ := afterFixed lineFeed (by simp) feed
    · exact .inl short
    · exact .inr found

/-- A cut that goes beyond a piece that the lexer finds has a cut at the end of that piece. -/
theorem after {lexeme : Lexeme} (shows : Shows input lexeme) {piece : Piece}
    (found : lexeme.piece? = some (piece, middle)) (tiled : Tiled input pieces rest) :
    middle.length ≤ rest.length ∨ ∃ pieces, Tiled middle pieces rest := by
  cases shows with
  | finished | unclosed | unexpected => cases found
  | literal member noComment =>
    cases found
    refine afterWhole (.literal member noComment) ?_ tiled
    rintro rfl
    have member' : ['\r'] ∈ lineEnds := by decide
    exact absurd rfl (literal_head_ne_lineEnd member member')
  | keyword member ends =>
    cases found
    obtain ⟨c, more, rfl, start, word⟩ := of_mem_keywords member
    exact afterRun word_mem tiled rfl
      (List.forall_mem_cons.mpr ⟨isWordChar_of_start start, word⟩) ends
  | ident start word _ ends =>
    cases found
    exact afterRun word_mem tiled rfl
      (List.forall_mem_cons.mpr ⟨isWordChar_of_start start, word⟩) ends
  | number _ digits ends =>
    cases found
    exact afterRun digit_mem tiled rfl digits ends
  | blanks _ blank ends =>
    cases found
    exact afterRun blank_mem tiled rfl blank ends
  | lineEnd member whole =>
    cases found
    exact afterWhole (.lineEnd member) whole tiled
  | comment tail =>
    cases found
    exact afterWhole (.comment tail) (by simp) tiled

end Tiled

/-- The line is counted by the newlines before it, the column by the characters since the last one. -/
def locationAfter (file : Option String) (before : List Char) : Location where
  line := 1 + before.count '\n'
  column := 1 + (before.reverse.takeWhile (· ≠ '\n')).length
  file := file

theorem Cursor.location_advance (file : Option String) (before : List Char) :
    (Cursor.start.advance before).location file = locationAfter file before := by
  have counts : (Cursor.start.advance before).line = 1 + before.count '\n' ∧
      (Cursor.start.advance before).column =
        1 + (before.reverse.takeWhile (· ≠ '\n')).length := by
    induction before using List.reverseRecOn with
    | nil => exact ⟨rfl, rfl⟩
    | append_singleton front c ih =>
      obtain ⟨line, column⟩ := ih
      rw [Cursor.advance] at line column
      by_cases newline : c = '\n'
      · simp [Cursor.advance, List.foldl_append, Cursor.next, newline, line, Nat.add_assoc]
      · simp [Cursor.advance, List.foldl_append, Cursor.next, newline, line, column, Nat.add_comm]
  simp [Cursor.location, locationAfter, counts]

namespace Piece

open Lexeme

/-- The tokens among the pieces, each with the place where it begins. -/
def tokens (file : Option String) : List Char → List Piece → List Token
  | _, [] => []
  | before, ⟨some kind, text⟩ :: pieces =>
    ⟨kind, String.ofList text, locationAfter file before⟩ :: tokens file (before ++ text) pieces
  | before, ⟨none, text⟩ :: pieces => tokens file (before ++ text) pieces

/-- What tells a token from a shorter one, and a name from a keyword. -/
structure EndsBefore (piece : Piece) (later : List Char) : Prop where
  noKeyword : piece.kind = some .ident → ∀ kind, (kind, piece.text) ∉ keywords
  word : ∀ kind ∈ piece.kind, kind = .ident ∨ kind ∈ keywords.map Prod.fst →
    StopsAt isWordChar later
  number : piece.kind = some .number → StopsAt Char.isDigit later

/-- All pieces end where they have to. -/
def Sharp (rest : List Char) : List Piece → Prop
  | [] => True
  | piece :: pieces =>
    piece.EndsBefore (pieces.flatMap Piece.text ++ rest) ∧ Sharp rest pieces

end Piece

theorem Lexeme.Matches.kind_ne_eof {kind : Option Token.Kind} {text rest : List Char}
    (matched : Matches kind text rest) : kind ≠ some .eof := by
  cases matched with
  | literal member =>
    have other : ∀ entry ∈ literals, some entry.1 ≠ some .eof := by decide
    exact other _ member
  | keyword member =>
    have other : ∀ entry ∈ keywords, some entry.1 ≠ some .eof := by decide
    exact other _ member
  | ident | number | blanks | lineEnd | comment => simp

theorem Tiled.tokens_ne_eof {input rest : List Char} {pieces : List Piece}
    (tiled : Tiled input pieces rest) (file : Option String) (before : List Char) :
    ∀ t ∈ Piece.tokens file before pieces, t.kind ≠ .eof := by
  induction tiled generalizing before with
  | nil => exact List.forall_mem_nil _
  | @cons piece pieces middle rest matched later ih =>
    obtain ⟨_ | kind, text⟩ := piece
    · exact ih _
    · refine List.forall_mem_cons.mpr ⟨?_, ih _⟩
      rintro rfl
      exact matched.kind_ne_eof rfl

namespace Lexeme

variable {input middle : List Char}

theorem Shows.piece {lexeme : Lexeme} {piece : Piece} (shows : Shows input lexeme)
    (found : lexeme.piece? = some (piece, middle)) :
    piece.text ++ middle = input ∧ Matches piece.kind piece.text middle ∧
      piece.EndsBefore middle := by
  cases shows with
  | finished | unclosed | unexpected => cases found
  | literal member noComment =>
    cases found
    have other : ∀ entry ∈ literals,
        entry.1 ≠ .ident ∧ entry.1 ∉ keywords.map Prod.fst ∧ entry.1 ≠ .number := by decide
    obtain ⟨notIdent, notKeyword, notNumber⟩ := other _ member
    refine ⟨rfl, .literal member noComment, ?_, ?_, ?_⟩
    · simp [notIdent]
    · simp_all
    · simp [notNumber]
  | keyword member ends =>
    cases found
    have other : ∀ entry ∈ keywords, entry.1 ≠ .ident ∧ entry.1 ≠ .number := by decide
    obtain ⟨notIdent, notNumber⟩ := other _ member
    refine ⟨rfl, .keyword member ends, ?_, fun _ _ _ => ends, ?_⟩
    · simp [notIdent]
    · simp [notNumber]
  | ident start word noKeyword ends =>
    cases found
    exact ⟨rfl, .ident start word, fun _ => noKeyword, fun _ _ _ => ends, by simp⟩
  | number nonempty digits ends =>
    cases found
    refine ⟨rfl, .number nonempty digits, by simp, ?_, fun _ => ends⟩
    rintro kind ⟨rfl⟩ word
    exact absurd word (by decide)
  | blanks nonempty blank =>
    cases found
    exact ⟨rfl, .blanks nonempty blank, by simp, by simp, by simp⟩
  | lineEnd member =>
    cases found
    exact ⟨rfl, .lineEnd member, by simp, by simp, by simp⟩
  | comment tail =>
    cases found
    exact ⟨rfl, .comment tail, by simp, by simp, by simp⟩

/-- Where a comment stays open no piece can be cut. -/
theorem Shows.unclosed_nothing (shows : Shows input .unclosed) :
    (∃ inside, input = '(' :: '*' :: inside) ∧
      ∀ kind text later, text ++ later = input → ¬ Matches kind text later := by
  cases shows with
  | @unclosed inside noTail =>
    refine ⟨⟨inside, rfl⟩, fun kind text later same matched => ?_⟩
    have outside : ∀ inClass ∈ runClasses, inClass '(' = false := by decide
    cases matched.fixed same outside with
    | literal member noComment => exact literal_ne_comment member noComment same
    | lineEnd member =>
      refine lineEnd_head_ne member ?_
      rw [← head?_append matched.ne_nil later, same]
      rfl
    | comment tail =>
      simp only [List.cons_append, List.cons.injEq, true_and] at same
      exact noTail _ _ same tail

end Lexeme

/-- The error of a text that cannot be cut further. -/
def failure (file : Option String) (front : List Char) : List Char → Option SyntaxError
  | [] => none
  | c :: rest =>
    some ⟨if c = '(' ∧ rest.head? = some '*' then .unclosedComment else .unexpectedCharacter c,
      locationAfter file front⟩

namespace Lexed

/-- A pass over `input`, with `before` in front of it, cut off the pieces and stopped where no cut goes
on. -/
structure Follows (file : Option String) (before input : List Char) (lexed : Lexed)
    (pieces : List Piece) (rest : List Char) : Prop where
  tiled : Tiled input pieces rest
  sharp : Piece.Sharp rest pieces
  furthest : ∀ pieces' rest', Tiled input pieces' rest' → rest.length ≤ rest'.length
  tokens : lexed.tokens = Piece.tokens file before pieces
  error : lexed.error = failure file (before ++ pieces.flatMap Piece.text) rest
  cursor : rest = [] → lexed.cursor = Cursor.start.advance (before ++ pieces.flatMap Piece.text)

section Follows

variable {file : Option String} {before input text middle rest : List Char} {lexed : Lexed}
  {pieces : List Piece}

/-- Nothing can be cut off. -/
theorem Follows.stuck (nothing : ∀ kind text later, text ++ later = input →
      ¬ Lexeme.Matches kind text later) (tokens : lexed.tokens = [])
    (error : lexed.error = failure file before input)
    (cursor : input = [] → lexed.cursor = Cursor.start.advance before) :
    lexed.Follows file before input [] input where
  tiled := .nil
  sharp := trivial
  furthest := by
    intro pieces' rest' tiled
    cases tiled with
    | nil => exact Nat.le_refl _
    | cons matched => exact absurd matched (nothing _ _ _ rfl)
  tokens := tokens
  error := by simpa using error
  cursor := by simpa using cursor

theorem Follows.cons {lexeme : Lexeme} {piece : Piece} (shows : Lexeme.Shows input lexeme)
    (found : lexeme.piece? = some (piece, middle))
    (later : lexed.Follows file (before ++ piece.text) middle pieces rest) :
    Follows file before input
      { lexed with tokens := Piece.tokens file before [piece] ++ lexed.tokens } (piece :: pieces)
      rest := by
  obtain ⟨rfl, matched, ends⟩ := shows.piece found
  refine ⟨.cons matched later.tiled, ⟨?_, later.sharp⟩, ?_, ?_, ?_, ?_⟩
  · rwa [later.tiled.texts]
  · intro pieces' rest' tiled
    obtain short | ⟨_, further⟩ := tiled.after shows found
    · exact Nat.le_trans later.tiled.length_le short
    · exact later.furthest _ _ further
  · obtain ⟨_ | kind, text⟩ := piece
    · exact later.tokens
    · exact congrArg _ later.tokens
  · rw [List.flatMap_cons, ← List.append_assoc]
    exact later.error
  · rw [List.flatMap_cons, ← List.append_assoc]
    exact later.cursor

theorem scan_follows (file : Option String) (before input : List Char) :
    ∃ pieces rest, (scan file (Cursor.start.advance before) input).Follows file before input pieces
      rest := by
  generalize start : Cursor.start.advance before = cursor
  fun_induction scan file cursor input generalizing before with
  | case1 cursor input kind text middle found later ih =>
    subst start
    obtain ⟨pieces, rest, follows⟩ := ih (before ++ text) List.foldl_append
    have shows := Lexeme.first_shows input
    rw [found] at shows
    have whole := Follows.cons shows rfl follows
    simp only [Piece.tokens, ← Cursor.location_advance] at whole
    exact ⟨_, rest, whole⟩
  | case2 cursor input text middle found ih =>
    subst start
    obtain ⟨pieces, rest, follows⟩ := ih (before ++ text) List.foldl_append
    have shows := Lexeme.first_shows input
    rw [found] at shows
    exact ⟨_, rest, Follows.cons shows rfl follows⟩
  | case3 cursor input found =>
    subst start
    have shows := Lexeme.first_shows input
    rw [found] at shows
    obtain ⟨⟨inside, rfl⟩, nothing⟩ := shows.unclosed_nothing
    refine ⟨[], _, .stuck nothing rfl ?_ ?_⟩
    · simp [failure, Cursor.location_advance]
    · simp
  | case4 cursor input c found =>
    subst start
    have shows := Lexeme.first_shows input
    rw [found] at shows
    cases shows with
    | unexpected noComment nothing =>
      refine ⟨[], _, .stuck nothing rfl ?_ ?_⟩
      · simp_all [failure, Cursor.location_advance]
      · simp
  | case5 cursor input found =>
    subst start
    obtain rfl := Lexeme.eq_nil_of_finished found
    refine ⟨[], [], .stuck (fun kind text later same matched => ?_) rfl rfl fun _ => rfl⟩
    exact matched.ne_nil (List.append_eq_nil_iff.mp same).1

theorem Follows.error_eq_none_iff (follows : lexed.Follows file before input pieces rest) :
    lexed.error = none ↔ rest = [] := by
  rw [follows.error]
  cases rest with
  | nil => simp [failure]
  | cons c rest => simp [failure]

/-- No cut goes further, so one takes up the whole text only if this one does. -/
theorem Follows.finished_iff (follows : lexed.Follows file before input pieces rest) :
    rest = [] ↔ ∃ pieces, Tiled input pieces [] := by
  constructor
  · rintro rfl
    exact ⟨pieces, follows.tiled⟩
  · rintro ⟨pieces', tiled⟩
    exact List.length_eq_zero_iff.mp (Nat.le_zero.mp (follows.furthest _ _ tiled))

theorem Follows.listing (follows : lexed.Follows file before input pieces []) :
    lexed.listing file =
      Piece.tokens file before pieces ++ [⟨.eof, "", locationAfter file (before ++ input)⟩] := by
  have texts := follows.tiled.texts
  rw [List.append_nil] at texts
  rw [Lexed.listing, follows.error_eq_none_iff.mpr rfl, follows.tokens, follows.cursor rfl, texts,
    Cursor.location_advance]

end Follows

/-- A text is read to its end exactly if it can be cut to its end. The tokens and what is skipped
between them then make up the text, each token stands where it is said to be, and only the last one
marks an end. Otherwise the error is where the longest cut ends, and there a comment is left open or a
character fits no pattern. -/
theorem ofSource_tiles (source : String) (file : Option String) :
    ((ofSource source file).error = none ↔ ∃ pieces, Tiled source.toList pieces []) ∧
      ((ofSource source file).error = none → ∃ pieces, Tiled source.toList pieces [] ∧
        pieces.flatMap Piece.text = source.toList ∧ Piece.Sharp [] pieces ∧
        (ofSource source file).listing file =
          Piece.tokens file [] pieces ++ [⟨.eof, "", locationAfter file source.toList⟩] ∧
        ∀ t ∈ Piece.tokens file [] pieces, t.kind ≠ .eof) ∧
      ∀ error, (ofSource source file).error = some error → ∃ pieces c rest,
        Tiled source.toList pieces (c :: rest) ∧
        (∀ pieces' rest', Tiled source.toList pieces' rest' → (c :: rest).length ≤ rest'.length) ∧
        error.location = locationAfter file (pieces.flatMap Piece.text) ∧
        error.cause =
          if c = '(' ∧ rest.head? = some '*' then .unclosedComment else .unexpectedCharacter c := by
  obtain ⟨pieces, rest, follows⟩ := scan_follows file [] source.toList
  refine ⟨follows.error_eq_none_iff.trans follows.finished_iff, ?_, ?_⟩
  · intro finished
    obtain rfl := follows.error_eq_none_iff.mp finished
    have texts := follows.tiled.texts
    rw [List.append_nil] at texts
    exact ⟨pieces, follows.tiled, texts, follows.sharp, follows.listing,
      follows.tiled.tokens_ne_eof file []⟩
  · intro error failed
    have known := follows.error.symm.trans failed
    cases rest with
    | nil => cases known
    | cons c rest =>
      cases known
      exact ⟨pieces, c, rest, follows.tiled, follows.furthest, rfl, rfl⟩

/-- A comment with another one inside, in which the first mark is not a closing one, and a text whose
second comment stays open. -/
theorem ofSource_tiles_comments :
    let closed := "f' 12(*(*)*)*)\r\nfun"
    let unclosed := "x (* é *)\n (* (* *)"
    (∃ pieces, Tiled closed.toList pieces [] ∧ pieces.flatMap Piece.text = closed.toList ∧
        Piece.Sharp [] pieces ∧ (ofSource closed none).listing none =
          Piece.tokens none [] pieces ++ [⟨.eof, "", ⟨2, 4, none⟩⟩]) ∧
      (¬ ∃ pieces, Tiled unclosed.toList pieces []) ∧
      ∃ pieces c rest, Tiled unclosed.toList pieces (c :: rest) ∧ c = '(' ∧ rest.head? = some '*' ∧
        locationAfter none (pieces.flatMap Piece.text) = ⟨2, 2, none⟩ := by
  intro closed unclosed
  obtain ⟨-, succeeds, -⟩ := ofSource_tiles closed none
  obtain ⟨cuttable, -, fails⟩ := ofSource_tiles unclosed none
  have failed : (ofSource unclosed none).error = some ⟨.unclosedComment, ⟨2, 2, none⟩⟩ := by
    decide +kernel
  refine ⟨?_, ?_, ?_⟩
  · obtain ⟨pieces, tiled, texts, sharp, listing, -⟩ := succeeds (by decide +kernel)
    have stop : locationAfter none closed.toList = ⟨2, 4, none⟩ := by decide +kernel
    exact ⟨pieces, tiled, texts, sharp, stop ▸ listing⟩
  · rw [← cuttable, failed]
    exact Option.some_ne_none _
  · obtain ⟨pieces, c, rest, tiled, -, location, cause⟩ := fails _ failed
    split at cause
    next mark => exact ⟨pieces, c, rest, tiled, mark.1, mark.2, location.symm⟩
    next => cases cause

end Lexed

end Gradual
