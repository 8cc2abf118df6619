import Gradual.Proofs.Seams
import Gradual.Proofs.Tiling
import Mathlib.Data.List.Forall2

/-! Three ways to end a line. The lexer skips a line feed, a carriage return and the two together, but
lines are counted by line feeds alone. So a text and the same text with its line ends made one are cut
into the same words, or fail for the same cause, while a carriage return that stands alone moves all
that comes after it to another line. -/
namespace Gradual

namespace Text

/-- How many carriage returns have no line feed after them. -/
def loneReturns : List Char → Nat
  | '\r' :: '\n' :: rest => loneReturns rest
  | '\r' :: rest => loneReturns rest + 1
  | _ :: rest => loneReturns rest
  | [] => 0

/-- No line end has its carriage return in `front` and its line feed in `back`. -/
def Unbroken (front back : List Char) : Prop := front.getLast? = some '\r' → back.head? ≠ some '\n'

/-- The text with all line ends made one. -/
def unifyLines (source : String) : String := String.ofList (normalizeNewlines source.toList)

variable {front back text : List Char}

theorem loneReturns_return {rest : List Char} (alone : rest.head? ≠ some '\n') :
    loneReturns ('\r' :: rest) = loneReturns rest + 1 := by
  rw [loneReturns.eq_def]
  split
  case h_1 same => cases same; exact absurd rfl alone
  case h_2 same => cases same; rfl
  case h_3 other same => cases same; exact absurd rfl other
  case h_4 same => cases same

theorem loneReturns_cons {c : Char} (other : c ≠ '\r') (rest : List Char) :
    loneReturns (c :: rest) = loneReturns rest := by
  rw [loneReturns.eq_def]
  split
  case h_3 same => cases same; rfl
  all_goals simp_all

/-- The beginning of a text is a line end of two characters, a carriage return that stands alone, or
another character. -/
theorem lineEnd_induction {motive : List Char → Prop} (nil : motive [])
    (pair : ∀ rest, motive rest → motive ('\r' :: '\n' :: rest))
    (alone : ∀ rest, rest.head? ≠ some '\n' → motive rest → motive ('\r' :: rest))
    (other : ∀ c rest, c ≠ '\r' → motive rest → motive (c :: rest)) (text : List Char) :
    motive text := by
  fun_induction normalizeNewlines text with
  | case1 rest ih => exact pair rest ih
  | case2 rest noFeed ih =>
    refine alone rest (fun feed => ?_) ih
    obtain ⟨rest, rfl⟩ := List.head?_eq_some_iff.mp feed
    exact noFeed rest rfl
  | case3 c rest _ noReturn ih => exact other c rest noReturn ih
  | case4 => exact nil

theorem Unbroken.tail {c : Char} (unbroken : Unbroken (c :: front) back) : Unbroken front back := by
  intro carriage
  refine unbroken ?_
  rw [List.getLast?_cons, carriage]
  rfl

theorem Unbroken.left {text middle : List Char} (unbroken : Unbroken front (text ++ middle))
    (nonempty : text ≠ []) : Unbroken front text := by
  rwa [Unbroken, Lexeme.head?_append nonempty] at unbroken

theorem Unbroken.append {text middle : List Char} (nonempty : text ≠ [])
    (ends : Unbroken text middle) (front : List Char) : Unbroken (front ++ text) middle := by
  rwa [Unbroken, List.getLast?_append_of_ne_nil _ nonempty]

theorem Unbroken.head?_append (unbroken : Unbroken ('\r' :: front) back)
    (alone : front.head? ≠ some '\n') : (front ++ back).head? ≠ some '\n' := by
  cases front with
  | nil => exact unbroken rfl
  | cons c front => exact alone

theorem normalizeNewlines_join (unbroken : Unbroken front back) :
    normalizeNewlines (front ++ back) = normalizeNewlines front ++ normalizeNewlines back := by
  induction front using lineEnd_induction with
  | nil => rfl
  | pair rest ih =>
    simp [normalizeNewlines, ih unbroken.tail.tail]
  | alone rest noFeed ih =>
    rw [List.cons_append, normalizeNewlines_return (unbroken.head?_append noFeed), ih unbroken.tail,
      normalizeNewlines_return noFeed, List.cons_append]
  | other c rest noReturn ih =>
    rw [List.cons_append, normalizeNewlines_cons noReturn, ih unbroken.tail,
      normalizeNewlines_cons noReturn, List.cons_append]

theorem normalizeNewlines_eq_self (noReturn : '\r' ∉ text) : normalizeNewlines text = text := by
  simpa [normalizeNewlines] using normalizeNewlines_append noReturn []

theorem loneReturns_join (unbroken : Unbroken front back) :
    loneReturns (front ++ back) = loneReturns front + loneReturns back := by
  induction front using lineEnd_induction with
  | nil => exact (Nat.zero_add _).symm
  | pair rest ih => exact ih unbroken.tail.tail
  | alone rest noFeed ih =>
    rw [List.cons_append, loneReturns_return (unbroken.head?_append noFeed), ih unbroken.tail,
      loneReturns_return noFeed]
    omega
  | other c rest noReturn ih =>
    rw [List.cons_append, loneReturns_cons noReturn, ih unbroken.tail, loneReturns_cons noReturn]

/-- Each carriage return that stands alone becomes one more line feed. -/
theorem count_normalizeNewlines (text : List Char) :
    (normalizeNewlines text).count '\n' = text.count '\n' + loneReturns text := by
  induction text using lineEnd_induction with
  | nil => rfl
  | pair rest ih =>
    rw [normalizeNewlines, loneReturns, List.count_cons_self, ih,
      List.count_cons_of_ne (by decide), List.count_cons_self]
    omega
  | alone rest noFeed ih =>
    rw [normalizeNewlines_return noFeed, loneReturns_return noFeed, List.count_cons_self, ih,
      List.count_cons_of_ne (by decide)]
    omega
  | other c rest noReturn ih =>
    rw [normalizeNewlines_cons noReturn, loneReturns_cons noReturn, List.count_cons,
      List.count_cons, ih]
    omega

end Text

namespace Cursor

variable {file : Option String} {cursor other : Cursor}

theorem advance_append (cursor : Cursor) (front back : List Char) :
    (cursor.advance front).advance back = cursor.advance (front ++ back) :=
  List.foldl_append.symm

theorem location_eq_iff :
    cursor.location file = other.location file ↔
      cursor.line = other.line ∧ cursor.column = other.column := by
  simp only [location, Location.mk.injEq, Int.ofNat_inj, and_true]

theorem location_next (same : cursor.location file = other.location file) (c : Char) :
    (cursor.next c).location file = (other.next c).location file := by
  obtain ⟨line, column⟩ := location_eq_iff.mp same
  by_cases feed : c = '\n'
  · simp [next, location, feed, line]
  · simp [next, location, feed, line, column]

/-- After a line feed it does not matter whether a carriage return came before it. -/
theorem location_next_pair (same : cursor.location file = other.location file) :
    ((cursor.next '\r').next '\n').location file = (other.next '\n').location file := by
  obtain ⟨line, -⟩ := location_eq_iff.mp same
  simp [next, location, line]

theorem location_advance_normalizeNewlines {text : List Char} (none : Text.loneReturns text = 0)
    (same : cursor.location file = other.location file) :
    (cursor.advance text).location file =
      (other.advance (Text.normalizeNewlines text)).location file := by
  induction text using Text.lineEnd_induction generalizing cursor other with
  | nil => exact same
  | pair rest ih => exact ih none (location_next_pair same)
  | alone rest noFeed =>
    rw [Text.loneReturns_return noFeed] at none
    cases none
  | other c rest noReturn ih =>
    rw [Text.loneReturns_cons noReturn] at none
    rw [Text.normalizeNewlines_cons noReturn]
    exact ih none (location_next same c)

end Cursor

theorem line_normalizeNewlines (file : Option String) (before : List Char) :
    (locationAfter file (Text.normalizeNewlines before)).line =
      (locationAfter file before).line + Text.loneReturns before := by
  simp only [locationAfter, Text.count_normalizeNewlines]
  omega

theorem locationAfter_normalizeNewlines_eq_iff {file : Option String} {before : List Char} :
    locationAfter file (Text.normalizeNewlines before) = locationAfter file before ↔
      Text.loneReturns before = 0 := by
  constructor
  · intro same
    have lines := line_normalizeNewlines file before
    rw [same] at lines
    omega
  · intro none
    rw [← Cursor.location_advance, ← Cursor.location_advance]
    exact (Cursor.location_advance_normalizeNewlines none rfl).symm

namespace Lexeme

open Text

variable {input text rest : List Char}

theorem CommentTail.getLast? (tail : CommentTail text) : text.getLast? = some ')' := by
  induction tail with
  | close => rfl
  | nested _ _ _ later => simp [List.getLast?_cons, List.getLast?_append, later]
  | char _ _ ih => simp [List.getLast?_cons, ih]

theorem unbroken_of_no_return (other : '\r' ∉ text) (rest : List Char) : Unbroken text rest :=
  fun carriage => absurd (List.mem_of_getLast? carriage) other

/-- What is skipped does not end inside a line end. -/
theorem unbroken_of_skipped (found : first input = .skipped text rest) : Unbroken text rest := by
  have shows := first_shows input
  rw [found] at shows
  cases shows with
  | blanks nonempty blank =>
    exact unbroken_of_no_return (fun member => absurd (blank _ member) (by decide)) rest
  | lineEnd member whole =>
    simp only [lineEnds, List.mem_cons, List.not_mem_nil, or_false] at member
    obtain rfl | rfl | rfl := member
    · intro carriage
      cases carriage
    · exact fun _ => whole rfl
    · intro carriage
      cases carriage
  | comment tail =>
    intro carriage
    rw [List.getLast?_cons, List.getLast?_cons, tail.getLast?] at carriage
    cases carriage

theorem first_skipped_unified (found : first input = .skipped text rest) :
    first (normalizeNewlines input) = .skipped (normalizeNewlines text) (normalizeNewlines rest) := by
  obtain ⟨text', found'⟩ := first_skipped_normalizeNewlines found
  have whole := append_of_skipped found'
  rw [← append_of_skipped found, normalizeNewlines_join (unbroken_of_skipped found)] at whole
  rw [found', List.append_cancel_right whole]

theorem first_unclosed_iff :
    first input = .unclosed ↔
      ∃ inside, input = '(' :: '*' :: inside ∧ closeComment 0 inside = none := by
  constructor
  · intro found
    have shows := first_shows input
    rw [found] at shows
    cases shows with
    | @unclosed inside noTail =>
      refine ⟨inside, rfl, Option.eq_none_iff_forall_not_mem.mpr fun closed member => ?_⟩
      obtain ⟨tail, same⟩ := closeComment_eq_some.mp member
      exact noTail _ _ same tail
  · rintro ⟨inside, rfl, unclosed⟩
    simp only [first, unclosed]

theorem first_unclosed_normalizeNewlines (found : first input = .unclosed) :
    first (normalizeNewlines input) = .unclosed := by
  obtain ⟨inside, rfl, unclosed⟩ := first_unclosed_iff.mp found
  rw [normalizeNewlines_cons (by decide), normalizeNewlines_cons (by decide)]
  refine first_unclosed_iff.mpr ⟨_, rfl, ?_⟩
  have closed := closeComment_normalizeNewlines 0 inside
  rw [unclosed] at closed
  exact Option.map_eq_none_iff.mp closed

theorem single_unexpected {c d : Char} (found : single c rest = .unexpected d) (later : List Char) :
    single c later = .unexpected d := by
  unfold single at found ⊢
  grind

theorem of_first_unexpected {c : Char} (found : first input = .unexpected c) :
    ∃ rest, input = c :: rest ∧ (∀ d ∈ rest.head?, isPair c d = false) ∧
      single c rest = .unexpected c := by
  have shows := first_shows input
  rw [found] at shows
  cases shows with
  | @unexpected _ rest noComment _ =>
    have alone : ∀ d ∈ rest.head?, isPair c d = false := by
      intro d next
      refine Bool.eq_false_iff.mpr fun pair => ?_
      obtain ⟨more, rfl⟩ := List.head?_eq_some_iff.mp next
      simp only [isPair, List.mem_cons, Prod.mk.injEq, List.not_mem_nil, or_false,
        decide_eq_true_eq] at pair
      obtain ⟨rfl, rfl⟩ | ⟨rfl, rfl⟩ | ⟨rfl, rfl⟩ | ⟨rfl, rfl⟩ := pair
      · exact noComment rfl rfl
      · cases found
      · cases found
      · cases found
    exact ⟨rest, rfl, alone, first_cons alone ▸ found⟩

theorem first_unexpected_normalizeNewlines {c : Char} (found : first input = .unexpected c) :
    first (normalizeNewlines input) = .unexpected c := by
  obtain ⟨rest, rfl, alone, unexpected⟩ := of_first_unexpected found
  have noReturn : c ≠ '\r' := by
    rintro rfl
    cases unexpected
  have alone' : ∀ d ∈ (normalizeNewlines rest).head?, isPair c d = false := by
    intro d next
    obtain before | rfl := head?_normalizeNewlines next
    · exact alone d before
    · simp [isPair, noReturn]
  rw [normalizeNewlines_cons noReturn, first_cons alone']
  exact single_unexpected unexpected _

end Lexeme

/-- A place in a text, and the same place with all line ends made one. Each carriage return before it
that stands alone moves it down by a line, and nothing else moves it. -/
def Displaced (file : Option String) (source : List Char) (place place' : Location) : Prop :=
  ∃ before rest, before ++ rest = source ∧ Text.Unbroken before rest ∧
    place = locationAfter file before ∧
    place' = locationAfter file (Text.normalizeNewlines before) ∧
    place'.line = place.line + Text.loneReturns before ∧
    (place' = place ↔ Text.loneReturns before = 0)

theorem displaced {before rest : List Char} (file : Option String)
    (unbroken : Text.Unbroken before rest) :
    Displaced file (before ++ rest) (locationAfter file before)
      (locationAfter file (Text.normalizeNewlines before)) :=
  ⟨before, rest, rfl, unbroken, rfl, rfl, line_normalizeNewlines file before,
    locationAfter_normalizeNewlines_eq_iff⟩

theorem Displaced.eq {file : Option String} {source : List Char} {place place' : Location}
    (displaced : Displaced file source place place') (none : Text.loneReturns source = 0) :
    place' = place := by
  obtain ⟨before, rest, rfl, unbroken, -, -, -, same⟩ := displaced
  rw [Text.loneReturns_join unbroken] at none
  exact same.mpr (by omega)

/-- The same word, displaced. -/
structure SameToken (file : Option String) (source : List Char) (t t' : Token) : Prop where
  word : t'.word = t.word
  place : Displaced file source t.location t'.location

theorem SameToken.eq {file : Option String} {source : List Char} {t t' : Token}
    (same : SameToken file source t t') (none : Text.loneReturns source = 0) : t' = t := by
  have word := same.word
  have place := same.place.eq none
  cases t
  cases t'
  simp_all [Token.word]

structure SameError (file : Option String) (source : List Char) (e e' : SyntaxError) : Prop where
  cause : e'.cause = e.cause
  place : Displaced file source e.location e'.location

theorem SameError.eq {file : Option String} {source : List Char} {e e' : SyntaxError}
    (same : SameError file source e e') (none : Text.loneReturns source = 0) : e' = e := by
  have cause := same.cause
  have place := same.place.eq none
  cases e
  cases e'
  simp_all

namespace Lexed

open Text

/-- Two passes, over a text and over the same text with its line ends made one, find the same. -/
structure Alike (file : Option String) (source : List Char) (lexed unified : Lexed) : Prop where
  tokens : List.Forall₂ (SameToken file source) lexed.tokens unified.tokens
  error : Option.Rel (SameError file source) lexed.error unified.error
  cursor : lexed.error = none → lexed.cursor = Cursor.start.advance source ∧
    unified.cursor = Cursor.start.advance (normalizeNewlines source)

theorem scan_alike (file : Option String) (before input : List Char)
    (unbroken : Unbroken before input) :
    Alike file (before ++ input) (scan file (Cursor.start.advance before) input)
      (scan file (Cursor.start.advance (normalizeNewlines before)) (normalizeNewlines input)) := by
  generalize start : Cursor.start.advance before = cursor
  fun_induction scan file cursor input generalizing before with
  | case1 cursor input kind text middle found _ ih =>
    subst start
    obtain ⟨nonempty, rfl⟩ := Lexeme.tiles_of_token found
    have noReturn := (Lexeme.first_spells found).no_return
    have same : normalizeNewlines (before ++ text) = normalizeNewlines before ++ text := by
      rw [normalizeNewlines_join (unbroken.left nonempty), normalizeNewlines_eq_self noReturn]
    have ends := Lexeme.unbroken_of_no_return noReturn middle
    have later := ih (before ++ text) (ends.append nonempty before) (Cursor.advance_append _ _ _).symm
    rw [same, ← Cursor.advance_append, List.append_assoc] at later
    rw [scan_token _ (Lexeme.first_token_normalizeNewlines found)]
    refine ⟨.cons ⟨rfl, ?_⟩ later.tokens, later.error, later.cursor⟩
    rw [Cursor.location_advance, Cursor.location_advance]
    exact displaced file unbroken
  | case2 cursor input text middle found ih =>
    subst start
    obtain ⟨nonempty, rfl⟩ := Lexeme.tiles_of_skipped found
    have ends := Lexeme.unbroken_of_skipped found
    have later := ih (before ++ text) (ends.append nonempty before) (Cursor.advance_append _ _ _).symm
    rw [normalizeNewlines_join (unbroken.left nonempty), ← Cursor.advance_append, List.append_assoc]
      at later
    rwa [scan_skipped _ (Lexeme.first_skipped_unified found)]
  | case3 cursor input found =>
    subst start
    rw [scan_unclosed _ (Lexeme.first_unclosed_normalizeNewlines found)]
    refine ⟨.nil, .some ⟨rfl, ?_⟩, fun finished => absurd finished (Option.some_ne_none _)⟩
    rw [Cursor.location_advance, Cursor.location_advance]
    exact displaced file unbroken
  | case4 cursor input c found =>
    subst start
    rw [scan_unexpected _ (Lexeme.first_unexpected_normalizeNewlines found)]
    refine ⟨.nil, .some ⟨rfl, ?_⟩, fun finished => absurd finished (Option.some_ne_none _)⟩
    rw [Cursor.location_advance, Cursor.location_advance]
    exact displaced file unbroken
  | case5 cursor input found =>
    subst start
    obtain rfl := Lexeme.eq_nil_of_finished found
    rw [normalizeNewlines, scan_nil, List.append_nil]
    exact ⟨.nil, .none, fun _ => ⟨rfl, rfl⟩⟩

section Alike

variable {file : Option String} {source : List Char} {lexed unified : Lexed}
  (alike : Alike file source lexed unified)
include alike

theorem Alike.error_eq_none_iff : unified.error = none ↔ lexed.error = none := by
  have error := alike.error
  generalize lexed.error = e, unified.error = e' at error ⊢
  cases error <;> simp

theorem Alike.listing_of_finished (finished : lexed.error = none) :
    lexed.listing file = lexed.tokens ++ [⟨.eof, "", locationAfter file source⟩] ∧
      unified.listing file =
        unified.tokens ++ [⟨.eof, "", locationAfter file (normalizeNewlines source)⟩] := by
  obtain ⟨cursor, cursor'⟩ := alike.cursor finished
  simp only [Lexed.listing, finished, alike.error_eq_none_iff.mpr finished, cursor, cursor',
    Cursor.location_advance, and_self]

theorem Alike.listing : List.Forall₂ (SameToken file source) (lexed.listing file)
    (unified.listing file) := by
  cases error : lexed.error with
  | none =>
    obtain ⟨listing, listing'⟩ := alike.listing_of_finished error
    have whole : Unbroken source [] := by simp [Unbroken]
    have place := displaced file whole
    rw [List.append_nil] at place
    rw [listing, listing']
    exact List.rel_append alike.tokens (.cons ⟨rfl, place⟩ .nil)
  | some e =>
    obtain ⟨e', error'⟩ : ∃ e', unified.error = some e' := by
      refine Option.ne_none_iff_exists'.mp fun finished => ?_
      rw [alike.error_eq_none_iff.mp finished] at error
      cases error
    simpa only [Lexed.listing, error, error'] using alike.tokens

theorem Alike.eq_of_none (none : loneReturns source = 0) :
    unified.listing file = lexed.listing file ∧ unified.error = lexed.error := by
  constructor
  · have same := alike.listing.imp fun t t' same => (same.eq none).symm
    rw [List.forall₂_eq_eq_eq] at same
    exact same.symm
  · have error := alike.error
    generalize lexed.error = e, unified.error = e' at error ⊢
    cases error with
    | some same => rw [same.eq none]
    | none => rfl

theorem Alike.listing_eq_iff (finished : lexed.error = none) :
    unified.listing file = lexed.listing file ↔ loneReturns source = 0 := by
  constructor
  · intro same
    obtain ⟨listing, listing'⟩ := alike.listing_of_finished finished
    rw [listing, listing'] at same
    have ends := List.append_inj_right' same rfl
    simp only [List.cons.injEq, Token.mk.injEq, and_true, true_and] at ends
    exact locationAfter_normalizeNewlines_eq_iff.mp ends
  · exact fun none => (alike.eq_of_none none).1

end Alike

/-- Making all line ends one changes neither the words of a text nor the cause of an error, but it moves
what comes after a carriage return that stood alone. So the passes agree on all places exactly if
there is none. -/
theorem ofSource_unifyLines (source : String) (file : Option String) :
    ((ofSource (unifyLines source) file).error = none ↔ (ofSource source file).error = none) ∧
      List.Forall₂ (SameToken file source.toList) ((ofSource source file).listing file)
        ((ofSource (unifyLines source) file).listing file) ∧
      Option.Rel (SameError file source.toList) (ofSource source file).error
        (ofSource (unifyLines source) file).error ∧
      ((ofSource source file).error = none →
        ((ofSource (unifyLines source) file).listing file = (ofSource source file).listing file ↔
          loneReturns source.toList = 0)) ∧
      (loneReturns source.toList = 0 →
        (ofSource (unifyLines source) file).listing file = (ofSource source file).listing file ∧
          (ofSource (unifyLines source) file).error = (ofSource source file).error) := by
  have alike := scan_alike file [] source.toList (by simp [Unbroken])
  have unified : normalizeNewlines source.toList = (unifyLines source).toList := by
    rw [unifyLines, String.toList_ofList]
  rw [unified] at alike
  exact ⟨alike.error_eq_none_iff, alike.listing, alike.error, alike.listing_eq_iff,
    alike.eq_of_none⟩

/-- Line ends of two characters, one of them in a comment, leave every place as it is. -/
theorem ofSource_unifyLines_pairs :
    let source := "f\r\n (*\r\n*) 12\r\n"
    loneReturns source.toList = 0 ∧ unifyLines source = "f\n (*\n*) 12\n" ∧
      (ofSource source none).listing none =
        [⟨.ident, "f", ⟨1, 1, none⟩⟩, ⟨.number, "12", ⟨3, 4, none⟩⟩, ⟨.eof, "", ⟨4, 1, none⟩⟩] ∧
      (ofSource (unifyLines source) none).listing none = (ofSource source none).listing none := by
  intro source
  have none : loneReturns source.toList = 0 := by decide +kernel
  obtain ⟨-, -, -, -, same⟩ := ofSource_unifyLines source .none
  exact ⟨none, by decide +kernel, by decide +kernel, (same none).1⟩

/-- After a carriage return that stands alone, the places of a name and of an error are on the first
line, and on the second one if a line feed stands there. -/
theorem ofSource_unifyLines_return :
    unifyLines "\rx" = "\nx" ∧ unifyLines "\r$" = "\n$" ∧
      (ofSource "\rx" none).listing none =
        [⟨.ident, "x", ⟨1, 2, none⟩⟩, ⟨.eof, "", ⟨1, 3, none⟩⟩] ∧
      (ofSource "\nx" none).listing none =
        [⟨.ident, "x", ⟨2, 1, none⟩⟩, ⟨.eof, "", ⟨2, 2, none⟩⟩] ∧
      (ofSource "\r$" none).error = some ⟨.unexpectedCharacter '$', ⟨1, 2, none⟩⟩ ∧
      (ofSource "\n$" none).error = some ⟨.unexpectedCharacter '$', ⟨2, 1, none⟩⟩ := by
  decide +kernel

end Lexed

end Gradual
