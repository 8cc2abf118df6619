import Gradual.Proofs.Patterns
import Gradual.Proofs.Printing
import Gradual.Text.Newline

/-! Where texts can be joined and changed without a change to their words. The lexer looks one
character beyond a piece, and only to see whether the piece goes on; `;` and a line feed go on
nothing but a carriage return. So a text that is cut to its end is cut in the same way before `;;`,
and after its line ends were made one, inside comments too. -/
namespace Gradual

namespace Lexeme

variable {input text rest later : List Char} {kind : Token.Kind}

theorem tiles_of_token (found : first input = .token kind text rest) :
    text ≠ [] ∧ text ++ rest = input := by
  have tiles := first_tiles input
  rwa [found] at tiles

theorem tiles_of_skipped (found : first input = .skipped text rest) :
    text ≠ [] ∧ text ++ rest = input := by
  have tiles := first_tiles input
  rwa [found] at tiles

theorem append_of_token (found : first input = .token kind text rest) : text ++ rest = input :=
  (tiles_of_token found).2

theorem append_of_skipped (found : first input = .skipped text rest) : text ++ rest = input :=
  (tiles_of_skipped found).2

theorem Shows.first_token (shows : Shows input (.token kind text rest)) :
    first input = .token kind text rest := by
  cases shows with
  | literal member noComment =>
    obtain ⟨c, rfl, symbol⟩ | rfl | rfl := of_mem_literals member
    · exact first_symbol symbol fun paren => noComment (by rw [paren])
    · obtain rfl : kind = .semisemi := by simpa [literals] using member
      rfl
    · obtain rfl : kind = .arrow := by simpa [literals] using member
      rfl
  | keyword member ends =>
    obtain ⟨c, more, rfl, start, word⟩ := of_mem_keywords member
    obtain ⟨taken, left⟩ := takeWhile_boundary word ends
    rw [List.cons_append, first_word start, taken, left, keyword?_eq_some.mpr member]
    rfl
  | @ident c more _ start word noKeyword ends =>
    obtain ⟨taken, left⟩ := takeWhile_boundary word ends
    have none : keyword? (c :: more) = none :=
      Option.eq_none_iff_forall_not_mem.mpr fun kind keyword =>
        noKeyword kind (keyword?_eq_some.mp keyword)
    rw [List.cons_append, first_word start, taken, left, none]
    rfl
  | number nonempty digits ends =>
    obtain ⟨c, more, rfl⟩ := List.exists_cons_of_ne_nil nonempty
    obtain ⟨digit, digits⟩ := List.forall_mem_cons.mp digits
    obtain ⟨taken, left⟩ := takeWhile_boundary digits ends
    rw [List.cons_append, first_number digit, taken, left]

theorem Shows.first_skipped (shows : Shows input (.skipped text rest)) :
    first input = .skipped text rest := by
  cases shows with
  | blanks nonempty blank ends =>
    obtain ⟨c, more, rfl⟩ := List.exists_cons_of_ne_nil nonempty
    obtain ⟨here, blank⟩ := List.forall_mem_cons.mp blank
    obtain ⟨taken, left⟩ := takeWhile_boundary blank ends
    rw [List.cons_append, first_blank here, taken, left]
  | lineEnd member whole =>
    simp only [lineEnds, List.mem_cons, List.not_mem_nil, or_false] at member
    obtain rfl | rfl | rfl := member
    · rw [List.singleton_append, first_cons (by simp [isPair])]
      rfl
    · have alone : ∀ d ∈ rest.head?, isPair '\r' d = false := by
        intro d next
        refine Bool.eq_false_iff.mpr fun pair => whole rfl ?_
        obtain rfl : d = '\n' := by simpa [isPair] using pair
        exact next
      rw [List.singleton_append, first_cons alone]
      rfl
    · rfl
  | @comment inside _ tail =>
    have closed : closeComment 0 (inside ++ rest) = some (inside, rest) :=
      closeComment_eq_some.mpr ⟨tail, rfl⟩
    simp only [List.cons_append, first, closed]

/-- The next character is the same, or one that goes on no run of characters. -/
def Resumes (rest later : List Char) : Prop :=
  ∀ c ∈ later.head?, c ∈ rest.head? ∨ c = ';' ∨ c = '\n'

theorem StopsAt.resumes {inClass : Char → Bool} (ends : StopsAt inClass rest)
    (resumes : Resumes rest later) (member : inClass ∈ runClasses) : StopsAt inClass later := by
  have outside : inClass ';' = false ∧ inClass '\n' = false := by
    simp only [runClasses, List.mem_cons, List.not_mem_nil, or_false] at member
    obtain rfl | rfl | rfl := member <;> decide
  intro c next
  obtain before | rfl | rfl := resumes c next
  · exact ends c before
  · exact outside.1
  · exact outside.2

theorem Resumes.head?_ne_star (resumes : Resumes rest later) (noStar : rest.head? ≠ some '*') :
    later.head? ≠ some '*' := by
  intro star
  obtain before | mark | feed := resumes '*' star
  · exact noStar before
  · cases mark
  · cases feed

/-- A token is found before any text that goes on neither the token nor a comment. -/
theorem first_token_before (found : first input = .token kind text rest)
    (word : StopsAt isWordChar rest → StopsAt isWordChar later)
    (digit : StopsAt Char.isDigit rest → StopsAt Char.isDigit later)
    (noStar : rest.head? ≠ some '*' → later.head? ≠ some '*') :
    first (text ++ later) = .token kind text later := by
  have shows := first_shows input
  rw [found] at shows
  apply Shows.first_token
  cases shows with
  | literal member noComment => exact .literal member fun paren => noStar (noComment paren)
  | keyword member ends => exact .keyword member (word ends)
  | ident start inside noKeyword ends => exact .ident start inside noKeyword (word ends)
  | number nonempty digits ends => exact .number nonempty digits (digit ends)

theorem first_token_resumes (found : first input = .token kind text rest)
    (resumes : Resumes rest later) : first (text ++ later) = .token kind text later :=
  first_token_before found (·.resumes resumes word_mem) (·.resumes resumes digit_mem)
    resumes.head?_ne_star

theorem first_skipped_resumes (found : first input = .skipped text rest)
    (resumes : Resumes rest later) (noFeed : rest.head? ≠ some '\n' → later.head? ≠ some '\n') :
    first (text ++ later) = .skipped text later := by
  have shows := first_shows input
  rw [found] at shows
  apply Shows.first_skipped
  cases shows with
  | blanks nonempty blank ends => exact .blanks nonempty blank (ends.resumes resumes blank_mem)
  | lineEnd member whole => exact .lineEnd member fun alone => noFeed (whole alone)
  | comment tail => exact .comment tail

end Lexeme

/-- A text that is cut to its end is cut the same if `;` follows. -/
theorem Cuts.before_mark {input : List Char} {ws : List Word} (cuts : Cuts input ws [])
    (more : List Char) : Cuts (input ++ ';' :: more) ws (';' :: more) := by
  have resumes (rest : List Char) : Lexeme.Resumes rest (rest ++ ';' :: more) := by
    intro c next
    cases rest with
    | nil => exact .inr (.inl (Option.some.inj next).symm)
    | cons d rest => exact .inl next
  have noFeed (rest : List Char) (none : rest.head? ≠ some '\n') :
      (rest ++ ';' :: more).head? ≠ some '\n' := by
    cases rest with
    | nil => simp
    | cons d rest => exact none
  generalize ends : ([] : List Char) = rest at cuts
  induction cuts with
  | nil =>
    subst ends
    exact .nil
  | token found _ ih =>
    rw [← Lexeme.append_of_token found, List.append_assoc]
    exact .token (Lexeme.first_token_resumes found (resumes _)) (ih ends)
  | skipped found _ ih =>
    rw [← Lexeme.append_of_skipped found, List.append_assoc]
    exact .skipped (Lexeme.first_skipped_resumes found (resumes _) (noFeed _)) (ih ends)

section LineEnds

open Text

theorem Text.normalizeNewlines_cons {c : Char} (other : c ≠ '\r') (rest : List Char) :
    normalizeNewlines (c :: rest) = c :: normalizeNewlines rest := by
  rw [normalizeNewlines.eq_def]
  split
  case h_3 same => cases same; rfl
  all_goals simp_all

theorem Text.normalizeNewlines_return {rest : List Char} (alone : rest.head? ≠ some '\n') :
    normalizeNewlines ('\r' :: rest) = '\n' :: normalizeNewlines rest := by
  rw [normalizeNewlines.eq_def]
  split
  case h_1 same => cases same; exact absurd rfl alone
  case h_2 same => cases same; rfl
  case h_3 other same => cases same; exact absurd rfl other
  case h_4 same => cases same

theorem Text.normalizeNewlines_append {text : List Char} (other : '\r' ∉ text) (rest : List Char) :
    normalizeNewlines (text ++ rest) = text ++ normalizeNewlines rest := by
  induction text with
  | nil => rfl
  | cons c text ih =>
    obtain ⟨here, later⟩ := not_or.mp (mt List.mem_cons.mpr other)
    rw [List.cons_append, normalizeNewlines_cons (Ne.symm here), ih later, List.cons_append]

theorem Text.head?_normalizeNewlines {rest : List Char} {c : Char}
    (next : c ∈ (normalizeNewlines rest).head?) : c ∈ rest.head? ∨ c = '\n' := by
  cases rest with
  | nil => exact .inl next
  | cons d rest =>
    by_cases carriage : d = '\r'
    · right
      subst carriage
      by_cases feed : rest.head? = some '\n'
      · obtain ⟨rest, rfl⟩ := List.head?_eq_some_iff.mp feed
        exact (Option.some.inj next).symm
      · rw [normalizeNewlines_return feed] at next
        exact (Option.some.inj next).symm
    · rw [normalizeNewlines_cons carriage] at next
      exact .inl next

theorem Lexeme.resumes_normalizeNewlines (rest : List Char) :
    Resumes rest (normalizeNewlines rest) :=
  fun _ next => (head?_normalizeNewlines next).imp_right .inr

namespace Lexeme

/-- A comment is closed at the same place when its line ends are made one. -/
theorem closeComment_normalizeNewlines (depth : Nat) (input : List Char) :
    (closeComment depth (Text.normalizeNewlines input)).map Prod.snd =
      (closeComment depth input).map fun closed => Text.normalizeNewlines closed.2 := by
  fun_induction closeComment depth input with
  | case1 rest =>
    rw [normalizeNewlines_cons (by decide), normalizeNewlines_cons (by decide)]
    rfl
  | case2 depth rest ih | case3 depth rest ih =>
    rw [normalizeNewlines_cons (by decide), normalizeNewlines_cons (by decide), closeComment,
      Option.map_map, Option.map_map]
    exact ih
  | case4 depth c rest noClose noDeepClose noOpen ih =>
    rw [Option.map_map]
    by_cases carriage : c = '\r'
    · by_cases feed : rest.head? = some '\n'
      · obtain ⟨rest, rfl⟩ := List.head?_eq_some_iff.mp feed
        rw [carriage]
        exact ih
      · rw [carriage, normalizeNewlines_return feed, closeComment_char (by simp), Option.map_map]
        exact ih
    · have noMark : ∀ d ∈ (Text.normalizeNewlines rest).head?,
          (c, d) ∉ [('(', '*'), ('*', ')')] := by
        intro d next
        obtain before | rfl := head?_normalizeNewlines next
        · exact noMark_of_walk noClose noDeepClose noOpen d before
        · simp
      rw [normalizeNewlines_cons carriage, closeComment_char noMark, Option.map_map]
      exact ih
  | case5 => simp [Text.normalizeNewlines, closeComment]

theorem Spells.no_return {kind : Token.Kind} {text : List Char} (spells : Spells kind text) :
    '\r' ∉ text := by
  cases spells with
  | semisemi | arrow => decide
  | symbol symbol =>
    intro member
    cases List.mem_singleton.mp member
    cases symbol
  | number digits => exact fun member => absurd (digits _ member) (by decide)
  | word start rest =>
    intro member
    obtain rfl | member := List.mem_cons.mp member
    · exact absurd start (by decide)
    · exact absurd (rest _ member) (by decide)

theorem first_token_normalizeNewlines {input text rest : List Char} {kind : Token.Kind}
    (found : first input = .token kind text rest) :
    first (Text.normalizeNewlines input) = .token kind text (Text.normalizeNewlines rest) := by
  rw [← append_of_token found, normalizeNewlines_append (first_spells found).no_return]
  exact first_token_resumes found (resumes_normalizeNewlines rest)

theorem first_skipped_normalizeNewlines {input text rest : List Char}
    (found : first input = .skipped text rest) :
    ∃ text', first (Text.normalizeNewlines input) = .skipped text' (Text.normalizeNewlines rest) := by
  have shows := first_shows input
  rw [found] at shows
  cases shows with
  | blanks nonempty blank ends =>
    have other : '\r' ∉ text := fun member => absurd (blank _ member) (by decide)
    have ends' := ends.resumes (resumes_normalizeNewlines rest) blank_mem
    rw [normalizeNewlines_append other]
    exact ⟨_, (Shows.blanks nonempty blank ends').first_skipped⟩
  | lineEnd member whole =>
    have feed : Text.normalizeNewlines (text ++ rest) = ['\n'] ++ Text.normalizeNewlines rest := by
      simp only [lineEnds, List.mem_cons, List.not_mem_nil, or_false] at member
      obtain rfl | rfl | rfl := member
      · exact normalizeNewlines_cons (by decide) rest
      · exact normalizeNewlines_return (whole rfl)
      · rfl
    rw [feed]
    exact ⟨_, (Shows.lineEnd (by decide) (by simp)).first_skipped⟩
  | @comment inside _ tail =>
    have closed := closeComment_normalizeNewlines 0 (inside ++ rest)
    rw [closeComment_eq_some.mpr ⟨tail, rfl⟩] at closed
    obtain ⟨⟨inside', _⟩, found', rfl⟩ := Option.map_eq_some_iff.mp closed
    refine ⟨'(' :: '*' :: inside', ?_⟩
    rw [List.cons_append, normalizeNewlines_cons (by decide), List.cons_append,
      normalizeNewlines_cons (by decide)]
    simp only [first, found']

end Lexeme

/-- Making all line ends one does not change the words of a text. -/
theorem Cuts.normalizeNewlines {input : List Char} {ws : List Word} (cuts : Cuts input ws []) :
    Cuts (Text.normalizeNewlines input) ws [] := by
  generalize ends : ([] : List Char) = rest at cuts ⊢
  induction cuts with
  | nil =>
    subst ends
    exact .nil
  | token found _ ih => exact .token (Lexeme.first_token_normalizeNewlines found) (ih ends)
  | skipped found _ ih =>
    obtain ⟨_, found'⟩ := Lexeme.first_skipped_normalizeNewlines found
    exact .skipped found' (ih ends)

end LineEnds

end Gradual
