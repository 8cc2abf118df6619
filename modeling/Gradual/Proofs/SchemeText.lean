import Gradual.Proofs.Quotation
import Gradual.Scheme
import Mathlib.Data.List.Basic

/-! The text of a scheme decides alpha-equivalence. Rendering names a parameter by the place of its
first appearance, and matching two types pairs parameters that appear first at the same time. So the
names on both sides and the renaming found so far keep track of each other through the two walks:
two parameters match exactly when they have one name. That equal texts come from types of one shape
is because a text shows where the left side of each arrow ends. -/
namespace Gradual

namespace Names

theorem toList_nth (index : Nat) :
    (nth index).toList = '\'' :: Char.ofNat ('a'.toNat + index % 26) ::
      (if index / 26 = 0 then [] else (toString (index / 26)).toList) := by
  simp only [nth]
  split <;> simp

theorem letter_inj {m n : Nat} (left : m < 26) (right : n < 26)
    (same : Char.ofNat ('a'.toNat + m) = Char.ofNat ('a'.toNat + n)) : m = n := by
  have all : ∀ k < 26, (Char.ofNat ('a'.toNat + k)).toNat = 'a'.toNat + k := by decide
  have codes := congrArg Char.toNat same
  rw [all m left, all n right] at codes
  omega

theorem nth_injective : Function.Injective nth := by
  intro i j same
  have texts := congrArg String.toList same
  rw [toList_nth, toList_nth] at texts
  obtain ⟨letters, rounds⟩ := List.cons.inj (List.cons.inj texts).2
  have letter : i % 26 = j % 26 :=
    letter_inj (Nat.mod_lt i (by decide)) (Nat.mod_lt j (by decide)) letters
  have round : i / 26 = j / 26 := by
    have written : ∀ n : Nat, (toString n).toList ≠ [] := by
      intro n
      simp
    split at rounds
    · split at rounds
      · omega
      · exact absurd rounds.symm (written _)
    · split at rounds
      · exact absurd rounds (written _)
      · exact Text.toString_nat_inj rounds
  rw [← Nat.div_add_mod i 26, ← Nat.div_add_mod j 26, letter, round]

/-- Where the id stands among the names, once it has been given one. -/
def place (names : Names) (id : Int) : Nat := (names.insert id).idxOf id

theorem insert_of_mem {names : Names} {id : Int} (known : id ∈ names) : names.insert id = names :=
  if_pos known

theorem insert_of_not_mem {names : Names} {id : Int} (new : id ∉ names) :
    names.insert id = names ++ [id] := if_neg new

theorem place_of_mem {names : Names} {id : Int} (known : id ∈ names) :
    names.place id = names.idxOf id := by
  rw [place, insert_of_mem known]

theorem place_of_not_mem {names : Names} {id : Int} (new : id ∉ names) :
    names.place id = names.length := by
  rw [place, insert_of_not_mem new, List.idxOf_append_of_notMem new]
  simp

end Names

namespace Renaming

/-- The pairs of the renaming are the ids that were named on both sides, each with the id that was
named at the same time. -/
structure Tracks (known : Renaming) (left right : Names) : Prop where
  length : left.length = right.length
  sources : ∀ a, a ∈ left ↔ ∃ b, (a, b) ∈ known
  images : ∀ b, b ∈ right ↔ ∃ a, (a, b) ∈ known
  places : ∀ a b, (a, b) ∈ known → left.idxOf a = right.idxOf b

theorem Tracks.nil : Tracks [] [] [] where
  length := rfl
  sources := by simp
  images := by simp
  places := by simp

variable {known : Renaming} {left right : Names}

theorem Tracks.extend (tracks : Tracks known left right) {a b : Int} (newLeft : a ∉ left)
    (newRight : b ∉ right) : Tracks ((a, b) :: known) (left ++ [a]) (right ++ [b]) where
  length := by simp [tracks.length]
  sources c := by
    rw [List.mem_append, List.mem_singleton, tracks.sources]
    simp only [List.mem_cons, Prod.mk.injEq, exists_or, exists_and_left, exists_eq, and_true]
    exact or_comm
  images c := by
    rw [List.mem_append, List.mem_singleton, tracks.images]
    simp only [List.mem_cons, Prod.mk.injEq, exists_or, exists_and_right, exists_eq, true_and]
    exact or_comm
  places c d member := by
    obtain ⟨rfl, rfl⟩ | old := by simpa using member
    · rw [List.idxOf_append_of_notMem newLeft, List.idxOf_append_of_notMem newRight, tracks.length]
      simp
    · rw [List.idxOf_append_of_mem ((tracks.sources c).mpr ⟨d, old⟩),
        List.idxOf_append_of_mem ((tracks.images d).mpr ⟨c, old⟩)]
      exact tracks.places c d old

/-- Ids match exactly when they are named at the same place. -/
theorem Tracks.match? (tracks : Tracks known left right) (a b : Int) :
    (known.match? a b = none ∧ left.place a ≠ right.place b) ∨
      ∃ known', known.match? a b = some known' ∧ left.place a = right.place b ∧
        Tracks known' (left.insert a) (right.insert b) := by
  unfold Renaming.match?
  split
  · rename_i image found
    have member := List.mem_of_find?_eq_some found
    obtain rfl : _ = a := by simpa using List.find?_some found
    have knownLeft := (tracks.sources _).mpr ⟨image, member⟩
    have knownRight := (tracks.images _).mpr ⟨_, member⟩
    have place := tracks.places _ _ member
    rw [Names.place_of_mem knownLeft, Names.insert_of_mem knownLeft, place]
    by_cases same : image = b
    · subst same
      refine .inr ⟨known, if_pos rfl, (Names.place_of_mem knownRight).symm, ?_⟩
      rwa [Names.insert_of_mem knownRight]
    · refine .inl ⟨if_neg same, fun places => ?_⟩
      by_cases used : b ∈ right
      · rw [Names.place_of_mem used] at places
        exact same ((List.idxOf_inj knownRight).mp places)
      · rw [Names.place_of_not_mem used] at places
        exact absurd (List.idxOf_lt_length_of_mem knownRight) (by omega)
  · rename_i unknown
    have newLeft : a ∉ left := by
      intro used
      obtain ⟨image, member⟩ := (tracks.sources a).mp used
      exact List.find?_eq_none.mp unknown _ member (by simp)
    rw [Names.place_of_not_mem newLeft, Names.insert_of_not_mem newLeft]
    by_cases used : b ∈ right
    · obtain ⟨source, member⟩ := (tracks.images b).mp used
      refine .inl ⟨if_pos (List.any_eq_true.mpr ⟨_, member, by simp⟩), fun places => ?_⟩
      rw [Names.place_of_mem used, tracks.length] at places
      exact absurd (List.idxOf_lt_length_of_mem used) (by omega)
    · have unused : ¬ known.any (·.2 = b) := by
        intro taken
        obtain ⟨entry, member, image⟩ := List.any_eq_true.mp taken
        obtain rfl : entry.2 = b := by simpa using image
        exact used ((tracks.images _).mpr ⟨entry.1, member⟩)
      refine .inr ⟨_, if_neg unused, ?_, ?_⟩
      · rw [Names.place_of_not_mem used, tracks.length]
      · rw [Names.insert_of_not_mem used]
        exact tracks.extend newLeft used

end Renaming

namespace Ty

/-- No variables, and no base types but `int` and `bool`. -/
def isScheme {ε : Type} : Ty ε → Bool
  | .param _ | .dyn => true
  | .base name => name = "int" || name = "bool"
  | .arrow dom cod => dom.isScheme && cod.isScheme
  | .var _ | .host _ => false

/-- The types match, and the renaming found goes on keeping track of the names. -/
def Matched (known vars : Renaming) (t u : Ty Empty) (left right : Names) : Prop :=
  ∃ known', alphaMatch? t u (known, vars) = some (known', vars) ∧
    known'.Tracks (t.renderWith left).2 (u.renderWith right).2

variable {t u : Ty Empty} {known vars : Renaming} {left right : Names}

theorem renderWith_param (a : Int) (names : Names) :
    (param a : Ty Empty).renderWith names = (Names.nth (names.place a), names.insert a) := rfl

/-- Types that match have the same text. -/
theorem text_of_alphaMatch? (scheme : t.isScheme = true) (tracks : known.Tracks left right)
    {found : Renaming × Renaming} (matched : alphaMatch? t u (known, vars) = some found) :
    (t.renderWith left).1 = (u.renderWith right).1 ∧ t.isArrow = u.isArrow ∧
      found.2 = vars ∧ found.1.Tracks (t.renderWith left).2 (u.renderWith right).2 := by
  induction t generalizing u known left right found with
  | param a =>
    cases u with
    | param b =>
      obtain ⟨differ, _⟩ | ⟨known', same, places, tracks⟩ := tracks.match? a b
      · simp [alphaMatch?, differ] at matched
      · obtain rfl : (known', vars) = found := by simpa [alphaMatch?, same] using matched
        rw [renderWith_param, renderWith_param, places]
        exact ⟨rfl, rfl, rfl, tracks⟩
    | _ => simp [alphaMatch?] at matched
  | base name =>
    cases u with
    | base other =>
      obtain ⟨rfl, rfl⟩ : name = other ∧ (known, vars) = found := by
        simpa [alphaMatch?] using matched
      exact ⟨rfl, rfl, rfl, tracks⟩
    | _ => simp [alphaMatch?] at matched
  | arrow dom cod domIH codIH =>
    cases u with
    | arrow dom' cod' =>
      simp only [isScheme, Bool.and_eq_true] at scheme
      rw [alphaMatch?, Option.bind_eq_some_iff] at matched
      obtain ⟨⟨known₁, vars₁⟩, matchedDom, matchedCod⟩ := matched
      obtain ⟨textDom, arrows, rfl, tracks₁⟩ := domIH scheme.1 tracks matchedDom
      obtain ⟨textCod, _, keptVars, tracks₂⟩ := codIH scheme.2 tracks₁ matchedCod
      refine ⟨?_, rfl, keptVars, tracks₂⟩
      simp only [renderWith, textDom, textCod, arrows]
    | _ => simp [alphaMatch?] at matched
  | dyn =>
    cases u with
    | dyn =>
      obtain rfl : (known, vars) = found := by simpa [alphaMatch?] using matched
      exact ⟨rfl, rfl, rfl, tracks⟩
    | _ => simp [alphaMatch?] at matched
  | var | host => cases scheme

section Atoms

/-- Characters that stand in the text of a type without arrows. -/
def isAtomic (c : Char) : Bool := c != ' ' && c != '(' && c != ')'

theorem isAtomic_nth {index : Nat} {c : Char} (member : c ∈ (Names.nth index).toList) :
    isAtomic c = true := by
  have letters : ∀ k < 26, isAtomic (Char.ofNat ('a'.toNat + k)) = true := by decide
  rw [Names.toList_nth] at member
  obtain rfl | member := List.mem_cons.mp member
  · rfl
  obtain rfl | member := List.mem_cons.mp member
  · exact letters (index % 26) (Nat.mod_lt index (by decide))
  split at member
  · cases member
  · have digit := Text.isDigit_of_mem_toString member
    simp only [isAtomic, Bool.and_eq_true, bne_iff_ne]
    refine ⟨⟨?_, ?_⟩, ?_⟩ <;> rintro rfl <;> cases digit

theorem isAtomic_text (scheme : t.isScheme = true) (atom : t.isArrow = false) (names : Names) :
    ∀ c ∈ (t.renderWith names).1.toList, isAtomic c = true := by
  intro c member
  cases t with
  | param a => exact isAtomic_nth member
  | base name =>
    simp only [isScheme, Bool.or_eq_true, decide_eq_true_eq] at scheme
    have texts : ∀ name ∈ ["int", "bool"], name.toList.all isAtomic = true := by decide
    exact List.all_eq_true.mp (texts name (by simpa using scheme)) c member
  | dyn =>
    obtain rfl : c = '?' := by simpa [renderWith] using member
    rfl
  | arrow => cases atom
  | var | host => cases scheme

theorem nth_ne_of_head? {index : Nat} {text : String} (other : text.toList.head? ≠ some '\'') :
    Names.nth index ≠ text := by
  rintro rfl
  rw [Names.toList_nth] at other
  exact other rfl

theorem matched_of_text (scheme : t.isScheme = true) (scheme' : u.isScheme = true)
    (atom : t.isArrow = false) (atom' : u.isArrow = false) (tracks : known.Tracks left right)
    (same : (t.renderWith left).1 = (u.renderWith right).1) :
    Matched known vars t u left right := by
  have bases : ∀ {name}, (base name : Ty Empty).isScheme = true →
      name.toList.head? ≠ some '\'' ∧ name ≠ "?" := by
    intro name scheme
    simp only [isScheme, Bool.or_eq_true, decide_eq_true_eq] at scheme
    obtain rfl | rfl := scheme <;> decide
  have unknown : "?".toList.head? ≠ some '\'' := by decide
  cases t with
  | param a =>
    cases u with
    | param b =>
      have places := Names.nth_injective same
      obtain ⟨_, differ⟩ | ⟨known', found, _, tracks⟩ := tracks.match? a b
      · exact absurd places differ
      · exact ⟨known', by simp [alphaMatch?, found], tracks⟩
    | base name => exact absurd same (nth_ne_of_head? (bases scheme').1)
    | dyn => exact absurd same (nth_ne_of_head? unknown)
    | arrow => cases atom'
    | var | host => cases scheme'
  | base name =>
    cases u with
    | param b => exact absurd same.symm (nth_ne_of_head? (bases scheme).1)
    | base other =>
      obtain rfl : name = other := same
      exact ⟨known, by simp [alphaMatch?], tracks⟩
    | dyn => exact absurd same (bases scheme).2
    | arrow => cases atom'
    | var | host => cases scheme'
  | dyn =>
    cases u with
    | param b => exact absurd same.symm (nth_ne_of_head? unknown)
    | base name => exact absurd same.symm (bases scheme').2
    | dyn => exact ⟨known, by simp [alphaMatch?], tracks⟩
    | arrow => cases atom'
    | var | host => cases scheme'
  | arrow => cases atom
  | var | host => cases scheme

end Atoms

section Operands

/-- The text of a type to the left of an arrow. -/
def operand (names : Names) (t : Ty Empty) : List Char :=
  if t.isArrow then '(' :: ((t.renderWith names).1.toList ++ [')'])
  else (t.renderWith names).1.toList

theorem operand_of_arrow (arrow : t.isArrow = true) (names : Names) :
    t.operand names = '(' :: ((t.renderWith names).1.toList ++ [')']) := by
  simp [operand, arrow]

theorem operand_of_atom (atom : t.isArrow = false) (names : Names) :
    t.operand names = (t.renderWith names).1.toList := by
  simp [operand, atom]

theorem toList_renderWith_arrow (dom cod : Ty Empty) (names : Names) :
    ((arrow dom cod).renderWith names).1.toList = dom.operand names ++
      (' ' :: '-' :: '>' :: ' ' :: (cod.renderWith (dom.renderWith names).2).1.toList) := by
  simp only [renderWith, operand]
  split <;> simp

/-- What may follow a type to the left of an arrow or an atom. -/
def EndsOperand (rest : List Char) : Prop := ∀ c ∈ rest.head?, c = ' ' ∨ c = ')'

/-- What may follow a type that stands on its own or in parentheses. -/
def EndsType (rest : List Char) : Prop := ∀ c ∈ rest.head?, c = ')'

theorem EndsType.operand {rest : List Char} (ends : EndsType rest) : EndsOperand rest :=
  fun c member => .inr (ends c member)

theorem EndsOperand.not_atomic {rest : List Char} (ends : EndsOperand rest) :
    ∀ c ∈ rest.head?, isAtomic c = false := by
  intro c member
  obtain rfl | rfl := ends c member <;> rfl

theorem endsOperand_blank (text : List Char) : EndsOperand (' ' :: text) := by
  rintro _ ⟨⟩
  exact .inl rfl

theorem endsType_parenthesis (text : List Char) : EndsType (')' :: text) := by
  rintro _ ⟨⟩
  rfl

theorem not_endsType_blank (text : List Char) : ¬ EndsType (' ' :: text) := by
  intro ends
  cases ends ' ' rfl

/-- An operand in parentheses is no atom. -/
theorem atom_ne_parenthesis {inner rest : List Char} (scheme : t.isScheme = true)
    (atom : t.isArrow = false) (names : Names) (ends : EndsOperand rest) :
    (t.renderWith names).1.toList ++ rest ≠ '(' :: inner := by
  intro same
  have atomic := isAtomic_text scheme atom names
  generalize (t.renderWith names).1.toList = text at same atomic
  cases text with
  | nil =>
    rw [List.nil_append] at same
    obtain blank | closed := ends '(' (by simp [same])
    · cases blank
    · cases closed
  | cons c text =>
    obtain ⟨rfl, _⟩ := List.cons.inj same
    cases atomic '(' List.mem_cons_self

/-- Equal texts come from types that match, whatever follows the types. -/
def Reads (vars : Renaming) (t : Ty Empty) : Prop :=
  ∀ (u : Ty Empty) (known : Renaming) (left right : Names) (rest rest' : List Char),
    t.isScheme = true → u.isScheme = true → known.Tracks left right →
    EndsType rest → EndsType rest' →
    (t.renderWith left).1.toList ++ rest = (u.renderWith right).1.toList ++ rest' →
    Matched known vars t u left right ∧ rest = rest'

theorem Reads.operand {rest rest' : List Char} (reads : t.isArrow = true → Reads vars t)
    (scheme : t.isScheme = true) (scheme' : u.isScheme = true) (tracks : known.Tracks left right)
    (ends : EndsOperand rest) (ends' : EndsOperand rest')
    (same : t.operand left ++ rest = u.operand right ++ rest') :
    Matched known vars t u left right ∧ rest = rest' := by
  cases shape : t.isArrow with
  | true =>
    rw [operand_of_arrow shape] at same
    cases shape' : u.isArrow with
    | true =>
      rw [operand_of_arrow shape', List.cons_append, List.cons_append, List.append_assoc,
        List.append_assoc] at same
      -- The closing parenthesis becomes part of what follows the type.
      obtain ⟨matched, rests⟩ := reads shape u known left right _ _ scheme scheme' tracks
        (endsType_parenthesis rest) (endsType_parenthesis rest') (List.cons.inj same).2
      exact ⟨matched, (List.cons.inj rests).2⟩
    | false =>
      rw [operand_of_atom shape'] at same
      exact absurd same.symm (atom_ne_parenthesis scheme' shape' right ends')
  | false =>
    rw [operand_of_atom shape] at same
    cases shape' : u.isArrow with
    | true =>
      rw [operand_of_arrow shape'] at same
      exact absurd same (atom_ne_parenthesis scheme shape left ends)
    | false =>
      rw [operand_of_atom shape'] at same
      obtain ⟨texts, rests⟩ := run_append_inj (isAtomic_text scheme shape left)
        (isAtomic_text scheme' shape' right) ends.not_atomic ends'.not_atomic same
      exact ⟨matched_of_text scheme scheme' shape shape' tracks (String.toList_inj.mp texts), rests⟩

theorem reads_atom (atom : t.isArrow = false) : Reads vars t := by
  intro u known left right rest rest' scheme scheme' tracks ends ends' same
  have reads : t.isArrow = true → Reads vars t := by simp [atom]
  rw [← operand_of_atom atom left] at same
  cases atom' : u.isArrow with
  | false =>
    rw [← operand_of_atom atom' right] at same
    exact Reads.operand reads scheme scheme' tracks ends.operand ends'.operand same
  | true =>
    cases u with
    | arrow dom cod =>
      simp only [isScheme, Bool.and_eq_true] at scheme'
      rw [toList_renderWith_arrow, List.append_assoc] at same
      obtain ⟨_, rfl⟩ :=
        Reads.operand reads scheme scheme'.1 tracks ends.operand (endsOperand_blank _) same
      exact absurd ends (not_endsType_blank _)
    | _ => cases atom'

theorem reads_arrow {dom cod : Ty Empty} (domReads : Reads vars dom) (codReads : Reads vars cod) :
    Reads vars (arrow dom cod) := by
  intro u known left right rest rest' scheme scheme' tracks ends ends' same
  simp only [isScheme, Bool.and_eq_true] at scheme
  rw [toList_renderWith_arrow, List.append_assoc] at same
  cases atom' : u.isArrow with
  | false =>
    rw [← operand_of_atom atom' right] at same
    obtain ⟨_, rfl⟩ := Reads.operand (fun _ => domReads) scheme.1 scheme' tracks
      (endsOperand_blank _) ends'.operand same
    exact absurd ends' (not_endsType_blank _)
  | true =>
    cases u with
    | arrow dom' cod' =>
      simp only [isScheme, Bool.and_eq_true] at scheme'
      rw [toList_renderWith_arrow, List.append_assoc] at same
      obtain ⟨⟨known₁, matchedDom, tracks₁⟩, texts⟩ :=
        Reads.operand (fun _ => domReads) scheme.1 scheme'.1 tracks
          (endsOperand_blank _) (endsOperand_blank _) same
      obtain ⟨⟨known₂, matchedCod, tracks₂⟩, rests⟩ :=
        codReads cod' known₁ _ _ rest rest' scheme.2 scheme'.2 tracks₁ ends ends'
          (by simpa using texts)
      exact ⟨⟨known₂, by simp [alphaMatch?, matchedDom, matchedCod], tracks₂⟩, rests⟩
    | _ => cases atom'

theorem reads (vars : Renaming) (t : Ty Empty) : Reads vars t := by
  induction t with
  | arrow dom cod domReads codReads => exact reads_arrow domReads codReads
  | _ => exact reads_atom rfl

end Operands

/-- Schemes are written alike exactly when they differ by a renaming of parameters at most. -/
theorem render_eq_iff_alphaEquivalent (t u : Ty Empty) (scheme : t.isScheme = true)
    (scheme' : u.isScheme = true) : t.render = u.render ↔ t.alphaEquivalent u = true := by
  have alone : EndsType [] := by
    rintro _ ⟨⟩
  unfold alphaEquivalent
  constructor
  · intro same
    obtain ⟨⟨_, matched, _⟩, _⟩ := reads [] t u [] [] [] [] [] scheme scheme' Renaming.Tracks.nil
      alone alone (congrArg (·.toList ++ []) same)
    rw [matched]
    rfl
  · intro matched
    obtain ⟨_, matched⟩ := Option.isSome_iff_exists.mp matched
    exact (text_of_alphaMatch? scheme Renaming.Tracks.nil matched).1

/-- Ids are forgotten, the grouping of arrows is not. -/
theorem render_eq_iff_alphaEquivalent_grouping :
    (arrow (arrow (param 7) (param (-2))) (param 7) : Ty Empty).render =
        (arrow (arrow (param 0) (param 5)) (param 0) : Ty Empty).render ∧
      (arrow (arrow (param 7) (param (-2))) (param 7) : Ty Empty).render ≠
        (arrow (param 7) (arrow (param (-2)) (param 7)) : Ty Empty).render := by
  constructor
  · exact (render_eq_iff_alphaEquivalent _ _ rfl rfl).mpr (by decide)
  · intro same
    exact absurd ((render_eq_iff_alphaEquivalent _ _ rfl rfl).mp same) (by decide)

end Ty

end Gradual
