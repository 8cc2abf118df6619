import Gradual.Proofs.Printing

/-! Texts that show where they end. A quotation is read back one character at a time: an escape
tells by its second character what it stands for and how many digits it has, and no character inside
is written like the mark that closes the quotation. So a quotation at the start of a text gives away
both the quoted text and what follows, and a number does where something other than a digit
follows. -/
namespace Gradual

theorem run_append_inj {p : Char → Bool} {run run' rest rest' : List Char}
    (inside : ∀ c ∈ run, p c = true) (inside' : ∀ c ∈ run', p c = true)
    (stop : ∀ c ∈ rest.head?, p c = false) (stop' : ∀ c ∈ rest'.head?, p c = false)
    (same : run ++ rest = run' ++ rest') : run = run' ∧ rest = rest' := by
  obtain ⟨taken, left⟩ := takeWhile_boundary inside stop
  obtain ⟨taken', left'⟩ := takeWhile_boundary inside' stop'
  rw [same] at taken left
  exact ⟨taken.symm.trans taken', left.symm.trans left'⟩

namespace Text

section Hexadecimal

def hexDigits : List Char := "0123456789abcdef".toList

def ofHexadecimal (digits : List Char) : Nat :=
  digits.foldl (fun n c => 16 * n + hexDigits.idxOf c) 0

theorem idxOf_digitChar {d : Nat} (small : d < 16) : hexDigits.idxOf d.digitChar = d := by
  have all : ∀ d < 16, hexDigits.idxOf (Nat.digitChar d) = d := by decide
  exact all d small

theorem ofHexadecimal_toDigits (n : Nat) : ofHexadecimal (Nat.toDigits 16 n) = n := by
  induction n using Nat.base_induction 16 (by decide) with
  | single d small => simp [Nat.toDigits_of_lt_base small, ofHexadecimal, idxOf_digitChar small]
  | digit n d small positive ih =>
    unfold ofHexadecimal at ih ⊢
    rw [← Nat.toDigits_append_toDigits (by decide) positive small, List.foldl_append, ih,
      Nat.toDigits_of_lt_base small, List.foldl_cons, List.foldl_nil, idxOf_digitChar small]

theorem ofHexadecimal_hexadecimal (width n : Nat) : ofHexadecimal (hexadecimal width n) = n := by
  have zeros : ∀ k, ofHexadecimal (List.replicate k '0') = 0 := by
    intro k
    induction k with
    | zero => rfl
    | succ k ih => rw [List.replicate_succ, ofHexadecimal, List.foldl_cons]; exact ih
  have digits := ofHexadecimal_toDigits n
  unfold ofHexadecimal at zeros digits ⊢
  rw [hexadecimal, List.foldl_append, zeros, digits]

theorem length_hexadecimal {width n : Nat} (positive : 0 < width) (fits : n < 16 ^ width) :
    (hexadecimal width n).length = width := by
  have short := (Nat.length_toDigits_le_iff (by decide) positive).mpr fits
  rw [hexadecimal, List.length_append, List.length_replicate]
  omega

end Hexadecimal

section Escapes

/-- The character whose code point has as many digits as are given, and what follows them. -/
def readCode (width : Nat) (text : List Char) : Char × List Char :=
  (Char.ofNat (ofHexadecimal (text.take width)), text.drop width)

/-- The first character of a text in which characters are escaped, and what follows it. -/
def unescape? : List Char → Option (Char × List Char)
  | '\\' :: 'n' :: rest => some ('\n', rest)
  | '\\' :: 'r' :: rest => some ('\r', rest)
  | '\\' :: 't' :: rest => some ('\t', rest)
  | '\\' :: 'x' :: rest => some (readCode 2 rest)
  | '\\' :: 'u' :: rest => some (readCode 4 rest)
  | '\\' :: 'U' :: rest => some (readCode 8 rest)
  | '\\' :: c :: rest => some (c, rest)
  | c :: rest => some (c, rest)
  | [] => none

theorem readCode_hexadecimal {width : Nat} {c : Char} (positive : 0 < width)
    (fits : c.toNat < 16 ^ width) (rest : List Char) :
    readCode width (hexadecimal width c.toNat ++ rest) = (c, rest) := by
  have length := length_hexadecimal positive fits
  rw [readCode, List.take_left' length, List.drop_left' length, ofHexadecimal_hexadecimal,
    Char.ofNat_toNat]

theorem unescape?_plain {c : Char} (plain : c ≠ '\\') (rest : List Char) :
    unescape? (c :: rest) = some (c, rest) := by
  unfold unescape?
  split <;> simp_all

theorem unescape?_numericEscape (c : Char) (rest : List Char) :
    unescape? (numericEscape c ++ rest) = some (c, rest) := by
  have bound : c.toNat < 16 ^ 8 := c.val.toNat_lt
  unfold numericEscape
  split
  · rename_i small
    exact congrArg some (readCode_hexadecimal (by decide) small rest)
  split
  · rename_i small
    exact congrArg some (readCode_hexadecimal (by decide) small rest)
  · exact congrArg some (readCode_hexadecimal (by decide) bound rest)

variable {mark : Char}

theorem unescape?_escapeIn (quotes : mark = '\'' ∨ mark = '"') (c : Char) (rest : List Char) :
    unescape? (escapeIn mark c ++ rest) = some (c, rest) := by
  unfold escapeIn
  split
  · rename_i marked
    obtain rfl | rfl := marked
    · obtain rfl | rfl := quotes <;> rfl
    · rfl
  rename_i other
  split
  · rename_i newline
    subst newline
    rfl
  split
  · rename_i newline
    subst newline
    rfl
  split
  · rename_i tab
    subst tab
    rfl
  split
  · exact unescape?_plain (fun backslash => other (.inr backslash)) rest
  · exact unescape?_numericEscape c rest

theorem exists_numericEscape (c : Char) : ∃ digits, numericEscape c = '\\' :: digits := by
  unfold numericEscape
  split
  · exact ⟨_, rfl⟩
  split
  · exact ⟨_, rfl⟩
  · exact ⟨_, rfl⟩

/-- A character stands for itself or is written with a backslash in front. -/
theorem escapeIn_cases (mark c : Char) :
    (escapeIn mark c = [c] ∧ c ≠ mark) ∨ ∃ escape, escapeIn mark c = '\\' :: escape := by
  unfold escapeIn
  split
  · exact .inr ⟨_, rfl⟩
  rename_i other
  split
  · exact .inr ⟨_, rfl⟩
  split
  · exact .inr ⟨_, rfl⟩
  split
  · exact .inr ⟨_, rfl⟩
  split
  · exact .inl ⟨rfl, fun same => other (.inl same)⟩
  · exact .inr (exists_numericEscape c)

theorem escapeIn_append_ne (quotes : mark = '\'' ∨ mark = '"') (c : Char)
    (rest rest' : List Char) : escapeIn mark c ++ rest ≠ mark :: rest' := by
  intro same
  obtain ⟨plain, other⟩ | ⟨escape, escaped⟩ := escapeIn_cases mark c
  · rw [plain] at same
    exact other (List.cons.inj same).1
  · rw [escaped] at same
    have backslash : '\\' = mark := (List.cons.inj same).1
    obtain rfl | rfl := quotes <;> cases backslash

theorem flatMap_escapeIn_inj (quotes : mark = '\'' ∨ mark = '"')
    {text text' rest rest' : List Char}
    (same : text.flatMap (escapeIn mark) ++ mark :: rest =
      text'.flatMap (escapeIn mark) ++ mark :: rest') : text = text' ∧ rest = rest' := by
  induction text generalizing text' with
  | nil =>
    cases text' with
    | nil => exact ⟨rfl, (List.cons.inj same).2⟩
    | cons d text' =>
      rw [List.flatMap_cons, List.append_assoc] at same
      exact absurd same.symm (escapeIn_append_ne quotes d _ _)
  | cons c text ih =>
    cases text' with
    | nil =>
      rw [List.flatMap_cons, List.append_assoc] at same
      exact absurd same (escapeIn_append_ne quotes c _ _)
    | cons d text' =>
      rw [List.flatMap_cons, List.flatMap_cons, List.append_assoc, List.append_assoc] at same
      have read := congrArg unescape? same
      rw [unescape?_escapeIn quotes, unescape?_escapeIn quotes] at read
      obtain ⟨rfl, later⟩ := Prod.mk.inj (Option.some.inj read)
      obtain ⟨rfl, rest⟩ := ih later
      exact ⟨rfl, rest⟩

theorem enclosing_cases (text : List Char) :
    enclosing text = '\'' ∨ enclosing text = '"' := by
  unfold enclosing
  split
  · exact .inr rfl
  · exact .inl rfl

/-- A quotation at the start of a text shows what it quotes and where it ends. -/
theorem quote_append_inj {text text' : String} {rest rest' : List Char}
    (same : (quote text).toList ++ rest = (quote text').toList ++ rest') :
    text = text' ∧ rest = rest' := by
  simp only [quote, String.toList_ofList, List.cons_append, List.append_assoc, List.nil_append]
    at same
  obtain ⟨marks, same⟩ := List.cons.inj same
  rw [← marks] at same
  obtain ⟨texts, rests⟩ := flatMap_escapeIn_inj (enclosing_cases text.toList) same
  exact ⟨String.toList_inj.mp texts, rests⟩

end Escapes

section Decimals

theorem isDigit_of_mem_toString {n : Nat} {c : Char} (member : c ∈ (toString n).toList) :
    c.isDigit = true := by
  rw [Nat.toString_eq_ofList_toDigits, String.toList_ofList] at member
  exact Nat.isDigit_of_mem_toDigits (by decide) (by decide) member

theorem toString_nat_inj {m n : Nat} (same : (toString m).toList = (toString n).toList) :
    m = n := by
  rw [Nat.toString_eq_ofList_toDigits, Nat.toString_eq_ofList_toDigits, String.toList_ofList,
    String.toList_ofList] at same
  rw [← Nat.ofDigitChars_ten_toDigits (n := m), same, Nat.ofDigitChars_ten_toDigits]

theorem toList_toString_int (a : Int) :
    (toString a).toList =
      if 0 ≤ a then (toString a.toNat).toList else '-' :: (toString (-a).toNat).toList := by
  rw [Int.toString_eq_repr, Int.repr_eq_if]
  split
  · rfl
  · rw [String.toList_append]
    rfl

theorem toString_int_inj {a b : Int} (same : (toString a).toList = (toString b).toList) :
    a = b := by
  have unsigned : ∀ {n : Nat} {text : List Char}, (toString n).toList ≠ '-' :: text := by
    intro n text same
    have digit := isDigit_of_mem_toString (n := n) (c := '-') (by rw [same]; exact List.mem_cons_self)
    cases digit
  rw [toList_toString_int, toList_toString_int] at same
  split at same
  · split at same
    · have := toString_nat_inj same
      omega
    · exact absurd same unsigned
  · split at same
    · exact absurd same.symm unsigned
    · have := toString_nat_inj (List.cons.inj same).2
      omega

/-- A number that neither a digit nor a sign follows shows where it ends. -/
theorem toString_int_append_inj {a b : Int} {rest rest' : List Char}
    (stop : ∀ c ∈ rest.head?, (c.isDigit || c == '-') = false)
    (stop' : ∀ c ∈ rest'.head?, (c.isDigit || c == '-') = false)
    (same : (toString a).toList ++ rest = (toString b).toList ++ rest') : a = b ∧ rest = rest' := by
  have inside : ∀ a : Int, ∀ c ∈ (toString a).toList, (c.isDigit || c == '-') = true := by
    intro a c member
    rw [toList_toString_int] at member
    split at member
    · simp [isDigit_of_mem_toString member]
    · obtain rfl | digit := List.mem_cons.mp member
      · rfl
      · simp [isDigit_of_mem_toString digit]
  obtain ⟨numbers, rests⟩ := run_append_inj (inside a) (inside b) stop stop' same
  exact ⟨toString_int_inj numbers, rests⟩

end Decimals

end Text

end Gradual
