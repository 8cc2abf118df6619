import Gradual.Text.Utf8

/-! Decoding undoes encoding: the bytes of a text decode to its characters. The bounds on the byte
after the first one keep out what a shorter sequence could say, surrogates and what lies beyond the
last code point; the bytes of a character are always within them. -/
namespace Gradual.Text.Utf8

section Shape

variable {lead : UInt8}

theorem shape?_of_two (low : 0xc2 ≤ lead.toNat) (high : lead.toNat < 0xe0) :
    shape? lead = some (1, 0x80, 0xbf) := by
  simp only [shape?, UInt8.lt_iff_toNat_lt, UInt8.reduceToNat]
  grind

theorem shape?_of_three (low : 0xe0 ≤ lead.toNat) (high : lead.toNat < 0xf0) :
    shape? lead = some (2, if lead.toNat = 0xe0 then 0xa0 else 0x80,
      if lead.toNat = 0xed then 0x9f else 0xbf) := by
  simp only [shape?, UInt8.lt_iff_toNat_lt, ← UInt8.toNat_inj, UInt8.reduceToNat]
  grind

theorem shape?_of_four (low : 0xf0 ≤ lead.toNat) (high : lead.toNat ≤ 0xf4) :
    shape? lead = some (3, if lead.toNat = 0xf0 then 0x90 else 0x80,
      if lead.toNat = 0xf4 then 0x8f else 0xbf) := by
  simp only [shape?, UInt8.lt_iff_toNat_lt, ← UInt8.toNat_inj, UInt8.reduceToNat]
  grind

end Shape

/-- A byte that continues a sequence holds six bits. -/
theorem toNat_continuation (n : Nat) : (UInt8.ofNat (n % 64 + 128)).toNat = n % 64 + 128 := by
  rw [UInt8.toNat_ofNat']
  omega

theorem continuing_cons {count : Nat} {low high b : UInt8} {rest taken : List UInt8}
    (atLeast : low.toNat ≤ b.toNat) (atMost : b.toNat ≤ high.toNat)
    (later : continuing count 0x80 0xbf rest = .ok taken) :
    continuing (count + 1) low high (b :: rest) = .ok (b :: taken) := by
  have inside : low ≤ b ∧ b ≤ high :=
    ⟨UInt8.le_iff_toNat_le.mpr atLeast, UInt8.le_iff_toNat_le.mpr atMost⟩
  simp only [continuing, if_pos inside, later]

theorem continuing_continuation (n : Nat) {count : Nat} {rest taken : List UInt8}
    (later : continuing count 0x80 0xbf rest = .ok taken) :
    continuing (count + 1) 0x80 0xbf (UInt8.ofNat (n % 64 + 128) :: rest) =
      .ok (UInt8.ofNat (n % 64 + 128) :: taken) := by
  have value := toNat_continuation n
  refine continuing_cons ?_ ?_ later <;> simp only [UInt8.reduceToNat] <;> omega

theorem decodeFrom_ascii {b : UInt8} (ascii : b.toNat < 0x80) (rest : List UInt8) (position : Nat) :
    decodeFrom position (b :: rest) =
      (decodeFrom (position + 1) rest).map (Char.ofNat b.toNat :: ·) := by
  have below : b < 0x80 := UInt8.lt_iff_toNat_lt.mpr ascii
  rw [decodeFrom.eq_def]
  simp only [if_pos below]

theorem decodeFrom_sequence {lead low high : UInt8} {taken rest : List UInt8}
    (notAscii : 0x80 ≤ lead.toNat) (shape : shape? lead = some (taken.length, low, high))
    (good : continuing taken.length low high (taken ++ rest) = .ok taken) (position : Nat) :
    decodeFrom position (lead :: (taken ++ rest)) =
      (decodeFrom (position + 1 + taken.length) rest).map
        (Char.ofNat (codePoint lead taken) :: ·) := by
  have notBelow : ¬ lead < 0x80 := by
    rw [UInt8.lt_iff_toNat_lt]
    exact Nat.not_lt.mpr notAscii
  rw [decodeFrom.eq_def]
  simp only [if_neg notBelow, shape, good, List.drop_left]

section Sequences

variable {v : Nat} (rest : List UInt8) (position : Nat)

theorem decodeFrom_two (low : 0x80 ≤ v) (high : v < 0x800) :
    decodeFrom position
        ([UInt8.ofNat (v / 64 % 32 + 192), UInt8.ofNat (v % 64 + 128)] ++ rest) =
      (decodeFrom (position + 2) rest).map (Char.ofNat v :: ·) := by
  have lead : (UInt8.ofNat (v / 64 % 32 + 192)).toNat = v / 64 + 192 := by
    rw [UInt8.toNat_ofNat']
    omega
  have value : codePoint (UInt8.ofNat (v / 64 % 32 + 192)) [UInt8.ofNat (v % 64 + 128)] = v := by
    simp only [codePoint, List.length_singleton, List.foldl_cons, List.foldl_nil, lead,
      toNat_continuation]
    omega
  rw [List.cons_append, decodeFrom_sequence (by omega) (shape?_of_two (by omega) (by omega))
    (continuing_continuation v rfl), value]
  rfl

theorem decodeFrom_three (low : 0x800 ≤ v) (high : v < 0x10000) (valid : v.isValidChar) :
    decodeFrom position
        ([UInt8.ofNat (v / 4096 % 16 + 224), UInt8.ofNat (v / 64 % 64 + 128),
          UInt8.ofNat (v % 64 + 128)] ++ rest) =
      (decodeFrom (position + 3) rest).map (Char.ofNat v :: ·) := by
  have lead : (UInt8.ofNat (v / 4096 % 16 + 224)).toNat = v / 4096 + 224 := by
    rw [UInt8.toNat_ofNat']
    omega
  have next := toNat_continuation (v / 64)
  have value : codePoint (UInt8.ofNat (v / 4096 % 16 + 224))
      [UInt8.ofNat (v / 64 % 64 + 128), UInt8.ofNat (v % 64 + 128)] = v := by
    simp only [codePoint, List.length_cons, List.length_nil, List.foldl_cons, List.foldl_nil, lead,
      toNat_continuation]
    omega
  rw [List.cons_append, decodeFrom_sequence (by omega) (shape?_of_three (by omega) (by omega)) ?_,
    value]
  · rfl
  · refine continuing_cons ?_ ?_ (continuing_continuation v rfl) <;> rw [lead] <;> split <;>
      simp only [UInt8.reduceToNat] <;> omega

theorem decodeFrom_four (low : 0x10000 ≤ v) (valid : v.isValidChar) :
    decodeFrom position
        ([UInt8.ofNat (v / 262144 % 8 + 240), UInt8.ofNat (v / 4096 % 64 + 128),
          UInt8.ofNat (v / 64 % 64 + 128), UInt8.ofNat (v % 64 + 128)] ++ rest) =
      (decodeFrom (position + 4) rest).map (Char.ofNat v :: ·) := by
  have lead : (UInt8.ofNat (v / 262144 % 8 + 240)).toNat = v / 262144 + 240 := by
    rw [UInt8.toNat_ofNat']
    omega
  have next := toNat_continuation (v / 4096)
  have value : codePoint (UInt8.ofNat (v / 262144 % 8 + 240))
      [UInt8.ofNat (v / 4096 % 64 + 128), UInt8.ofNat (v / 64 % 64 + 128),
        UInt8.ofNat (v % 64 + 128)] = v := by
    simp only [codePoint, List.length_cons, List.length_nil, List.foldl_cons, List.foldl_nil, lead,
      toNat_continuation]
    omega
  rw [List.cons_append, decodeFrom_sequence (by omega) (shape?_of_four (by omega) (by omega)) ?_,
    value]
  · rfl
  · refine continuing_cons ?_ ?_ (continuing_continuation _ (continuing_continuation v rfl)) <;>
      rw [lead] <;> split <;> simp only [UInt8.reduceToNat] <;> omega

end Sequences

theorem decodeFrom_encodeChar (c : Char) (rest : List UInt8) (position : Nat) :
    ∃ next, decodeFrom position (String.utf8EncodeChar c ++ rest) =
      (decodeFrom next rest).map (c :: ·) := by
  have valid : c.val.toNat.isValidChar := c.valid
  have same : Char.ofNat c.val.toNat = c := c.ofNat_toNat
  unfold String.utf8EncodeChar
  generalize c.val.toNat = v at *
  subst same
  simp only
  split
  next small =>
    have value : (UInt8.ofNat v).toNat = v := by
      rw [UInt8.toNat_ofNat']
      omega
    rw [List.singleton_append, decodeFrom_ascii (by omega), value]
    exact ⟨_, rfl⟩
  split
  next => exact ⟨_, decodeFrom_two rest position (by omega) (by omega)⟩
  split
  next => exact ⟨_, decodeFrom_three rest position (by omega) (by omega) valid⟩
  next => exact ⟨_, decodeFrom_four rest position (by omega) valid⟩

theorem decodeFrom_encode (text : List Char) (position : Nat) :
    decodeFrom position (text.flatMap String.utf8EncodeChar) = .ok text := by
  induction text generalizing position with
  | nil =>
    rw [List.flatMap_nil, decodeFrom.eq_def]
  | cons c text ih =>
    obtain ⟨next, decoded⟩ :=
      decodeFrom_encodeChar c (text.flatMap String.utf8EncodeChar) position
    rw [List.flatMap_cons, decoded, ih]
    rfl

/-- The bytes of a text decode to it. -/
theorem decode_toUTF8 (text : String) : decode text.toUTF8.data.toList = .ok text.toList := by
  have bytes : text.toUTF8.data.toList = text.toList.flatMap String.utf8EncodeChar := by
    rw [String.toUTF8, ← String.utf8Encode_toList, List.utf8Encode, List.toList_data_toByteArray]
  rw [bytes]
  exact decodeFrom_encode text.toList 0

end Gradual.Text.Utf8
