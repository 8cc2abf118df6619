import Gradual.Reading

/-! Readings without the bounds on lengths that they carry along: a value with the tokens that are left,
or nothing. Put together, readings then follow one another as optional values do. -/
namespace Gradual

namespace Reading

variable {α β : Type} {input : List Token} {least more : Nat}

/-- The value and the tokens that are left, unless the reading got stuck. -/
def value? : Reading least α input → Option (α × List Token)
  | .value a rest _ => some (a, rest)
  | .stuck _ _ _ => none

@[simp] theorem value?_done (a : α) : (done a : Reading 0 α input).value? = some (a, input) := rfl

@[simp] theorem value?_fail (cause : SyntaxError.Cause) (place : Option Location) :
    (fail cause place : Reading least α input).value? = none := rfl

@[simp] theorem value?_stuck (complaint : Complaint) (rest : List Token)
    (within : rest.length ≤ input.length) :
    (stuck complaint rest within : Reading least α input).value? = none := rfl

@[simp] theorem value?_map (reading : Reading least α input) (f : α → β) :
    (reading.map f).value? = reading.value?.map fun found => (f found.1, found.2) := by
  cases reading <;> rfl

@[simp] theorem value?_relax (reading : Reading least α input) :
    reading.relax.value? = reading.value? := by
  cases reading <;> rfl

@[simp] theorem value?_after (reading : Reading least α input) (t : Token) :
    (reading.after t).value? = reading.value? := by
  cases reading <;> rfl

@[simp] theorem value?_widen {shorter : List Token} (le : shorter.length ≤ input.length)
    (reading : Reading 1 α shorter) : (reading.widen le).value? = reading.value? := by
  cases reading <;> rfl

section AndThen

variable {first : Reading least α input}
  {next : α → (rest : List Token) → rest.length + least ≤ input.length → Reading more β rest}
  {b : β} {left : List Token}

theorem value?_andThen {a : α} {rest : List Token} (found : first.value? = some (a, rest))
    (later : ∀ taken, (next a rest taken).value? = some (b, left)) :
    (first.andThen next).value? = some (b, left) := by
  cases first with
  | stuck => cases found
  | value a' rest' taken =>
    cases found
    have last := later taken
    simp only [andThen]
    cases reading : next a rest taken with
    | value => rwa [reading] at last
    | stuck => rw [reading] at last; cases last

theorem exists_of_andThen (found : (first.andThen next).value? = some (b, left)) :
    ∃ a rest taken, first.value? = some (a, rest) ∧ (next a rest taken).value? = some (b, left) := by
  cases first with
  | stuck => cases found
  | value a rest taken =>
    refine ⟨a, rest, taken, rfl, ?_⟩
    simp only [andThen] at found
    cases reading : next a rest taken with
    | value => rwa [reading] at found
    | stuck => rw [reading] at found; cases found

end AndThen

theorem exists_of_map {reading : Reading least α input} {f : α → β} {b : β} {rest : List Token}
    (found : (reading.map f).value? = some (b, rest)) :
    ∃ a, reading.value? = some (a, rest) ∧ f a = b := by
  rw [value?_map] at found
  obtain ⟨⟨a, left⟩, first, same⟩ := Option.map_eq_some_iff.mp found
  cases same
  exact ⟨a, first, rfl⟩

end Reading

@[simp] theorem value?_expect (wanted : Token.Kind) (input : List Token) :
    (expect wanted input).value? =
      match input with
      | [] => none
      | t :: rest => if t.kind = wanted then some (t, rest) else none := by
  cases input with
  | nil => rfl
  | cons t rest => by_cases same : t.kind = wanted <;> simp [expect, same]

theorem value?_expect_eq_some {wanted : Token.Kind} {input rest : List Token} {t : Token} :
    (expect wanted input).value? = some (t, rest) ↔ input = t :: rest ∧ t.kind = wanted := by
  cases input with
  | nil => simp
  | cons first left =>
    by_cases same : first.kind = wanted
    · simp only [value?_expect, if_pos same, Option.some.injEq, Prod.mk.injEq, List.cons.injEq]
      constructor
      · rintro ⟨rfl, rfl⟩
        exact ⟨⟨rfl, rfl⟩, same⟩
      · exact And.left
    · simp only [value?_expect, if_neg same, List.cons.injEq]
      constructor
      · intro found
        cases found
      · rintro ⟨⟨rfl, rfl⟩, kind⟩
        exact absurd kind same

/-- A reading that a token has to follow, such as one inside parentheses. -/
theorem Reading.value?_closed {α β : Type} {least : Nat} {input : List Token}
    {reading : Reading least α input} {kind : Token.Kind} {f : α → β} {b : β} {rest : List Token} :
    (reading.andThen fun a rest _ => (expect kind rest).map fun _ => f a).value? = some (b, rest) ↔
      ∃ a t, reading.value? = some (a, t :: rest) ∧ t.kind = kind ∧ f a = b := by
  constructor
  · intro found
    obtain ⟨a, left, _, first, later⟩ := exists_of_andThen found
    obtain ⟨t, closed, same⟩ := exists_of_map later
    obtain ⟨rfl, closing⟩ := value?_expect_eq_some.mp closed
    exact ⟨a, t, first, closing, same⟩
  · rintro ⟨a, t, first, closing, same⟩
    exact value?_andThen first fun _ => by simp [closing, same]

@[simp] theorem value?_optional (kind : Token.Kind) (input : List Token) :
    (optional kind input).value? =
      match input with
      | [] => some (false, [])
      | t :: rest => if t.kind = kind then some (true, rest) else some (false, t :: rest) := by
  cases input with
  | nil => rfl
  | cons t rest => by_cases same : t.kind = kind <;> simp [optional, same]

@[simp] theorem value?_expectEnd (input : List Token) :
    (expectEnd input).value? =
      match input with
      | [] => some ((), [])
      | t :: rest => if t.kind = .eof then some ((), rest) else none := by
  cases input with
  | nil => rfl
  | cons t rest => by_cases same : t.kind = .eof <;> simp [expectEnd, same]

theorem value?_expectEnd_eq_some {input rest : List Token} :
    (expectEnd input).value? = some ((), rest) ↔ kindOf input = .eof ∧ input.tail = rest := by
  cases input with
  | nil => simp [kindOf]
  | cons t tokens => by_cases ends : t.kind = .eof <;> simp [kindOf, ends]

end Gradual
