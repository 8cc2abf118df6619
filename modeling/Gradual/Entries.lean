/-! Lists of keys with values in the order in which the keys were first used. -/
namespace Gradual.Entries

variable {κ α : Type} [DecidableEq κ]

/-- Gives a key its value. A key that is there already stays in its place. -/
def put (key : κ) (value : α) : List (κ × α) → List (κ × α)
  | [] => [(key, value)]
  | entry :: rest => if entry.1 = key then (key, value) :: rest else entry :: put key value rest

theorem find?_put (key other : κ) (value : α) (entries : List (κ × α)) :
    (put key value entries).find? (·.1 = other) =
      if other = key then some (key, value) else entries.find? (·.1 = other) := by
  induction entries with
  | nil => by_cases same : other = key <;> simp [put, same, eq_comm]
  | cons entry rest ih =>
    by_cases here : entry.1 = key
    · by_cases same : other = key
      · simp [put, here, same]
      · have differs : key ≠ other := fun eq => same eq.symm
        simp [put, here, same, differs]
    · rw [put, if_neg here, List.find?_cons, List.find?_cons, ih]
      by_cases hit : entry.1 = other
      · subst hit; simp [here]
      · simp [hit]

end Gradual.Entries
