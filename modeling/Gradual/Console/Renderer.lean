import Gradual.Console
import Gradual.Markup
import Gradual.Renderer

/-! The renderer of the console. Texts are escaped before they become part of a markup text. -/
namespace Gradual.Console

/-- A line on a variable. A tag can come about where its name and its type meet, and is then obeyed. -/
def entry (name type : String) : Except String String :=
  let markup := Markup.escape name.toList ++ " : ".toList ++ Markup.escape type.toList
  match Markup.unopened? markup with
  | some unopened => .error unopened.message
  | none => .ok (unbroken (Markup.render markup))

theorem entry_of_plain {name type : String} (plainName : ∀ c ∈ name.toList, isPlain c = true)
    (plainType : ∀ c ∈ type.toList, isPlain c = true) : ∃ line, entry name type = .ok line := by
  have absent {text : List Char} (plain : ∀ c ∈ text, isPlain c = true) : '[' ∉ text ∧ '\\' ∉ text :=
    ⟨fun member => absurd (plain _ member) (by decide),
      fun member => absurd (plain _ member) (by decide)⟩
  have inName := absent plainName
  have inType := absent plainType
  have noBracket : '[' ∉ name.toList ++ " : ".toList ++ type.toList := by
    simp [inName.1, inType.1]
  simp only [entry, Markup.escape_of_not_mem inName.1 inName.2,
    Markup.escape_of_not_mem inType.1 inType.2, Markup.unopened?_of_not_mem noBracket]
  exact ⟨_, rfl⟩

def renderer : Renderer where
  titled title text := unbroken (title.toList ++ Markup.render (Markup.escape text.toList))
  wrapped text := wrapped text.toList
  labelled label text := labelled label text.toList
  entry := entry
  shows := entry_of_plain

end Gradual.Console
