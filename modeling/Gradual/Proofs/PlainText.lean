import Gradual.Proofs.Printing
import Gradual.Proofs.Typing
import Gradual.Renderer

/-! Names and surface types have no brackets and no backslashes, so every renderer shows a line on a
variable with such a name and type. -/
namespace Gradual

theorem isPlain_of_isName {x : String} (name : isName x = true) :
    ∀ c ∈ x.toList, isPlain c = true := by
  obtain ⟨c, text, same, start, word, -⟩ := Lexeme.isName_iff.mp name
  have plain (d : Char) (inside : Lexeme.isWordChar d = true) : isPlain d = true :=
    decide_eq_true (Lexeme.not_mem_of_class inside rfl)
  rw [same]
  refine List.forall_mem_cons.mpr ⟨?_, fun d member => plain d (word d member)⟩
  exact decide_eq_true (Lexeme.not_mem_of_class start rfl)

theorem isPlain_parenthesize {text : String} (plain : ∀ c ∈ text.toList, isPlain c = true)
    (yes : Bool) : ∀ c ∈ (Expr.parenthesize yes text).toList, isPlain c = true := by
  cases yes with
  | false => exact plain
  | true =>
    simp only [Expr.parenthesize, if_pos, String.toList_append, List.forall_mem_append]
    exact ⟨⟨List.all_eq_true.mp rfl, plain⟩, List.all_eq_true.mp rfl⟩

theorem Ty.isPlain_render {t : Ty Empty} (surface : t.isSurface = true) :
    ∀ c ∈ t.render.toList, isPlain c = true := by
  induction t with
  | base name =>
    simp only [isSurface, Bool.or_eq_true, decide_eq_true_eq] at surface
    obtain rfl | rfl := surface <;> exact List.all_eq_true.mp rfl
  | dyn => exact List.all_eq_true.mp rfl
  | arrow dom cod domIH codIH =>
    simp only [isSurface, Bool.and_eq_true] at surface
    rw [render_arrow surface.1, String.toList_append, String.toList_append]
    simp only [List.forall_mem_append]
    exact ⟨⟨isPlain_parenthesize (domIH surface.1) _, List.all_eq_true.mp rfl⟩, codIH surface.2⟩
  | param | var | host => cases surface

/-- All names and types are such as a binding can have. -/
def Env.IsSurface (env : Env Empty) : Prop :=
  ∀ entry ∈ env.entries, isName entry.1 = true ∧ entry.2.isSurface = true

theorem Env.IsSurface.extend {env : Env Empty} (surface : env.IsSurface) {x : String} {t : Ty Empty}
    (name : isName x = true) (type : t.isSurface = true) : (env.extend x t).IsSurface := by
  intro entry member
  rcases Entries.mem_put member with rfl | old
  · exact ⟨name, type⟩
  · exact surface entry old

theorem exists_mapM_ok {α β δ : Type} {f : α → Except δ β} {items : List α}
    (each : ∀ a ∈ items, ∃ b, f a = .ok b) : ∃ results, items.mapM f = .ok results := by
  induction items with
  | nil => exact ⟨[], rfl⟩
  | cons a rest ih =>
    obtain ⟨here, later⟩ := List.forall_mem_cons.mp each
    obtain ⟨b, first⟩ := here
    obtain ⟨results, others⟩ := ih later
    rw [List.mapM_cons, first, others]
    exact ⟨b :: results, rfl⟩

theorem Renderer.environment_of_surface (renderer : Renderer) {env : Env Empty}
    (surface : env.IsSurface) : ∃ notices, renderer.environment env = .ok notices := by
  unfold environment
  split
  · exact ⟨_, rfl⟩
  · apply exists_mapM_ok
    rintro ⟨x, t⟩ member
    obtain ⟨name, type⟩ := surface _ member
    obtain ⟨line, shown⟩ := renderer.shows (isPlain_of_isName name) (Ty.isPlain_render type)
    exact ⟨.text line, congrArg (Except.map Notice.text) shown⟩

end Gradual
