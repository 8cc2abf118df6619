import Gradual.Proofs.Parsing
import Gradual.Proofs.Printing
import Gradual.Source

/-! Printing and reading again. On the surface language, the text of a type, an expression or a
binding is read as what was printed; and what is read from any text lies in the surface language. -/
namespace Gradual

variable {ε : Type}

theorem ProgramDerives.exists_expr {ws : List Word} {es : List (Expr ε)}
    (program : ProgramDerives ws es) {e : Expr ε} (member : e ∈ es) :
    ∃ us, Expr.Derives .expr us e ∧ us ⊆ ws := by
  induction program with
  | nil => cases member
  | mark _ _ ih =>
    obtain ⟨us, derives, within⟩ := ih member
    exact ⟨us, derives, List.subset_cons_of_subset _ within⟩
  | last expr =>
    cases List.mem_singleton.mp member
    exact ⟨_, expr, List.Subset.refl _⟩
  | cons expr _ _ ih =>
    obtain rfl | member := List.mem_cons.mp member
    · exact ⟨_, expr, List.subset_append_left _ _⟩
    · obtain ⟨us, derives, within⟩ := ih member
      exact ⟨us, derives, fun w found => by simp [within found]⟩

theorem Ty.host?_of_surface {t : Ty ε} (surface : t.isSurface = true) : t.host? = none := by
  induction t with
  | base | dyn => rfl
  | arrow dom cod domIH codIH =>
    simp only [isSurface, Bool.and_eq_true] at surface
    simp [host?, domIH surface.1, codIH surface.2]
  | param | var | host => cases surface

theorem Expr.fault?_of_surface {e : Expr ε} (surface : e.isSurface = true) : e.fault? = none := by
  induction e with
  | var | int | bool => rfl
  | add l r left right | app l r left right =>
    simp only [isSurface, Bool.and_eq_true] at surface
    simp [fault?, left surface.1, right surface.2]
  | lam x declared body ih =>
    simp only [isSurface, Bool.and_eq_true] at surface
    obtain ⟨⟨-, types⟩, inner⟩ := surface
    cases declared with
    | none => simp [fault?, ih inner]
    | some t => simp [fault?, ih inner, Ty.host?_of_surface types]
  | host => cases surface

theorem Ty.text_of_surface [ToString ε] {t : Ty ε} (surface : t.isSurface = true) :
    t.text = .ok t.render := by
  rw [Ty.text, Ty.host?_of_surface surface]

theorem Expr.text_of_surface [ToString ε] {e : Expr ε} (surface : e.isSurface = true) :
    e.text = .ok e.render := by
  rw [Expr.text, Expr.fault?_of_surface surface]

namespace Source

variable {α : Type} {least : Nat} {reader : (input : List Token) → Reading least α input}
  {source : String} {a : α}

theorem conclude_eq_ok {input : List Token} {stop : Location} {reading : Reading least α input} :
    conclude stop reading = .ok a ↔ ∃ rest, reading.value? = some (a, rest) := by
  cases reading with
  | value b rest taken => simp [conclude, Reading.value?]
  | stuck complaint rest within => cases complaint <;> simp [conclude]

theorem readWith_of_prints {phrase : List Word → Prop} (printed : Prints source.toList phrase)
    (reads : ∀ tokens : List Token, phrase (tokens.map Token.word) →
      (reader tokens).value? = some (a, [])) (file : Option String) :
    readWith reader source file = .ok a := by
  obtain ⟨ws, _, holds, cuts⟩ := printed
  have whole := cuts [] (by simp [Boundary])
  rw [List.append_nil] at whole
  obtain ⟨finished, rfl⟩ := Lexed.scan_of_cuts whole file .start
  simp only [readWith, Lexed.ofSource, finished]
  exact conclude_eq_ok.mpr ⟨[], reads _ holds⟩

theorem exists_of_readWith {file : Option String} (found : readWith reader source file = .ok a) :
    ∃ tokens rest, Cuts source.toList (tokens.map Token.word) [] ∧
      (reader tokens).value? = some (a, rest) := by
  simp only [readWith, Lexed.ofSource] at found
  cases error : (Lexed.scan file .start source.toList).error with
  | some error => rw [error] at found; cases found
  | none =>
    rw [error] at found
    obtain ⟨rest, value⟩ := conclude_eq_ok.mp found
    exact ⟨_, rest, Lexed.cuts_of_scan error, value⟩

theorem isSurface_of_expr {file : Option String} {e : Expr ε} (found : expr source file = .ok e) :
    e.isSurface = true := by
  obtain ⟨tokens, rest, cuts, value⟩ := exists_of_readWith found
  obtain ⟨marks, ending, ⟨front, rfl, derives⟩, _⟩ := Expr.derives_of_readOnly value
  exact derives.isSurface fun w member => cuts.spells w (by simp [member])

theorem isSurface_of_program {file : Option String} {es : List (Expr ε)}
    (found : program source file = .ok es) {e : Expr ε} (member : e ∈ es) :
    e.isSurface = true := by
  obtain ⟨tokens, rest, cuts, value⟩ := exists_of_readWith found
  obtain ⟨⟨front, rfl, derives⟩, _⟩ := Expr.derives_of_readProgram value
  obtain ⟨ws, derives, within⟩ := derives.exists_expr member
  exact derives.isSurface fun w member => cuts.spells w (by simp [within member])

variable [ToString ε]

theorem expr_render {e : Expr ε} (surface : e.isSurface = true) (file : Option String) :
    expr e.render file = .ok e :=
  readWith_of_prints (Expr.prints surface)
    (fun _ derives => derives.expr_of_form.value?_readOnly rfl) file

theorem program_render {e : Expr ε} (surface : e.isSurface = true) (file : Option String) :
    program e.render file = .ok [e] :=
  readWith_of_prints (Expr.prints surface)
    (fun _ derives => Expr.value?_readProgram (.last derives.expr_of_form) rfl) file

theorem type_render {t : Ty ε} (surface : t.isSurface = true) (file : Option String) :
    type t.render file = .ok t :=
  readWith_of_prints (Ty.prints surface).1 (fun _ derives => derives.value?_readOnly rfl) file

theorem binding_render {x : String} {t : Ty ε} (name : isName x = true)
    (surface : t.isSurface = true) (file : Option String) :
    binding (x ++ " : " ++ t.render) file = .ok (x, t) := by
  have shape : (x ++ " : " ++ t.render).toList =
      x.toList ++ ' ' :: ':' :: ' ' :: t.render.toList := by
    simp
  have named : Prints x.toList (· = [⟨.ident, x⟩]) := .name name rfl
  have printed : Prints (x ++ " : " ++ t.render).toList fun ws =>
      ∃ colon us, ws = ⟨.ident, x⟩ :: colon :: us ∧ colon.kind = .colon ∧
        Ty.Derives .type us t := by
    rw [shape]
    refine named.append rfl fun _ same => .blank <| .symbol rfl <| .blank <| ?_
    subst same
    exact (Ty.prints surface).1.mono fun us type => ⟨_, us, rfl, rfl, type⟩
  refine readWith_of_prints printed (fun tokens phrase => ?_) file
  obtain ⟨colon, us, words, mark, type⟩ := phrase
  exact type.value?_readBinding rfl mark words

/-- Reading inverts printing on the surface language, and never leaves it. -/
theorem reads_printed (file : Option String) :
    (∀ e : Expr ε, e.isSurface = true →
      ∃ source, e.text = .ok source ∧ expr source file = .ok e ∧
        program source file = .ok [e]) ∧
    (∀ t : Ty ε, t.isSurface = true →
      ∃ source, t.text = .ok source ∧ type source file = .ok t ∧
        ∀ x, isName x = true → binding (x ++ " : " ++ source) file = .ok (x, t)) ∧
    (∀ source, ∀ e : Expr ε, expr source file = .ok e → e.isSurface = true) ∧
    (∀ source, ∀ es : List (Expr ε), program source file = .ok es →
      ∀ e ∈ es, e.isSurface = true) := by
  refine ⟨fun e surface => ?_, fun t surface => ?_, ?_, ?_⟩
  · exact ⟨e.render, Expr.text_of_surface surface, expr_render surface file,
      program_render surface file⟩
  · exact ⟨t.render, Ty.text_of_surface surface, type_render surface file,
      fun x name => binding_render name surface file⟩
  · intro source e found
    exact isSurface_of_expr found
  · intro source es found e member
    exact isSurface_of_program found member

/-- A sum whose operands are an application and a function, under a declared type that needs
parentheses. -/
theorem reads_printed_function :
    let e : Expr Empty := .lam "f" (some (.arrow (.arrow .int .dyn) .bool))
      (.add (.app (.var "f") (.lam "x'" none (.add (.var "x'") (.int 10))))
        (.lam "_" none (.bool true)))
    let source := "λf:((int -> ?) -> bool).(f (λx'.x' + 10)) + (λ_.true)"
    expr source none = .ok e ∧ e.isSurface = true ∧
      program source none = .ok [e] ∧ (∀ e' ∈ [e], e'.isSurface = true) ∧
      type "(int -> ?) -> bool" none = .ok (.arrow (.arrow .int .dyn) .bool : Ty Empty) ∧
      binding "f : (int -> ?) -> bool" none =
        .ok ("f", (.arrow (.arrow .int .dyn) .bool : Ty Empty)) := by
  intro e source
  obtain ⟨printedExpr, printedType, readExpr, readProgram⟩ := reads_printed (ε := Empty) none
  obtain ⟨text, same, expr, program⟩ := printedExpr e (by decide +kernel)
  obtain rfl : source = text := Except.ok.inj same
  obtain ⟨typeText, same, type, binding⟩ :=
    printedType (.arrow (.arrow .int .dyn) .bool) (by decide)
  obtain rfl : "(int -> ?) -> bool" = typeText := Except.ok.inj same
  exact ⟨expr, readExpr source e expr, program, readProgram source [e] program, type,
    binding "f" (by decide)⟩

end Source

end Gradual
