import Gradual.Expr.Render
import Gradual.Proofs.Surface

/-! Printed types and expressions, cut into words again. What is printed for a surface type or
expression is a phrase of it, whatever text follows that does not go on its last word; the
parentheses of the printer make it a phrase of the form that its place asks for. -/
namespace Gradual

variable {ε : Type}

/-- The text cannot go on a word or a number before it. -/
def Boundary (rest : List Char) : Prop := ∀ c ∈ rest.head?, Lexeme.isWordChar c = false

/-- The words of the text make up a phrase, whatever follows at a boundary. -/
def Prints (text : List Char) (phrase : List Word → Prop) : Prop :=
  ∃ ws, ws ≠ [] ∧ phrase ws ∧ ∀ rest, Boundary rest → Cuts (text ++ rest) ws rest

theorem takeWhile_boundary {p : Char → Bool} {text rest : List Char} (inside : ∀ c ∈ text, p c = true)
    (boundary : ∀ c ∈ rest.head?, p c = false) :
    (text ++ rest).takeWhile p = text ∧ (text ++ rest).dropWhile p = rest := by
  rw [List.takeWhile_append_of_pos inside, List.dropWhile_append_of_pos inside]
  cases rest with
  | nil => simp
  | cons c rest => simp [boundary c rfl]

namespace Prints

variable {text : List Char} {phrase : List Word → Prop}

theorem mono {other : List Word → Prop} (printed : Prints text phrase)
    (weaken : ∀ ws, phrase ws → other ws) : Prints text other := by
  obtain ⟨ws, nonempty, holds, cuts⟩ := printed
  exact ⟨ws, nonempty, weaken ws holds, cuts⟩

theorem word {c : Char} (start : Lexeme.isWordStart c = true)
    (inside : text.all Lexeme.isWordChar = true)
    (holds : phrase [⟨(Lexeme.keyword? (c :: text)).getD .ident, String.ofList (c :: text)⟩]) :
    Prints (c :: text) phrase := by
  refine ⟨_, by simp, holds, fun rest boundary => ?_⟩
  obtain ⟨taken, left⟩ := takeWhile_boundary (List.all_eq_true.mp inside) boundary
  have found := Lexeme.first_word start (text ++ rest)
  rw [taken, left] at found
  exact .token found .nil

theorem name {x : String} (name : isName x = true) (holds : phrase [⟨.ident, x⟩]) :
    Prints x.toList phrase := by
  obtain ⟨c, text, same, start, inside, other⟩ := Lexeme.isName_iff.mp name
  rw [same]
  have spelled : String.ofList (c :: text) = x := by rw [← same, String.ofList_toList]
  exact .word start (List.all_eq_true.mpr inside) (by rwa [other, Option.getD_none, spelled])

theorem number {digits : List Char} (nonempty : digits ≠ []) (all : ∀ c ∈ digits, c.isDigit = true)
    (holds : phrase [⟨.number, String.ofList digits⟩]) : Prints digits phrase := by
  obtain ⟨c, text, rfl⟩ := List.exists_cons_of_ne_nil nonempty
  refine ⟨_, by simp, holds, fun rest boundary => ?_⟩
  have noDigit : ∀ d ∈ rest.head?, d.isDigit = false := by
    intro d member
    have other := boundary d member
    simp only [Lexeme.isWordChar, Char.isAlphanum, Bool.or_eq_false_iff] at other
    exact other.1.1.2
  obtain ⟨taken, left⟩ :=
    takeWhile_boundary (fun d member => all d (List.mem_cons_of_mem c member)) noDigit
  have found := Lexeme.first_number (all c List.mem_cons_self) (text ++ rest)
  rw [taken, left] at found
  exact .token found .nil

theorem blank (printed : Prints text phrase) : Prints (' ' :: text) phrase := by
  obtain ⟨ws, nonempty, holds, cuts⟩ := printed
  exact ⟨ws, nonempty, holds, fun rest boundary => (cuts rest boundary).blank rfl nonempty⟩

theorem symbol {c : Char} {kind : Token.Kind} (symbol : Lexeme.symbol? c = some kind)
    (printed : Prints text fun ws => phrase (⟨kind, String.ofList [c]⟩ :: ws)) :
    Prints (c :: text) phrase := by
  obtain ⟨ws, nonempty, holds, cuts⟩ := printed
  exact ⟨_, by simp, holds, fun rest boundary => (cuts rest boundary).symbol symbol fun _ => nonempty⟩

/-- Not for an opening parenthesis, which opens a comment if a star follows. -/
theorem lastSymbol {c : Char} {kind : Token.Kind} (symbol : Lexeme.symbol? c = some kind)
    (closing : c ≠ '(') (holds : phrase [⟨kind, String.ofList [c]⟩]) : Prints [c] phrase :=
  ⟨_, by simp, holds, fun _ _ => Cuts.nil.symbol symbol fun opening => absurd opening closing⟩

theorem arrow (printed : Prints text fun ws => phrase (⟨.arrow, String.ofList ['-', '>']⟩ :: ws)) :
    Prints ('-' :: '>' :: text) phrase := by
  obtain ⟨ws, nonempty, holds, cuts⟩ := printed
  refine ⟨_, by simp, holds, fun rest boundary => .token ?_ (cuts rest boundary)⟩
  rfl

theorem append {c : Char} {front : List Char} {first : List Word → Prop} (printed : Prints front first)
    (separate : Lexeme.isWordChar c = false)
    (later : ∀ ws, first ws → Prints (c :: text) fun us => phrase (ws ++ us)) :
    Prints (front ++ c :: text) phrase := by
  obtain ⟨ws, nonempty, holds, frontCuts⟩ := printed
  obtain ⟨us, _, holds, cuts⟩ := later ws holds
  refine ⟨ws ++ us, by simp [nonempty], holds, fun rest boundary => ?_⟩
  rw [List.append_assoc]
  exact (frontCuts _ (by simpa [Boundary] using separate)).append (cuts rest boundary)

theorem paren {inner : List Word → Prop} (printed : Prints text inner)
    (close : ∀ ws, inner ws →
      phrase (⟨.lparen, String.ofList ['(']⟩ :: (ws ++ [⟨.rparen, String.ofList [')']⟩]))) :
    Prints ('(' :: (text ++ [')'])) phrase :=
  .symbol rfl (printed.append rfl fun ws holds => .lastSymbol rfl (by decide) (close ws holds))

/-- A text in its place, with parentheses if its own form does not fit there. -/
theorem parenthesize {text : String} {inner : List Word → Prop} {yes : Bool}
    (printed : Prints text.toList inner)
    (close : ∀ ws, inner ws →
      phrase (⟨.lparen, String.ofList ['(']⟩ :: (ws ++ [⟨.rparen, String.ofList [')']⟩])))
    (plain : yes = false → Prints text.toList phrase) :
    Prints (Expr.parenthesize yes text).toList phrase := by
  cases yes with
  | false => exact plain rfl
  | true =>
    have shape : (Expr.parenthesize true text).toList = '(' :: (text.toList ++ [')']) := by
      simp [Expr.parenthesize]
    rw [shape]
    exact printed.paren close

end Prints

namespace Ty

variable [ToString ε]

theorem renderWith_surface {t : Ty ε} (surface : t.isSurface = true) (names : Names) :
    t.renderWith names = (t.render, names) := by
  have keeps : ∃ text, ∀ names, t.renderWith names = (text, names) := by
    induction t with
    | base name => exact ⟨name, fun _ => rfl⟩
    | dyn => exact ⟨"?", fun _ => rfl⟩
    | arrow dom cod domIH codIH =>
      simp only [isSurface, Bool.and_eq_true] at surface
      obtain ⟨left, sameLeft⟩ := domIH surface.1
      obtain ⟨right, sameRight⟩ := codIH surface.2
      refine ⟨Expr.parenthesize dom.isArrow left ++ " -> " ++ right, fun names => ?_⟩
      simp only [renderWith, sameLeft, sameRight]
      rfl
    | param | var | host => cases surface
  obtain ⟨text, same⟩ := keeps
  simp [render, same]

theorem render_arrow {dom : Ty ε} (surface : dom.isSurface = true) (cod : Ty ε) :
    (arrow dom cod).render = Expr.parenthesize dom.isArrow dom.render ++ " -> " ++ cod.render := by
  rw [render, renderWith, renderWith_surface surface]
  rfl

theorem prints_atom {t : Ty ε} (printed : Prints t.render.toList (Derives .type · t))
    (plain : t.isArrow = false → Prints t.render.toList (Derives .atom · t)) :
    Prints (Expr.parenthesize t.isArrow t.render).toList (Derives .atom · t) :=
  printed.parenthesize (fun _ type => .paren rfl type rfl) plain

theorem prints {t : Ty ε} (surface : t.isSurface = true) :
    Prints t.render.toList (Derives .type · t) ∧
      (t.isArrow = false → Prints t.render.toList (Derives .atom · t)) := by
  induction t with
  | base name =>
    simp only [isSurface, Bool.or_eq_true, decide_eq_true_eq] at surface
    have atom : Prints name.toList (Derives .atom · (base name : Ty ε)) := by
      obtain rfl | rfl := surface
      · exact .word rfl rfl (.int rfl)
      · exact .word rfl rfl (.bool rfl)
    exact ⟨atom.mono fun _ => .ofAtom, fun _ => atom⟩
  | dyn =>
    have atom : Prints "?".toList (Derives .atom · (dyn : Ty ε)) :=
      .lastSymbol rfl (by decide) (.dyn rfl)
    exact ⟨atom.mono fun _ => .ofAtom, fun _ => atom⟩
  | arrow dom cod domIH codIH =>
    simp only [isSurface, Bool.and_eq_true] at surface
    obtain ⟨domType, domAtom⟩ := domIH surface.1
    refine ⟨?_, fun other => by cases other⟩
    have shape : (arrow dom cod).render.toList =
        (Expr.parenthesize dom.isArrow dom.render).toList ++
          ' ' :: '-' :: '>' :: ' ' :: cod.render.toList := by
      simp [render_arrow surface.1]
    rw [shape]
    exact (prints_atom domType domAtom).append rfl fun _ dom => .blank <| .arrow <| .blank <|
      (codIH surface.2).1.mono fun _ cod => .arrow dom rfl cod
  | param | var | host => cases surface

end Ty

namespace Expr

/-- The form in which an expression is printed. -/
def form : Expr ε → Nonterminal
  | .lam _ _ _ => .lambda
  | .add _ _ => .terms
  | _ => .atom

theorem Derives.expr_of_form {ws : List Word} {e : Expr ε} (derives : Derives e.form ws e) :
    Derives .expr ws e := by
  cases e with
  | lam => exact .ofLambda derives
  | add => exact .ofSum (.ofTerms derives)
  | _ => exact .ofSum (.ofTerms (.ofApplication (.ofAtom derives)))

theorem derives_number {k : Nat} (short : k < 10 ^ numberLimit) :
    Derives .atom [⟨.number, String.ofList (Nat.toDigits 10 k)⟩] (.int k : Expr ε) := by
  have length : (String.ofList (Nat.toDigits 10 k)).length ≤ numberLimit := by
    rw [String.length_ofList]
    exact (Nat.length_toDigits_le_iff (by decide) (by decide)).mpr short
  have value : ofDigits (String.ofList (Nat.toDigits 10 k)).toList = k := by
    rw [String.toList_ofList]
    exact Nat.ofDigitChars_toDigits (by decide) (by decide)
  have numeral : isNumeral (String.ofList (Nat.toDigits 10 k)) = true := by
    simp only [isNumeral, String.toList_ofList, Bool.and_eq_true, decide_eq_true_eq, List.all_eq_true]
    exact ⟨Nat.toDigits_ne_nil,
      fun _ member => Nat.isDigit_of_mem_toDigits (by decide) (by decide) member⟩
  have derives := Derives.int (ε := ε) (w := ⟨.number, String.ofList (Nat.toDigits 10 k)⟩) rfl
    numeral length
  rwa [value] at derives

variable [ToString ε]

theorem prints_atom {e : Expr ε} (printed : Prints e.render.toList (Derives e.form · e)) :
    Prints (parenthesize (e.isAdd || e.isLam) e.render).toList (Derives .atom · e) := by
  refine Prints.parenthesize printed (fun _ derives => .paren rfl derives.expr_of_form rfl) ?_
  intro plain
  cases e with
  | add | lam => cases plain
  | _ => exact printed

theorem prints_terms {e : Expr ε} (printed : Prints e.render.toList (Derives e.form · e)) :
    Prints (parenthesize e.isLam e.render).toList (Derives .terms · e) := by
  refine Prints.parenthesize printed
    (fun _ derives => .ofApplication (.ofAtom (.paren rfl derives.expr_of_form rfl))) ?_
  intro plain
  cases e with
  | lam => cases plain
  | add => exact printed
  | _ => exact printed.mono fun _ atom => .ofApplication (.ofAtom atom)

theorem prints_lambda {binder : List Char} {x : String} {declared : Option (Ty ε)} {body : Expr ε}
    (binds : Prints binder (Binder · x declared))
    (printed : Prints body.render.toList (Derives body.form · body)) :
    Prints ('λ' :: (binder ++ '.' :: body.render.toList))
      (Derives .lambda · (lam x declared body)) :=
  .symbol rfl <| binds.append rfl fun _ binder => .symbol rfl <|
    printed.mono fun _ body => .lambda rfl binder (.inr rfl) body.expr_of_form

theorem prints {e : Expr ε} (surface : e.isSurface = true) :
    Prints e.render.toList (Derives e.form · e) := by
  induction e with
  | var x => exact .name surface (.var rfl)
  | int n =>
    simp only [isSurface, Bool.and_eq_true, decide_eq_true_eq] at surface
    obtain ⟨k, rfl⟩ := Int.eq_ofNat_of_zero_le surface.1
    change Prints k.repr.toList _
    rw [Nat.toList_repr]
    exact .number Nat.toDigits_ne_nil
      (fun _ member => Nat.isDigit_of_mem_toDigits (by decide) (by decide) member)
      (derives_number surface.2)
  | bool b =>
    cases b with
    | true =>
      change Prints "true".toList (Derives .atom · (bool true : Expr ε))
      exact .word rfl rfl (.tru rfl)
    | false =>
      change Prints "false".toList (Derives .atom · (bool false : Expr ε))
      exact .word rfl rfl (.fls rfl)
  | add l r left right =>
    simp only [isSurface, Bool.and_eq_true] at surface
    have shape : (add l r).render.toList = (parenthesize l.isLam l.render).toList ++
        ' ' :: '+' :: ' ' :: (parenthesize (r.isAdd || r.isLam) r.render).toList := by
      simp [render]
    rw [shape]
    exact (prints_terms (left surface.1)).append rfl fun _ left =>
      .blank <| .symbol rfl <| .blank <|
        (prints_atom (right surface.2)).mono fun _ right => .add left rfl (.ofAtom right)
  | lam x declared body ih =>
    simp only [isSurface, Bool.and_eq_true] at surface
    obtain ⟨⟨name, types⟩, inner⟩ := surface
    cases declared with
    | none =>
      have shape : (lam x none body).render.toList = 'λ' :: (x.toList ++ '.' :: body.render.toList) := by
        simp [render]
      rw [shape]
      exact prints_lambda (.name name (.plain rfl)) (ih inner)
    | some t =>
      have shape : (lam x (some t) body).render.toList =
          'λ' :: ((x.toList ++ ':' :: (parenthesize t.isArrow t.render).toList) ++
            '.' :: body.render.toList) := by
        simp [render]
      rw [shape]
      obtain ⟨type, plain⟩ := Ty.prints types
      have named : Prints x.toList (· = [⟨.ident, x⟩]) := .name name rfl
      refine prints_lambda (named.append rfl fun _ same => .symbol rfl ?_) (ih inner)
      subst same
      exact (Ty.prints_atom type plain).mono fun _ type => .declared rfl rfl type
  | app f a func argument =>
    -- An application carries its own parentheses, so it is an atom wherever it stands.
    simp only [isSurface, Bool.and_eq_true] at surface
    have shape : (app f a).render.toList =
        '(' :: ((parenthesize (f.isAdd || f.isLam) f.render).toList ++
          ' ' :: (parenthesize (a.isAdd || a.isLam) a.render).toList ++ [')']) := by
      simp [render]
    rw [shape]
    have inside : Prints _ (Derives .application · (app f a)) :=
      (prints_atom (func surface.1)).append rfl fun _ func => .blank <|
        (prints_atom (argument surface.2)).mono fun _ argument => .app (.ofAtom func) argument
    exact inside.paren fun _ application =>
      .paren rfl (.ofSum (.ofTerms (.ofApplication application))) rfl
  | host => cases surface

end Expr

end Gradual
