import Gradual.Proofs.Lexing
import Mathlib.Algebra.Group.Nat.Defs

/-! The surface language: the types and expressions that can be written down in a source text. Every
tree that derives from words of a text belongs to it. -/
namespace Gradual

variable {ε : Type}

def isNameStart (c : Char) : Bool := 'a' ≤ c && c ≤ 'z' || c = '_'

def isNameChar (c : Char) : Bool :=
  'A' ≤ c && c ≤ 'Z' || 'a' ≤ c && c ≤ 'z' || '0' ≤ c && c ≤ '9' || c = '_' || c = '\''

/-- Identifiers match `[a-z_][A-Za-z0-9_']*` and are no keywords. -/
def isName (x : String) : Bool :=
  match x.toList with
  | [] => false
  | c :: text =>
    isNameStart c && text.all isNameChar && x ∉ ["fun", "true", "false", "int", "bool"]

/-- Built from `int`, `bool`, `?` and arrows. -/
def Ty.isSurface : Ty ε → Bool
  | .base name => name = "int" || name = "bool"
  | .dyn => true
  | .arrow dom cod => dom.isSurface && cod.isSurface
  | .param _ | .var _ | .host _ => false

/-- All names are identifiers, all numbers can be written and read, and all declared types are
surface types. -/
def Expr.isSurface : Expr ε → Bool
  | .var x => isName x
  | .int n => 0 ≤ n && n.toNat < 10 ^ numberLimit
  | .bool _ => true
  | .add l r | .app l r => l.isSurface && r.isSurface
  | .lam x declared body => isName x && declared.all Ty.isSurface && body.isSurface
  | .host _ => false

namespace Lexeme

theorem keyword?_eq_none {text : List Char} :
    keyword? text = none ↔ String.ofList text ∉ ["fun", "true", "false", "int", "bool"] := by
  unfold keyword?
  split <;> simp_all

theorem kind_of_keyword {text : List Char} {kind : Token.Kind} (keyword : keyword? text = some kind) :
    kind ≠ .ident ∧ kind ≠ .number := by
  unfold keyword? at keyword
  split at keyword <;> cases keyword <;> simp

theorem kind_of_symbol {c : Char} {kind : Token.Kind} (symbol : symbol? c = some kind) :
    kind ≠ .ident ∧ kind ≠ .number := by
  unfold symbol? at symbol
  split at symbol <;> cases symbol <;> simp

theorem isNameChar_eq : isNameChar = isWordChar := by
  funext c
  have upper : ('A' ≤ c && c ≤ 'Z') = c.isUpper := (Bool.decide_and _ _).symm
  rw [isNameChar, upper]
  rfl

theorem isName_iff {x : String} :
    isName x = true ↔ ∃ c text, x.toList = c :: text ∧ isWordStart c = true ∧
      (∀ d ∈ text, isWordChar d = true) ∧ keyword? (c :: text) = none := by
  unfold isName
  cases same : x.toList with
  | nil => simp
  | cons c text =>
    have spelled : String.ofList (c :: text) = x := by rw [← same, String.ofList_toList]
    simp only [isNameChar_eq, Bool.and_eq_true, List.all_eq_true, decide_eq_true_eq, and_assoc]
    constructor
    · rintro ⟨start, rest, other⟩
      exact ⟨c, text, rfl, start, rest, keyword?_eq_none.mpr (spelled ▸ other)⟩
    · rintro ⟨_, _, ⟨⟩, start, rest, other⟩
      exact ⟨start, rest, spelled ▸ keyword?_eq_none.mp other⟩

theorem isName_of_spells {w : Word} (spells : Spells w.kind w.text.toList)
    (ident : w.kind = .ident) : isName w.text = true := by
  generalize same : w.text.toList = text at spells
  rw [ident] at spells
  generalize kind : Token.Kind.ident = other at spells
  cases spells with
  | semisemi | arrow | number => cases kind
  | symbol symbol => exact absurd kind.symm (kind_of_symbol symbol).1
  | @word c rest start inside =>
    refine isName_iff.mpr ⟨c, rest, same, start, inside, ?_⟩
    cases keyword : keyword? (c :: rest) with
    | none => rfl
    | some found =>
      rw [keyword] at kind
      exact absurd kind.symm (kind_of_keyword keyword).1

theorem digits_of_spells {w : Word} (spells : Spells w.kind w.text.toList)
    (number : w.kind = .number) : ∀ c ∈ w.text.toList, c.isDigit = true := by
  rw [number] at spells
  generalize w.text.toList = text at spells
  generalize kind : Token.Kind.number = other at spells
  cases spells with
  | semisemi | arrow => cases kind
  | symbol symbol => exact absurd kind.symm (kind_of_symbol symbol).2
  | number digits => exact digits
  | @word c rest =>
    cases keyword : keyword? (c :: rest) with
    | none => rw [keyword] at kind; cases kind
    | some found =>
      rw [keyword] at kind
      exact absurd kind.symm (kind_of_keyword keyword).2

end Lexeme

theorem Ty.Derives.isSurface {n : Ty.Nonterminal} {ws : List Word} {t : Ty ε}
    (derives : Ty.Derives n ws t) : t.isSurface = true := by
  induction derives with
  | int | bool | dyn => rfl
  | paren _ _ _ ih | ofAtom _ ih => exact ih
  | arrow _ _ _ dom cod => simp [Ty.isSurface, dom, cod]

namespace Expr

theorem foldl_digits_lt {digits : List Char} (all : ∀ c ∈ digits, c.isDigit = true) (n : Nat) :
    digits.foldl (fun n c => 10 * n + (c.toNat - '0'.toNat)) n < (n + 1) * 10 ^ digits.length := by
  induction digits generalizing n with
  | nil => simp
  | cons c digits ih =>
    have digit : c.toNat - '0'.toNat ≤ 9 := by
      have bounds := Char.isDigit_iff_toNat.mp (all c (by simp))
      have zero : '0'.toNat = 48 := rfl
      have nine : '9'.toNat = 57 := rfl
      omega
    have step := ih (fun d member => all d (by simp [member])) (10 * n + (c.toNat - '0'.toNat))
    calc _ < (10 * n + (c.toNat - '0'.toNat) + 1) * 10 ^ digits.length := step
      _ ≤ ((n + 1) * 10) * 10 ^ digits.length := Nat.mul_le_mul_right _ (by omega)
      _ = (n + 1) * 10 ^ (c :: digits).length := by
        rw [List.length_cons, Nat.pow_succ', Nat.mul_assoc]

theorem ofDigits_lt {digits : List Char} (all : ∀ c ∈ digits, c.isDigit = true) :
    ofDigits digits < 10 ^ digits.length := by
  simpa [ofDigits] using foldl_digits_lt all 0

theorem Binder.isSurface {ws : List Word} {x : String} {declared : Option (Ty ε)}
    (binder : Binder ws x declared) (spells : ∀ w ∈ ws, Lexeme.Spells w.kind w.text.toList) :
    isName x = true ∧ declared.all Ty.isSurface = true := by
  cases binder with
  | plain name => exact ⟨Lexeme.isName_of_spells (spells _ (by simp)) name, rfl⟩
  | declared name _ type =>
    exact ⟨Lexeme.isName_of_spells (spells _ (by simp)) name, type.isSurface⟩
  | paren _ name _ type =>
    exact ⟨Lexeme.isName_of_spells (spells _ (by simp)) name, type.isSurface⟩

theorem Derives.isSurface {n : Nonterminal} {ws : List Word} {e : Expr ε} (derives : Derives n ws e)
    (spells : ∀ w ∈ ws, Lexeme.Spells w.kind w.text.toList) : e.isSurface = true := by
  induction derives with
  | ofLambda _ ih | ofSum _ ih | ofTerms _ ih | ofApplication _ ih | ofAtom _ ih => exact ih spells
  | lambda _ binder _ _ ih =>
    obtain ⟨name, declared⟩ := binder.isSurface fun w member => spells w (by simp [member])
    have body := ih fun w member => spells w (by simp [member])
    simp [Expr.isSurface, name, declared, body]
  | addLambda _ _ _ left right | add _ _ _ left right | app _ _ left right =>
    have left := left fun w member => spells w (by simp [member])
    have right := right fun w member => spells w (by simp [member])
    simp [Expr.isSurface, left, right]
  | var kind => exact Lexeme.isName_of_spells (spells _ (by simp)) kind
  | int kind _ short =>
    have digits := ofDigits_lt (Lexeme.digits_of_spells (spells _ (by simp)) kind)
    have bound := Nat.lt_of_lt_of_le digits (Nat.pow_le_pow_right (by decide) short)
    simpa [Expr.isSurface] using bound
  | tru | fls => rfl
  | paren _ _ _ ih => exact ih fun w member => spells w (by simp [member])

end Expr

end Gradual
