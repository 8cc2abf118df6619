import Gradual.Expr.Parser

/-! The grammar of types and expressions, as derivations of trees from words. A word is what a token
says, wherever it stands. A sum is read without ambiguity: a function can only be its last operand,
since the body of the function takes in all that follows.

    type        ::= atom_type ("->" type)?
    atom_type   ::= "int" | "bool" | "?" | "(" type ")"
    expr        ::= lambda | sum
    lambda      ::= ("fun" | "\\") binder ("->" | ".") expr
    binder      ::= ident | ident ":" atom_type | "(" ident ":" type ")"
    sum         ::= terms ("+" lambda)?
    terms       ::= application ("+" application)*
    application ::= atom atom*
    atom        ::= ident | number | "true" | "false" | "(" expr ")"
-/
namespace Gradual

variable {ε : Type}

structure Word where
  kind : Token.Kind
  text : String
  deriving DecidableEq

def Token.word (t : Token) : Word := ⟨t.kind, t.text⟩

@[simp] theorem Token.kind_word (t : Token) : t.word.kind = t.kind := rfl

@[simp] theorem Token.text_word (t : Token) : t.word.text = t.text := rfl

namespace Ty

inductive Nonterminal where
  | type
  | atom

inductive Derives : Nonterminal → List Word → Ty ε → Prop
  | int {w : Word} (kind : w.kind = .int) : Derives .atom [w] .int
  | bool {w : Word} (kind : w.kind = .bool) : Derives .atom [w] .bool
  | dyn {w : Word} (kind : w.kind = .question) : Derives .atom [w] .dyn
  | paren {l r : Word} {ws : List Word} {t : Ty ε} (opening : l.kind = .lparen)
      (inner : Derives .type ws t) (closing : r.kind = .rparen) :
      Derives .atom (l :: (ws ++ [r])) t
  | ofAtom {ws : List Word} {t : Ty ε} (atom : Derives .atom ws t) : Derives .type ws t
  | arrow {w : Word} {ws us : List Word} {t u : Ty ε} (dom : Derives .atom ws t)
      (mark : w.kind = .arrow) (cod : Derives .type us u) :
      Derives .type (ws ++ w :: us) (.arrow t u)

end Ty

namespace Expr

/-- The name that a function binds, with its declared type if it has one. -/
inductive Binder : List Word → String → Option (Ty ε) → Prop
  | plain {w : Word} (name : w.kind = .ident) : Binder [w] w.text none
  | declared {w c : Word} {ws : List Word} {t : Ty ε} (name : w.kind = .ident)
      (colon : c.kind = .colon) (type : Ty.Derives .atom ws t) :
      Binder (w :: c :: ws) w.text (some t)
  | paren {l w c r : Word} {ws : List Word} {t : Ty ε} (opening : l.kind = .lparen)
      (name : w.kind = .ident) (colon : c.kind = .colon) (type : Ty.Derives .type ws t)
      (closing : r.kind = .rparen) : Binder (l :: w :: c :: (ws ++ [r])) w.text (some t)

inductive Nonterminal where
  | expr
  | lambda
  | sum
  | terms
  | application
  | atom

inductive Derives : Nonterminal → List Word → Expr ε → Prop
  | ofLambda {ws : List Word} {e : Expr ε} (lambda : Derives .lambda ws e) : Derives .expr ws e
  | ofSum {ws : List Word} {e : Expr ε} (sum : Derives .sum ws e) : Derives .expr ws e
  | lambda {w d : Word} {bs ws : List Word} {x : String} {declared : Option (Ty ε)} {e : Expr ε}
      (mark : w.kind.beginsLambda = true) (binder : Binder bs x declared)
      (dot : d.kind = .arrow ∨ d.kind = .dot) (body : Derives .expr ws e) :
      Derives .lambda (w :: (bs ++ d :: ws)) (.lam x declared e)
  | ofTerms {ws : List Word} {e : Expr ε} (terms : Derives .terms ws e) : Derives .sum ws e
  | addLambda {p : Word} {ws us : List Word} {l r : Expr ε} (left : Derives .terms ws l)
      (plus : p.kind = .plus) (right : Derives .lambda us r) :
      Derives .sum (ws ++ p :: us) (.add l r)
  | ofApplication {ws : List Word} {e : Expr ε} (application : Derives .application ws e) :
      Derives .terms ws e
  | add {p : Word} {ws us : List Word} {l r : Expr ε} (left : Derives .terms ws l)
      (plus : p.kind = .plus) (right : Derives .application us r) :
      Derives .terms (ws ++ p :: us) (.add l r)
  | ofAtom {ws : List Word} {e : Expr ε} (atom : Derives .atom ws e) : Derives .application ws e
  | app {ws us : List Word} {f a : Expr ε} (func : Derives .application ws f)
      (argument : Derives .atom us a) : Derives .application (ws ++ us) (.app f a)
  | var {w : Word} (kind : w.kind = .ident) : Derives .atom [w] (.var w.text)
  | int {w : Word} (kind : w.kind = .number) (numeral : isNumeral w.text = true)
      (short : w.text.length ≤ numberLimit) : Derives .atom [w] (.int (ofDigits w.text.toList))
  | tru {w : Word} (kind : w.kind = .tru) : Derives .atom [w] (.bool true)
  | fls {w : Word} (kind : w.kind = .fls) : Derives .atom [w] (.bool false)
  | paren {l r : Word} {ws : List Word} {e : Expr ε} (opening : l.kind = .lparen)
      (inner : Derives .expr ws e) (closing : r.kind = .rparen) :
      Derives .atom (l :: (ws ++ [r])) e

/-- Kinds of words with which a phrase can begin. -/
def Nonterminal.Begins : Nonterminal → Token.Kind → Prop
  | .expr, kind => kind.beginsLambda = true ∨ kind.beginsAtom = true
  | .lambda, kind => kind.beginsLambda = true
  | .sum, kind | .terms, kind | .application, kind | .atom, kind => kind.beginsAtom = true

theorem Derives.begins {n : Nonterminal} {ws : List Word} {e : Expr ε} (derives : Derives n ws e) :
    ∃ w rest, ws = w :: rest ∧ n.Begins w.kind := by
  induction derives with
  | ofLambda _ ih =>
    obtain ⟨w, rest, same, begins⟩ := ih
    exact ⟨w, rest, same, .inl begins⟩
  | ofSum _ ih =>
    obtain ⟨w, rest, same, begins⟩ := ih
    exact ⟨w, rest, same, .inr begins⟩
  | lambda mark => exact ⟨_, _, rfl, mark⟩
  | ofTerms _ ih | ofApplication _ ih | ofAtom _ ih => exact ih
  | addLambda _ _ _ left | add _ _ _ left | app _ _ left =>
    obtain ⟨w, rest, rfl, begins⟩ := left
    exact ⟨w, _, rfl, begins⟩
  | var kind | int kind | tru kind | fls kind | paren kind =>
    exact ⟨_, _, rfl, by simp [Nonterminal.Begins, kind, Token.Kind.beginsAtom]⟩

end Expr

/-- A sequence of expressions with `;;` between them. -/
inductive ProgramDerives : List Word → List (Expr ε) → Prop
  | nil : ProgramDerives [] []
  | mark {s : Word} {ws : List Word} {es : List (Expr ε)} (mark : s.kind = .semisemi)
      (rest : ProgramDerives ws es) : ProgramDerives (s :: ws) es
  | last {ws : List Word} {e : Expr ε} (expr : Expr.Derives .expr ws e) : ProgramDerives ws [e]
  | cons {s : Word} {ws us : List Word} {e : Expr ε} {es : List (Expr ε)}
      (expr : Expr.Derives .expr ws e) (mark : s.kind = .semisemi) (rest : ProgramDerives us es) :
      ProgramDerives (ws ++ s :: us) (e :: es)

end Gradual
