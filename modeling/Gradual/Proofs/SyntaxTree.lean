import Gradual.Proofs.Parsing

/-! Syntax trees: derivations from the grammar as data, down to the words they are made of. The lists
of the grammar appear as lists, read from the left, and a sum can end with a function:

    type        ::= atom_type ("->" type)?
    atom_type   ::= "int" | "bool" | "?" | "(" type ")"
    expr        ::= lambda | sum
    lambda      ::= ("fun" | "\\") binder ("->" | ".") expr
    binder      ::= ident | ident ":" atom_type | "(" ident ":" type ")"
    sum         ::= application operands
    operands    ::= ("+" application)* ("+" lambda)?
    application ::= atom atoms
    atoms       ::= atom*
    atom        ::= ident | number | "true" | "false" | "(" expr ")"

The grammar is unambiguous: no two trees have the same words. What a tree stands for is what its words
derive. -/
namespace Gradual

variable {ε : Type}

def headKind : List Word → Token.Kind
  | [] => .eof
  | w :: _ => w.kind

/-- No number is too long to be read. -/
def NumbersFit (ws : List Word) : Prop := ∀ w ∈ ws, w.kind = .number → w.text.length ≤ numberLimit

instance (ws : List Word) : Decidable (NumbersFit ws) :=
  inferInstanceAs (Decidable (∀ w ∈ ws, w.kind = .number → w.text.length ≤ numberLimit))

theorem numbersFit_cons {w : Word} {ws : List Word} :
    NumbersFit (w :: ws) ↔ (w.kind = .number → w.text.length ≤ numberLimit) ∧ NumbersFit ws :=
  List.forall_mem_cons

theorem numbersFit_append {ws us : List Word} :
    NumbersFit (ws ++ us) ↔ NumbersFit ws ∧ NumbersFit us :=
  List.forall_mem_append

namespace Ty

inductive Tree : Nonterminal → Type
  | int (w : Word) (kind : w.kind = .int) : Tree .atom
  | bool (w : Word) (kind : w.kind = .bool) : Tree .atom
  | dyn (w : Word) (kind : w.kind = .question) : Tree .atom
  | paren (l : Word) (opening : l.kind = .lparen) (inner : Tree .type) (r : Word)
      (closing : r.kind = .rparen) : Tree .atom
  | ofAtom (atom : Tree .atom) : Tree .type
  | arrow (dom : Tree .atom) (w : Word) (mark : w.kind = .arrow) (cod : Tree .type) : Tree .type

namespace Tree

def words {n : Nonterminal} : Tree n → List Word
  | .int w _ | .bool w _ | .dyn w _ => [w]
  | .paren l _ inner r _ => l :: (inner.words ++ [r])
  | .ofAtom atom => atom.words
  | .arrow dom w _ cod => dom.words ++ w :: cod.words

/-- The type that the tree stands for. Arrows associate to the right. -/
def type {n : Nonterminal} : Tree n → Ty ε
  | .int _ _ => .int
  | .bool _ _ => .bool
  | .dyn _ _ => .dyn
  | .paren _ _ inner _ _ => inner.type
  | .ofAtom atom => atom.type
  | .arrow dom _ _ cod => .arrow dom.type cod.type

end Tree

/-- What cannot go on a phrase. -/
def Nonterminal.StopsBefore : Nonterminal → List Word → Prop
  | .atom, _ => True
  | .type, rest => headKind rest ≠ .arrow

theorem stopsBefore_rparen {r : Word} (closing : r.kind = .rparen) (rest : List Word) :
    Nonterminal.type.StopsBefore (r :: rest) := by
  simp [Nonterminal.StopsBefore, headKind, closing]

/-- A phrase and its tree can be told from the words that begin with it. -/
theorem Tree.eq_of_words {n : Nonterminal} (t t' : Tree n) {rest rest' : List Word}
    (stops : n.StopsBefore rest) (stops' : n.StopsBefore rest')
    (same : t.words ++ rest = t'.words ++ rest') : t = t' ∧ rest = rest' := by
  induction t generalizing rest rest' with
  | int w kind | bool w kind | dyn w kind => cases t' <;> grind [words]
  | paren l opening inner r closing ih =>
    cases t' with
    | paren l' opening' inner' r' closing' =>
      simp only [words, List.cons_append, List.append_assoc, List.cons.injEq] at same
      obtain ⟨rfl, inside⟩ := same
      obtain ⟨rfl, after⟩ := ih inner' (stopsBefore_rparen closing _)
        (stopsBefore_rparen closing' _) inside
      obtain ⟨rfl, rfl⟩ := List.cons.inj after
      exact ⟨rfl, rfl⟩
    | _ => grind [words]
  | ofAtom atom ih =>
    cases t' with
    | ofAtom atom' =>
      obtain ⟨rfl, rfl⟩ := ih atom' trivial trivial same
      exact ⟨rfl, rfl⟩
    | arrow dom w mark cod =>
      simp only [words, List.append_assoc] at same
      obtain ⟨rfl, rfl⟩ := ih dom trivial trivial same
      exact absurd mark stops
  | arrow dom w mark cod domIH codIH =>
    simp only [words, List.append_assoc] at same
    cases t' with
    | ofAtom atom' =>
      obtain ⟨rfl, rfl⟩ := domIH atom' trivial trivial same
      exact absurd mark stops'
    | arrow dom' w' mark' cod' =>
      simp only [words, List.append_assoc] at same
      obtain ⟨rfl, after⟩ := domIH dom' trivial trivial same
      obtain ⟨rfl, later⟩ := List.cons.inj after
      obtain ⟨rfl, rfl⟩ := codIH cod' stops stops' later
      exact ⟨rfl, rfl⟩

theorem Tree.type_eq_of_words (t t' : Tree .type) (same : t.words = t'.words) : t = t' := by
  have stops : Nonterminal.type.StopsBefore [] := Token.Kind.noConfusion
  exact (t.eq_of_words t' stops stops (by rw [same])).1

theorem Tree.ne_eof {n : Nonterminal} (tree : Tree n) : ∀ w ∈ tree.words, w.kind ≠ .eof := by
  induction tree <;> simp_all [words, or_imp]

theorem Tree.derives {n : Nonterminal} (tree : Tree n) :
    Derives n tree.words (tree.type : Ty ε) := by
  induction tree with
  | int w kind => exact .int kind
  | bool w kind => exact .bool kind
  | dyn w kind => exact .dyn kind
  | paren l opening inner r closing ih => exact .paren opening ih closing
  | ofAtom atom ih => exact .ofAtom ih
  | arrow dom w mark cod domIH codIH => exact .arrow domIH mark codIH

theorem Derives.exists_tree {n : Nonterminal} {ws : List Word} {t : Ty ε}
    (derives : Derives n ws t) :
    ∃ tree : Tree n, tree.words = ws ∧ tree.type = t := by
  induction derives with
  | int kind => exact ⟨.int _ kind, rfl, rfl⟩
  | bool kind => exact ⟨.bool _ kind, rfl, rfl⟩
  | dyn kind => exact ⟨.dyn _ kind, rfl, rfl⟩
  | paren opening _ closing ih =>
    obtain ⟨inner, rfl, rfl⟩ := ih
    exact ⟨.paren _ opening inner _ closing, rfl, rfl⟩
  | ofAtom _ ih =>
    obtain ⟨atom, rfl, rfl⟩ := ih
    exact ⟨.ofAtom atom, rfl, rfl⟩
  | arrow _ mark _ domIH codIH =>
    obtain ⟨dom, rfl, rfl⟩ := domIH
    obtain ⟨cod, rfl, rfl⟩ := codIH
    exact ⟨.arrow dom _ mark cod, rfl, rfl⟩

end Ty

namespace Expr

inductive BinderTree where
  | plain (w : Word) (name : w.kind = .ident)
  | declared (w : Word) (name : w.kind = .ident) (c : Word) (colon : c.kind = .colon)
      (type : Ty.Tree .atom)
  | paren (l : Word) (opening : l.kind = .lparen) (w : Word) (name : w.kind = .ident) (c : Word)
      (colon : c.kind = .colon) (type : Ty.Tree .type) (r : Word) (closing : r.kind = .rparen)

namespace BinderTree

def words : BinderTree → List Word
  | .plain w _ => [w]
  | .declared w _ c _ type => w :: c :: type.words
  | .paren l _ w _ c _ type r _ => l :: w :: c :: (type.words ++ [r])

def name : BinderTree → String
  | .plain w _ | .declared w _ _ _ _ | .paren _ _ w _ _ _ _ _ _ => w.text

def declaredType : BinderTree → Option (Ty ε)
  | .plain _ _ => none
  | .declared _ _ _ _ type => some type.type
  | .paren _ _ _ _ _ _ type _ _ => some type.type

theorem headKind_bodyMark {d : Word} (dot : d.kind = .arrow ∨ d.kind = .dot) (rest : List Word) :
    headKind (d :: rest) ≠ .colon := by
  obtain arrow | dot := dot <;> simp [headKind, *]

theorem eq_of_words (b b' : BinderTree) {rest rest' : List Word} (stops : headKind rest ≠ .colon)
    (stops' : headKind rest' ≠ .colon) (same : b.words ++ rest = b'.words ++ rest') :
    b = b' ∧ rest = rest' := by
  cases b with
  | plain w name => cases b' <;> grind [words, headKind]
  | declared w name c colon type =>
    cases b' with
    | declared w' name' c' colon' type' =>
      simp only [words, List.cons_append, List.cons.injEq] at same
      obtain ⟨rfl, rfl, later⟩ := same
      obtain ⟨rfl, rfl⟩ := type.eq_of_words type' trivial trivial later
      exact ⟨rfl, rfl⟩
    | _ => grind [words, headKind]
  | paren l opening w name c colon type r closing =>
    cases b' with
    | paren l' opening' w' name' c' colon' type' r' closing' =>
      simp only [words, List.cons_append, List.append_assoc, List.cons.injEq] at same
      obtain ⟨rfl, rfl, rfl, inside⟩ := same
      obtain ⟨rfl, after⟩ := type.eq_of_words type' (Ty.stopsBefore_rparen closing _)
        (Ty.stopsBefore_rparen closing' _) inside
      obtain ⟨rfl, rfl⟩ := List.cons.inj after
      exact ⟨rfl, rfl⟩
    | _ => grind [words]

theorem ne_eof (tree : BinderTree) : ∀ w ∈ tree.words, w.kind ≠ .eof := by
  cases tree with
  | plain w name => simp_all [words]
  | declared w name c colon type => simp_all [words, type.ne_eof]
  | paren l opening w name c colon type r closing =>
    have inner := type.ne_eof
    simp_all [words, or_imp]

theorem binder (tree : BinderTree) :
    Binder tree.words tree.name (tree.declaredType : Option (Ty ε)) := by
  cases tree with
  | plain w name => exact .plain name
  | declared w name c colon type => exact .declared name colon type.derives
  | paren l opening w name c colon type r closing =>
    exact .paren opening name colon type.derives closing

end BinderTree

theorem Binder.exists_tree {ws : List Word} {x : String} {declared : Option (Ty ε)}
    (binder : Binder ws x declared) :
    ∃ tree : BinderTree, tree.words = ws ∧ tree.name = x ∧ tree.declaredType = declared := by
  cases binder with
  | plain name => exact ⟨.plain _ name, rfl, rfl, rfl⟩
  | declared name colon type =>
    obtain ⟨tree, rfl, rfl⟩ := type.exists_tree
    exact ⟨.declared _ name _ colon tree, rfl, rfl, rfl⟩
  | paren opening name colon type closing =>
    obtain ⟨tree, rfl, rfl⟩ := type.exists_tree
    exact ⟨.paren _ opening _ name _ colon tree _ closing, rfl, rfl, rfl⟩

inductive Category where
  | expr
  | lambda
  | sum
  | operands
  | application
  | atoms
  | atom

inductive Tree : Category → Type
  | ofLambda (inner : Tree .lambda) : Tree .expr
  | ofSum (inner : Tree .sum) : Tree .expr
  | lambda (w : Word) (mark : w.kind.beginsLambda = true) (binder : BinderTree) (d : Word)
      (dot : d.kind = .arrow ∨ d.kind = .dot) (body : Tree .expr) : Tree .lambda
  | sum (first : Tree .application) (more : Tree .operands) : Tree .sum
  | noOperands : Tree .operands
  | operand (p : Word) (plus : p.kind = .plus) (right : Tree .application)
      (more : Tree .operands) : Tree .operands
  | lastOperand (p : Word) (plus : p.kind = .plus) (right : Tree .lambda) : Tree .operands
  | application (func : Tree .atom) (args : Tree .atoms) : Tree .application
  | noAtoms : Tree .atoms
  | atomsCons (arg : Tree .atom) (more : Tree .atoms) : Tree .atoms
  | var (w : Word) (kind : w.kind = .ident) : Tree .atom
  | int (w : Word) (kind : w.kind = .number) (numeral : isNumeral w.text = true) : Tree .atom
  | tru (w : Word) (kind : w.kind = .tru) : Tree .atom
  | fls (w : Word) (kind : w.kind = .fls) : Tree .atom
  | paren (l : Word) (opening : l.kind = .lparen) (inner : Tree .expr) (r : Word)
      (closing : r.kind = .rparen) : Tree .atom

/-- Operands and arguments stand for what they make of the expression before them. -/
def Category.Meaning (ε : Type) : Category → Type
  | .operands | .atoms => Expr ε → Expr ε
  | .expr | .lambda | .sum | .application | .atom => Expr ε

namespace Tree

def words {c : Category} : Tree c → List Word
  | .ofLambda inner => inner.words
  | .ofSum inner => inner.words
  | .lambda w _ binder d _ body => w :: (binder.words ++ d :: body.words)
  | .sum first more => first.words ++ more.words
  | .noOperands => []
  | .operand p _ right more => p :: (right.words ++ more.words)
  | .lastOperand p _ right => p :: right.words
  | .application func args => func.words ++ args.words
  | .noAtoms => []
  | .atomsCons arg more => arg.words ++ more.words
  | .var w _ | .int w _ _ | .tru w _ | .fls w _ => [w]
  | .paren l _ inner r _ => l :: (inner.words ++ [r])

/-- Sums and applications associate to the left. -/
def meaning {c : Category} : Tree c → c.Meaning ε
  | .ofLambda inner => inner.meaning
  | .ofSum inner => inner.meaning
  | .lambda _ _ binder _ _ body => .lam binder.name binder.declaredType body.meaning
  | .sum first more => more.meaning first.meaning
  | .noOperands => id
  | .operand _ _ right more => fun left => more.meaning (.add left right.meaning)
  | .lastOperand _ _ right => fun left => .add left right.meaning
  | .application func args => args.meaning func.meaning
  | .noAtoms => id
  | .atomsCons arg more => fun func => more.meaning (.app func arg.meaning)
  | .var w _ => .var w.text
  | .int w _ _ => .int (ofDigits w.text.toList)
  | .tru _ _ => .bool true
  | .fls _ _ => .bool false
  | .paren _ _ inner _ _ => inner.meaning

end Tree

/-- What cannot go on a phrase. -/
def Category.StopsBefore : Category → List Word → Prop
  | .atom, _ => True
  | .application, rest | .atoms, rest => (headKind rest).beginsAtom = false
  | .expr, rest | .lambda, rest | .sum, rest | .operands, rest =>
    (headKind rest).beginsAtom = false ∧ headKind rest ≠ .plus

namespace Tree

theorem beginsAtom_atom (tree : Tree .atom) (rest : List Word) :
    (headKind (tree.words ++ rest)).beginsAtom = true := by
  cases tree <;> simp [words, headKind, Token.Kind.beginsAtom, *]

theorem beginsAtom_application (tree : Tree .application) (rest : List Word) :
    (headKind (tree.words ++ rest)).beginsAtom = true := by
  cases tree with
  | application func args =>
    rw [words, List.append_assoc]
    exact func.beginsAtom_atom _

theorem beginsAtom_sum (tree : Tree .sum) (rest : List Word) :
    (headKind (tree.words ++ rest)).beginsAtom = true := by
  cases tree with
  | sum first more =>
    rw [words, List.append_assoc]
    exact first.beginsAtom_application _

theorem beginsLambda_lambda (tree : Tree .lambda) (rest : List Word) :
    (headKind (tree.words ++ rest)).beginsLambda = true := by
  cases tree with
  | lambda w mark => exact mark

/-- No operand goes on the application before it. -/
theorem stopsBefore_operands (tree : Tree .operands) {rest : List Word}
    (stops : Category.operands.StopsBefore rest) :
    Category.application.StopsBefore (tree.words ++ rest) := by
  cases tree with
  | noOperands => exact stops.1
  | operand p plus | lastOperand p plus =>
    simp [words, Category.StopsBefore, headKind, plus, Token.Kind.beginsAtom]

theorem stopsBefore_rparen {r : Word} (closing : r.kind = .rparen) (rest : List Word) :
    Category.expr.StopsBefore (r :: rest) := by
  simp [Category.StopsBefore, headKind, closing, Token.Kind.beginsAtom]

/-- A phrase that begins with an atom is no function. -/
theorem append_ne_lambda {front : List Word} (begins : (headKind front).beginsAtom = true)
    (tree : Tree .lambda) (rest : List Word) : front ≠ tree.words ++ rest := by
  rintro rfl
  have lambda := tree.beginsLambda_lambda rest
  rw [beginsLambda_of_beginsAtom begins] at lambda
  cases lambda

/-- A phrase and its tree can be told from the words that begin with it. -/
theorem eq_of_words {c : Category} (t t' : Tree c) {rest rest' : List Word}
    (stops : c.StopsBefore rest) (stops' : c.StopsBefore rest')
    (same : t.words ++ rest = t'.words ++ rest') : t = t' ∧ rest = rest' := by
  induction t generalizing rest rest' with
  | ofLambda inner ih =>
    cases t' with
    | ofLambda inner' =>
      obtain ⟨rfl, rfl⟩ := ih inner' stops stops' same
      exact ⟨rfl, rfl⟩
    | ofSum inner' =>
      exact absurd same.symm (append_ne_lambda (inner'.beginsAtom_sum rest') inner rest)
  | ofSum inner ih =>
    cases t' with
    | ofLambda inner' =>
      exact absurd same (append_ne_lambda (inner.beginsAtom_sum rest) inner' rest')
    | ofSum inner' =>
      obtain ⟨rfl, rfl⟩ := ih inner' stops stops' same
      exact ⟨rfl, rfl⟩
  | lambda w mark binder d dot body ih =>
    cases t' with
    | lambda w' mark' binder' d' dot' body' =>
      simp only [words, List.cons_append, List.append_assoc, List.cons.injEq] at same
      obtain ⟨rfl, bound⟩ := same
      obtain ⟨rfl, marked⟩ := binder.eq_of_words binder' (BinderTree.headKind_bodyMark dot _)
        (BinderTree.headKind_bodyMark dot' _) bound
      obtain ⟨rfl, inside⟩ := List.cons.inj marked
      obtain ⟨rfl, rfl⟩ := ih body' stops stops' inside
      exact ⟨rfl, rfl⟩
  | sum first more firstIH moreIH =>
    cases t' with
    | sum first' more' =>
      simp only [words, List.append_assoc] at same
      obtain ⟨rfl, after⟩ := firstIH first' (more.stopsBefore_operands stops)
        (more'.stopsBefore_operands stops') same
      obtain ⟨rfl, rfl⟩ := moreIH more' stops stops' after
      exact ⟨rfl, rfl⟩
  | noOperands =>
    cases t' with
    | noOperands => exact ⟨rfl, same⟩
    | operand p plus | lastOperand p plus =>
      rw [words, List.nil_append] at same
      exact absurd (by rw [same]; exact plus) stops.2
  | operand p plus right more rightIH moreIH =>
    cases t' with
    | noOperands =>
      rw [eq_comm, words, List.nil_append] at same
      exact absurd (by rw [same]; exact plus) stops'.2
    | operand p' plus' right' more' =>
      simp only [words, List.cons_append, List.append_assoc, List.cons.injEq] at same
      obtain ⟨rfl, later⟩ := same
      obtain ⟨rfl, after⟩ := rightIH right' (more.stopsBefore_operands stops)
        (more'.stopsBefore_operands stops') later
      obtain ⟨rfl, rfl⟩ := moreIH more' stops stops' after
      exact ⟨rfl, rfl⟩
    | lastOperand p' plus' right' =>
      simp only [words, List.cons_append, List.append_assoc, List.cons.injEq] at same
      exact absurd same.2 (append_ne_lambda (right.beginsAtom_application _) right' rest')
  | lastOperand p plus right ih =>
    cases t' with
    | noOperands =>
      rw [eq_comm, words, List.nil_append] at same
      exact absurd (by rw [same]; exact plus) stops'.2
    | operand p' plus' right' more' =>
      simp only [words, List.cons_append, List.append_assoc, List.cons.injEq] at same
      exact absurd same.2.symm (append_ne_lambda (right'.beginsAtom_application _) right rest)
    | lastOperand p' plus' right' =>
      simp only [words, List.cons_append, List.cons.injEq] at same
      obtain ⟨rfl, later⟩ := same
      obtain ⟨rfl, rfl⟩ := ih right' stops stops' later
      exact ⟨rfl, rfl⟩
  | application func args funcIH argsIH =>
    cases t' with
    | application func' args' =>
      simp only [words, List.append_assoc] at same
      obtain ⟨rfl, after⟩ := funcIH func' trivial trivial same
      obtain ⟨rfl, rfl⟩ := argsIH args' stops stops' after
      exact ⟨rfl, rfl⟩
  | noAtoms =>
    cases t' with
    | noAtoms => exact ⟨rfl, same⟩
    | atomsCons arg' more' =>
      simp only [words, List.nil_append, List.append_assoc] at same
      rw [same, Category.StopsBefore, beginsAtom_atom] at stops
      cases stops
  | atomsCons arg more argIH moreIH =>
    cases t' with
    | noAtoms =>
      simp only [words, List.nil_append, List.append_assoc] at same
      rw [← same, Category.StopsBefore, beginsAtom_atom] at stops'
      cases stops'
    | atomsCons arg' more' =>
      simp only [words, List.append_assoc] at same
      obtain ⟨rfl, after⟩ := argIH arg' trivial trivial same
      obtain ⟨rfl, rfl⟩ := moreIH more' stops stops' after
      exact ⟨rfl, rfl⟩
  | var w kind | int w kind _ | tru w kind | fls w kind => cases t' <;> grind [words]
  | paren l opening inner r closing ih =>
    cases t' with
    | paren l' opening' inner' r' closing' =>
      simp only [words, List.cons_append, List.append_assoc, List.cons.injEq] at same
      obtain ⟨rfl, inside⟩ := same
      obtain ⟨rfl, after⟩ := ih inner' (stopsBefore_rparen closing _)
        (stopsBefore_rparen closing' _) inside
      obtain ⟨rfl, rfl⟩ := List.cons.inj after
      exact ⟨rfl, rfl⟩
    | _ => grind [words]

theorem ne_eof {c : Category} (tree : Tree c) : ∀ w ∈ tree.words, w.kind ≠ .eof := by
  induction tree with
  | lambda w mark binder d dot body ih =>
    have bound := binder.ne_eof
    have first : w.kind ≠ .eof := by
      intro kind
      rw [kind] at mark
      cases mark
    have middle : d.kind ≠ .eof := by
      obtain arrow | dot := dot <;> simp [*]
    simp_all [words, or_imp]
  | _ => simp_all [words, or_imp]

/-- What the words of a phrase derive: by themselves, or after a phrase that they go on. -/
def Yields : (c : Category) → List Word → c.Meaning ε → Prop
  | .expr, ws, e => Derives .expr ws e
  | .lambda, ws, e => Derives .lambda ws e
  | .sum, ws, e => Derives .sum ws e
  | .application, ws, e => Derives .application ws e
  | .atom, ws, e => Derives .atom ws e
  | .operands, us, meaning => ∀ ws left, Derives .terms ws left →
      Derives .sum (ws ++ us) (meaning left)
  | .atoms, us, meaning => ∀ ws func, Derives .application ws func →
      Derives .application (ws ++ us) (meaning func)

theorem yields {c : Category} (tree : Tree c) (short : NumbersFit tree.words) :
    Yields c tree.words (tree.meaning : c.Meaning ε) := by
  induction tree with
  | ofLambda inner ih => exact .ofLambda (ih short)
  | ofSum inner ih => exact .ofSum (ih short)
  | lambda w mark binder d dot body ih =>
    simp only [words, numbersFit_cons, numbersFit_append] at short
    exact .lambda mark binder.binder dot (ih short.2.2.2)
  | sum first more firstIH moreIH =>
    simp only [words, numbersFit_append] at short
    exact moreIH short.2 _ _ (.ofApplication (firstIH short.1))
  | noOperands =>
    intro ws left terms
    rw [words, List.append_nil]
    exact .ofTerms terms
  | operand p plus right more rightIH moreIH =>
    simp only [words, numbersFit_cons, numbersFit_append] at short
    intro ws left terms
    have longer := moreIH short.2.2 _ _ (.add terms plus (rightIH short.2.1))
    rwa [List.append_assoc, List.cons_append] at longer
  | lastOperand p plus right ih =>
    simp only [words, numbersFit_cons] at short
    intro ws left terms
    exact .addLambda terms plus (ih short.2)
  | application func args funcIH argsIH =>
    simp only [words, numbersFit_append] at short
    exact argsIH short.2 _ _ (.ofAtom (funcIH short.1))
  | noAtoms =>
    intro ws func application
    rwa [words, List.append_nil]
  | atomsCons arg more argIH moreIH =>
    simp only [words, numbersFit_append] at short
    intro ws func application
    have longer := moreIH short.2 _ _ (.app application (argIH short.1))
    rwa [List.append_assoc] at longer
  | var w kind => exact .var kind
  | int w kind numeral => exact .int kind numeral (short w List.mem_cons_self kind)
  | tru w kind => exact .tru kind
  | fls w kind => exact .fls kind
  | paren l opening inner r closing ih =>
    simp only [words, numbersFit_cons, numbersFit_append] at short
    exact .paren opening (ih short.2.1) closing

end Tree

/-- There is a tree of the phrase; for one that can be the left part of a longer phrase, with any
continuation. -/
def HasTree : Nonterminal → List Word → Expr ε → Prop
  | .expr, ws, e => ∃ tree : Tree .expr, tree.words = ws ∧ tree.meaning = e
  | .lambda, ws, e => ∃ tree : Tree .lambda, tree.words = ws ∧ tree.meaning = e
  | .sum, ws, e => ∃ tree : Tree .sum, tree.words = ws ∧ tree.meaning = e
  | .terms, ws, e => ∀ more : Tree .operands,
      ∃ tree : Tree .sum, tree.words = ws ++ more.words ∧ tree.meaning = more.meaning e
  | .application, ws, e => ∀ args : Tree .atoms,
      ∃ tree : Tree .application, tree.words = ws ++ args.words ∧ tree.meaning = args.meaning e
  | .atom, ws, e => ∃ tree : Tree .atom, tree.words = ws ∧ tree.meaning = e

theorem exists_application {ws : List Word} {e : Expr ε} (trees : HasTree .application ws e) :
    ∃ tree : Tree .application, tree.words = ws ∧ tree.meaning = e := by
  obtain ⟨tree, words, meaning⟩ := trees .noAtoms
  exact ⟨tree, words.trans (List.append_nil _), meaning⟩

theorem Derives.hasTree {n : Nonterminal} {ws : List Word} {e : Expr ε} (derives : Derives n ws e) :
    HasTree n ws e := by
  induction derives with
  | ofLambda _ ih =>
    obtain ⟨tree, rfl, rfl⟩ := ih
    exact ⟨.ofLambda tree, rfl, rfl⟩
  | ofSum _ ih =>
    obtain ⟨tree, rfl, rfl⟩ := ih
    exact ⟨.ofSum tree, rfl, rfl⟩
  | lambda mark binder dot _ ih =>
    obtain ⟨bound, rfl, rfl, rfl⟩ := binder.exists_tree
    obtain ⟨body, rfl, rfl⟩ := ih
    exact ⟨.lambda _ mark bound _ dot body, rfl, rfl⟩
  | ofTerms _ ih =>
    obtain ⟨tree, words, meaning⟩ := ih .noOperands
    exact ⟨tree, words.trans (List.append_nil _), meaning⟩
  | addLambda _ plus _ leftIH rightIH =>
    obtain ⟨right, rfl, rfl⟩ := rightIH
    exact leftIH (.lastOperand _ plus right)
  | ofApplication _ ih =>
    intro more
    obtain ⟨first, rfl, rfl⟩ := exists_application ih
    exact ⟨.sum first more, rfl, rfl⟩
  | add _ plus _ leftIH rightIH =>
    intro more
    obtain ⟨right, rfl, rfl⟩ := exists_application rightIH
    obtain ⟨tree, longer, sum⟩ := leftIH (.operand _ plus right more)
    exact ⟨tree, by rw [longer, List.append_assoc]; rfl, sum⟩
  | ofAtom _ ih =>
    intro args
    obtain ⟨func, rfl, rfl⟩ := ih
    exact ⟨.application func args, rfl, rfl⟩
  | app _ _ funcIH argumentIH =>
    intro args
    obtain ⟨arg, rfl, rfl⟩ := argumentIH
    obtain ⟨tree, longer, application⟩ := funcIH (.atomsCons arg args)
    exact ⟨tree, by rw [longer, List.append_assoc]; rfl, application⟩
  | var kind => exact ⟨.var _ kind, rfl, rfl⟩
  | int kind numeral => exact ⟨.int _ kind numeral, rfl, rfl⟩
  | tru kind => exact ⟨.tru _ kind, rfl, rfl⟩
  | fls kind => exact ⟨.fls _ kind, rfl, rfl⟩
  | paren opening _ closing ih =>
    obtain ⟨inner, rfl, rfl⟩ := ih
    exact ⟨.paren _ opening inner _ closing, rfl, rfl⟩

end Expr

end Gradual
