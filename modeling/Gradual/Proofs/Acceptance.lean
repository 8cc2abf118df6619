import Gradual.Proofs.SyntaxTree

/-! What the readers of whole texts accept. A text is read exactly if its words are those of a syntax
tree, of which there is then only one, and the value read is what this tree stands for. A list of
tokens may carry a mark at its end, which is no word of the text. -/
namespace Gradual

variable {ε : Type}

theorem Reading.result_eq_ok {α : Type} {least : Nat} {input : List Token}
    {reading : Reading least α input} {a : α} :
    reading.result = .ok a ↔ ∃ rest, reading.value? = some (a, rest) := by
  cases reading with
  | value b rest taken => simp [result, value?]
  | stuck complaint rest within => simp [result]

/-- The words of a text are those before the first mark of an end. -/
theorem append_end_inj {tokens tokens' ending ending' : List Token}
    (words : ∀ t ∈ tokens, t.kind ≠ .eof) (words' : ∀ t ∈ tokens', t.kind ≠ .eof)
    (ends : kindOf ending = .eof) (ends' : kindOf ending' = .eof)
    (same : tokens ++ ending = tokens' ++ ending') : tokens = tokens' := by
  induction tokens generalizing tokens' with
  | nil =>
    cases tokens' with
    | nil => rfl
    | cons t rest =>
      rw [List.nil_append] at same
      exact absurd (by rw [same] at ends; exact ends) (words' t List.mem_cons_self)
  | cons t rest ih =>
    obtain ⟨noEnd, later⟩ := List.forall_mem_cons.mp words
    cases tokens' with
    | nil =>
      rw [List.nil_append] at same
      exact absurd (by rw [← same] at ends'; exact ends') noEnd
    | cons t' rest' =>
      obtain ⟨rfl, tails⟩ := List.cons.inj same
      rw [ih later (List.forall_mem_cons.mp words').2 tails]

/-- The outcome of reading the words is what a grammar says: they are read exactly if a tree has them,
it is the only one, and what is read is what this tree stands for. -/
structure Accepts {T α : Type} (words : T → List Word) (meaning : T → α) (input : List Word)
    (result : Except Complaint α) : Prop where
  succeeds : (∃ a, result = .ok a) ↔ ∃ tree, words tree = input
  unique : ∀ tree tree', words tree = input → words tree' = input → tree = tree'
  returns : ∀ tree, words tree = input → result = .ok (meaning tree)

theorem Accepts.intro {T α : Type} {words : T → List Word} {meaning : T → α} {input : List Word}
    {result : Except Complaint α} (unambiguous : ∀ tree tree', words tree = words tree' → tree = tree')
    (reads : ∀ tree, words tree = input → result = .ok (meaning tree))
    (derived : ∀ a, result = .ok a → ∃ tree, words tree = input) :
    Accepts words meaning input result where
  succeeds := by
    constructor
    · rintro ⟨a, read⟩
      exact derived a read
    · rintro ⟨tree, same⟩
      exact ⟨_, reads tree same⟩
  unique tree tree' same same' := unambiguous tree tree' (same.trans same'.symm)
  returns := reads

namespace Expr

/-- No word is left, or `;;` comes next. -/
def AtMark (rest : List Word) : Prop := headKind rest = .eof ∨ headKind rest = .semisemi

theorem AtMark.nil : AtMark [] := .inl rfl

theorem AtMark.cons {s : Word} (mark : s.kind = .semisemi) (rest : List Word) : AtMark (s :: rest) :=
  .inr mark

theorem AtMark.stopsBefore {rest : List Word} (ends : AtMark rest) :
    Category.expr.StopsBefore rest := by
  obtain eof | semisemi := ends <;> simp [Category.StopsBefore, Token.Kind.beginsAtom, *]

theorem Tree.not_atMark (tree : Tree .expr) (rest : List Word) : ¬ AtMark (tree.words ++ rest) := by
  intro ends
  cases tree with
  | ofLambda inner =>
    have begins := inner.beginsLambda_lambda rest
    obtain kind | kind := ends <;> simp only [words] at kind <;> rw [kind] at begins <;> cases begins
  | ofSum inner =>
    have begins := inner.beginsAtom_sum rest
    obtain kind | kind := ends <;> simp only [words] at kind <;> rw [kind] at begins <;> cases begins

/-- `expr ";;"?` -/
structure OnlyTree where
  expr : Tree .expr
  mark : Option Word
  semisemi : ∀ w ∈ mark, w.kind = .semisemi

namespace OnlyTree

def words (tree : OnlyTree) : List Word := tree.expr.words ++ tree.mark.toList

def meaning (tree : OnlyTree) : Expr ε := tree.expr.meaning

theorem atMark {mark : Option Word} (semisemi : ∀ w ∈ mark, w.kind = .semisemi) :
    AtMark mark.toList := by
  cases mark with
  | none => exact .nil
  | some w => exact .cons (semisemi w rfl) []

theorem eq_of_words (tree tree' : OnlyTree) (same : tree.words = tree'.words) : tree = tree' := by
  obtain ⟨expr, mark, semisemi⟩ := tree
  obtain ⟨expr', mark', semisemi'⟩ := tree'
  obtain ⟨rfl, marks⟩ := expr.eq_of_words expr' (atMark semisemi).stopsBefore
    (atMark semisemi').stopsBefore same
  obtain rfl : mark = mark' := by
    cases mark <;> cases mark' <;> simp_all
  rfl

theorem ne_eof (tree : OnlyTree) : ∀ w ∈ tree.words, w.kind ≠ .eof := by
  refine List.forall_mem_append.mpr ⟨tree.expr.ne_eof, fun w member => ?_⟩
  simp [tree.semisemi w (Option.mem_toList.mp member)]

theorem optionalMark (tree : OnlyTree) {marks : List Token}
    (words : marks.map Token.word = tree.mark.toList) : OptionalMark marks := by
  obtain ⟨expr, mark, semisemi⟩ := tree
  cases mark with
  | none =>
    cases List.map_eq_nil_iff.mp words
    exact .none
  | some w =>
    obtain ⟨t, rfl, rfl⟩ := List.map_eq_singleton_iff.mp words
    exact .some (semisemi _ rfl)

theorem exists_of_optionalMark (expr : Tree .expr) {marks : List Token}
    (marked : OptionalMark marks) :
    ∃ tree : OnlyTree, tree.expr = expr ∧ tree.mark.toList = marks.map Token.word := by
  cases marked with
  | none => exact ⟨⟨expr, none, fun w member => by cases member⟩, rfl, rfl⟩
  | @some t mark =>
    refine ⟨⟨expr, some t.word, fun w member => ?_⟩, rfl, rfl⟩
    cases member
    exact mark

end OnlyTree

/-- `(expr? ";;")* expr?` -/
inductive ProgramTree where
  | last (expr : Option (Tree .expr))
  | item (expr : Option (Tree .expr)) (s : Word) (mark : s.kind = .semisemi) (rest : ProgramTree)

namespace ProgramTree

def optionalWords : Option (Tree .expr) → List Word
  | none => []
  | some tree => tree.words

def optionalExpr : Option (Tree .expr) → List (Expr ε)
  | none => []
  | some tree => [tree.meaning]

def words : ProgramTree → List Word
  | .last expr => optionalWords expr ++ []
  | .item expr s _ rest => optionalWords expr ++ s :: rest.words

def meaning : ProgramTree → List (Expr ε)
  | .last expr => optionalExpr expr
  | .item expr _ _ rest => optionalExpr expr ++ rest.meaning

/-- An expression that may be missing can be told from the words up to the next mark. -/
theorem eq_of_optionalWords {expr expr' : Option (Tree .expr)} {rest rest' : List Word}
    (ends : AtMark rest) (ends' : AtMark rest')
    (same : optionalWords expr ++ rest = optionalWords expr' ++ rest') :
    expr = expr' ∧ rest = rest' := by
  cases expr with
  | none =>
    cases expr' with
    | none => exact ⟨rfl, same⟩
    | some tree' =>
      subst same
      exact absurd ends (tree'.not_atMark rest')
  | some tree =>
    cases expr' with
    | none =>
      subst same
      exact absurd ends' (tree.not_atMark rest)
    | some tree' =>
      obtain ⟨rfl, rfl⟩ := tree.eq_of_words tree' ends.stopsBefore ends'.stopsBefore same
      exact ⟨rfl, rfl⟩

theorem eq_of_words (tree tree' : ProgramTree) (same : tree.words = tree'.words) :
    tree = tree' := by
  induction tree generalizing tree' with
  | last expr =>
    cases tree' with
    | last expr' =>
      obtain ⟨rfl, -⟩ := eq_of_optionalWords .nil .nil same
      rfl
    | item expr' s' mark' rest' =>
      obtain ⟨-, tails⟩ := eq_of_optionalWords .nil (.cons mark' rest'.words) same
      cases tails
  | item expr s mark rest ih =>
    cases tree' with
    | last expr' =>
      obtain ⟨-, tails⟩ := eq_of_optionalWords (.cons mark rest.words) .nil same
      cases tails
    | item expr' s' mark' rest' =>
      obtain ⟨rfl, tails⟩ := eq_of_optionalWords (.cons mark rest.words) (.cons mark' rest'.words) same
      obtain ⟨rfl, later⟩ := List.cons.inj tails
      rw [ih rest' later]

theorem derives (tree : ProgramTree) (fit : NumbersFit tree.words) :
    ProgramDerives tree.words (tree.meaning : List (Expr ε)) := by
  induction tree with
  | last expr =>
    cases expr with
    | none => exact .nil
    | some tree =>
      simp only [words, List.append_nil] at fit ⊢
      exact .last (tree.yields fit)
  | item expr s mark rest ih =>
    simp only [words, numbersFit_append, numbersFit_cons] at fit
    cases expr with
    | none => exact .mark mark (ih fit.2.2)
    | some tree => exact .cons (tree.yields fit.1) mark (ih fit.2.2)

theorem ne_eof (tree : ProgramTree) : ∀ w ∈ tree.words, w.kind ≠ .eof := by
  have optional (expr : Option (Tree .expr)) : ∀ w ∈ optionalWords expr, w.kind ≠ .eof := by
    cases expr with
    | none => exact List.forall_mem_nil _
    | some tree => exact tree.ne_eof
  induction tree with
  | last expr => simpa [words] using optional expr
  | item expr s mark rest ih =>
    have front := optional expr
    simp_all [words, or_imp]

end ProgramTree

end Expr

theorem ProgramDerives.exists_tree {ws : List Word} {es : List (Expr ε)}
    (program : ProgramDerives ws es) : ∃ tree : Expr.ProgramTree, tree.words = ws := by
  induction program with
  | nil => exact ⟨.last none, rfl⟩
  | mark mark _ ih =>
    obtain ⟨rest, rfl⟩ := ih
    exact ⟨.item none _ mark rest, rfl⟩
  | last expr =>
    obtain ⟨tree, rfl, -⟩ := expr.hasTree
    exact ⟨.last (some tree), List.append_nil _⟩
  | cons expr mark _ ih =>
    obtain ⟨tree, rfl, -⟩ := expr.hasTree
    obtain ⟨rest, rfl⟩ := ih
    exact ⟨.item (some tree) _ mark rest, rfl⟩

/-- `ident ":" type` -/
structure BindingTree where
  w : Word
  name : w.kind = .ident
  c : Word
  colon : c.kind = .colon
  type : Ty.Tree .type

namespace BindingTree

def words (tree : BindingTree) : List Word := tree.w :: tree.c :: tree.type.words

def meaning (tree : BindingTree) : String × Ty ε := (tree.w.text, tree.type.type)

theorem eq_of_words (tree tree' : BindingTree) (same : tree.words = tree'.words) : tree = tree' := by
  obtain ⟨w, name, c, colon, type⟩ := tree
  obtain ⟨w', name', c', colon', type'⟩ := tree'
  simp only [words, List.cons.injEq] at same
  obtain ⟨rfl, rfl, types⟩ := same
  rw [type.type_eq_of_words type' types]

theorem ne_eof (tree : BindingTree) : ∀ w ∈ tree.words, w.kind ≠ .eof := by
  simp only [words, List.forall_mem_cons]
  exact ⟨by simp [tree.name], by simp [tree.colon], tree.type.ne_eof⟩

end BindingTree

theorem ne_eof_of_words {tokens : List Token} (words : ∀ w ∈ tokens.map Token.word, w.kind ≠ .eof) :
    ∀ t ∈ tokens, t.kind ≠ .eof :=
  fun _ member => words _ (List.mem_map_of_mem member)

section Readers

variable {tokens ending : List Token} (noEnd : ∀ t ∈ tokens, t.kind ≠ .eof)
  (ends : kindOf ending = .eof) (fit : NumbersFit (tokens.map Token.word))
include noEnd ends

include fit in
theorem Expr.readOnly_accepts :
    Accepts OnlyTree.words OnlyTree.meaning (tokens.map Token.word)
      (readOnly (tokens ++ ending) : Reading 1 (Expr ε) _).result := by
  refine .intro OnlyTree.eq_of_words ?_ ?_
  · intro tree same
    obtain ⟨ts, marks, rfl, exprWords, markWords⟩ := List.map_eq_append_iff.mp same.symm
    rw [List.map_append, numbersFit_append, exprWords] at fit
    have derives : Derives .expr tree.expr.words (tree.meaning : Expr ε) := tree.expr.yields fit.1
    have found := derives.value?_readOnly_append exprWords (tree.optionalMark markWords) ends
    rw [← List.append_assoc] at found
    exact Reading.result_eq_ok.mpr ⟨_, found⟩
  · intro e read
    obtain ⟨rest, found⟩ := Reading.result_eq_ok.mp read
    obtain ⟨marks, ending', ⟨front, same, derives⟩, marked, ends'⟩ := derives_of_readOnly found
    obtain ⟨expr, words, -⟩ := derives.hasTree
    obtain ⟨tree, rfl, markWords⟩ := OnlyTree.exists_of_optionalMark expr marked
    have whole : tree.words = (front ++ marks).map Token.word := by
      rw [List.map_append, ← words, ← markWords]
      rfl
    rw [← List.append_assoc] at same
    obtain rfl := append_end_inj noEnd (ne_eof_of_words (whole ▸ tree.ne_eof)) ends ends' same
    exact ⟨tree, whole⟩

include fit in
theorem Expr.readProgram_accepts :
    Accepts ProgramTree.words ProgramTree.meaning (tokens.map Token.word)
      (readProgram (tokens ++ ending) : Reading 0 (List (Expr ε)) _).result := by
  refine .intro ProgramTree.eq_of_words ?_ ?_
  · intro tree same
    have derives : ProgramDerives tree.words (tree.meaning : List (Expr ε)) :=
      tree.derives (same ▸ fit)
    have found := value?_readProgram_append derives same.symm ends
    exact Reading.result_eq_ok.mpr ⟨_, found⟩
  · intro es read
    obtain ⟨rest, found⟩ := Reading.result_eq_ok.mp read
    obtain ⟨⟨front, same, derives⟩, ends'⟩ := derives_of_readProgram found
    obtain ⟨tree, words⟩ := derives.exists_tree
    obtain rfl := append_end_inj noEnd (ne_eof_of_words (words ▸ tree.ne_eof)) ends ends' same
    exact ⟨tree, words⟩

theorem Ty.readOnly_accepts :
    Accepts (Tree.words (n := .type)) Tree.type (tokens.map Token.word)
      (readOnly (tokens ++ ending) : Reading 1 (Ty ε) _).result := by
  refine .intro Ty.Tree.type_eq_of_words ?_ ?_
  · intro tree same
    have derives : Derives .type tree.words (tree.type : Ty ε) := tree.derives
    have found := derives.value?_readOnly_append same.symm ends
    exact Reading.result_eq_ok.mpr ⟨_, found⟩
  · intro t read
    obtain ⟨rest, found⟩ := Reading.result_eq_ok.mp read
    obtain ⟨ending', ⟨front, same, derives⟩, ends'⟩ := derives_of_readOnly found
    obtain ⟨tree, words, -⟩ := derives.exists_tree
    obtain rfl := append_end_inj noEnd (ne_eof_of_words (words ▸ tree.ne_eof)) ends ends' same
    exact ⟨tree, words⟩

theorem Ty.readBinding_accepts :
    Accepts BindingTree.words BindingTree.meaning (tokens.map Token.word)
      (readBinding (tokens ++ ending) : Reading 1 (String × Ty ε) _).result := by
  refine .intro BindingTree.eq_of_words ?_ ?_
  · intro tree same
    have derives : Derives .type tree.type.words (tree.type.type : Ty ε) := tree.type.derives
    have found := derives.value?_readBinding_append tree.name tree.colon same.symm ends
    exact Reading.result_eq_ok.mpr ⟨_, found⟩
  · rintro ⟨x, t⟩ read
    obtain ⟨rest, found⟩ := Reading.result_eq_ok.mp read
    obtain ⟨n, c, later, ending', same, name, colon, -, ⟨front, rfl, derives⟩, ends'⟩ :=
      derives_of_readBinding found
    obtain ⟨type, words, -⟩ := derives.exists_tree
    let tree : BindingTree := ⟨n.word, name, c.word, colon, type⟩
    have whole : tree.words = (n :: c :: front).map Token.word := by
      rw [List.map_cons, List.map_cons, ← words]
      rfl
    obtain rfl := append_end_inj noEnd (ne_eof_of_words (whole ▸ tree.ne_eof)) ends ends' same
    exact ⟨tree, whole⟩

end Readers

/-- The readers of whole texts accept exactly what the grammar derives, and return what the one
derivation stands for, whether or not a mark follows the last word. -/
theorem readers_accept_grammar (tokens ending : List Token) (noEnd : ∀ t ∈ tokens, t.kind ≠ .eof)
    (ends : kindOf ending = .eof) (fit : NumbersFit (tokens.map Token.word)) :
    Accepts Expr.OnlyTree.words Expr.OnlyTree.meaning (tokens.map Token.word)
        (Expr.readOnly (tokens ++ ending) : Reading 1 (Expr ε) _).result ∧
      Accepts Expr.ProgramTree.words Expr.ProgramTree.meaning (tokens.map Token.word)
        (Expr.readProgram (tokens ++ ending) : Reading 0 (List (Expr ε)) _).result ∧
      Accepts (Ty.Tree.words (n := .type)) Ty.Tree.type (tokens.map Token.word)
        (Ty.readOnly (tokens ++ ending) : Reading 1 (Ty ε) _).result ∧
      Accepts BindingTree.words BindingTree.meaning (tokens.map Token.word)
        (Ty.readBinding (tokens ++ ending) : Reading 1 (String × Ty ε) _).result :=
  ⟨Expr.readOnly_accepts noEnd ends fit, Expr.readProgram_accepts noEnd ends fit,
    Ty.readOnly_accepts noEnd ends, Ty.readBinding_accepts noEnd ends⟩

/-- A sum that ends with a function, whose body is the longest there is, and a binding of a type with
two arrows. -/
theorem readers_accept_grammar_sum :
    let token (kind : Token.Kind) (text : String) : Token := ⟨kind, text, ⟨1, 1, none⟩⟩
    let stop := token .eof ""
    let sum := [token .ident "f", token .ident "x", token .number "12", token .plus "+",
      token .lambda "\\", token .ident "y", token .dot ".", token .ident "y", token .plus "+",
      token .ident "z", token .semisemi ";;"]
    let e : Expr Empty := .add (.app (.app (.var "f") (.var "x")) (.int 12))
      (.lam "y" none (.add (.var "y") (.var "z")))
    let binding := [token .ident "g", token .colon ":", token .int "int", token .arrow "->",
      token .question "?", token .arrow "->", token .bool "bool"]
    (Expr.readOnly (sum ++ [stop])).result = .ok e ∧
      (Expr.readProgram (sum ++ [stop])).result = .ok [e] ∧
      (¬ ∃ bound : String × Ty Empty, (Ty.readBinding (sum ++ [stop])).result = .ok bound) ∧
      (Ty.readBinding (binding ++ [stop])).result =
        .ok ("g", (.arrow .int (.arrow .dyn .bool) : Ty Empty)) := by
  intro token stop sum e binding
  let function : Expr.Tree .lambda := .lambda (token .lambda "\\").word rfl
    (.plain (token .ident "y").word rfl) (token .dot ".").word (.inr rfl)
    (.ofSum (.sum (.application (.var (token .ident "y").word rfl) .noAtoms)
      (.operand (token .plus "+").word rfl
        (.application (.var (token .ident "z").word rfl) .noAtoms) .noOperands)))
  let tree : Expr.Tree .expr := .ofSum (.sum
    (.application (.var (token .ident "f").word rfl)
      (.atomsCons (.var (token .ident "x").word rfl)
        (.atomsCons (.int (token .number "12").word rfl (by decide)) .noAtoms)))
    (.lastOperand (token .plus "+").word rfl function))
  have digits : Expr.ofDigits "12".toList = 12 := by decide +kernel
  have means : tree.meaning = e :=
    congrArg (fun n : Nat => Expr.add (.app (.app (.var "f") (.var "x")) (.int n))
      (.lam "y" none (.add (.var "y") (.var "z")))) digits
  have mark : ∀ w ∈ some (token .semisemi ";;").word, w.kind = .semisemi := by
    rintro w ⟨rfl⟩
    rfl
  let type : Ty.Tree .type := .arrow (.int (token .int "int").word rfl) (token .arrow "->").word rfl
    (.arrow (.dyn (token .question "?").word rfl) (token .arrow "->").word rfl
      (.ofAtom (.bool (token .bool "bool").word rfl)))
  obtain ⟨only, program, -, notBinding⟩ :=
    readers_accept_grammar (ε := Empty) sum [stop] (by decide) rfl (by decide)
  obtain ⟨-, -, -, bound⟩ :=
    readers_accept_grammar (ε := Empty) binding [stop] (by decide) rfl (by decide)
  refine ⟨?_, ?_, ?_, ?_⟩
  · rw [only.returns ⟨tree, _, mark⟩ rfl, Expr.OnlyTree.meaning, means]
  · rw [program.returns (.item (some tree) _ rfl (.last none)) rfl, ← means]
    rfl
  · rw [notBinding.succeeds]
    rintro ⟨tree, same⟩
    have second : tree.c = (token .ident "x").word := (List.cons.inj (List.cons.inj same).2).1
    exact absurd tree.colon (by rw [second]; decide)
  · exact bound.returns ⟨(token .ident "g").word, rfl, (token .colon ":").word, rfl, type⟩ rfl

end Gradual
