import Gradual.Console.Renderer
import Gradual.Proofs.NumberLimit
import Gradual.Proofs.PlainText
import Gradual.Repl

/-! What a dialogue leaves behind, whatever it looks like on the console. Only two commands change
anything: one binds a name, the other turns the display of constraints on or off. All other lines, and
those that have a mistake, leave everything as it is, and nothing after the first line that quits is
read. No line breaks the dialogue off, short of a number that is too long or an environment that cannot
be shown; every renderer can show one with names and types such as bindings have. -/
namespace Gradual

theorem Source.binding_surface {source : String} {file : Option String} {x : String} {t : Ty Empty}
    (found : binding source file = .ok (x, t)) : isName x = true ∧ t.isSurface = true := by
  obtain ⟨tokens, rest, cuts, value⟩ := exists_of_readWith found
  obtain ⟨name, colon, later, ending, rfl, ident, -, rfl, ⟨front, rfl, type⟩, -⟩ :=
    Ty.derives_of_readBinding value
  exact ⟨Lexeme.isName_of_spells (cuts.spells name.word (by simp)) ident, type.isSurface⟩

theorem Source.binding_empty (file : Option String) :
    (binding "" file : Except ReadError (String × Ty Empty)).toOption = none := by
  have nothing : Lexed.ofSource "" file = ⟨[], .start, [], none⟩ := Lexed.scan_nil .start
  simp only [binding, readWith]
  rw [nothing]
  rfl

theorem Text.strip_inside (text : List Char) : strip text <:+: text := by
  have front : stripEnd (stripStart text) <+: stripStart text := by
    rw [← List.reverse_suffix, stripEnd, List.reverse_reverse]
    exact List.dropWhile_suffix isBlank
  have back : stripStart text <:+ text := List.dropWhile_suffix isBlank
  exact front.isInfix.trans back.isInfix

namespace Repl

namespace Input

/-- A line without the blanks around it; an interrupt says nothing. -/
def content : Input → List Char
  | .line text => Text.strip text.toList
  | .interrupt => []

/-- The text up to the first space. -/
def word (input : Input) : String := String.ofList (input.content.takeWhile (· ≠ ' '))

def quits (input : Input) : Bool := input.word = ":quit" ∨ input.word = ":q"

def flips (input : Input) : Bool := input.word = ":trace"

/-- The binding that is assumed, if the text after the command and a space is one. -/
def binding? (input : Input) : Option (String × Ty Empty) :=
  if ":assume ".toList <+: input.content then
    (Source.binding (String.ofList (input.content.drop ":assume ".toList.length)) none).toOption
  else none

theorem binding?_eq_some {input : Input} {bound : String × Ty Empty} :
    input.binding? = some bound ↔ ∃ source : String,
      input.content = ":assume ".toList ++ source.toList ∧ Source.binding source none = .ok bound := by
  have toOption {outcome : Except ReadError (String × Ty Empty)} :
      outcome.toOption = some bound ↔ outcome = .ok bound := by
    cases outcome <;> simp [Except.toOption]
  unfold binding?
  constructor
  · intro found
    split at found
    next starts =>
      obtain ⟨source, same⟩ := starts
      refine ⟨String.ofList source, by simp [← same], toOption.mp ?_⟩
      rwa [← same, List.drop_left] at found
    next => cases found
  · rintro ⟨source, same, read⟩
    rw [if_pos ⟨source.toList, same.symm⟩, same, List.drop_left, String.ofList_toList]
    exact toOption.mpr read

theorem binding?_of_word_ne {input : Input} (other : input.word ≠ ":assume") :
    input.binding? = none := by
  refine if_neg ?_
  rintro ⟨source, same⟩
  apply other
  rw [word, ← same]
  rfl

theorem binding?_of_word {input : Input} (assumes : input.word = ":assume") :
    input.binding? =
      (Source.binding (String.ofList ((input.content.dropWhile (· ≠ ' ')).drop 1)) none).toOption := by
  have front : input.content.takeWhile (· ≠ ' ') = ":assume".toList := by
    rw [← assumes, word, String.toList_ofList]
  have parts := List.takeWhile_append_dropWhile (p := (· ≠ ' ')) (l := input.content)
  rw [front] at parts
  unfold binding?
  cases back : input.content.dropWhile (· ≠ ' ') with
  | nil =>
    rw [back, List.append_nil] at parts
    rw [← parts, if_neg (by decide)]
    exact (Source.binding_empty none).symm
  | cons space argument =>
    obtain rfl : space = ' ' := by
      have stopped := List.head?_dropWhile_not (· ≠ ' ') input.content
      rw [back] at stopped
      simpa using stopped
    rw [back] at parts
    have same : ":assume ".toList ++ argument = input.content := parts
    rw [← same, if_pos (List.prefix_append _ argument)]
    rfl

end Input

/-- What lasts after an input. -/
def after (repl : Repl) (input : Input) : Repl where
  env := (input.binding?.map fun bound => repl.env.extend bound.1 bound.2).getD repl.env
  showConstraints := if input.flips then !repl.showConstraints else repl.showConstraints

/-- Only two words change anything. -/
theorem after_of_word_ne (repl : Repl) {input : Input} (noBinding : input.word ≠ ":assume")
    (noFlip : input.word ≠ ":trace") : repl.after input = repl := by
  simp [after, Input.binding?_of_word_ne noBinding, Input.flips, noFlip]

theorem after_of_word (repl : Repl) {input : Input} {w : String} (word : input.word = w)
    (other : w ≠ ":assume" ∧ w ≠ ":trace") : repl.after input = repl := by
  subst word
  exact repl.after_of_word_ne other.1 other.2

theorem after_of_quits (repl : Repl) {input : Input} (quits : input.quits = true) :
    repl.after input = repl := by
  have words : input.word = ":quit" ∨ input.word = ":q" := of_decide_eq_true quits
  rcases words with word | word <;> exact repl.after_of_word word (by decide)

/-- What does not begin with a colon is no command. -/
theorem after_of_head_ne (repl : Repl) {input : Input} (head : input.content.head? ≠ some ':') :
    repl.after input = repl ∧ input.quits = false := by
  have noColon : input.word.toList.head? ≠ some ':' := by
    rw [Input.word, String.toList_ofList]
    cases content : input.content with
    | nil => simp
    | cons c rest =>
      rw [content] at head
      by_cases space : c = ' ' <;> simp_all
  have other {w : String} (colon : w.toList.head? = some ':') : input.word ≠ w := by
    rintro rfl
    exact noColon colon
  constructor
  · exact repl.after_of_word_ne (other rfl) (other rfl)
  · exact decide_eq_false (not_or.mpr ⟨other rfl, other rfl⟩)

section Turn

variable (renderer : Renderer) (repl : Repl)

theorem infer_outcome (source : String) (short : ShortRuns source.toList) :
    ∃ notices, repl.infer source = .ok (repl.stay notices) := by
  obtain ⟨outcome, read⟩ := Source.attempt_of_short (Expr.fair_readOnly (ε := Empty)) short none
  unfold infer Source.expr
  rw [read]
  cases outcome with
  | ok e => exact ⟨_, rfl⟩
  | error error => exact ⟨_, rfl⟩

theorem assume_outcome (source : String) (short : ShortRuns source.toList) :
    ∃ notices, repl.assume source = .ok (stay
      { repl with env := ((Source.binding source none).toOption.map fun bound =>
          repl.env.extend bound.1 bound.2).getD repl.env } notices) := by
  obtain ⟨outcome, read⟩ := Source.attempt_of_short (Ty.fair_readBinding (ε := Empty)) short none
  rw [← Source.binding] at read
  unfold assume
  rw [read]
  cases found : Source.binding source none with
  | ok bound =>
    rw [found] at read
    cases read
    exact ⟨_, rfl⟩
  | error error =>
    rw [found] at read
    cases error with
    | malformed error =>
      cases read
      exact ⟨_, rfl⟩
    | numberTooLong digits => cases read

theorem assume_outcome_of_word {input : Input} (short : ShortRuns input.content)
    (assumes : input.word = ":assume") :
    ∃ notices, repl.assume (String.ofList ((input.content.dropWhile (· ≠ ' ')).drop 1)) =
      .ok ((repl.after input).stay notices) := by
  have argument : (input.content.dropWhile (· ≠ ' ')).drop 1 <:+: input.content :=
    ((List.drop_suffix 1 _).trans (List.dropWhile_suffix _)).isInfix
  have shortArgument := short.of_inside argument
  rw [← String.toList_ofList (l := (input.content.dropWhile (· ≠ ' ')).drop 1)] at shortArgument
  obtain ⟨notices, assumed⟩ := repl.assume_outcome _ shortArgument
  refine ⟨notices, assumed.trans ?_⟩
  simp only [after, Input.binding?_of_word assumes, Input.flips, assumes]
  rfl

/-- A command is carried out, unless the environment is to be shown and cannot be. -/
theorem command_outcome {input : Input} (short : ShortRuns input.content) :
    (∃ message, renderer.environment repl.env = .error message ∧
        repl.command renderer input.content = .error (.unopened message)) ∨
      ∃ notices, repl.command renderer input.content = .ok ⟨repl.after input, !input.quits, notices⟩ := by
  have word : String.ofList (input.content.takeWhile (· ≠ ' ')) = input.word := rfl
  unfold command
  simp only [word]
  by_cases quit : input.word = ":quit" ∨ input.word = ":q"
  · have quits : input.quits = true := decide_eq_true quit
    rw [if_pos quit, repl.after_of_quits quits, quits]
    exact .inr ⟨[], rfl⟩
  have goesOn : input.quits = false := decide_eq_false quit
  rw [if_neg quit, goesOn]
  by_cases helps : input.word = ":help" ∨ input.word = ":h"
  · have idle : repl.after input = repl := by
      rcases helps with word | word <;> exact repl.after_of_word word (by decide)
    rw [if_pos helps, idle]
    exact .inr ⟨_, rfl⟩
  rw [if_neg helps]
  by_cases shows : input.word = ":env"
  · rw [if_pos shows, repl.after_of_word shows (by decide)]
    cases renderer.environment repl.env with
    | error message => exact .inl ⟨message, rfl, rfl⟩
    | ok notices => exact .inr ⟨notices, rfl⟩
  rw [if_neg shows]
  by_cases assumes : input.word = ":assume"
  · obtain ⟨notices, assumed⟩ := repl.assume_outcome_of_word short assumes
    rw [if_pos assumes, assumed]
    exact .inr ⟨notices, rfl⟩
  rw [if_neg assumes]
  by_cases flips : input.word = ":trace"
  · rw [if_pos flips]
    refine .inr ⟨repl.toggle.notices, ?_⟩
    simp only [after, Input.binding?_of_word_ne assumes, Input.flips, flips]
    rfl
  · rw [if_neg flips, repl.after_of_word_ne assumes flips]
    exact .inr ⟨_, rfl⟩

/-- A line is answered in full, unless the environment is to be shown and cannot be. -/
theorem answer_outcome {text : String} (short : ShortRuns text.toList) :
    (∃ message, renderer.environment repl.env = .error message ∧
        repl.answer renderer text = .error (.unopened message)) ∨
      ∃ notices, repl.answer renderer text =
        .ok ⟨repl.after (.line text), !(Input.line text).quits, notices⟩ := by
  have shortContent : ShortRuns (Input.line text).content :=
    short.of_inside (Text.strip_inside text.toList)
  have content : (Input.line text).content = Text.strip text.toList := rfl
  unfold answer
  split
  next empty =>
    rw [empty] at content
    have head : (Input.line text).content.head? ≠ some ':' := by simp [content]
    obtain ⟨idle, goesOn⟩ := repl.after_of_head_ne head
    rw [idle, goesOn]
    exact .inr ⟨[], rfl⟩
  next rest colon =>
    rw [← colon, ← content]
    exact command_outcome renderer repl shortContent
  next noColon =>
    have head : (Input.line text).content.head? ≠ some ':' := by
      intro colon
      obtain ⟨rest, same⟩ := List.head?_eq_some_iff.mp colon
      exact noColon rest same
    obtain ⟨idle, goesOn⟩ := repl.after_of_head_ne head
    rw [idle, goesOn]
    rw [content, ← String.toList_ofList (l := Text.strip text.toList)] at shortContent
    obtain ⟨notices, inferred⟩ := repl.infer_outcome _ shortContent
    exact .inr ⟨notices, inferred⟩

end Turn

/-- The dialogue goes through what each input leaves behind, up to the first that quits, unless it
comes to an environment that is to be shown and cannot be. -/
theorem converse_outcome (renderer : Renderer) {P : Repl → Prop}
    (kept : ∀ repl input, P repl → P (repl.after input)) (repl : Repl) (holds : P repl)
    {script : List Input} (short : ∀ text, .line text ∈ script → ShortRuns text.toList) :
    (∃ reached message, P reached ∧ renderer.environment reached.env = .error message ∧
        (repl.converse renderer script).abort = some (.unopened message)) ∨
      (repl.converse renderer script).abort = none ∧
        (repl.converse renderer script).repl = (script.takeWhile (!·.quits)).foldl after repl := by
  induction script generalizing repl with
  | nil => exact .inr ⟨rfl, rfl⟩
  | cons input rest ih =>
    have shortRest : ∀ text, .line text ∈ rest → ShortRuns text.toList :=
      fun text member => short text (List.mem_cons_of_mem _ member)
    have later := ih (repl.after input) (kept repl input holds) shortRest
    rw [List.takeWhile_cons]
    cases input with
    | interrupt =>
      have head : Input.interrupt.content.head? ≠ some ':' := by simp [Input.content]
      obtain ⟨idle, goesOn⟩ := repl.after_of_head_ne head
      rw [idle] at later
      rw [goesOn, Bool.not_false, if_pos rfl, List.foldl_cons, idle]
      exact later
    | line text =>
      simp only [converse]
      rcases answer_outcome renderer repl (short text List.mem_cons_self) with
        ⟨message, hidden, broken⟩ | ⟨notices, answered⟩
      · rw [broken]
        exact .inl ⟨repl, message, holds, hidden, rfl⟩
      · rw [answered]
        cases quits : (Input.line text).quits with
        | true => exact .inr ⟨rfl, repl.after_of_quits quits⟩
        | false => exact later

/-- Bindings and flips do not interfere, so each can be looked at alone. -/
theorem foldl_after (inputs : List Input) (env : Env Empty) (flag : Bool) :
    inputs.foldl after ⟨env, flag⟩ =
      ⟨(inputs.filterMap Input.binding?).foldl (fun env bound => env.extend bound.1 bound.2) env,
        (inputs.filter Input.flips).foldl (fun flag _ => !flag) flag⟩ := by
  induction inputs generalizing env flag with
  | nil => rfl
  | cons input rest ih =>
    rw [List.foldl_cons, after, ih, List.filterMap_cons, List.filter_cons]
    congr 1
    · cases input.binding? <;> rfl
    · cases input.flips <;> rfl

theorem after_surface (repl : Repl) (input : Input) (surface : repl.env.IsSurface) :
    (repl.after input).env.IsSurface := by
  unfold after
  cases bound : input.binding? with
  | none => exact surface
  | some entry =>
    obtain ⟨source, -, found⟩ := Input.binding?_eq_some.mp bound
    obtain ⟨name, type⟩ := Source.binding_surface found
    exact surface.extend name type

/-- If no run of digits is too long, and the environment can be shown whenever that is asked for, then
no line breaks the dialogue off. It ends with the first environment and all bindings that lines assume
before the first one that quits, and with the display turned on or off once for each that asks for it
before then. An environment that is made of bindings can always be shown. -/
theorem converse_state (renderer : Renderer) (env : Env Empty) (flag : Bool) (script : List Input)
    (short : ∀ text, .line text ∈ script → ShortRuns text.toList)
    (shown : env.IsSurface ∨
      ∀ message, (converse renderer ⟨env, flag⟩ script).abort ≠ some (.unopened message)) :
    (converse renderer ⟨env, flag⟩ script).abort = none ∧
      (converse renderer ⟨env, flag⟩ script).repl =
        ⟨((script.takeWhile (!·.quits)).filterMap Input.binding?).foldl
            (fun env bound => env.extend bound.1 bound.2) env,
          ((script.takeWhile (!·.quits)).filter Input.flips).foldl (fun flag _ => !flag) flag⟩ := by
  rw [← foldl_after]
  rcases shown with surface | shown
  · rcases converse_outcome renderer (P := fun repl => repl.env.IsSurface) after_surface ⟨env, flag⟩
      surface short with ⟨reached, message, surface, hidden, -⟩ | ended
    · obtain ⟨notices, shown⟩ := renderer.environment_of_surface surface
      rw [shown] at hidden
      cases hidden
    · exact ended
  · rcases converse_outcome renderer (P := fun _ => True) (fun _ _ => id) ⟨env, flag⟩ trivial short
      with ⟨-, message, -, -, broken⟩ | ended
    · exact absurd broken (shown message)
    · exact ended

/-- A binding and a change of the display, with an interrupt and a mistake between them; what comes
after the dialogue was left is lost. -/
theorem converse_state_quit :
    let env : Env Empty := ⟨[("x", .int)]⟩
    let before := [Input.line ":assume f : int -> ?", .interrupt, .line " :trace on ", .line "fun x"]
    let script := before ++ [.line ":q", .line ":assume g : int", .line ":trace"]
    (∀ text, .line text ∈ script → ShortRuns text.toList) ∧ env.IsSurface ∧
      (converse Console.renderer ⟨env, false⟩ script).abort = none ∧
      (converse Console.renderer ⟨env, false⟩ script).repl =
        ⟨⟨[("x", .int), ("f", .arrow .int .dyn)]⟩, true⟩ := by
  intro env before script
  have short : ∀ text, .line text ∈ script → ShortRuns text.toList := by
    intro text member run inside _
    have length : text.toList.length ≤ numberLimit := by
      simp only [script, before, List.mem_append, List.mem_cons, Input.line.injEq, reduceCtorEq,
        List.not_mem_nil, or_false, false_or] at member
      rcases member with (rfl | rfl | rfl) | rfl | rfl | rfl <;> decide
    exact Nat.le_trans inside.length_le length
  have surface : env.IsSurface := List.forall_mem_singleton.mpr ⟨rfl, rfl⟩
  have bound : (Input.line ":assume f : int -> ?").binding? = some ("f", .arrow .int .dyn) := by
    have read : Source.binding ("f" ++ " : " ++ (.arrow .int .dyn : Ty Empty).render) none =
        .ok ("f", .arrow .int .dyn) := Source.binding_render rfl rfl none
    exact Input.binding?_eq_some.mpr ⟨_, rfl, read⟩
  have bindings : before.filterMap Input.binding? = [("f", .arrow .int .dyn)] := by
    have none (input : Input) (other : input.word ≠ ":assume") := Input.binding?_of_word_ne other
    simp only [before, List.filterMap_cons, bound, none .interrupt (by decide),
      none (.line " :trace on ") (by decide), none (.line "fun x") (by decide), List.filterMap_nil]
  have taken : script.takeWhile (!·.quits) = before := rfl
  have flips : before.filter Input.flips = [.line " :trace on "] := rfl
  obtain ⟨ended, state⟩ := converse_state Console.renderer env false script short (.inl surface)
  rw [taken, bindings, flips] at state
  exact ⟨short, surface, ended, state⟩

end Repl

end Gradual
