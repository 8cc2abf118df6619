import Gradual.Command
import Gradual.Proofs.Evaluation
import Gradual.Proofs.RoundTrip
import Gradual.Proofs.Seams
import Gradual.Proofs.Utf8

/-! Programs put together with `;;`. No phrase has the mark in it, so a program splits at each of its
marks, and two texts with a mark between them are read as the one and then the other. The type of every
expression of a file is inferred on its own, and a line tells what came of it; a file that is put
together from two is thus checked as they are, one after the other. -/
namespace Gradual

variable {ε : Type}

/-! Marks stand between phrases only. -/

theorem Ty.Derives.ne_semisemi {n : Ty.Nonterminal} {ws : List Word} {t : Ty ε}
    (derives : Ty.Derives n ws t) : ∀ w ∈ ws, w.kind ≠ .semisemi := by
  induction derives with
  | int kind | bool kind | dyn kind => simp [kind]
  | paren opening _ closing inner => simp_all [or_imp]
  | ofAtom _ ih => exact ih
  | arrow _ mark _ dom cod => simp_all [or_imp]

theorem Expr.Binder.ne_semisemi {ws : List Word} {x : String} {declared : Option (Ty ε)}
    (binder : Expr.Binder ws x declared) : ∀ w ∈ ws, w.kind ≠ .semisemi := by
  cases binder with
  | plain name => simp [name]
  | declared name colon type =>
    have inner := type.ne_semisemi
    simp_all
  | paren opening name colon type closing =>
    have inner := type.ne_semisemi
    simp_all [or_imp]

theorem Expr.Derives.ne_semisemi {n : Expr.Nonterminal} {ws : List Word} {e : Expr ε}
    (derives : Expr.Derives n ws e) : ∀ w ∈ ws, w.kind ≠ .semisemi := by
  induction derives with
  | ofLambda _ ih | ofSum _ ih | ofTerms _ ih | ofApplication _ ih | ofAtom _ ih => exact ih
  | @lambda w d _ _ _ _ _ mark binder dot _ body =>
    have atMark : w.kind ≠ .semisemi := by
      intro kind
      rw [kind] at mark
      cases mark
    have atDot : d.kind ≠ .semisemi := by
      rcases dot with kind | kind <;> simp [kind]
    simp only [List.forall_mem_cons, List.forall_mem_append]
    exact ⟨atMark, binder.ne_semisemi, atDot, body⟩
  | addLambda _ plus _ left right | add _ plus _ left right =>
    simp only [List.forall_mem_cons, List.forall_mem_append]
    exact ⟨left, by simp [plus], right⟩
  | app _ _ func argument => exact List.forall_mem_append.mpr ⟨func, argument⟩
  | var kind | int kind | tru kind | fls kind => simp [kind]
  | paren opening _ closing inner =>
    simp only [List.forall_mem_cons, List.forall_mem_append]
    exact ⟨by simp [opening], inner, by simp [closing]⟩

namespace ProgramDerives

variable {s : Word} {ws us : List Word}

theorem append {ps qs : List (Expr ε)} (front : ProgramDerives ws ps) (mark : s.kind = .semisemi)
    (back : ProgramDerives us qs) : ProgramDerives (ws ++ s :: us) (ps ++ qs) := by
  induction front with
  | nil => exact .mark mark back
  | mark first _ ih => exact .mark first ih
  | last expr => exact .cons expr mark back
  | cons expr first _ ih =>
    rw [List.append_assoc, List.cons_append]
    exact .cons expr first ih

/-- A phrase without a mark ends before the first mark. -/
theorem phrase_before_mark {front rest : List Word} (phrase : ∀ w ∈ front, w.kind ≠ .semisemi)
    (mark : s.kind = .semisemi) (same : ws ++ s :: us = front ++ rest) :
    ∃ more, ws = front ++ more ∧ more ++ s :: us = rest := by
  rcases List.append_eq_append_iff.mp same with ⟨more, rfl, later⟩ | ⟨more, rfl, later⟩
  · cases more with
    | nil => exact ⟨[], by simp, later⟩
    | cons w more =>
      obtain ⟨rfl, -⟩ := List.cons.inj later
      exact absurd mark (phrase s (by simp))
  · exact ⟨more, rfl, later.symm⟩

theorem split {es : List (Expr ε)} (mark : s.kind = .semisemi)
    (whole : ProgramDerives (ws ++ s :: us) es) :
    ∃ ps qs, ProgramDerives ws ps ∧ ProgramDerives us qs ∧ ps ++ qs = es := by
  generalize same : ws ++ s :: us = all at whole
  induction whole generalizing ws with
  | nil => simp at same
  | mark first rest ih =>
    cases ws with
    | nil =>
      obtain ⟨rfl, rfl⟩ := List.cons.inj same
      exact ⟨[], _, .nil, rest, rfl⟩
    | cons w ws =>
      obtain ⟨rfl, later⟩ := List.cons.inj same
      obtain ⟨ps, qs, front, back, rfl⟩ := ih later
      exact ⟨ps, qs, .mark first front, back, rfl⟩
  | last expr =>
    subst same
    exact absurd mark (expr.ne_semisemi s (by simp))
  | cons expr first rest ih =>
    obtain ⟨more, rfl, later⟩ := phrase_before_mark expr.ne_semisemi mark same
    cases more with
    | nil =>
      obtain ⟨rfl, rfl⟩ := List.cons.inj later
      rw [List.append_nil]
      exact ⟨_, _, .last expr, rest, rfl⟩
    | cons w more =>
      obtain ⟨rfl, inner⟩ := List.cons.inj later
      obtain ⟨ps, qs, front, back, rfl⟩ := ih inner
      exact ⟨_, qs, .cons expr first front, back, rfl⟩

end ProgramDerives

theorem Cuts.unique {input : List Char} {ws us : List Word} (cuts : Cuts input ws [])
    (other : Cuts input us []) : ws = us := by
  rw [← (Lexed.scan_of_cuts cuts none .start).2, ← (Lexed.scan_of_cuts other none .start).2]

namespace Source

theorem program_eq_ok {source : String} {ws : List Word} (cuts : Cuts source.toList ws [])
    (file : Option String) {es : List (Expr ε)} :
    program source file = .ok es ↔ ProgramDerives ws es := by
  constructor
  · intro found
    obtain ⟨tokens, rest, cut, value⟩ := exists_of_readWith found
    obtain rfl := cuts.unique cut
    obtain ⟨⟨front, rfl, derives⟩, ends⟩ := Expr.derives_of_readProgram value
    cases rest with
    | nil => rwa [List.append_nil]
    | cons t rest => exact absurd ends (cut.spells t.word (by simp)).ne_eof
  · intro derives
    obtain ⟨finished, rfl⟩ := Lexed.scan_of_cuts cuts file .start
    simp only [program, readWith, Lexed.ofSource, finished]
    exact conclude_eq_ok.mpr ⟨[], Expr.value?_readProgram derives rfl⟩

theorem program_join {p q : String} {ws us : List Word} (cutsP : Cuts p.toList ws [])
    (cutsQ : Cuts q.toList us []) (file fileP fileQ : Option String) (es : List (Expr ε)) :
    program (p ++ ";;" ++ q) file = .ok es ↔
      ∃ ps qs, program p fileP = .ok ps ∧ program q fileQ = .ok qs ∧ ps ++ qs = es := by
  have joined : Cuts (p ++ ";;" ++ q).toList (ws ++ ⟨.semisemi, ";;"⟩ :: us) [] := by
    rw [String.toList_append, String.toList_append, List.append_assoc]
    exact (cutsP.before_mark (';' :: q.toList)).append (.token rfl cutsQ)
  simp only [program_eq_ok joined, program_eq_ok cutsP, program_eq_ok cutsQ]
  constructor
  · exact ProgramDerives.split rfl
  · rintro ⟨ps, qs, front, back, rfl⟩
    exact front.append rfl back

/-- Making all line ends one does not change what a text says. -/
theorem program_normalizeNewlines {source : String} {file : Option String} {es : List (Expr ε)}
    (found : program source file = .ok es) (file' : Option String) :
    program (String.ofList (Text.normalizeNewlines source.toList)) file' = .ok es := by
  obtain ⟨tokens, _, cuts, _⟩ := exists_of_readWith found
  have normalized : Cuts (String.ofList (Text.normalizeNewlines source.toList)).toList
      (tokens.map Token.word) [] := by
    rw [String.toList_ofList]
    exact cuts.normalizeNewlines
  exact (program_eq_ok normalized file').mpr ((program_eq_ok cuts file).mp found)

end Source

namespace Renderer

variable (renderer : Renderer)

theorem printed_append (notices more : List Notice) :
    renderer.printed (notices ++ more) = renderer.printed notices ++ renderer.printed more := by
  rw [printed, List.filterMap_append, String.join_append]
  rfl

theorem printed_log (record : Log.Record) (notices : List Notice) :
    renderer.printed (.log record :: notices) = renderer.printed notices := rfl

theorem printed_logs (records : List Log.Record) : renderer.printed (records.map .log) = "" := by
  induction records with
  | nil => rfl
  | cons record rest ih => rw [List.map_cons, printed_log, ih]

theorem printed_flatMap {α : Type} (f : α → List Notice) (items : List α) :
    renderer.printed (items.flatMap f) = String.join (items.map fun a => renderer.printed (f a)) := by
  induction items with
  | nil => rfl
  | cons a rest ih => rw [List.flatMap_cons, printed_append, ih, List.map_cons, String.join_cons]

end Renderer

namespace Command

/-- Checks a file that holds the text. -/
def checkHolding (ready : Preparation) (file text : String) : Progress :=
  check ready file text.toUTF8.data.toList

/-- What is told about an expression: the events of its inference, and its type or why it has none. -/
def report (ready : Preparation) (e : Expr Empty) : List Notice :=
  (e.events ready.env).map .log ++
    match e.inferAlone ready.env with
    | .ok found => Notice.inference found ready.settings.showConstraints
    | .error error => [Notice.error (e.render ++ ": " ++ error.message)]

/-- The reports on expressions that are checked one after another. -/
def results (ready : Preparation) (es : List (Expr Empty)) : List Notice := es.flatMap (report ready)

/-- How many of the expressions have no type. -/
def failures (ready : Preparation) (es : List (Expr Empty)) : Nat :=
  es.countP fun e => !(e.inferAlone ready.env).isOk

/-- What appears of the report on an expression: its type, and before it on demand how it was found, or
the expression itself with the reason why it has none. -/
def answer (renderer : Renderer) (ready : Preparation) (e : Expr Empty) : String :=
  match e.inferAlone ready.env with
  | .ok found =>
    (if ready.settings.showConstraints then
      renderer.titled "raw" (": " ++ found.raw.render) ++
        renderer.titled "constraints" (": " ++ found.constraints.render) ++
        renderer.titled "substitution" (": " ++ found.substitution.render)
    else "") ++ renderer.titled "" ("- : " ++ found.type.render)
  | .error error => renderer.titled "Error:" (" " ++ (e.render ++ ": " ++ error.message))

/-- What is told about a file: a record that it is being checked, the results, and a record of how many
expressions there were and how many of them failed. -/
def framed (file : String) (count failed : Nat) (notices : List Notice) : List Notice :=
  started "check" ("check.start file=" ++ file) ::
    (notices ++ [started "check" ("check.done file=" ++ file ++ " expressions=" ++
      toString count ++ " failures=" ++ toString failed)])

/-- How a file with these expressions is checked: each is inferred alone, what comes of it appears in
turn, and the check fails if one of them has no type. -/
structure Checks (renderer : Renderer) (ready : Preparation) (file : String)
    (es : List (Expr Empty)) (progress : Progress) : Prop where
  notices : progress.notices = framed file es.length (failures ready es) (results ready es)
  printed : renderer.printed progress.notices = String.join (es.map (answer renderer ready))
  failed : progress.ending = .exit 1 ↔ ∃ e ∈ es, ∃ error, e.inferAlone ready.env = .error error
  passed : progress.ending = .exit 0 ↔ ∀ e ∈ es, ∃ found, e.inferAlone ready.env = .ok found

section Reports

variable (renderer : Renderer) (ready : Preparation)

theorem results_append (ps qs : List (Expr Empty)) :
    results ready (ps ++ qs) = results ready ps ++ results ready qs := List.flatMap_append

theorem failures_append (ps qs : List (Expr Empty)) :
    failures ready (ps ++ qs) = failures ready ps + failures ready qs := List.countP_append

theorem checkExpr_eq :
    checkExpr ready = fun e => (report ready e, (e.inferAlone ready.env).isOk) := by
  funext e
  unfold checkExpr report
  cases e.inferAlone ready.env <;> rfl

theorem printed_report (e : Expr Empty) :
    renderer.printed (report ready e) = answer renderer ready e := by
  rw [report, Renderer.printed_append, Renderer.printed_logs, String.empty_append, answer]
  cases e.inferAlone ready.env with
  | ok found =>
    simp only [Notice.inference]
    split
    · simp [Renderer.printed, Renderer.text?, String.join_cons, String.append_assoc]
    · simp [Renderer.printed, Renderer.text?]
  | error error => simp [Renderer.printed, Renderer.text?, Notice.error]

theorem printed_framed (file : String) (count failed : Nat) (notices : List Notice) :
    renderer.printed (framed file count failed notices) = renderer.printed notices := by
  rw [framed, started, Renderer.printed_log, Renderer.printed_append, started, Renderer.printed_log]
  exact String.append_empty

theorem isOk_iff {e : Expr Empty} :
    (e.inferAlone ready.env).isOk = true ↔ ∃ found, e.inferAlone ready.env = .ok found := by
  cases e.inferAlone ready.env <;> simp [Except.isOk, Except.toBool]

theorem failures_eq_zero {es : List (Expr Empty)} :
    failures ready es = 0 ↔ ∀ e ∈ es, ∃ found, e.inferAlone ready.env = .ok found := by
  simp [failures, List.countP_eq_zero, isOk_iff]

theorem failures_ne_zero {es : List (Expr Empty)} :
    failures ready es ≠ 0 ↔ ∃ e ∈ es, ∃ error, e.inferAlone ready.env = .error error := by
  have fails (e : Expr Empty) : (¬ ∃ found, e.inferAlone ready.env = .ok found) ↔
      ∃ error, e.inferAlone ready.env = .error error := by
    cases e.inferAlone ready.env <;> simp
  rw [Ne, failures_eq_zero]
  simp [← fails]

theorem exit_one_iff (failed : Nat) :
    Ending.exit (if failed = 0 then 0 else 1) = .exit 1 ↔ failed ≠ 0 := by
  by_cases none : failed = 0 <;> simp [none]

theorem exit_zero_iff (failed : Nat) :
    Ending.exit (if failed = 0 then 0 else 1) = .exit 0 ↔ failed = 0 := by
  by_cases none : failed = 0 <;> simp [none]

end Reports

theorem checkHolding_of_program (ready : Preparation) (file : String) {source : String}
    {named : Option String} {es : List (Expr Empty)}
    (found : Source.program source named = .ok es) :
    checkHolding ready file source =
      { notices := framed file es.length (failures ready es) (results ready es)
        ending := .exit (if failures ready es = 0 then 0 else 1) } := by
  have text := Source.program_normalizeNewlines found (some file)
  simp only [checkHolding, check, decodeText, Text.Utf8.decode_toUTF8, checkText, text,
    Progress.ofSource, Source.attempt, Progress.after, checkAll, checkExpr_eq, framed, results,
    failures, List.flatMap_map, List.countP_map]
  rfl

theorem checks_of_program (renderer : Renderer) (ready : Preparation) (file : String)
    {source : String} {named : Option String} {es : List (Expr Empty)}
    (found : Source.program source named = .ok es) :
    Checks renderer ready file es (checkHolding ready file source) := by
  rw [checkHolding_of_program ready file found]
  constructor
  · rfl
  · simp only [printed_framed, results, Renderer.printed_flatMap, printed_report]
  · exact (exit_one_iff _).trans (failures_ne_zero ready)
  · exact (exit_zero_iff _).trans (failures_eq_zero ready)

/-- A text that is put together from two with `;;` is a program exactly if both are, and consists of
the expressions of the first and then those of the second. A file that holds it is checked to the same
results, in the same order, and fails if one of them does: each expression has a line with its type, or
one with the reason why it has none. -/
theorem programs_compose (renderer : Renderer) (p q : String) (fileP fileQ : Option String)
    (cleanP : (Lexed.ofSource p fileP).error = none)
    (cleanQ : (Lexed.ofSource q fileQ).error = none) :
    (∀ file (es : List (Expr Empty)), Source.program (p ++ ";;" ++ q) file = .ok es ↔
        ∃ ps qs, Source.program p fileP = .ok ps ∧ Source.program q fileQ = .ok qs ∧
          ps ++ qs = es) ∧
      ∀ ps qs, Source.program p fileP = .ok ps → Source.program q fileQ = .ok qs →
        ∀ ready name nameP nameQ,
          Checks renderer ready nameP ps (checkHolding ready nameP p) ∧
            Checks renderer ready nameQ qs (checkHolding ready nameQ q) ∧
            Checks renderer ready name (ps ++ qs) (checkHolding ready name (p ++ ";;" ++ q)) ∧
            (checkHolding ready name (p ++ ";;" ++ q)).notices =
              framed name (ps.length + qs.length) (failures ready ps + failures ready qs)
                (results ready ps ++ results ready qs) ∧
            renderer.printed (checkHolding ready name (p ++ ";;" ++ q)).notices =
              renderer.printed (checkHolding ready nameP p).notices ++
                renderer.printed (checkHolding ready nameQ q).notices ∧
            ((checkHolding ready name (p ++ ";;" ++ q)).ending = .exit 1 ↔
              (checkHolding ready nameP p).ending = .exit 1 ∨
                (checkHolding ready nameQ q).ending = .exit 1) ∧
            ((checkHolding ready name (p ++ ";;" ++ q)).ending = .exit 0 ↔
              (checkHolding ready nameP p).ending = .exit 0 ∧
                (checkHolding ready nameQ q).ending = .exit 0) := by
  have joins (file : Option String) (es : List (Expr Empty)) :=
    Source.program_join (Lexed.cuts_of_scan cleanP) (Lexed.cuts_of_scan cleanQ) file fileP fileQ es
  constructor
  · exact joins
  intro ps qs foundP foundQ ready name nameP nameQ
  have found := (joins none (ps ++ qs)).mpr ⟨ps, qs, foundP, foundQ, rfl⟩
  have checksP := checks_of_program renderer ready nameP foundP
  have checksQ := checks_of_program renderer ready nameQ foundQ
  have checks := checks_of_program renderer ready name found
  refine ⟨checksP, checksQ, checks, ?_, ?_, ?_, ?_⟩
  · rw [checks.notices, results_append, failures_append, List.length_append]
  · rw [checks.printed, checksP.printed, checksQ.printed, List.map_append, String.join_append]
  · simp only [checks.failed, checksP.failed, checksQ.failed, List.mem_append, or_and_right,
      exists_or]
  · simp only [checks.passed, checksP.passed, checksQ.passed, List.forall_mem_append]

/-- A name that nothing binds, with a line end in a comment and another after it, and the identity after
a comment with a mark in it. Each has its line; the name has no type, and so the whole fails. -/
theorem programs_compose_comments :
    let p := "x(*\r*)\r"
    let q := "(* ;; *)fun x -> x;;"
    let ready : Preparation := ⟨⟨none, false, "> "⟩, ∅⟩
    let name : Expr Empty := .var "x"
    let identity : Expr Empty := .lam "x" none (.var "x")
    (Lexed.ofSource p none).error = none ∧ (Lexed.ofSource q none).error = none ∧
      Source.program p none = .ok [name] ∧ Source.program q none = .ok [identity] ∧
      Source.program (p ++ ";;" ++ q) none = .ok [name, identity] ∧
      name.inferAlone ready.env = .error (.unbound "x") ∧
      (identity.inferAlone ready.env).map Inference.type = .ok (.arrow (.param 1) (.param 1)) ∧
      Notice.printed (checkHolding ready "p" p).notices =
        "Error: x: variable 'x' not found in the environment\n" ∧
      Notice.printed (checkHolding ready "q" q).notices = "- : 'a -> 'a\n" ∧
      Notice.printed (checkHolding ready "pq" (p ++ ";;" ++ q)).notices =
        "Error: x: variable 'x' not found in the environment\n- : 'a -> 'a\n" ∧
      (checkHolding ready "p" p).ending = .exit 1 ∧ (checkHolding ready "q" q).ending = .exit 0 ∧
      (checkHolding ready "pq" (p ++ ";;" ++ q)).ending = .exit 1 := by
  intro p q ready name identity
  have cutsP : Cuts p.toList [⟨.ident, "x"⟩] [] := by
    have word : Lexeme.first "x(*\r*)\r".toList = .token .ident ['x'] "(*\r*)\r".toList := rfl
    have comment : Lexeme.first "(*\r*)\r".toList = .skipped "(*\r*)".toList ['\r'] := rfl
    have lineEnd : Lexeme.first ['\r'] = .skipped ['\r'] [] := rfl
    exact .token word (.skipped comment (.skipped lineEnd .nil))
  have cutsQ : Cuts q.toList [⟨.fn, "fun"⟩, ⟨.ident, "x"⟩, ⟨.arrow, "->"⟩, ⟨.ident, "x"⟩,
      ⟨.semisemi, ";;"⟩] [] := by
    have comment : Lexeme.first "(* ;; *)fun x -> x;;".toList =
        .skipped "(* ;; *)".toList "fun x -> x;;".toList := rfl
    have word : Lexeme.first "fun x -> x;;".toList = .token .fn "fun".toList " x -> x;;".toList := rfl
    exact .skipped comment (.token word (.skipped rfl (.token rfl (.skipped rfl (.token rfl
      (.skipped rfl (.token rfl (.token rfl .nil))))))))
  have cleanP := (Lexed.scan_of_cuts cutsP none .start).1
  have cleanQ := (Lexed.scan_of_cuts cutsQ none .start).1
  have named : Expr.Derives .expr [⟨.ident, "x"⟩] (.var "x" : Expr Empty) :=
    .ofSum (.ofTerms (.ofApplication (.ofAtom (.var rfl))))
  have foundP : Source.program p none = .ok [name] :=
    (Source.program_eq_ok cutsP none).mpr (.last named)
  have foundQ : Source.program q none = .ok [identity] :=
    (Source.program_eq_ok cutsQ none).mpr
      (.cons (.ofLambda (.lambda rfl (.plain rfl) (.inl rfl) named)) rfl .nil)
  have unbound : name.inferAlone ready.env = .error (.unbound "x") := rfl
  have inferred : identity.inferAlone ready.env = .ok ⟨identity, .arrow (.var 1) (.var 1), ∅, ∅,
      .arrow (.param 1) (.param 1)⟩ :=
    Expr.inferAlone_ok.mpr ⟨_, Expr.infer_of_solve (.implicit (.var rfl))
      (ConstraintSet.solve_of_runFor [] .nil .nil 1 rfl)⟩
  have answerP : answer Console.renderer ready name =
      "Error: x: variable 'x' not found in the environment\n" := by
    simp only [answer, unbound]
    decide +kernel
  have answerQ : answer Console.renderer ready identity = "- : 'a -> 'a\n" := by
    simp only [answer, inferred]
    decide +kernel
  obtain ⟨composes, checks⟩ := programs_compose Console.renderer p q none none cleanP cleanQ
  obtain ⟨checksP, checksQ, whole, -⟩ := checks _ _ foundP foundQ ready "pq" "p" "q"
  refine ⟨cleanP, cleanQ, foundP, foundQ, (composes none _).mpr ⟨_, _, foundP, foundQ, rfl⟩, unbound,
    ?_, ?_, ?_, ?_, ?_, ?_, ?_⟩
  · rw [inferred]
    rfl
  · refine checksP.printed.trans ?_
    rw [List.map_singleton, answerP]
    rfl
  · refine checksQ.printed.trans ?_
    rw [List.map_singleton, answerQ]
    rfl
  · refine whole.printed.trans ?_
    rw [List.map_append, List.map_singleton, List.map_singleton, answerP, answerQ]
    rfl
  · exact checksP.failed.mpr ⟨name, List.mem_singleton_self _, _, unbound⟩
  · exact checksQ.passed.mpr (List.forall_mem_singleton.mpr ⟨_, inferred⟩)
  · exact whole.failed.mpr ⟨name, List.mem_cons_self, _, unbound⟩

end Command

end Gradual
