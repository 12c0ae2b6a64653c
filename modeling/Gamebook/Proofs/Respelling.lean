import Gamebook.Proofs.Simulation
import Mathlib.Data.List.Forall2

/-!
# Scripts that read alike

A directive can be spelled in more than one way, since its name may be in any
case and any number of spaces may stand between its words.  Two tokens *read
alike* if they are of one kind, and have the same text as paragraphs or the same
name and fields as directives.  They may stand on different lines.

What a token does depends on how it reads, and on nothing else of it.  Two
ledgers are *akin* if they differ at most in the tokens that they remember, the
opener of the branch and the heading that waits.  From akin ledgers, tokens that
read alike fail for the same cause, or they lead to akin ledgers with the same
entry (`Ledger.step_rel`).  Runs do so too (`Ledger.run_rel`).  Then two parses
give the same book, or errors with the same wording and scope that point at
tokens which differ at most in their lines and in the spelling of a directive.
-/

namespace Gamebook.Script

/-! ## Options and results -/

/-- Related options are both empty or hold related values. -/
theorem cases_of_rel {α : Type} {related : α → α → Prop} {first second : Option α}
    (rel : Option.Rel related first second) : first = none ∧ second = none ∨
      ∃ here there, first = some here ∧ second = some there ∧ related here there := by
  cases rel with
  | none => exact .inl ⟨rfl, rfl⟩
  | some rel => exact .inr ⟨_, _, rfl, rfl, rel⟩

/-- Related results are both failures with related errors, or both are related values. -/
inductive ExceptRel {ε α : Type} (errors : ε → ε → Prop) (values : α → α → Prop) :
    Except ε α → Except ε α → Prop where
  /-- Both fail. -/
  | error {first second : ε} (related : errors first second) :
      ExceptRel errors values (.error first) (.error second)
  /-- Both give a value. -/
  | ok {first second : α} (related : values first second) :
      ExceptRel errors values (.ok first) (.ok second)

theorem ExceptRel.refl {ε α : Type} {errors : ε → ε → Prop} {values : α → α → Prop}
    (errors_refl : ∀ error, errors error error) (values_refl : ∀ value, values value value)
    (result : Except ε α) : ExceptRel errors values result result := by
  cases result with
  | error error => exact .error (errors_refl error)
  | ok value => exact .ok (values_refl value)

/-- After related checks, what follows has to be related for related values. -/
theorem ExceptRel.bind_of_rel {ε α β : Type} {checked : α → α → Prop} {values : β → β → Prop}
    {check check' : Except ε α} {others others' : α → Except ε β}
    (checks : ExceptRel Eq checked check check')
    (goesOn : ∀ a a', checked a a' → ExceptRel Eq values (others a) (others' a')) :
    ExceptRel Eq values (check >>= others) (check' >>= others') := by
  cases checks with
  | error same => exact .error same
  | ok related => exact goesOn _ _ related

/-- After the same check on both sides, what follows has to be related for every value. -/
theorem ExceptRel.bind {ε α β : Type} {values : β → β → Prop} {check : Except ε α}
    {others others' : α → Except ε β} (goesOn : ∀ a, ExceptRel Eq values (others a) (others' a)) :
    ExceptRel Eq values (check >>= others) (check >>= others') := by
  refine .bind_of_rel (.refl (fun _ => rfl) (fun _ => rfl) check) ?_
  rintro a _ rfl
  exact goesOn a

/-- What is demanded is there in both or missing in both. -/
theorem demand_rel {α : Type} {related : α → α → Prop} {first second : Option α}
    (rel : Option.Rel related first second) (cause : Cause) :
    ExceptRel Eq related (demand first cause) (demand second cause) := by
  cases rel with
  | none => exact .error rfl
  | some rel => exact .ok rel

/-! ## Tokens -/

/-- The tokens differ at most in their lines and, if they are directives, in their texts. -/
structure Token.Akin (first second : Token) : Prop where
  /-- They are of the same kind. -/
  kind_eq : first.kind = second.kind
  /-- Paragraphs have the same text. -/
  text_eq : first.kind = .paragraph → first.text = second.text

theorem Token.Akin.refl (token : Token) : token.Akin token := ⟨rfl, fun _ => rfl⟩

/-- The tokens read alike. -/
structure Token.ReadsAs (first second : Token) : Prop extends first.Akin second where
  /-- Directives have the same name. -/
  name_eq : first.kind = .directive → first.reading.name = second.reading.name
  /-- Directives have the same fields. -/
  fields_eq : first.kind = .directive → first.reading.fields = second.reading.fields

theorem Token.ReadsAs.of_paragraph (text : String) (line line' : Nat) :
    (Token.paragraph text line).ReadsAs (.paragraph text line') :=
  ⟨⟨rfl, fun _ => rfl⟩, nofun, nofun⟩

/-- Directives read alike if the name and the fields are the same. -/
theorem Token.ReadsAs.of_directive {text text' : String} {line line' : Nat}
    (name_eq : (Directive.ofText text line).name = (Directive.ofText text' line').name)
    (fields_eq : (Directive.ofText text line).fields = (Directive.ofText text' line').fields) :
    (Token.directive text line).ReadsAs (.directive text' line') :=
  ⟨⟨rfl, nofun⟩, fun _ => name_eq, fun _ => fields_eq⟩

/-- The errors differ at most as akin tokens do. -/
structure ParseError.Akin (first second : ParseError) : Prop where
  /-- They are of the same category. -/
  kind_eq : first.kind = second.kind
  /-- They are worded the same. -/
  message_eq : first.message = second.message
  /-- They are at the same place in the book. -/
  scope_eq : first.scope = second.scope
  /-- They point at akin tokens, or both at none. -/
  token : Option.Rel Token.Akin first.token second.token

theorem ParseError.Akin.refl (error : ParseError) : error.Akin error := by
  refine ⟨rfl, rfl, rfl, ?_⟩
  cases error.token with
  | none => exact .none
  | some token => exact .some (.refl token)

/-- The failures are at the same position, with akin errors. -/
structure Failure.Akin (first second : Failure) : Prop where
  /-- The errors are akin. -/
  error : first.error.Akin second.error
  /-- The positions are the same. -/
  position_eq : first.position = second.position

theorem Failure.Akin.refl (failure : Failure) : failure.Akin failure := ⟨.refl _, rfl⟩

/-! ## Ledgers -/

/-- The branches differ at most in the tokens that opened them. -/
structure OpenBranch.Akin (first second : OpenBranch) : Prop where
  /-- They have the same condition. -/
  condition_eq : first.condition = second.condition
  /-- Both have an alternative or none has. -/
  hasElse_eq : first.hasElse = second.hasElse
  /-- The openers are akin. -/
  opener : first.opener.Akin second.opener

/-- The headings differ at most in their tokens. -/
structure Pending.Akin (first second : Pending) : Prop where
  /-- They open the same. -/
  heading_eq : first.heading = second.heading
  /-- The tokens are akin. -/
  token : first.token.Akin second.token

namespace Ledger

/-- The ledgers differ at most in the tokens that they remember. -/
structure Akin (first second : Ledger) : Prop where
  /-- They have done with as many tokens. -/
  position_eq : first.position = second.position
  /-- The title of the book is the same. -/
  title_eq : first.title = second.title
  /-- The current chapter is the same. -/
  chapterId_eq : first.chapterId = second.chapterId
  /-- The current section is the same. -/
  sectionId_eq : first.sectionId = second.sectionId
  /-- The open branches are akin. -/
  branch : Option.Rel OpenBranch.Akin first.branch second.branch
  /-- The headings without a title are akin. -/
  pending : Option.Rel Pending.Akin first.pending second.pending

namespace Akin

variable {first second : Ledger} {token other : Token}

theorem initial : Ledger.initial.Akin Ledger.initial := ⟨rfl, rfl, rfl, rfl, .none, .none⟩

variable (akin : first.Akin second)

include akin

theorem branch_cases : first.branch = none ∧ second.branch = none ∨
    ∃ here there, first.branch = some here ∧ second.branch = some there ∧ here.Akin there :=
  cases_of_rel akin.branch

theorem branch_isSome : first.branch.isSome = second.branch.isSome := by
  rcases akin.branch_cases with ⟨closed, closed'⟩ | ⟨here, there, opened, opened', -⟩
  · rw [closed, closed']
  · rw [opened, opened']
    rfl

theorem branch_isNone : first.branch.isNone = second.branch.isNone := by
  rw [← Option.not_isSome, ← Option.not_isSome, akin.branch_isSome]

theorem condition_eq : first.branch.map (·.condition) = second.branch.map (·.condition) := by
  rcases akin.branch_cases with ⟨closed, closed'⟩ | ⟨here, there, opened, opened', branches⟩
  · rw [closed, closed']
  · rw [opened, opened']
    exact congrArg some branches.condition_eq

/-- The scope of an error shows nothing of the spelling. -/
theorem scope_eq : first.scope = second.scope := by
  simp only [scope, akin.chapterId_eq, akin.sectionId_eq, akin.condition_eq]

theorem checkClosed_eq (mode : Mode) (heading : Keyword) :
    first.checkClosed mode heading = second.checkClosed mode heading := by
  rcases akin.branch_cases with ⟨closed, closed'⟩ | ⟨here, there, opened, opened', branches⟩
  · simp only [checkClosed, closed, closed']
  · cases mode with
    | strict => simp only [checkClosed, opened, opened', branches.condition_eq]
    | lenient => rfl

/-- The same cause at tokens that are akin makes errors that are akin. -/
theorem failure (cause : Cause) (tokens : token.Akin other) :
    (first.failure cause token).Akin (second.failure cause other) :=
  ⟨⟨rfl, rfl, akin.scope_eq, .some tokens⟩, akin.position_eq⟩

/-! ### What happens to ledgers -/

theorem advance : first.advance.Akin second.advance :=
  { akin with position_eq := congrArg (· + 1) akin.position_eq }

theorem await (heading : Heading) (tokens : token.Akin other) :
    (first.await heading token).Akin (second.await heading other) :=
  { akin with pending := .some ⟨rfl, tokens⟩ }

theorem beginIf (condition : String) (tokens : token.Akin other) :
    (first.beginIf condition token).Akin (second.beginIf condition other) :=
  { akin with branch := .some ⟨rfl, rfl, tokens⟩ }

theorem beginElse : first.beginElse.Akin second.beginElse := by
  have branch : Option.Rel OpenBranch.Akin first.beginElse.branch second.beginElse.branch := by
    unfold Ledger.beginElse
    rcases akin.branch_cases with ⟨closed, closed'⟩ | ⟨here, there, opened, opened', branches⟩
    · simp only [closed, closed']
      exact .none
    · simp only [opened, opened']
      exact .some { branches with hasElse_eq := rfl }
  exact { akin with branch := branch }

theorem endIf : first.endIf.Akin second.endIf := { akin with branch := .none }

theorem entitle (heading : Heading) (title : String) :
    (first.entitle heading title).1.Akin (second.entitle heading title).1 := by
  have positions := congrArg (· + 2) akin.position_eq
  cases heading with
  | ofBook => exact ⟨positions, rfl, akin.chapterId_eq, akin.sectionId_eq, akin.branch, .none⟩
  | ofChapter id => exact ⟨positions, akin.title_eq, rfl, rfl, akin.branch, .none⟩
  | ofSection id => exact ⟨positions, akin.title_eq, akin.chapterId_eq, rfl, akin.branch, .none⟩

end Akin

/-! ## Steps -/

/-- The ledgers are akin, and the same is added. -/
structure AkinWith {α : Type} (first second : Ledger × α) : Prop where
  /-- The ledgers are akin. -/
  ledger : first.1.Akin second.1
  /-- The additions are the same. -/
  added_eq : first.2 = second.2

/-- Of a directive, a step uses the name and the fields. -/
theorem directiveStep_congr {directive other : Directive} (name_eq : directive.name = other.name)
    (fields_eq : directive.fields = other.fields) (mode : Mode) (ledger : Ledger) (token : Token)
    (keyword : Keyword) :
    directiveStep mode ledger token directive keyword =
      directiveStep mode ledger token other keyword := by
  obtain ⟨name, fields, line⟩ := directive
  obtain ⟨_, _, line'⟩ := other
  obtain rfl : name = _ := name_eq
  obtain rfl : fields = _ := fields_eq
  cases keyword <;> rfl

variable {mode : Mode} {first second : Ledger} {token other : Token}

/-- A step does not look at the spelling of a directive: with the same reading both
fail for the same cause, or both go on to ledgers that are akin. -/
theorem directiveStep_rel (akin : first.Akin second) (tokens : token.Akin other)
    (directive : Directive) (keyword : Keyword) :
    ExceptRel Eq AkinWith (directiveStep mode first token directive keyword)
      (directiveStep mode second other directive keyword) := by
  cases keyword with
  | openBook =>
    simp only [directiveStep, akin.title_eq]
    exact .bind fun _ => .ok ⟨akin.await _ tokens, rfl⟩
  | openChapter =>
    simp only [directiveStep, akin.checkClosed_eq]
    exact .bind fun _ => .bind fun _ => .ok ⟨akin.await _ tokens, rfl⟩
  | openSection =>
    simp only [directiveStep, akin.chapterId_eq, akin.checkClosed_eq]
    exact .bind fun _ => .bind fun _ => .bind fun _ => .ok ⟨akin.await _ tokens, rfl⟩
  | next =>
    simp only [directiveStep, akin.chapterId_eq, akin.sectionId_eq]
    exact .bind fun _ => .bind fun _ => .bind fun _ => .ok ⟨akin.advance, rfl⟩
  | jump =>
    simp only [directiveStep, akin.sectionId_eq]
    exact .bind fun _ => .bind fun _ => .bind fun _ => .ok ⟨akin.advance, rfl⟩
  | state =>
    simp only [directiveStep, akin.branch_isNone, akin.sectionId_eq]
    exact .bind fun _ => .bind fun _ => .bind fun _ => .ok ⟨akin.advance, rfl⟩
  | item =>
    simp only [directiveStep, akin.sectionId_eq]
    exact .bind fun _ => .bind fun _ => .ok ⟨akin.advance, rfl⟩
  | openIf =>
    simp only [directiveStep, akin.branch_isSome, akin.sectionId_eq]
    exact .bind fun _ => .bind fun _ => .bind fun _ => .ok ⟨(akin.beginIf _ tokens).advance, rfl⟩
  | openElse =>
    -- The branches are not the same here, only akin.
    simp only [directiveStep, akin.sectionId_eq]
    refine .bind_of_rel (demand_rel akin.branch _) ?_
    intro here there branches
    rw [branches.condition_eq, branches.hasElse_eq]
    exact .bind fun _ => .bind fun _ => .ok ⟨akin.beginElse.advance, rfl⟩
  | closeIf =>
    simp only [directiveStep, akin.branch_isNone]
    exact .bind fun _ => .ok ⟨akin.endIf.advance, rfl⟩

/-- So it is for directives of any name. -/
theorem commandStep_rel (akin : first.Akin second) (alike : token.ReadsAs other)
    (isDirective : token.kind = .directive) :
    ExceptRel Eq AkinWith (commandStep mode first token) (commandStep mode second other) := by
  have name_eq := alike.name_eq isDirective
  have keyword_eq : token.reading.keyword? = other.reading.keyword? :=
    congrArg Keyword.ofSpelling? name_eq
  simp only [commandStep, keyword_eq, name_eq, akin.title_eq,
    directiveStep_congr name_eq (alike.fields_eq isDirective)]
  exact .bind fun _ => .bind fun _ => directiveStep_rel akin alike.toAkin _ _

theorem paragraphStep_rel (akin : first.Akin second) (text : String) :
    ExceptRel Eq AkinWith (paragraphStep first text) (paragraphStep second text) := by
  simp only [paragraphStep, akin.title_eq, akin.branch_isNone, akin.sectionId_eq]
  exact .bind fun _ => .bind fun _ => .ok ⟨akin.advance, rfl⟩

theorem entitle_entry (heading : Heading) (title : String) :
    (first.entitle heading title).2 = (second.entitle heading title).2 := by
  cases heading <;> rfl

/-- From akin ledgers, tokens that read alike do the same. -/
theorem step_rel (akin : first.Akin second) (alike : token.ReadsAs other) :
    ExceptRel Eq AkinWith (step mode first token) (step mode second other) := by
  simp only [step, ← alike.kind_eq]
  rcases cases_of_rel akin.pending with ⟨ready, ready'⟩ | ⟨here, there, waiting, waiting', headings⟩
  · rw [ready, ready']
    cases kind : token.kind with
    | paragraph =>
      rw [← alike.text_eq kind]
      exact paragraphStep_rel akin token.text
    | directive => exact commandStep_rel akin alike kind
  · rw [waiting, waiting']
    cases kind : token.kind with
    | paragraph =>
      simp only [← headings.heading_eq, ← alike.text_eq kind]
      exact .ok ⟨akin.entitle here.heading token.text, entitle_entry here.heading token.text⟩
    | directive =>
      simp only [headings.heading_eq]
      exact .error rfl

/-! ## Runs -/

/-- From akin ledgers, scripts that read alike do the same. -/
theorem run_rel (akin : first.Akin second) {tokens others : List Token}
    (alike : List.Forall₂ Token.ReadsAs tokens others) :
    ExceptRel Failure.Akin AkinWith (run mode first tokens) (run mode second others) := by
  induction alike generalizing first second with
  | nil => exact .ok ⟨akin, rfl⟩
  | @cons token other rest rest' here _ ih =>
    have stepped : ExceptRel Eq AkinWith (step mode first token) (step mode second other) :=
      step_rel akin here
    simp only [run]
    generalize step mode first token = outcome at stepped
    generalize step mode second other = outcome' at stepped
    cases stepped with
    | error same =>
      subst same
      exact .error (akin.failure _ here.toAkin)
    | @ok next next' nexts =>
      obtain ⟨next, entry⟩ := next
      obtain ⟨next', entry'⟩ := next'
      obtain rfl : entry = entry' := nexts.added_eq
      have ran : ExceptRel Failure.Akin AkinWith (run mode next rest) (run mode next' rest') :=
        ih nexts.ledger
      simp only
      generalize run mode next rest = outcome at ran
      generalize run mode next' rest' = outcome' at ran
      cases ran with
      | error failures => exact .error failures
      | ok lasts => exact .ok ⟨lasts.ledger, congrArg (entry.toList ++ ·) lasts.added_eq⟩

/-- The ends of two runs are akin if the ledgers are. -/
theorem finish_rel (akin : first.Akin second) (entries : List Entry) :
    ExceptRel Failure.Akin Eq (first.finish mode entries) (second.finish mode entries) := by
  simp only [finish]
  rcases cases_of_rel akin.pending with ⟨ready, ready'⟩ | ⟨here, there, waiting, waiting', headings⟩
  · rw [ready, ready', akin.title_eq, akin.position_eq]
    cases mode with
    | lenient => exact .refl .refl (fun _ => rfl) _
    | strict =>
      rcases akin.branch_cases with ⟨closed, closed'⟩ | ⟨here, there, opened, opened', branches⟩
      · rw [closed, closed']
        exact .refl .refl (fun _ => rfl) _
      · rw [opened, opened']
        simp only [← branches.condition_eq]
        exact .error (akin.failure _ branches.opener)
  · rw [waiting, waiting']
    simp only [← headings.heading_eq]
    exact .error (akin.failure _ headings.token)

end Ledger

/-! ## Parses -/

/-- Scripts that read alike token by token are parsed to the same book, or to errors that
differ at most in the line of the token and in the spelling of a directive.  Both parses
stop at the same position. -/
theorem parse_of_readsAs (mode : Mode) {tokens others : List Token}
    (alike : List.Forall₂ Token.ReadsAs tokens others) :
    ExceptRel ParseError.Akin Eq (parse mode tokens).result (parse mode others).result ∧
      (parse mode tokens).position = (parse mode others).position := by
  have ran : ExceptRel Failure.Akin Ledger.AkinWith (Ledger.run mode .initial tokens)
      (Ledger.run mode .initial others) := Ledger.run_rel .initial alike
  simp only [parse_eq_ledger_parse, Ledger.parse]
  cases alike with
  | nil => exact ⟨.error (.refl _), rfl⟩
  | @cons token other rest rest' _ _ =>
    simp only [if_neg (List.cons_ne_nil _ _)]
    generalize Ledger.run mode .initial (token :: rest) = outcome at ran
    generalize Ledger.run mode .initial (other :: rest') = outcome' at ran
    cases ran with
    | error failures => exact ⟨.error failures.error, failures.position_eq⟩
    | @ok last last' lasts =>
      obtain ⟨last, entries⟩ := last
      obtain ⟨last', entries'⟩ := last'
      obtain rfl : entries = entries' := lasts.added_eq
      have ended : ExceptRel Failure.Akin Eq (last.finish mode entries)
          (last'.finish mode entries) := Ledger.finish_rel lasts.ledger entries
      simp only
      generalize last.finish mode entries = result at ended
      generalize last'.finish mode entries = result' at ended
      cases ended with
      | error failures => exact ⟨.error failures.error, failures.position_eq⟩
      | ok same => exact ⟨.ok same, lasts.ledger.position_eq⟩

/-- A script with a branch that is never closed. -/
def plainSpelling : List Token :=
  [.directive "book" 1, .paragraph "B" 2, .directive "chapter c" 4, .paragraph "C" 5,
    .directive "section s" 7, .paragraph "S" 8, .directive "if seen it" 10]

/-- The same script with other blanks, in other cases and on other lines.  The Kelvin sign
is a `k` in lower case. -/
def freeSpelling : List Token :=
  [.directive "BOO\u212A" 3, .paragraph "B" 4, .directive "Chapter \tc" 5, .paragraph "C" 6,
    .directive "SECTION  s" 7, .paragraph "S" 8, .directive "If\u00A0seen  it" 9]

/-- Both scripts are rejected for the branch, each with its own directive. -/
theorem error_of_spellings :
    List.Forall₂ Token.ReadsAs plainSpelling freeSpelling ∧
      ExceptRel ParseError.Akin Eq (parse .strict plainSpelling).result
        (parse .strict freeSpelling).result ∧
      (parse .strict plainSpelling).position = (parse .strict freeSpelling).position ∧
      (parse .strict plainSpelling).result =
        .error ⟨.neverClosed "seen it", some (.directive "if seen it" 10),
          ⟨some "c", some "s", some "seen it"⟩⟩ ∧
      (parse .strict freeSpelling).result =
        .error ⟨.neverClosed "seen it", some (.directive "If\u00A0seen  it" 9),
          ⟨some "c", some "s", some "seen it"⟩⟩ := by
  have book : (Token.directive "book" 1).ReadsAs (.directive "BOO\u212A" 3) :=
    .of_directive (by decide +kernel) (by decide +kernel)
  have chapter : (Token.directive "chapter c" 4).ReadsAs (.directive "Chapter \tc" 5) :=
    .of_directive (by decide +kernel) (by decide +kernel)
  have here : (Token.directive "section s" 7).ReadsAs (.directive "SECTION  s" 7) :=
    .of_directive (by decide +kernel) (by decide +kernel)
  have branch : (Token.directive "if seen it" 10).ReadsAs (.directive "If\u00A0seen  it" 9) :=
    .of_directive (by decide +kernel) (by decide +kernel)
  have alike : List.Forall₂ Token.ReadsAs plainSpelling freeSpelling :=
    .cons book (.cons (.of_paragraph "B" 2 4) (.cons chapter (.cons (.of_paragraph "C" 5 6)
      (.cons here (.cons (.of_paragraph "S" 8 8) (.cons branch .nil))))))
  obtain ⟨results, positions⟩ := parse_of_readsAs .strict alike
  exact ⟨alike, results, positions, rfl, rfl⟩

end Gamebook.Script
