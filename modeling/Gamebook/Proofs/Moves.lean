import Gamebook.Proofs.Grammar
import Gamebook.Proofs.Ledger
import Gamebook.Proofs.Words

/-!
# What one token does

A token that a ledger accepts is a title, a piece of text, or a directive with
its keyword and enough fields.  `Ledger.Moves` has a case for each, with what
the ledger has to be for it, and with the next ledger and the entry.
`Ledger.step_eq_ok_iff` says that a step is one of these moves.
-/

namespace Gamebook.Script

open Gamebook.Story

/-- The keyword opens something that has a title. -/
def Keyword.isHeading : Keyword → Bool
  | .openBook | .openChapter | .openSection => true
  | _ => false

namespace Ledger

/-- The token is this directive, it is no title, and the book has begun. -/
structure Takes (ledger : Ledger) (token : Token) (keyword : Keyword) (fields : List String) :
    Prop extends token.Reads keyword fields where
  /-- No heading waits for its title. -/
  ready : ledger.pending = none
  /-- There is a book. -/
  begun : ledger.title.isSome

/-- What a token can do to a ledger, with the next ledger and the entry. -/
inductive Moves (mode : Mode) (ledger : Ledger) (token : Token) :
    Ledger → Option Entry → Prop where
  /-- A title for the heading that waits. -/
  | title {pending : Pending} (waiting : ledger.pending = some pending)
      (isParagraph : token.kind = .paragraph) :
      Moves mode ledger token (ledger.entitle pending.heading token.text).1
        (ledger.entitle pending.heading token.text).2
  /-- The heading of the book. -/
  | openBook {surplus : List String} (reads : token.Reads .openBook surplus)
      (ready : ledger.pending = none) (unbegun : ledger.title = none) :
      Moves mode ledger token (ledger.await .ofBook token) none
  /-- The heading of a chapter. -/
  | openChapter {id : String} {surplus : List String}
      (takes : ledger.Takes token .openChapter (id :: surplus))
      (closed : mode = .strict → ledger.branch = none) :
      Moves mode ledger token (ledger.await (.ofChapter id) token) none
  /-- The heading of a section. -/
  | openSection {id : String} {surplus : List String}
      (takes : ledger.Takes token .openSection (id :: surplus))
      (inChapter : ledger.chapterId.isSome) (closed : mode = .strict → ledger.branch = none) :
      Moves mode ledger token (ledger.await (.ofSection id) token) none
  /-- Narrative text. -/
  | paragraph (isParagraph : token.kind = .paragraph) (ready : ledger.pending = none)
      (begun : ledger.title.isSome) (inside : ledger.branch.isSome ∨ ledger.sectionId.isSome) :
      Moves mode ledger token ledger.advance (some (.leaf (.paragraph token.text)))
  /-- A change of state. -/
  | state {id modifier : String} {surplus : List String}
      (takes : ledger.Takes token .state (id :: modifier :: surplus))
      (inside : ledger.branch.isSome ∨ ledger.sectionId.isSome) :
      Moves mode ledger token ledger.advance (some (.leaf (.state id modifier)))
  /-- An item gained. -/
  | addItem {id : String} {surplus : List String}
      (takes : ledger.Takes token .item (id :: surplus)) (kept : isRemove id = false)
      (inSection : ledger.sectionId.isSome) :
      Moves mode ledger token ledger.advance (some (.leaf (.addItem id)))
  /-- An item lost. -/
  | removeItem {word id : String} {surplus : List String}
      (takes : ledger.Takes token .item (word :: id :: surplus)) (removed : isRemove word = true)
      (inSection : ledger.sectionId.isSome) :
      Moves mode ledger token ledger.advance (some (.leaf (.removeItem id)))
  /-- A link in the chapter. -/
  | next {target chapterId : String} {label : List String}
      (takes : ledger.Takes token .next (target :: label))
      (inChapter : ledger.chapterId = some chapterId) (inSection : ledger.sectionId.isSome) :
      Moves mode ledger token ledger.advance
        (some (.link ⟨" ".intercalate label, chapterId, target⟩))
  /-- A link to any chapter. -/
  | jump {target chapterId : String} {label : List String}
      (takes : ledger.Takes token .jump (chapterId :: target :: label))
      (inSection : ledger.sectionId.isSome) :
      Moves mode ledger token ledger.advance
        (some (.link ⟨" ".intercalate label, chapterId, target⟩))
  /-- The beginning of a branch. -/
  | openIf {word : String} {more : List String}
      (takes : ledger.Takes token .openIf (word :: more)) (closed : ledger.branch = none)
      (inSection : ledger.sectionId.isSome) :
      Moves mode ledger token (ledger.beginIf (" ".intercalate (word :: more)) token).advance
        (some (.openBranch .ifBranch (" ".intercalate (word :: more))))
  /-- The beginning of an alternative. -/
  | openElse {surplus : List String} {branch : OpenBranch}
      (takes : ledger.Takes token .openElse surplus) (isOpen : ledger.branch = some branch)
      (single : mode = .strict → branch.hasElse = false) (inSection : ledger.sectionId.isSome) :
      Moves mode ledger token ledger.beginElse.advance
        (some (.openBranch .elseBranch branch.condition))
  /-- The end of a branch. -/
  | closeIf {surplus : List String} (takes : ledger.Takes token .closeIf surplus)
      (isOpen : ledger.branch.isSome) :
      Moves mode ledger token ledger.endIf.advance (some .closeBranch)

end Ledger

/-! ## Checks that pass -/

/-- A field that is demanded is the one at its index. -/
@[simp] theorem Directive.demandField_eq_ok_iff {directive : Directive} {index : Nat}
    {argument field : String} :
    directive.demandField index argument = .ok field ↔ directive.fields[index]? = some field :=
  demand_eq_ok_iff

theorem getElem?_zero_eq_some_iff {fields : List String} {first : String} :
    fields[0]? = some first ↔ ∃ others, fields = first :: others := by
  rw [← List.head?_eq_getElem?, List.head?_eq_some_iff]

theorem getElem?_one_eq_some_iff {first second : String} {others : List String} :
    (first :: others)[1]? = some second ↔ ∃ more, others = second :: more := by
  rw [List.getElem?_cons_succ, getElem?_zero_eq_some_iff]

/-- The check of a heading passes in lenient mode and where no branch is open. -/
theorem Ledger.checkClosed_eq_ok_iff {mode : Mode} {ledger : Ledger} {heading : Keyword}
    {u : Unit} :
    ledger.checkClosed mode heading = .ok u ↔ (mode = .strict → ledger.branch = none) := by
  cases mode <;> cases opened : ledger.branch <;> simp [checkClosed, opened]

theorem Token.Reads.rest_eq {token : Token} {keyword : Keyword} {fields : List String}
    (reads : token.Reads keyword fields) (index : Nat) :
    token.reading.rest index = " ".intercalate (fields.drop index) := by
  rw [Directive.rest, reads.fields_eq]

/-- The rest of a directive is empty only if it has no fields: words are not empty. -/
theorem rest_zero_isEmpty_iff {token : Token} :
    (token.reading.rest 0).isEmpty = false ↔
      ∃ word more, token.reading.fields = word :: more := by
  rw [Token.reading, ← Directive.rest_zero_ne_empty_iff]
  simp

/-- An item is added under its id, or removed if the first word says so and an id follows. -/
theorem itemLeaf_eq_ok_iff {directive : Directive} {leaf : Leaf} :
    itemLeaf directive = .ok leaf ↔
      (∃ id surplus, directive.fields = id :: surplus ∧ isRemove id = false ∧
        leaf = .addItem id) ∨
      ∃ word id surplus, directive.fields = word :: id :: surplus ∧ isRemove word = true ∧
        leaf = .removeItem id := by
  cases given : directive.fields with
  | nil => simp [itemLeaf, bind_eq_ok_iff, given]
  | cons first others =>
    have known : directive.demandField 0 "an item id" = .ok first := by simp [given]
    cases removes : isRemove first with
    | false =>
      have kept : itemLeaf directive = .ok (.addItem first) := by
        simp only [itemLeaf, known]
        show (if isRemove first = true then _ else _) = _
        rw [removes]
        rfl
      simp only [kept, Except.ok.injEq, List.cons.injEq]
      constructor
      · rintro rfl
        exact .inl ⟨first, others, ⟨rfl, rfl⟩, removes, rfl⟩
      · rintro (⟨id, surplus, ⟨rfl, rfl⟩, -, rfl⟩ | ⟨word, id, surplus, ⟨rfl, -⟩, removed, -⟩)
        · rfl
        · simp [removes] at removed
    | true =>
      have rest : itemLeaf directive = do
          let id ← directive.demandField 1 "an item id after \"remove\""
          return .removeItem id := by
        simp only [itemLeaf, known]
        show (if isRemove first = true then _ else _) = _
        rw [removes]
        rfl
      simp only [rest, bind_eq_ok_iff, Directive.demandField_eq_ok_iff, given,
        getElem?_one_eq_some_iff, List.cons.injEq]
      constructor
      · rintro ⟨id, ⟨surplus, rfl⟩, leaf_eq⟩
        exact .inr ⟨first, id, surplus, ⟨rfl, rfl⟩, removes, (Except.ok.inj leaf_eq).symm⟩
      · rintro (⟨id, surplus, ⟨rfl, -⟩, kept, -⟩ | ⟨word, id, surplus, ⟨rfl, rfl⟩, -, rfl⟩)
        · simp [removes] at kept
        · exact ⟨id, ⟨surplus, rfl⟩, rfl⟩

namespace Ledger

variable {mode : Mode} {ledger next : Ledger} {token : Token} {entry : Option Entry}

/-! ## Every step is a move -/

/-- A token that a ledger takes is carried out as its directive. -/
theorem Takes.step_eq {keyword : Keyword} {fields : List String}
    (takes : ledger.Takes token keyword fields) (mode : Mode) :
    step mode ledger token = directiveStep mode ledger token token.reading keyword := by
  have begun : ledger.title.isNone = false := by
    rw [← Option.not_isSome, takes.begun]
    rfl
  simp only [step, takes.ready, takes.isDirective, commandStep, takes.keyword_eq, begun]
  rfl

theorem inside_iff : (ledger.branch.isNone && ledger.sectionId.isNone) = false ↔
    ledger.branch.isSome ∨ ledger.sectionId.isSome := by
  cases ledger.branch <;> cases ledger.sectionId <;> simp

/-- Every move is a step. -/
theorem Moves.step_eq (moves : Moves mode ledger token next entry) :
    step mode ledger token = .ok (next, entry) := by
  cases moves with
  | title waiting isParagraph => simp only [step, waiting, isParagraph]
  | openBook reads ready unbegun =>
    simp only [step, ready, reads.isDirective, commandStep, reads.keyword_eq, bind_eq_ok_iff,
      demand_eq_ok_iff, forbid_eq_ok_iff]
    refine ⟨.openBook, rfl, (), by simp, ?_⟩
    simp only [directiveStep, bind_eq_ok_iff, forbid_eq_ok_iff, unbegun]
    exact ⟨(), rfl, rfl⟩
  | openChapter takes closed =>
    rw [takes.step_eq]
    simp only [directiveStep, bind_eq_ok_iff, checkClosed_eq_ok_iff,
      Directive.demandField_eq_ok_iff, takes.fields_eq]
    exact ⟨(), closed, _, rfl, rfl⟩
  | openSection takes inChapter closed =>
    rw [takes.step_eq]
    simp only [directiveStep, bind_eq_ok_iff, checkClosed_eq_ok_iff,
      Directive.demandField_eq_ok_iff, takes.fields_eq, forbid_eq_ok_iff,
      Option.isNone_eq_false_iff]
    exact ⟨(), inChapter, (), closed, _, rfl, rfl⟩
  | paragraph isParagraph ready begun inside =>
    simp only [step, ready, isParagraph, paragraphStep, bind_eq_ok_iff, forbid_eq_ok_iff,
      inside_iff, Option.isNone_eq_false_iff]
    exact ⟨(), begun, (), inside, rfl⟩
  | state takes inside =>
    rw [takes.step_eq]
    simp only [directiveStep, bind_eq_ok_iff, Directive.demandField_eq_ok_iff, takes.fields_eq,
      forbid_eq_ok_iff, inside_iff]
    exact ⟨(), inside, _, rfl, _, rfl, rfl⟩
  | addItem takes kept inSection =>
    rw [takes.step_eq]
    simp only [directiveStep, bind_eq_ok_iff, itemLeaf_eq_ok_iff, takes.fields_eq, forbid_eq_ok_iff,
      Option.isNone_eq_false_iff]
    exact ⟨(), inSection, _, .inl ⟨_, _, rfl, kept, rfl⟩, rfl⟩
  | removeItem takes removed inSection =>
    rw [takes.step_eq]
    simp only [directiveStep, bind_eq_ok_iff, itemLeaf_eq_ok_iff, takes.fields_eq, forbid_eq_ok_iff,
      Option.isNone_eq_false_iff]
    exact ⟨(), inSection, _, .inr ⟨_, _, _, rfl, removed, rfl⟩, rfl⟩
  | next takes inChapter inSection =>
    rw [takes.step_eq]
    simp only [directiveStep, bind_eq_ok_iff, demand_eq_ok_iff, Directive.demandField_eq_ok_iff,
      takes.fields_eq, forbid_eq_ok_iff, Option.isNone_eq_false_iff, takes.rest_eq]
    exact ⟨_, inChapter, _, rfl, (), inSection, rfl⟩
  | jump takes inSection =>
    rw [takes.step_eq]
    simp only [directiveStep, bind_eq_ok_iff, Directive.demandField_eq_ok_iff,
      takes.fields_eq, forbid_eq_ok_iff, Option.isNone_eq_false_iff, takes.rest_eq]
    exact ⟨(), inSection, _, rfl, _, rfl, rfl⟩
  | openIf takes closed inSection =>
    rw [takes.step_eq]
    simp only [directiveStep, bind_eq_ok_iff, takes.fields_eq, forbid_eq_ok_iff,
      Option.isNone_eq_false_iff, rest_zero_isEmpty_iff, closed]
    exact ⟨(), rfl, (), inSection, (), ⟨_, _, rfl⟩, by rw [takes.rest_eq]; rfl⟩
  | openElse takes isOpen single inSection =>
    rw [takes.step_eq]
    simp only [directiveStep, bind_eq_ok_iff, demand_eq_ok_iff, forbid_eq_ok_iff,
      Option.isNone_eq_false_iff]
    exact ⟨_, isOpen, (), by simpa using single, (), inSection, rfl⟩
  | closeIf takes isOpen =>
    rw [takes.step_eq]
    simp only [directiveStep, bind_eq_ok_iff, forbid_eq_ok_iff, Option.isNone_eq_false_iff]
    exact ⟨(), isOpen, rfl⟩

/-- Every step of a directive is a move: the checks that it passed are what the move asks for. -/
theorem Moves.of_directiveStep {keyword : Keyword} {fields : List String}
    (reads : token.Reads keyword fields) (ready : ledger.pending = none)
    (begun : keyword ≠ .openBook → ledger.title.isSome)
    (stepped : directiveStep mode ledger token token.reading keyword = .ok (next, entry)) :
    Moves mode ledger token next entry := by
  have takes (given : keyword ≠ .openBook) : ledger.Takes token keyword fields :=
    ⟨reads, ready, begun given⟩
  cases keyword with
  | openBook =>
    simp only [directiveStep, bind_eq_ok_iff, forbid_eq_ok_iff, Option.isSome_eq_false_iff,
      Option.isNone_iff_eq_none] at stepped
    obtain ⟨-, unbegun, made⟩ := stepped
    cases made
    exact .openBook reads ready unbegun
  | openChapter =>
    simp only [directiveStep, bind_eq_ok_iff, checkClosed_eq_ok_iff,
      Directive.demandField_eq_ok_iff, reads.fields_eq, getElem?_zero_eq_some_iff] at stepped
    obtain ⟨-, closed, id, ⟨surplus, rfl⟩, made⟩ := stepped
    cases made
    exact .openChapter (takes (by decide)) closed
  | openSection =>
    simp only [directiveStep, bind_eq_ok_iff, checkClosed_eq_ok_iff,
      Directive.demandField_eq_ok_iff, reads.fields_eq, getElem?_zero_eq_some_iff,
      forbid_eq_ok_iff, Option.isNone_eq_false_iff] at stepped
    obtain ⟨-, inChapter, -, closed, id, ⟨surplus, rfl⟩, made⟩ := stepped
    cases made
    exact .openSection (takes (by decide)) inChapter closed
  | next =>
    simp only [directiveStep, bind_eq_ok_iff, demand_eq_ok_iff, Directive.demandField_eq_ok_iff,
      reads.fields_eq, getElem?_zero_eq_some_iff, forbid_eq_ok_iff,
      Option.isNone_eq_false_iff, Directive.rest] at stepped
    obtain ⟨chapterId, inChapter, target, ⟨label, rfl⟩, -, inSection, made⟩ := stepped
    cases made
    exact .next (takes (by decide)) inChapter inSection
  | jump =>
    simp only [directiveStep, bind_eq_ok_iff, Directive.demandField_eq_ok_iff, reads.fields_eq,
      getElem?_zero_eq_some_iff, forbid_eq_ok_iff, Option.isNone_eq_false_iff,
      Directive.rest] at stepped
    obtain ⟨-, inSection, chapterId, ⟨others, rfl⟩, target, found, made⟩ := stepped
    obtain ⟨label, rfl⟩ := getElem?_one_eq_some_iff.mp found
    cases made
    exact .jump (takes (by decide)) inSection
  | state =>
    simp only [directiveStep, bind_eq_ok_iff, Directive.demandField_eq_ok_iff, reads.fields_eq,
      getElem?_zero_eq_some_iff, forbid_eq_ok_iff, inside_iff] at stepped
    obtain ⟨-, inside, id, ⟨others, rfl⟩, modifier, found, made⟩ := stepped
    obtain ⟨surplus, rfl⟩ := getElem?_one_eq_some_iff.mp found
    cases made
    exact .state (takes (by decide)) inside
  | item =>
    simp only [directiveStep, bind_eq_ok_iff, itemLeaf_eq_ok_iff, reads.fields_eq,
      forbid_eq_ok_iff, Option.isNone_eq_false_iff] at stepped
    obtain ⟨-, inSection, leaf, given, made⟩ := stepped
    rcases given with ⟨id, surplus, rfl, kept, rfl⟩ | ⟨word, id, surplus, rfl, removed, rfl⟩
    · cases made
      exact .addItem (takes (by decide)) kept inSection
    · cases made
      exact .removeItem (takes (by decide)) removed inSection
  | openIf =>
    simp only [directiveStep, bind_eq_ok_iff, forbid_eq_ok_iff, Option.isNone_eq_false_iff,
      Option.isSome_eq_false_iff, Option.isNone_iff_eq_none, rest_zero_isEmpty_iff,
      reads.fields_eq] at stepped
    obtain ⟨-, closed, -, inSection, -, ⟨word, more, rfl⟩, made⟩ := stepped
    rw [reads.rest_eq, List.drop_zero] at made
    cases made
    exact .openIf (takes (by decide)) closed inSection
  | openElse =>
    simp only [directiveStep, bind_eq_ok_iff, demand_eq_ok_iff, forbid_eq_ok_iff,
      Option.isNone_eq_false_iff] at stepped
    obtain ⟨branch, isOpen, -, single, -, inSection, made⟩ := stepped
    cases made
    exact .openElse (takes (by decide)) isOpen (by simpa using single) inSection
  | closeIf =>
    simp only [directiveStep, bind_eq_ok_iff, forbid_eq_ok_iff, Option.isNone_eq_false_iff]
      at stepped
    obtain ⟨-, isOpen, made⟩ := stepped
    cases made
    exact .closeIf (takes (by decide)) isOpen

/-- A step that succeeds is a move. -/
theorem step_eq_ok_iff :
    step mode ledger token = .ok (next, entry) ↔ Moves mode ledger token next entry := by
  refine ⟨?_, Moves.step_eq⟩
  intro stepped
  cases waiting : ledger.pending with
  | some pending =>
    cases kind : token.kind with
    | directive => simp [step, waiting, kind] at stepped
    | paragraph =>
      simp only [step, waiting, kind] at stepped
      have titled : ledger.entitle pending.heading token.text = (next, entry) :=
        Except.ok.inj stepped
      have moves : Moves mode ledger token _ _ := .title waiting kind
      rwa [titled] at moves
  | none =>
    cases kind : token.kind with
    | paragraph =>
      simp only [step, waiting, kind, paragraphStep, bind_eq_ok_iff, forbid_eq_ok_iff, inside_iff,
        Option.isNone_eq_false_iff] at stepped
      obtain ⟨-, begun, -, inside, made⟩ := stepped
      cases made
      exact .paragraph kind waiting begun inside
    | directive =>
      simp only [step, waiting, kind, commandStep, bind_eq_ok_iff, demand_eq_ok_iff,
        forbid_eq_ok_iff] at stepped
      obtain ⟨keyword, known, -, first, stepped⟩ := stepped
      refine .of_directiveStep ⟨kind, known, rfl⟩ waiting (fun other => ?_) stepped
      simpa [other] using first

/-- A run that succeeds begins with a move. -/
theorem run_cons_eq_ok_iff {rest : List Token} {last : Ledger} {entries : List Entry} :
    run mode ledger (token :: rest) = .ok (last, entries) ↔ ∃ next entry later,
      Moves mode ledger token next entry ∧ run mode next rest = .ok (last, later) ∧
        entries = entry.toList ++ later := by
  simp only [← step_eq_ok_iff, run]
  cases stepped : step mode ledger token with
  | error cause => simp
  | ok moved =>
    obtain ⟨next, entry⟩ := moved
    simp only
    cases ran : run mode next rest with
    | error failure => simp [ran]
    | ok ended =>
      obtain ⟨last', later⟩ := ended
      simp only [Except.ok.injEq, Prod.mk.injEq]
      constructor
      · rintro ⟨rfl, rfl⟩
        exact ⟨next, entry, later, ⟨rfl, rfl⟩, ran, rfl⟩
      · rintro ⟨_, _, later', ⟨rfl, rfl⟩, ran', rfl⟩
        rw [ran] at ran'
        cases ran'
        exact ⟨rfl, rfl⟩

theorem forall_mem_some {Made : Entry → Prop} {added : Entry} (made : Made added) :
    ∀ other ∈ some added, Made other := by
  rintro _ ⟨⟩
  exact made

/-- What every move keeps of the ledger is kept by a run, and what it has of its entry
holds of all entries. -/
theorem run_forall {Given : Token → Prop} {Kept : Ledger → Prop} {Made : Entry → Prop}
    {last : Ledger} {tokens : List Token} {entries : List Entry}
    (keeps : ∀ {ledger next token entry}, Moves mode ledger token next entry → Given token →
      Kept ledger → Kept next ∧ ∀ made ∈ entry, Made made)
    (given : ∀ token ∈ tokens, Given token) (kept : Kept ledger)
    (ran : run mode ledger tokens = .ok (last, entries)) :
    Kept last ∧ ∀ entry ∈ entries, Made entry := by
  induction tokens generalizing ledger entries with
  | nil =>
    cases ran
    exact ⟨kept, nofun⟩
  | cons token rest ih =>
    obtain ⟨here, others⟩ := List.forall_mem_cons.mp given
    obtain ⟨next, entry, later, moves, onward, rfl⟩ := run_cons_eq_ok_iff.mp ran
    obtain ⟨nextKept, made⟩ := keeps moves here kept
    obtain ⟨lastKept, madeLater⟩ := ih others nextKept onward
    refine ⟨lastKept, List.forall_mem_append.mpr ⟨?_, madeLater⟩⟩
    intro added inside
    exact made added (Option.mem_toList.mp inside)

/-- What every move keeps of the ledger is kept by a run. -/
theorem run_preserves (Kept : Ledger → Prop) {last : Ledger} {tokens : List Token}
    {entries : List Entry}
    (keeps : ∀ {ledger next token entry}, Moves mode ledger token next entry → Kept ledger →
      Kept next)
    (kept : Kept ledger) (ran : run mode ledger tokens = .ok (last, entries)) : Kept last := by
  have both : Kept last ∧ ∀ entry ∈ entries, True :=
    run_forall (fun moves _ here => ⟨keeps moves here, fun _ _ => trivial⟩)
      (fun _ _ => trivial) kept ran
  exact both.1

/-- A run goes on from where its first step leads. -/
theorem run_cons_of_step {rest : List Token}
    (stepped : step mode ledger token = .ok (next, entry)) :
    run mode ledger (token :: rest) =
      (run mode next rest).map fun ended => (ended.1, entry.toList ++ ended.2) := by
  simp only [run, stepped]
  cases run mode next rest <;> rfl

/-- A run fails where its first step fails. -/
theorem run_cons_of_error {rest : List Token} {cause : Cause}
    (stopped : step mode ledger token = .error cause) :
    run mode ledger (token :: rest) = .error (ledger.failure cause token) := by
  rw [run, stopped]

end Ledger

end Gamebook.Script
