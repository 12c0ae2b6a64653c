import Gamebook.Proofs.Moves

/-!
# What a token is rejected for

A token that no heading waits for is accepted or rejected by the rules for its
kind and keyword.  `Ledger.Moves` has a case for each way to be accepted, and
`Ledger.Rejects` has one for each way to be rejected, with what the ledger has to
be for it.  The rules are checked in an order, and a case says what has been
passed before: a field is only missed where the chapter or section is there that
the directive asks for first.
-/

namespace Gamebook.Script

open Gamebook.Story

/-! ## Causes of a token -/

/-- The cause lies in a token that stands in no title's place. -/
def Cause.isOfToken : Cause → Bool
  | .emptyInput | .missingBook | .missingTitle _ | .neverClosed _ | .custom _ _ => false
  | _ => true

theorem Cause.kind_of_isOfToken {cause : Cause} (ofToken : cause.isOfToken = true) :
    cause.kind ≠ .emptyInput ∧ cause.kind ≠ .missingTitle := by
  cases cause <;> simp_all [isOfToken, kind]

/-! ## Checks that fail -/

/-- Checks in a row fail if the first does, or the others do with its value. -/
theorem bind_eq_error_iff {ε α β : Type} {first : Except ε α} {others : α → Except ε β} {e : ε} :
    (first >>= others) = .error e ↔
      first = .error e ∨ ∃ a, first = .ok a ∧ others a = .error e := by
  cases first <;> simp [bind, Except.bind]

theorem pure_ne_error {ε α : Type} {a : α} {e : ε} : ¬ (pure a : Except ε α) = .error e := nofun

/-- What a directive with this keyword and these fields lacks first. -/
def Keyword.lacking? : Keyword → List String → Option String
  | .openChapter, [] => some "a chapter id"
  | .openSection, [] => some "a section id"
  | .next, [] => some "a target section id"
  | .jump, [] => some "a target chapter id"
  | .jump, [_] => some "a target section id"
  | .state, [] => some "a state id"
  | .state, [_] => some "a modifier"
  | .item, [] => some "an item id"
  | .item, [word] => if isRemove word then some "an item id after \"remove\"" else none
  | .openIf, [] => some "a condition"
  | _, _ => none

theorem getElem?_zero_eq_none_iff {fields : List String} : fields[0]? = none ↔ fields = [] := by
  rw [← List.head?_eq_getElem?, List.head?_eq_none_iff]

theorem getElem?_one_eq_none_iff {first : String} {others : List String} :
    (first :: others)[1]? = none ↔ others = [] := by
  rw [List.getElem?_cons_succ, getElem?_zero_eq_none_iff]

/-- A field that is missing is named in the error. -/
@[simp] theorem Directive.demandField_eq_error_iff {directive : Directive} {index : Nat}
    {argument : String} {cause : Cause} :
    directive.demandField index argument = .error cause ↔
      directive.fields[index]? = none ∧ cause = .missingArgument directive.name argument := by
  rw [demandField, demand_eq_error_iff, eq_comm (a := cause)]
  rfl

/-- An item directive lacks its item, or the item that it takes away. -/
theorem itemLeaf_eq_error {directive : Directive} {cause : Cause}
    (stopped : itemLeaf directive = .error cause) : ∃ argument,
      Keyword.item.lacking? directive.fields = some argument ∧
        cause = .missingArgument directive.name argument := by
  simp only [itemLeaf, bind_eq_error_iff, Directive.demandField_eq_error_iff,
    Directive.demandField_eq_ok_iff, getElem?_zero_eq_none_iff, getElem?_zero_eq_some_iff]
    at stopped
  rcases stopped with ⟨empty, rfl⟩ | ⟨first, ⟨others, given⟩, stopped⟩
  · exact ⟨_, by rw [empty]; rfl, rfl⟩
  · split at stopped
    next removes =>
      simp only [bind_eq_error_iff, Directive.demandField_eq_error_iff, given,
        getElem?_one_eq_none_iff, pure_ne_error, and_false, exists_false, or_false] at stopped
      obtain ⟨rfl, rfl⟩ := stopped
      exact ⟨_, by rw [given]; exact if_pos removes, rfl⟩
    next => cases stopped

/-- A directive that is read with a keyword is named by its spelling. -/
theorem Token.Reads.name_eq {token : Token} {keyword : Keyword} {fields : List String}
    (reads : token.Reads keyword fields) : token.reading.name = keyword.spelling :=
  (Keyword.ofSpelling?_eq_some_iff.mp reads.keyword_eq).symm

namespace Ledger

variable {mode : Mode} {ledger : Ledger} {token : Token} {cause : Cause}

/-- What has to be there before the fields of a directive are looked at. -/
def Admits (ledger : Ledger) : Keyword → Prop
  | .openSection | .next => ledger.chapterId.isSome
  | .jump | .item | .openIf => ledger.sectionId.isSome
  | .state => ledger.branch.isSome ∨ ledger.sectionId.isSome
  | _ => True

/-- The directive stands before the first heading of the kind that it needs. -/
inductive Misses (ledger : Ledger) : Keyword → Keyword → Prop where
  /-- There is no chapter for a section or for the target of a link. -/
  | chapter {keyword : Keyword} (needs : keyword = .openSection ∨ keyword = .next)
      (absent : ledger.chapterId = none) : Misses ledger keyword .openChapter
  /-- There is no section for what goes to a section. -/
  | here {keyword : Keyword} (needs : keyword ∈ [.next, .jump, .item, .openIf, .openElse])
      (absent : ledger.sectionId = none) : Misses ledger keyword .openSection
  /-- There is neither an open branch nor a section. -/
  | container (closed : ledger.branch = none) (absent : ledger.sectionId = none) :
      Misses ledger .state .openSection

/-- What a token that no heading waits for can be rejected for. -/
inductive Rejects (mode : Mode) (ledger : Ledger) (token : Token) : Cause → Prop where
  /-- Text before the book. -/
  | textBeforeBook (isParagraph : token.kind = .paragraph) (unbegun : ledger.title = none) :
      Rejects mode ledger token (.beforeBook "text")
  /-- Text with nowhere to go. -/
  | textOutside (isParagraph : token.kind = .paragraph) (closed : ledger.branch = none)
      (absent : ledger.sectionId = none) :
      Rejects mode ledger token (.outOfOrder "text" Keyword.openSection.spelling)
  /-- A name outside of the vocabulary. -/
  | unknown (isDirective : token.kind = .directive) (unread : token.reading.keyword? = none) :
      Rejects mode ledger token (.unknownDirective token.reading.name)
  /-- Another directive before the book. -/
  | beforeBook {keyword : Keyword} {fields : List String} (reads : token.Reads keyword fields)
      (unbegun : ledger.title = none) :
      Rejects mode ledger token (.beforeBook (quoted keyword.spelling))
  /-- A second book. -/
  | secondBook {surplus : List String} (reads : token.Reads .openBook surplus)
      (begun : ledger.title.isSome) : Rejects mode ledger token .duplicateBook
  /-- A directive before the heading it needs. -/
  | misplaced {keyword antecedent : Keyword} {fields : List String}
      (reads : token.Reads keyword fields) (misses : ledger.Misses keyword antecedent) :
      Rejects mode ledger token (.misplaced keyword antecedent)
  /-- A chapter or section in an open branch. -/
  | openAtHeading {keyword : Keyword} {fields : List String} {branch : OpenBranch}
      (reads : token.Reads keyword fields) (strict : mode = .strict)
      (isOpen : ledger.branch = some branch) :
      Rejects mode ledger token (.openAtHeading keyword branch.condition)
  /-- A directive with too few fields, where it may stand. -/
  | missingArgument {keyword : Keyword} {fields : List String} {argument : String}
      (reads : token.Reads keyword fields) (admits : ledger.Admits keyword)
      (lacking : keyword.lacking? fields = some argument) :
      Rejects mode ledger token (.missingArgument keyword.spelling argument)
  /-- A branch in a branch. -/
  | nestedIf {fields : List String} (reads : token.Reads .openIf fields)
      (isOpen : ledger.branch.isSome) : Rejects mode ledger token .nestedIf
  /-- An alternative without a branch. -/
  | strayElse {surplus : List String} (reads : token.Reads .openElse surplus)
      (closed : ledger.branch = none) : Rejects mode ledger token .strayElse
  /-- A second alternative. -/
  | secondElse {surplus : List String} {branch : OpenBranch}
      (reads : token.Reads .openElse surplus) (strict : mode = .strict)
      (isOpen : ledger.branch = some branch) (turned : branch.hasElse = true) :
      Rejects mode ledger token (.secondElse branch.condition)
  /-- The end of a branch that is not open. -/
  | strayEndif {surplus : List String} (reads : token.Reads .closeIf surplus)
      (closed : ledger.branch = none) : Rejects mode ledger token .strayEndif

/-- A heading is rejected for an open branch in strict mode only. -/
theorem checkClosed_eq_error_iff {heading : Keyword} :
    ledger.checkClosed mode heading = .error cause ↔ mode = .strict ∧
      ∃ branch, ledger.branch = some branch ∧ cause = .openAtHeading heading branch.condition := by
  cases mode <;> cases opened : ledger.branch <;> simp [checkClosed, opened, eq_comm]

theorem outside_iff : (ledger.branch.isNone && ledger.sectionId.isNone) = true ↔
    ledger.branch = none ∧ ledger.sectionId = none := by
  simp

/-- A directive is rejected for the first check that it fails.  The cases are those
of the keyword, and in each the checks are taken from the left. -/
theorem Rejects.of_directiveStep {keyword : Keyword} {fields : List String}
    (reads : token.Reads keyword fields)
    (stopped : directiveStep mode ledger token token.reading keyword = .error cause) :
    Rejects mode ledger token cause := by
  -- Whatever the keyword, a field is only missed where the directive is admitted.
  have lacks {argument : String} (admits : ledger.Admits keyword)
      (lacking : keyword.lacking? fields = some argument) :
      Rejects mode ledger token (.missingArgument token.reading.name argument) := by
    rw [reads.name_eq]
    exact .missingArgument reads admits lacking
  cases keyword with
  | openBook =>
    simp only [directiveStep, bind_eq_error_iff, forbid_eq_error_iff, pure_ne_error, and_false,
      exists_false, or_false] at stopped
    obtain ⟨begun, rfl⟩ := stopped
    exact .secondBook reads begun
  | openChapter =>
    simp only [directiveStep, bind_eq_error_iff, checkClosed_eq_error_iff,
      Directive.demandField_eq_error_iff, reads.fields_eq, getElem?_zero_eq_none_iff,
      pure_ne_error, and_false, exists_false, or_false] at stopped
    rcases stopped with ⟨strict, branch, isOpen, rfl⟩ | ⟨-, -, rfl, rfl⟩
    · exact .openAtHeading reads strict isOpen
    · exact lacks trivial rfl
  | openSection =>
    simp only [directiveStep, bind_eq_error_iff, checkClosed_eq_error_iff, forbid_eq_error_iff,
      forbid_eq_ok_iff, Directive.demandField_eq_error_iff, reads.fields_eq,
      getElem?_zero_eq_none_iff, Option.isNone_iff_eq_none, Option.isNone_eq_false_iff,
      pure_ne_error, and_false, exists_false, or_false] at stopped
    rcases stopped with
      ⟨absent, rfl⟩ | ⟨-, inChapter, ⟨strict, branch, isOpen, rfl⟩ | ⟨-, -, rfl, rfl⟩⟩
    · exact .misplaced reads (.chapter (.inl rfl) absent)
    · exact .openAtHeading reads strict isOpen
    · exact lacks inChapter rfl
  | next =>
    simp only [directiveStep, bind_eq_error_iff, demand_eq_error_iff, demand_eq_ok_iff,
      forbid_eq_error_iff, Directive.demandField_eq_error_iff, reads.fields_eq,
      getElem?_zero_eq_none_iff, Option.isNone_iff_eq_none, pure_ne_error, and_false, exists_false,
      or_false] at stopped
    rcases stopped with ⟨absent, rfl⟩ | ⟨chapterId, inChapter, ⟨rfl, rfl⟩ | ⟨-, -, absent, rfl⟩⟩
    · exact .misplaced reads (.chapter (.inr rfl) absent)
    · exact lacks (by simp [Admits, inChapter]) rfl
    · exact .misplaced reads (.here (by decide) absent)
  | jump =>
    simp only [directiveStep, bind_eq_error_iff, forbid_eq_error_iff, forbid_eq_ok_iff,
      Directive.demandField_eq_error_iff, Directive.demandField_eq_ok_iff, reads.fields_eq,
      getElem?_zero_eq_none_iff, getElem?_zero_eq_some_iff, Option.isNone_iff_eq_none,
      Option.isNone_eq_false_iff, pure_ne_error, and_false, exists_false, or_false] at stopped
    rcases stopped with
      ⟨absent, rfl⟩ | ⟨-, inSection, ⟨rfl, rfl⟩ | ⟨first, ⟨others, rfl⟩, short, rfl⟩⟩
    · exact .misplaced reads (.here (by decide) absent)
    · exact lacks inSection rfl
    · obtain rfl := getElem?_one_eq_none_iff.mp short
      exact lacks inSection rfl
  | state =>
    simp only [directiveStep, bind_eq_error_iff, forbid_eq_error_iff, forbid_eq_ok_iff,
      Directive.demandField_eq_error_iff, Directive.demandField_eq_ok_iff, reads.fields_eq,
      getElem?_zero_eq_none_iff, getElem?_zero_eq_some_iff, outside_iff, inside_iff,
      pure_ne_error, and_false, exists_false, or_false] at stopped
    rcases stopped with
      ⟨⟨closed, absent⟩, rfl⟩ | ⟨-, inside, ⟨rfl, rfl⟩ | ⟨first, ⟨others, rfl⟩, short, rfl⟩⟩
    · exact .misplaced reads (.container closed absent)
    · exact lacks inside rfl
    · obtain rfl := getElem?_one_eq_none_iff.mp short
      exact lacks inside rfl
  | item =>
    simp only [directiveStep, bind_eq_error_iff, forbid_eq_error_iff, forbid_eq_ok_iff,
      Option.isNone_iff_eq_none, Option.isNone_eq_false_iff, pure_ne_error, and_false,
      exists_false, or_false] at stopped
    rcases stopped with ⟨absent, rfl⟩ | ⟨-, inSection, stopped⟩
    · exact .misplaced reads (.here (by decide) absent)
    · obtain ⟨argument, lacking, rfl⟩ := itemLeaf_eq_error stopped
      rw [reads.fields_eq] at lacking
      exact lacks inSection lacking
  | openIf =>
    simp only [directiveStep, bind_eq_error_iff, forbid_eq_error_iff, forbid_eq_ok_iff,
      Option.isNone_iff_eq_none, Option.isNone_eq_false_iff, pure_ne_error, and_false,
      exists_false, or_false] at stopped
    rcases stopped with ⟨isOpen, rfl⟩ | ⟨-, -, ⟨absent, rfl⟩ | ⟨-, inSection, empty, rfl⟩⟩
    · exact .nestedIf reads isOpen
    · exact .misplaced reads (.here (by decide) absent)
    · -- The condition is empty only if there are no fields.
      cases fields with
      | nil => exact .missingArgument reads inSection rfl
      | cons word more =>
        have nonempty := rest_zero_isEmpty_iff.mpr ⟨word, more, reads.fields_eq⟩
        rw [nonempty] at empty
        cases empty
  | openElse =>
    simp only [directiveStep, bind_eq_error_iff, demand_eq_error_iff, demand_eq_ok_iff,
      forbid_eq_error_iff, Option.isNone_iff_eq_none, Bool.and_eq_true, decide_eq_true_eq,
      pure_ne_error, and_false, exists_false, or_false] at stopped
    rcases stopped with
      ⟨closed, rfl⟩ | ⟨branch, isOpen, ⟨⟨strict, turned⟩, rfl⟩ | ⟨-, -, absent, rfl⟩⟩
    · exact .strayElse reads closed
    · exact .secondElse reads strict isOpen turned
    · exact .misplaced reads (.here (by decide) absent)
  | closeIf =>
    simp only [directiveStep, bind_eq_error_iff, forbid_eq_error_iff, Option.isNone_iff_eq_none,
      pure_ne_error, and_false, exists_false, or_false] at stopped
    obtain ⟨closed, rfl⟩ := stopped
    exact .strayEndif reads closed

/-- A token that no heading waits for violates one of the rules if its step fails. -/
theorem rejects_of_step (ready : ledger.pending = none)
    (stopped : step mode ledger token = .error cause) : Rejects mode ledger token cause := by
  cases kind : token.kind with
  | paragraph =>
    simp only [step, ready, kind, paragraphStep, bind_eq_error_iff, forbid_eq_error_iff,
      Option.isNone_iff_eq_none, outside_iff, pure_ne_error, and_false, exists_false, or_false]
      at stopped
    rcases stopped with ⟨unbegun, rfl⟩ | ⟨-, -, ⟨closed, absent⟩, rfl⟩
    · exact .textBeforeBook kind unbegun
    · exact .textOutside kind closed absent
  | directive =>
    simp only [step, ready, kind, commandStep, bind_eq_error_iff, demand_eq_error_iff,
      demand_eq_ok_iff, forbid_eq_error_iff, Bool.and_eq_true, Option.isNone_iff_eq_none]
      at stopped
    rcases stopped with ⟨unread, rfl⟩ | ⟨keyword, known, ⟨⟨unbegun, -⟩, rfl⟩ | ⟨-, -, stopped⟩⟩
    · exact .unknown kind unread
    · exact .beforeBook ⟨kind, known, rfl⟩ unbegun
    · exact .of_directiveStep ⟨kind, known, rfl⟩ stopped

/-- What a token is rejected for is a fault of that token. -/
theorem Rejects.isOfToken (rejects : Rejects mode ledger token cause) :
    cause.isOfToken = true := by
  cases rejects <;> rfl

theorem isOfToken_of_step (ready : ledger.pending = none)
    (stopped : step mode ledger token = .error cause) : cause.isOfToken = true :=
  (rejects_of_step ready stopped).isOfToken

/-- Only before the book is anything rejected for want of it. -/
theorem Rejects.unbegun (rejects : Rejects mode ledger token cause)
    (noBook : cause.kind = .missingBook) : ledger.title = none := by
  cases rejects with
  | textBeforeBook isParagraph unbegun => exact unbegun
  | beforeBook reads unbegun => exact unbegun
  | _ => cases noBook

end Ledger

end Gamebook.Script
