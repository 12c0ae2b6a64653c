import Gamebook.Proofs.History
import Gamebook.Proofs.Simulation
import Mathlib.Data.Nat.Find

/-!
# What strict mode adds

Strict mode has three rules that lenient mode lacks: no heading of a chapter or
section in a branch, no second `else` for a branch, and no branch at the end.
`Balanced` says of the tokens alone that they keep the rules.

In the same ledger, a strict and a lenient step are the same unless the token
breaks a rule (`Ledger.step_strict_cases`).  So the two runs are the same up to
the first such token.  There the strict run stops, and the lenient run does not
stop earlier (`lockstep_at`).  If no token breaks a rule, the runs are the
same, and whether one does follows from its index (`breach?_eq_none_iff`).
-/

namespace Gamebook.Script

open Gamebook.Story

/-! ## The rules, of the tokens -/

/-- At the indices are an `if` and the next `endif`. -/
structure ClosedBy (tokens : List Token) (opening closing : Nat) : Prop where
  /-- There is an `if`. -/
  opens : namesAt tokens .openIf opening = true
  /-- The `endif` comes later. -/
  later : opening < closing
  /-- There is an `endif`. -/
  closes : namesAt tokens .closeIf closing = true
  /-- No `endif` lies between the two. -/
  next : ∀ between, opening < between → between < closing →
    namesAt tokens .closeIf between = false

/-- The tokens keep the rules of strict mode. -/
structure Balanced (tokens : List Token) : Prop where
  /-- Every `if` is followed by an `endif`. -/
  closed : ∀ opening, namesAt tokens .openIf opening = true →
    ∃ closing, opening < closing ∧ namesAt tokens .closeIf closing = true
  /-- Between an `if` and the next `endif`, no chapter or section begins. -/
  noHeading : ∀ opening closing, ClosedBy tokens opening closing →
    ∀ between, opening < between → between < closing →
      namesAt tokens .openChapter between = false ∧ namesAt tokens .openSection between = false
  /-- Between an `if` and the next `endif`, there are no two alternatives. -/
  oneElse : ∀ opening closing, ClosedBy tokens opening closing →
    ∀ first second, opening < first → first < second → second < closing →
      namesAt tokens .openElse first = true → namesAt tokens .openElse second = false

/-- At this index is an `else`, and there is another one between the `if` of the
open branch and the index. -/
def IsSecondElse (tokens : List Token) (index : Nat) : Prop :=
  namesAt tokens .openElse index = true ∧ (openElse? tokens index).isSome = true

/-- Where the token at this index stands, it keeps the rules. -/
structure ObeysAt (tokens : List Token) (index : Nat) : Prop where
  /-- A chapter begins where no branch is open. -/
  ofChapter : namesAt tokens .openChapter index = true → openIf? tokens index = none
  /-- A section begins where no branch is open. -/
  ofSection : namesAt tokens .openSection index = true → openIf? tokens index = none
  /-- An alternative begins where the branch has none. -/
  ofElse : namesAt tokens .openElse index = true → openElse? tokens index = none

section Rules

variable {tokens : List Token} {opening closing index : Nat}

/-- If an `endif` comes later, there is a next one. -/
theorem exists_closedBy (opens : namesAt tokens .openIf opening = true)
    (later : ∃ closing, opening < closing ∧ namesAt tokens .closeIf closing = true) :
    ∃ closing, ClosedBy tokens opening closing := by
  obtain ⟨after, closes⟩ := Nat.find_spec later
  refine ⟨Nat.find later, opens, after, closes, fun between behind before => ?_⟩
  have unnamed := Nat.find_min later before
  simpa [behind] using unnamed

/-- A branch that is open at an index is closed there or later. -/
theorem Balanced.closedBy_of_openIf? (balanced : Balanced tokens)
    (isOpen : openIf? tokens index = some opening) :
    ∃ closing, ClosedBy tokens opening closing ∧ index ≤ closing := by
  obtain ⟨-, opens, unclosed⟩ := of_openIf?_eq_some isOpen
  obtain ⟨closing, closedBy⟩ := exists_closedBy opens (balanced.closed opening opens)
  refine ⟨closing, closedBy, Nat.le_of_not_lt fun before => ?_⟩
  have unnamed := unclosed closing closedBy.later before
  simp [closedBy.closes] at unnamed

/-- Up to the next `endif`, a branch is open. -/
theorem ClosedBy.exists_openIf? (closedBy : ClosedBy tokens opening closing)
    (after : opening < index) (before : index ≤ closing) :
    ∃ last, openIf? tokens index = some last := by
  cases isOpen : openIf? tokens index with
  | some last => exact ⟨last, rfl⟩
  | none =>
    obtain ⟨between, behind, below, closes⟩ := of_openIf?_eq_none isOpen closedBy.opens after
    have unnamed := closedBy.next between behind (by omega)
    simp [closes] at unnamed

theorem Balanced.openIf?_of_heading (balanced : Balanced tokens)
    (heads : namesAt tokens .openChapter index = true ∨ namesAt tokens .openSection index = true) :
    openIf? tokens index = none := by
  cases isOpen : openIf? tokens index with
  | none => rfl
  | some opening =>
    obtain ⟨closing, closedBy, le_closing⟩ := balanced.closedBy_of_openIf? isOpen
    have below := (of_openIf?_eq_some isOpen).1
    have apart : index ≠ closing := by
      rintro rfl
      have stays : Lacks tokens Keyword.isPlace index := lacks_of_names closedBy.closes rfl
      simp [stays .openChapter rfl, stays .openSection rfl] at heads
    have unnamed := balanced.noHeading opening closing closedBy index below (by omega)
    simp [unnamed] at heads

theorem Balanced.openElse?_of_else (balanced : Balanced tokens)
    (named : namesAt tokens .openElse index = true) : openElse? tokens index = none := by
  cases turned : openElse? tokens index with
  | none => rfl
  | some turning =>
    obtain ⟨opening, isOpen, after, before, turns⟩ := of_openElse?_eq_some turned
    obtain ⟨closing, closedBy, le_closing⟩ := balanced.closedBy_of_openIf? isOpen
    have apart : index ≠ closing := by
      rintro rfl
      have unnamed := namesAt_unique .openElse closedBy.closes (by decide)
      simp [named] at unnamed
    have unnamed :=
      balanced.oneElse opening closing closedBy turning index after before (by omega) turns
    simp [named] at unnamed

theorem Balanced.obeysAt (balanced : Balanced tokens) (index : Nat) : ObeysAt tokens index where
  ofChapter heads := balanced.openIf?_of_heading (.inl heads)
  ofSection heads := balanced.openIf?_of_heading (.inr heads)
  ofElse named := balanced.openElse?_of_else named

theorem Balanced.openIf?_length (balanced : Balanced tokens) :
    openIf? tokens tokens.length = none := by
  cases isOpen : openIf? tokens tokens.length with
  | none => rfl
  | some opening =>
    obtain ⟨closing, closedBy, beyond⟩ := balanced.closedBy_of_openIf? isOpen
    have within := lt_length_of_namesAt closedBy.closes
    omega

/-- If no branch is opened in another one, each token keeps the rules where it
stands, and no branch is open at the end, then the tokens keep the rules. -/
theorem balanced_of_obeysAt
    (flat : ∀ index, namesAt tokens .openIf index = true → openIf? tokens index = none)
    (obeys : ∀ index, ObeysAt tokens index) (closed : openIf? tokens tokens.length = none) :
    Balanced tokens where
  closed opening opens := by
    obtain ⟨closing, after, -, closes⟩ :=
      of_openIf?_eq_none closed opens (lt_length_of_namesAt opens)
    exact ⟨closing, after, closes⟩
  noHeading opening closing closedBy between after before := by
    obtain ⟨last, isOpen⟩ := closedBy.exists_openIf? after (Nat.le_of_lt before)
    constructor
    · cases heads : namesAt tokens .openChapter between with
      | false => rfl
      | true => simp [(obeys between).ofChapter heads] at isOpen
    · cases heads : namesAt tokens .openSection between with
      | false => rfl
      | true => simp [(obeys between).ofSection heads] at isOpen
  oneElse opening closing closedBy first second after later before turns := by
    cases turnsAgain : namesAt tokens .openElse second with
    | false => rfl
    | true =>
      obtain ⟨last, isOpen⟩ := closedBy.exists_openIf? (Nat.lt_trans after later) (by omega)
      obtain ⟨below, opens, -⟩ := of_openIf?_eq_some isOpen
      -- No other `if` lies behind the first, since the branch is still open there.
      have le_opening : last ≤ opening := by
        refine Nat.le_of_not_lt fun behind => ?_
        obtain ⟨_, isOpen'⟩ := closedBy.exists_openIf? behind (by omega)
        simp [flat last opens] at isOpen'
      have turned := openElse?_isSome isOpen turns (by omega) later
      simp [(obeys second).ofElse turnsAgain] at turned

end Rules

/-! ## The rules, in a ledger -/

namespace Ledger

/-- The rule that a directive with this keyword breaks. -/
def broken? (ledger : Ledger) : Keyword → Option Cause
  | .openChapter => ledger.branch.map fun branch => .openAtHeading .openChapter branch.condition
  | .openSection => ledger.branch.map fun branch => .openAtHeading .openSection branch.condition
  | .openElse =>
    (ledger.branch.filter (·.hasElse)).map fun branch => .secondElse branch.condition
  | _ => none

/-- The rule that the token breaks, unless a title is due. -/
def breach? (ledger : Ledger) (token : Token) : Option Cause :=
  match ledger.pending, token.kind with
  | none, .directive => token.reading.keyword?.bind ledger.broken?
  | _, _ => none

variable {ledger next : Ledger} {token : Token} {keyword : Keyword} {entry : Option Entry}

theorem directiveStep_openElse {branch : OpenBranch} (isOpen : ledger.branch = some branch)
    (mode : Mode) (directive : Directive) :
    directiveStep mode ledger token directive .openElse = do
      forbid (mode = .strict && branch.hasElse) (.secondElse branch.condition)
      forbid ledger.sectionId.isNone (.misplaced .openElse .openSection)
      return (ledger.beginElse.advance, some (.openBranch .elseBranch branch.condition)) := by
  simp only [directiveStep, isOpen]
  rfl

theorem commandStep_eq_bind (known : token.reading.keyword? = some keyword) (mode : Mode) :
    commandStep mode ledger token =
      (forbid (ledger.title.isNone && keyword ≠ .openBook) (.beforeBook (quoted keyword.spelling))
        >>= fun _ => directiveStep mode ledger token token.reading keyword) := by
  simp only [commandStep, known]
  rfl

theorem directiveStep_strict_eq (keeps : ledger.broken? keyword = none) (directive : Directive) :
    directiveStep .strict ledger token directive keyword =
      directiveStep .lenient ledger token directive keyword := by
  cases keyword with
  | openChapter =>
    have closed : ledger.branch = none := by simpa [broken?] using keeps
    simp only [directiveStep, checkClosed, closed]
  | openSection =>
    have closed : ledger.branch = none := by simpa [broken?] using keeps
    simp only [directiveStep, checkClosed, closed]
  | openElse =>
    cases isOpen : ledger.branch with
    | none => simp only [directiveStep, isOpen]; rfl
    | some branch =>
      have single : branch.hasElse = false := by simpa [broken?, isOpen] using keeps
      simp only [directiveStep_openElse isOpen, single, Bool.and_false]
  | _ => rfl

/-- A strict step stops at a rule that is broken, unless it stops before, where a
lenient step does as well. -/
theorem directiveStep_strict_of_broken {cause : Cause}
    (breaks : ledger.broken? keyword = some cause) (directive : Directive) :
    directiveStep .strict ledger token directive keyword = .error cause ∨
      ∃ earlier, directiveStep .strict ledger token directive keyword = .error earlier ∧
        directiveStep .lenient ledger token directive keyword = .error earlier := by
  cases keyword with
  | openChapter =>
    obtain ⟨branch, isOpen, rfl⟩ := Option.map_eq_some_iff.mp breaks
    simp only [directiveStep, checkClosed, isOpen]
    exact .inl rfl
  | openSection =>
    obtain ⟨branch, isOpen, rfl⟩ := Option.map_eq_some_iff.mp breaks
    simp only [directiveStep, checkClosed, isOpen]
    cases ledger.chapterId with
    | none => exact .inr ⟨_, rfl, rfl⟩
    | some chapterId => exact .inl rfl
  | openElse =>
    obtain ⟨branch, found, rfl⟩ := Option.map_eq_some_iff.mp breaks
    obtain ⟨isOpen, hasElse⟩ := Option.filter_eq_some_iff.mp found
    rw [directiveStep_openElse isOpen, hasElse]
    exact .inl rfl
  | _ => cases breaks

/-- A strict step is the lenient one if no rule is broken.  Otherwise it stops at the
rule, unless it stops before, where a lenient step does as well. -/
theorem step_strict_cases (ledger : Ledger) (token : Token) :
    ledger.breach? token = none ∧ step .strict ledger token = step .lenient ledger token ∨
      ∃ cause, ledger.breach? token = some cause ∧
        (step .strict ledger token = .error cause ∨
          ∃ earlier, step .strict ledger token = .error earlier ∧
            step .lenient ledger token = .error earlier) := by
  unfold breach? step
  cases ledger.pending with
  | some pending => cases token.kind <;> exact .inl ⟨rfl, rfl⟩
  | none =>
    cases token.kind with
    | paragraph => exact .inl ⟨rfl, rfl⟩
    | directive =>
      cases known : token.reading.keyword? with
      | none =>
        refine .inl ⟨rfl, ?_⟩
        simp only [commandStep, known]
        rfl
      | some keyword =>
        simp only [Option.bind_some, commandStep_eq_bind known]
        cases breaks : ledger.broken? keyword with
        | none => exact .inl ⟨rfl, by simp only [directiveStep_strict_eq breaks]⟩
        | some cause =>
          refine .inr ⟨cause, rfl, ?_⟩
          cases ledger.title.isNone && decide (keyword ≠ .openBook) with
          | true => exact .inr ⟨_, rfl, rfl⟩
          | false => exact directiveStep_strict_of_broken breaks token.reading

/-- A strict move is a lenient one that breaks no rule. -/
theorem moves_strict_iff : Moves .strict ledger token next entry ↔
    Moves .lenient ledger token next entry ∧ ledger.breach? token = none := by
  simp only [← step_eq_ok_iff]
  rcases step_strict_cases ledger token with ⟨keeps, same⟩ | ⟨cause, breaks, stopped⟩
  · simp [keeps, same]
  · rcases stopped with stopped | ⟨earlier, stopped, -⟩
    · simp [breaks, stopped]
    · simp [breaks, stopped]

/-- A branch begins where none is open. -/
theorem Moves.closed_of_openIf {mode : Mode} (moves : Moves mode ledger token next entry)
    (named : token.names .openIf = true) : ledger.branch = none := by
  cases moves with
  | openIf takes closed inSection => exact closed
  | title waiting isParagraph => simp [Token.names, isParagraph] at named
  | paragraph isParagraph ready begun inside => simp [Token.names, isParagraph] at named
  | openBook reads ready unbegun => simp [reads.names_eq] at named
  | _ takes => simp [takes.names_eq] at named

theorem Moves.position_le {mode : Mode} (moves : Moves mode ledger token next entry) :
    ledger.position ≤ next.position := by
  cases moves with
  | title waiting isParagraph => simp
  | openBook | openChapter | openSection => exact Nat.le_refl _
  | _ => exact Nat.le_succ _

/-- Where a run ends. -/
def reached : Except Failure (Ledger × List Entry) → Nat
  | .error failure => failure.position
  | .ok (last, _) => last.position

theorem reached_run_cons {mode : Mode} {rest : List Token}
    (stepped : step mode ledger token = .ok (next, entry)) :
    reached (run mode ledger (token :: rest)) = reached (run mode next rest) := by
  rw [run_cons_of_step stepped]
  cases run mode next rest <;> rfl

/-- A run ends no earlier than it begins. -/
theorem position_le_reached (mode : Mode) (ledger : Ledger) (tokens : List Token) :
    ledger.position ≤ reached (run mode ledger tokens) := by
  induction tokens generalizing ledger with
  | nil => exact Nat.le_refl _
  | cons token rest ih =>
    cases stepped : step mode ledger token with
    | error cause =>
      rw [run_cons_of_error stepped]
      exact Nat.le_refl _
    | ok moved =>
      rw [reached_run_cons stepped]
      exact Nat.le_trans (step_eq_ok_iff.mp stepped).position_le (ih moved.1)

end Ledger

/-! ## The rules, by index -/

section Index

variable {tokens : List Token} {index : Nat} {token : Token} {cause : Cause}

theorem breach?_of_names {ledger : Ledger} {keyword : Keyword} (ready : ledger.pending = none)
    (named : token.names keyword = true) : ledger.breach? token = ledger.broken? keyword := by
  simp only [Token.names, Bool.and_eq_true, decide_eq_true_eq] at named
  simp only [Ledger.breach?, ready, named.1, named.2, Option.bind_some]

theorem of_breach?_eq_some {ledger : Ledger} (breaks : ledger.breach? token = some cause) :
    ∃ keyword, token.names keyword = true ∧ ledger.broken? keyword = some cause := by
  cases waiting : ledger.pending with
  | some pending => simp [Ledger.breach?, waiting] at breaks
  | none =>
    cases kind : token.kind with
    | paragraph => simp [Ledger.breach?, waiting, kind] at breaks
    | directive =>
      simp only [Ledger.breach?, waiting, kind, Option.bind_eq_some_iff] at breaks
      obtain ⟨keyword, known, broken⟩ := breaks
      exact ⟨keyword, by simp [Token.names, kind, known], broken⟩

theorem broken?_openChapter_iff :
    (ledgerAt tokens index).broken? .openChapter = none ↔ openIf? tokens index = none :=
  Option.map_eq_none_iff.trans branchAt?_eq_none_iff

theorem broken?_openSection_iff :
    (ledgerAt tokens index).broken? .openSection = none ↔ openIf? tokens index = none :=
  Option.map_eq_none_iff.trans branchAt?_eq_none_iff

theorem broken?_openElse_iff :
    (ledgerAt tokens index).broken? .openElse = none ↔ openElse? tokens index = none := by
  cases isOpen : branchAt? tokens index with
  | none =>
    have unopened := branchAt?_eq_none_iff.mp isOpen
    simp [Ledger.broken?, ledgerAt, isOpen, openElse?, unopened]
  | some branch =>
    obtain ⟨opening, -, -, -, turned⟩ := of_branchAt?_eq_some isOpen
    simp [Ledger.broken?, ledgerAt, isOpen, turned]

/-- Whether a token breaks a rule follows from where it stands. -/
theorem breach?_eq_none_iff (found : tokens[index]? = some token) :
    (ledgerAt tokens index).breach? token = none ↔ ObeysAt tokens index := by
  have named := namesAt_of_found found
  constructor
  · intro keeps
    have unbroken {keyword : Keyword} (names : namesAt tokens keyword index = true) :
        (ledgerAt tokens index).broken? keyword = none :=
      (breach?_of_names rfl ((named keyword).symm.trans names)).symm.trans keeps
    exact ⟨fun heads => broken?_openChapter_iff.mp (unbroken heads),
      fun heads => broken?_openSection_iff.mp (unbroken heads),
      fun turns => broken?_openElse_iff.mp (unbroken turns)⟩
  · intro obeys
    refine Option.eq_none_iff_forall_ne_some.mpr fun cause breaks => ?_
    obtain ⟨keyword, names, broken⟩ := of_breach?_eq_some breaks
    rw [← named] at names
    cases keyword with
    | openChapter => simp [broken?_openChapter_iff.mpr (obeys.ofChapter names)] at broken
    | openSection => simp [broken?_openSection_iff.mpr (obeys.ofSection names)] at broken
    | openElse => simp [broken?_openElse_iff.mpr (obeys.ofElse names)] at broken
    | _ => cases broken

/-- A rule that a token breaks is that of an open branch, or the token is a second
`else`. -/
theorem cause_of_breach? (found : tokens[index]? = some token)
    (breaks : (ledgerAt tokens index).breach? token = some cause) :
    cause.kind = .unclosedConditional ∨
      ∃ branch, cause = .secondElse branch.condition ∧ branchAt? tokens index = some branch ∧
        IsSecondElse tokens index := by
  obtain ⟨keyword, named, broken⟩ := of_breach?_eq_some breaks
  rw [← namesAt_of_found found] at named
  cases keyword with
  | openChapter =>
    obtain ⟨branch, -, rfl⟩ := Option.map_eq_some_iff.mp broken
    exact .inl rfl
  | openSection =>
    obtain ⟨branch, -, rfl⟩ := Option.map_eq_some_iff.mp broken
    exact .inl rfl
  | openElse =>
    obtain ⟨branch, isOpen, rfl⟩ := Option.map_eq_some_iff.mp broken
    obtain ⟨isOpen, hasElse⟩ := Option.filter_eq_some_iff.mp isOpen
    obtain ⟨opening, -, -, -, turned⟩ := of_branchAt?_eq_some isOpen
    exact .inr ⟨branch, rfl, isOpen, named, turned.symm.trans hasElse⟩
  | _ => cases broken

end Index

/-! ## Scripts that keep the rules -/

section Accepted

variable {tokens : List Token} {index : Nat}

/-- Where a script goes on in strict mode, it does so in lenient mode, and each token
keeps the rules; and conversely. -/
theorem goesOn_strict_iff : GoesOn .strict tokens index ↔
    GoesOn .lenient tokens index ∧ ∀ later, index ≤ later → ObeysAt tokens later := by
  constructor
  · intro goes
    induction goes with
    | done =>
      refine ⟨.done, fun later beyond => ?_⟩
      have unnamed (keyword : Keyword) : namesAt tokens keyword later = false := by
        simp [namesAt, List.getElem?_eq_none_iff.mpr beyond]
      constructor <;> simp [unnamed]
    | token found moves later ih =>
      obtain ⟨moves, keeps⟩ := Ledger.moves_strict_iff.mp moves
      refine ⟨.token found moves ih.1, fun place le_place => ?_⟩
      rcases Nat.eq_or_lt_of_le le_place with rfl | after
      · exact (breach?_eq_none_iff found).mp keeps
      · exact ih.2 place after
    | heading found opens moves titled isParagraph later ih =>
      obtain ⟨moves, keeps⟩ := Ledger.moves_strict_iff.mp moves
      refine ⟨.heading found opens moves titled isParagraph ih.1, fun place le_place => ?_⟩
      rcases Nat.eq_or_lt_of_le le_place with rfl | after
      · exact (breach?_eq_none_iff found).mp keeps
      · rcases Nat.eq_or_lt_of_le after with rfl | beyond
        · have unnamed := namesAt_of_paragraph titled isParagraph
          constructor <;> simp [unnamed]
        · exact ih.2 place beyond
  · rintro ⟨goes, obeys⟩
    induction goes with
    | done => exact .done
    | @token index _ found moves later ih =>
      have keeps := (breach?_eq_none_iff found).mpr (obeys index (Nat.le_refl _))
      exact .token found (Ledger.moves_strict_iff.mpr ⟨moves, keeps⟩)
        (ih fun place after => obeys place (by omega))
    | @heading index _ _ _ found opens moves titled isParagraph later ih =>
      have keeps := (breach?_eq_none_iff found).mpr (obeys index (Nat.le_refl _))
      exact .heading found opens (Ledger.moves_strict_iff.mpr ⟨moves, keeps⟩) titled isParagraph
        (ih fun place after => obeys place (by omega))

/-- Where a script goes on, no branch is opened in another one. -/
theorem GoesOn.flat {mode : Mode} (goes : GoesOn mode tokens index) {later : Nat}
    (after : index ≤ later) (opens : namesAt tokens .openIf later = true) :
    openIf? tokens later = none := by
  induction goes with
  | done =>
    have within := lt_length_of_namesAt opens
    omega
  | token found moves _ ih =>
    rcases Nat.eq_or_lt_of_le after with rfl | after
    · exact branchAt?_eq_none_iff.mp (moves.closed_of_openIf (namesAt_of_found found _ ▸ opens))
    · exact ih after
  | heading found headed moves titled isParagraph _ ih =>
    rcases Nat.eq_or_lt_of_le after with rfl | after
    · exact branchAt?_eq_none_iff.mp (moves.closed_of_openIf (namesAt_of_found found _ ▸ opens))
    · rcases Nat.eq_or_lt_of_le after with rfl | beyond
      · simp [namesAt_of_paragraph titled isParagraph] at opens
      · exact ih beyond

/-- A strict parse gives a book exactly when a lenient parse gives it and the tokens
keep the rules. -/
theorem parse_strict_ok_iff_lenient {book : Book} : (parse .strict tokens).result = .ok book ↔
    (parse .lenient tokens).result = .ok book ∧ Balanced tokens := by
  rw [parse_eq_ledger_parse, parse_eq_ledger_parse, ledger_parse_eq_ok_iff_goesOn,
    ledger_parse_eq_ok_iff_goesOn, goesOn_strict_iff]
  constructor
  · rintro ⟨⟨goes, obeys⟩, closed, titled⟩
    have unopened := branchAt?_eq_none_iff.mp (closed rfl)
    refine ⟨⟨goes, by simp, titled⟩, balanced_of_obeysAt ?_ (fun place => ?_) unopened⟩
    · exact fun place opens => goes.flat (Nat.zero_le _) opens
    · exact obeys place (Nat.zero_le _)
  · rintro ⟨⟨goes, -, titled⟩, balanced⟩
    have unopened := branchAt?_eq_none_iff.mpr balanced.openIf?_length
    exact ⟨⟨goes, fun place _ => balanced.obeysAt place⟩, fun _ => unopened, titled⟩

end Accepted

/-! ## Scripts that break a rule -/

/-- From this ledger, a strict run of the rest is the lenient one, or it stops at a
token that breaks a rule and the lenient run does not end before it. -/
def Lockstep (tokens : List Token) (ledger : Ledger) (rest : List Token) : Prop :=
  Ledger.run .strict ledger rest = Ledger.run .lenient ledger rest ∨
    ∃ place token cause, tokens[place]? = some token ∧
      (ledgerAt tokens place).breach? token = some cause ∧
      Ledger.run .strict ledger rest = .error ((ledgerAt tokens place).failure cause token) ∧
      place ≤ Ledger.reached (Ledger.run .lenient ledger rest)

section Rejected

variable {tokens rest : List Token} {ledger next : Ledger} {token : Token} {entry : Option Entry}

theorem Lockstep.of_error {cause : Cause} (strict : Ledger.step .strict ledger token = .error cause)
    (lenient : Ledger.step .lenient ledger token = .error cause) :
    Lockstep tokens ledger (token :: rest) :=
  .inl ((Ledger.run_cons_of_error strict).trans (Ledger.run_cons_of_error lenient).symm)

theorem Lockstep.cons (strict : Ledger.step .strict ledger token = .ok (next, entry))
    (lenient : Ledger.step .lenient ledger token = .ok (next, entry))
    (later : Lockstep tokens next rest) : Lockstep tokens ledger (token :: rest) := by
  rcases later with same | ⟨place, token', cause, found, breaks, stopped, bound⟩
  · left
    rw [Ledger.run_cons_of_step strict, Ledger.run_cons_of_step lenient, same]
  · refine .inr ⟨place, token', cause, found, breaks, ?_, ?_⟩
    · rw [Ledger.run_cons_of_step strict, stopped]
      rfl
    · rwa [Ledger.reached_run_cons lenient]

/-- A title is read in both modes alike. -/
theorem Lockstep.title {pending : Pending} (waiting : ledger.pending = some pending)
    (later : token.kind = .paragraph →
      Lockstep tokens (ledger.entitle pending.heading token.text).1 rest) :
    Lockstep tokens ledger (token :: rest) := by
  cases kind : token.kind with
  | directive =>
    have missing (mode : Mode) : Ledger.step mode ledger token =
        .error (.missingTitle pending.heading.keyword) := by
      simp only [Ledger.step, waiting, kind]
    exact .of_error (missing .strict) (missing .lenient)
  | paragraph =>
    have strict : Ledger.Moves .strict ledger token _ _ := .title waiting kind
    have lenient : Ledger.Moves .lenient ledger token _ _ := .title waiting kind
    exact .cons strict.step_eq lenient.step_eq (later kind)

/-- From the ledger of an index, the two modes run in lockstep. -/
theorem lockstep_at {index : Nat} (untitled : isTitle tokens index = false) :
    Lockstep tokens (ledgerAt tokens index) (tokens.drop index) := by
  cases found : tokens[index]? with
  | none =>
    rw [List.drop_eq_nil_of_le (List.getElem?_eq_none_iff.mp found)]
    exact .inl rfl
  | some token =>
    have below : index < tokens.length := (List.getElem?_eq_some_iff.mp found).1
    rw [drop_of_found found]
    rcases Ledger.step_strict_cases (ledgerAt tokens index) token with
      ⟨-, same⟩ | ⟨cause, breaks, stopped | ⟨earlier, strict, lenient⟩⟩
    · cases stepped : Ledger.step .lenient (ledgerAt tokens index) token with
      | error cause => exact .of_error (same.trans stepped) stepped
      | ok moved =>
        obtain ⟨next, entry⟩ := moved
        refine .cons (same.trans stepped) stepped ?_
        rcases (Ledger.step_eq_ok_iff.mp stepped).at_index found untitled with
          ⟨rfl, -, untitled'⟩ | ⟨heading, opens, rfl, -⟩
        · exact lockstep_at untitled'
        · cases titled : tokens[index + 1]? with
          | none =>
            rw [List.drop_eq_nil_of_le (List.getElem?_eq_none_iff.mp titled)]
            exact .inl rfl
          | some title =>
            rw [drop_of_found titled]
            refine .title rfl fun isParagraph => ?_
            rw [ledgerAt_after_title found opens titled isParagraph]
            exact lockstep_at (isTitle_succ_of_paragraph titled isParagraph)
    · exact .inr ⟨index, token, cause, found, breaks, Ledger.run_cons_of_error stopped,
        Ledger.position_le_reached .lenient (ledgerAt tokens index) _⟩
    · exact .of_error strict lenient
termination_by tokens.length - index

/-- At the end, strict mode adds that no branch is open. -/
theorem Ledger.finish_strict_cases (ledger : Ledger) (entries : List Entry) :
    ledger.finish .strict entries = ledger.finish .lenient entries ∨
      ∃ branch : OpenBranch, ledger.finish .strict entries =
        .error (ledger.failure (.neverClosed branch.condition) branch.opener) := by
  unfold finish
  cases ledger.pending with
  | some pending => exact .inl rfl
  | none =>
    cases ledger.branch with
    | none => exact .inl rfl
    | some branch => exact .inr ⟨branch, rfl⟩

theorem Ledger.position_of_finish_eq_error {mode : Mode} {entries : List Entry} {failure : Failure}
    (failed : ledger.finish mode entries = .error failure) :
    failure.position = ledger.position := by
  revert failed
  unfold finish
  cases ledger.pending <;> cases mode <;> cases ledger.branch <;> cases ledger.title <;>
    simp +contextual [Ledger.failure, eq_comm]

/-- The error at a position is that a branch is open where it has to be closed, or it
points at a second `else` for the open branch. -/
def BreaksRule (tokens : List Token) (error : ParseError) (position : Nat) : Prop :=
  error.kind = .unclosedConditional ∨
    error.kind = .unbalancedConditional ∧ IsSecondElse tokens position ∧
      error.token = tokens[position]? ∧
      ∃ condition, error.cause = .secondElse condition ∧ error.scope.condition = some condition

theorem breaksRule_of_breach? {place : Nat} {cause : Cause} (found : tokens[place]? = some token)
    (breaks : (ledgerAt tokens place).breach? token = some cause) :
    BreaksRule tokens ((ledgerAt tokens place).failure cause token).error place := by
  rcases cause_of_breach? found breaks with unclosed | ⟨branch, rfl, isOpen, second⟩
  · exact .inl unclosed
  · refine .inr ⟨rfl, second, found.symm, branch.condition, rfl, ?_⟩
    have open' : (ledgerAt tokens place).branch = some branch := isOpen
    simp [Ledger.failure, Ledger.scope, open']

/-- A parse ends where its run does. -/
theorem Ledger.position_parse (mode : Mode) (given : tokens ≠ []) :
    (Ledger.parse mode tokens).position = reached (run mode .initial tokens) := by
  simp only [Ledger.parse, if_neg given]
  cases run mode .initial tokens with
  | error failure => rfl
  | ok ended =>
    obtain ⟨last, entries⟩ := ended
    simp only
    cases finished : last.finish mode entries with
    | error failure => exact position_of_finish_eq_error finished
    | ok book => rfl

/-- A strict parse is the lenient one, or it fails by a rule of strict mode and the
lenient parse does not end before it. -/
theorem parse_strict_cases (tokens : List Token) :
    parse .strict tokens = parse .lenient tokens ∨
      ∃ error, (parse .strict tokens).result = .error error ∧
        BreaksRule tokens error (parse .strict tokens).position ∧
        (parse .strict tokens).position ≤ (parse .lenient tokens).position := by
  rw [parse_eq_ledger_parse, parse_eq_ledger_parse]
  by_cases given : tokens = []
  · exact .inl (by simp only [Ledger.parse, if_pos given])
  · rw [Ledger.position_parse .lenient given]
    simp only [Ledger.parse, if_neg given]
    have lockstep : Lockstep tokens .initial tokens := lockstep_at rfl
    rcases lockstep with same | ⟨place, token, cause, found, breaks, stopped, bound⟩
    · rw [same]
      cases Ledger.run .lenient .initial tokens with
      | error failure => exact .inl rfl
      | ok ended =>
        obtain ⟨last, entries⟩ := ended
        simp only
        rcases last.finish_strict_cases entries with same | ⟨branch, stopped⟩
        · exact .inl (by rw [same])
        · simp only [stopped]
          exact .inr ⟨_, rfl, .inl rfl, Nat.le_refl _⟩
    · simp only [stopped]
      exact .inr ⟨_, rfl, breaksRule_of_breach? found breaks, bound⟩

/-- Strict and lenient parsing differ by the three rules of strict mode.  A strict
parse gives a book exactly when the lenient one gives it and the tokens keep the
rules.  A strict parse that fails does so by a rule, or just like the lenient one.
And where the lenient one fails, the strict one fails at the same position or before. -/
theorem strict_lenient_differ_by_rules (tokens : List Token) :
    (∀ book, (parse .strict tokens).result = .ok book ↔
      (parse .lenient tokens).result = .ok book ∧ Balanced tokens) ∧
    (∀ error, (parse .strict tokens).result = .error error →
      BreaksRule tokens error (parse .strict tokens).position ∨
        (parse .lenient tokens).result = .error error ∧
          (parse .lenient tokens).position = (parse .strict tokens).position) ∧
    ∀ error, (parse .lenient tokens).result = .error error →
      ∃ error', (parse .strict tokens).result = .error error' ∧
        (parse .strict tokens).position ≤ (parse .lenient tokens).position := by
  refine ⟨fun book => parse_strict_ok_iff_lenient, fun error failed => ?_, fun error failed => ?_⟩
  · rcases parse_strict_cases tokens with same | ⟨error', failed', breaks, -⟩
    · exact .inr ⟨same ▸ failed, congrArg Outcome.position same.symm⟩
    · obtain rfl := Except.error.inj (failed.symm.trans failed')
      exact .inl breaks
  · rcases parse_strict_cases tokens with same | ⟨error', failed', -, bound⟩
    · exact ⟨error, same ▸ failed, Nat.le_of_eq (congrArg Outcome.position same)⟩
    · exact ⟨error', failed', bound⟩

end Rejected

/-- A script with a branch that spans two sections. -/
def spanningScript : List Token :=
  [.directive "book" 1, .paragraph "T" 2, .directive "chapter c" 3, .paragraph "C" 4,
    .directive "section s" 5, .paragraph "S" 6, .directive "if x" 7, .directive "section t" 8,
    .paragraph "U" 9, .directive "endif" 10]

/-- The script is read in lenient mode only.  It breaks a rule, and a strict parse
fails by a rule at the second section. -/
theorem strict_lenient_differ_at_section :
    (∃ book, (parse .lenient spanningScript).result = .ok book) ∧ ¬ Balanced spanningScript ∧
      (parse .strict spanningScript).position = 7 ∧
      ∃ error, (parse .strict spanningScript).result = .error error ∧
        BreaksRule spanningScript error (parse .strict spanningScript).position := by
  obtain ⟨accepts, rejects, -⟩ := strict_lenient_differ_by_rules spanningScript
  have parsed : ∃ book, (parse .lenient spanningScript).result = .ok book := ⟨_, rfl⟩
  have failed : ∃ error, (parse .strict spanningScript).result = .error error := ⟨_, rfl⟩
  obtain ⟨book, parsed⟩ := parsed
  obtain ⟨error, failed⟩ := failed
  refine ⟨⟨book, parsed⟩, fun balanced => ?_, rfl, error, failed, ?_⟩
  · have accepted := (accepts book).mpr ⟨parsed, balanced⟩
    simp [failed] at accepted
  · rcases rejects error failed with breaks | ⟨failed', -⟩
    · exact breaks
    · simp [parsed] at failed'

end Gamebook.Script
