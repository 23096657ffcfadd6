import StrategyDesk.Proofs.Session.Conversion
import StrategyDesk.Proofs.Session.Sandbox

/-!
# What the operations of a session do

Every operation of the host comes down to a transaction in the view and an analysis pass. This module
states everything that such an operation does to the session when it comes to an end, and that only
a fatal finding keeps it from that.
-/

set_option autoImplicit false

namespace StrategyDesk.Session

/-! ## The analysis pass -/

/-- The findings of an analysis pass over a text. -/
def findingsIn (session : Session) (text : Text) : List Finding :=
  match session.sandbox with
  | none => []
  | some env =>
      match env.sync session.settings.documentPath text with
      | .error _ => []
      | .ok mirrored => mirrored.findings session.settings.documentPath

/-- The session after an analysis by a sandbox that holds its text. -/
def analysedBy (session : Session) (env : Environment) : Session :=
  let findings := env.findings session.settings.documentPath
  let localError := findings.any Finding.isError
  let shown := Finding.shownAll session.document findings
  let display := (session.display.publish .sandbox shown).setSandbox localError
  { session with sandbox := some env, display }.submit localError

inductive AnalysisEnds (session : Session) : Session → Except Failure Unit → Prop where
  | unneeded (bare : session.sandbox = none) : AnalysisEnds session session (.ok ())
  | refused {env : Environment} {failure : Failure} (holds : session.sandbox = some env)
      (refused : env.sync session.settings.documentPath session.text = .error failure) :
      AnalysisEnds session session (.error failure)
  | carriedOut {env mirrored : Environment} (holds : session.sandbox = some env)
      (synced : env.sync session.settings.documentPath session.text = .ok mirrored) :
      AnalysisEnds session (session.analysedBy mirrored) (.ok ())

theorem analyze_of_safe {session : Session} {env mirrored : Environment}
    (holds : session.sandbox = some env)
    (synced : env.sync session.settings.documentPath session.text = .ok mirrored)
    (safe : ∀ finding ∈ mirrored.findings session.settings.documentPath, ¬ finding.IsFatal) :
    session.analyze = some (session.analysedBy mirrored, .ok ()) := by
  simp only [analyze, holds, synced, Option.bind_eq_bind,
    Finding.filterMapM_displayed?_of_safe session.document safe, Option.bind_some]
  rfl

theorem analyze_of_fatal {session : Session} {env mirrored : Environment}
    (holds : session.sandbox = some env)
    (synced : env.sync session.settings.documentPath session.text = .ok mirrored)
    (fatal : ∃ finding ∈ mirrored.findings session.settings.documentPath, finding.IsFatal) :
    session.analyze = none := by
  simp only [analyze, holds, synced, Option.bind_eq_bind,
    Finding.filterMapM_displayed?_of_fatal session.document fatal, Option.bind_none]

theorem analyze_ends {session next : Session} {result : Except Failure Unit}
    (analysed : session.analyze = some (next, result)) : session.AnalysisEnds next result := by
  cases holds : session.sandbox with
  | none =>
      simp only [analyze, holds] at analysed
      cases analysed
      exact .unneeded holds
  | some env =>
      cases synced : env.sync session.settings.documentPath session.text with
      | error failure =>
          simp only [analyze, holds, synced] at analysed
          cases analysed
          exact .refused holds synced
      | ok mirrored =>
          by_cases fatal : ∃ finding ∈ mirrored.findings session.settings.documentPath,
              finding.IsFatal
          · rw [analyze_of_fatal holds synced fatal] at analysed
            cases analysed
          · have safe : ∀ finding ∈ mirrored.findings session.settings.documentPath,
                ¬ finding.IsFatal := fun finding among dies => fatal ⟨finding, among, dies⟩
            rw [analyze_of_safe holds synced safe] at analysed
            cases analysed
            exact .carriedOut holds synced

theorem exists_of_analyze {session next : Session} {env : Environment}
    {result : Except Failure Unit} (holds : session.sandbox = some env)
    (live : env.disposed = false) (analysed : session.analyze = some (next, result)) :
    ∃ files, env.sync session.settings.documentPath session.text = .ok { env with files } ∧
      files.read? session.settings.documentPath = some session.text ∧
      next = session.analysedBy { env with files } ∧ result = .ok () := by
  obtain ⟨files, synced, reads⟩ :=
    Environment.sync_of_live live session.settings.documentPath session.text
  refine ⟨files, synced, reads, ?_⟩
  cases analyze_ends analysed with
  | unneeded bare => cases holds.symm.trans bare
  | refused held refused =>
      cases holds.symm.trans held
      cases synced.symm.trans refused
  | carriedOut held mirrored =>
      cases holds.symm.trans held
      cases synced.symm.trans mirrored
      exact ⟨rfl, rfl⟩

theorem findingsIn_of_synced {session : Session} {env mirrored : Environment} {text : Text}
    (holds : session.sandbox = some env)
    (synced : env.sync session.settings.documentPath text = .ok mirrored) :
    session.findingsIn text = mirrored.findings session.settings.documentPath := by
  simp only [findingsIn, holds, synced]

/-- An analysis pass comes to its end unless one of its findings is fatal. -/
theorem analyze_eq_none_iff (session : Session) :
    session.analyze = none ↔ ∃ finding ∈ session.findingsIn session.text, finding.IsFatal := by
  cases holds : session.sandbox with
  | none => simp [analyze, findingsIn, holds]
  | some env =>
      cases synced : env.sync session.settings.documentPath session.text with
      | error failure => simp [analyze, findingsIn, holds, synced]
      | ok mirrored =>
          rw [findingsIn_of_synced holds synced]
          refine ⟨fun died => ?_, analyze_of_fatal holds synced⟩
          by_cases fatal : ∃ finding ∈ mirrored.findings session.settings.documentPath,
              finding.IsFatal
          · exact fatal
          · rw [analyze_of_safe holds synced
              fun finding among dies => fatal ⟨finding, among, dies⟩] at died
            cases died

/-! ## The other operations -/

/-- How a transaction ends. One that the view carries out without a relevant change needs no
analysis. -/
inductive DispatchEnds (session : Session) (transaction : Transaction) :
    Session → Except Failure Unit → Prop where
  | refused {failure : Failure}
      (refused : session.view.dispatch transaction = .error failure) :
      DispatchEnds session transaction session (.error failure)
  | irrelevant {view : View} {update : Update}
      (carried : session.view.dispatch transaction = .ok (view, update))
      (irrelevant : update.isRelevant = false) :
      DispatchEnds session transaction { session with display := { session.display with view } }
        (.ok ())
  | analysed {view : View} {update : Update} {next : Session} {result : Except Failure Unit}
      (carried : session.view.dispatch transaction = .ok (view, update))
      (relevant : update.isRelevant = true)
      (analysed : ({ session with display := { session.display with view } } : Session).analyze =
        some (next, result)) :
      DispatchEnds session transaction next result

theorem dispatch_ends {session next : Session} {transaction : Transaction}
    {result : Except Failure Unit} (dispatched : session.dispatch transaction = some (next, result)) :
    session.DispatchEnds transaction next result := by
  cases carried : session.view.dispatch transaction with
  | error failure =>
      simp only [dispatch, carried] at dispatched
      cases dispatched
      exact .refused carried
  | ok moved =>
      obtain ⟨view, update⟩ := moved
      simp only [dispatch, carried, onUpdate] at dispatched
      cases relevant : update.isRelevant with
      | false =>
          rw [if_neg (by simp [relevant])] at dispatched
          cases dispatched
          exact .irrelevant carried relevant
      | true =>
          rw [if_pos relevant] at dispatched
          exact .analysed carried relevant dispatched

theorem edit_cases {session next : Session} {change : Change}
    {result : Except Failure EditOutcome} (edited : session.edit change = some (next, result)) :
    next = session ∧ result = .ok .rejected ∨
      ∃ header done, session.header = some header ∧
        header.permits session.document change .user = true ∧
        session.dispatch (.change change) = some (next, done) ∧
        result = done.map fun _ => .applied := by
  unfold edit at edited
  split at edited
  · cases edited
    exact Or.inl ⟨rfl, rfl⟩
  next header guarding =>
    split at edited
    next permits =>
      obtain ⟨⟨after, done⟩, dispatched, same⟩ := Option.bind_eq_some_iff.mp edited
      cases same
      exact Or.inr ⟨header, done, guarding, permits, dispatched, rfl⟩
    · cases edited
      exact Or.inl ⟨rfl, rfl⟩

theorem addLibrary_cases {session next : Session} {path : String} {content : Text}
    {result : Except Failure FileChange}
    (added : session.addLibrary path content = some (next, result)) :
    next = session ∨
      ∃ env change done,
        Environment.writeLibrary session.sandbox path content = .ok (env, change) ∧
        ({ session with sandbox := some env } : Session).lint = some (next, done) ∧
        result = done.map fun _ => change := by
  unfold addLibrary at added
  split at added
  · cases added
    exact Or.inl rfl
  next env change wrote =>
    obtain ⟨⟨after, done⟩, linted, same⟩ := Option.bind_eq_some_iff.mp added
    cases same
    exact Or.inr ⟨env, change, done, wrote, linted, rfl⟩

/-- A session for editing before its first analysis. -/
def unanalysed (settings : SessionSettings) (text : Text) (env : Environment) : Session :=
  let header : Header := ⟨settings.protectedLines⟩
  ⟨settings, some header, some env, some (.start settings.debounce),
    freshDisplay text (.editable header settings.styledLines), false⟩

theorem exists_of_openEditable {manager supplier : Manager} {text : Text}
    {settings : SessionSettings} {session : Session}
    (opened : openEditable manager text settings = some (supplier, .ok session)) :
    ∃ env next, manager.acquire = (supplier, .ok env) ∧
      (unanalysed settings text env).analyze = some (next, .ok ()) ∧
      session = { next with ready := true } := by
  unfold openEditable at opened
  split at opened
  · cases opened
  next source env acquired =>
    obtain ⟨⟨next, result⟩, analysed, made⟩ := Option.bind_eq_some_iff.mp opened
    cases result with
    | error failure => cases made
    | ok _ =>
        cases made
        exact ⟨env, next, acquired, analysed, rfl⟩

end StrategyDesk.Session
