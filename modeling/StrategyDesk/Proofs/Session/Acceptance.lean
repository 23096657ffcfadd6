import StrategyDesk.Proofs.Session.Run

/-!
# Accepted texts

Once the worker took every command, a session reports no errors only if none are shown and its text
is empty or was accepted by the validator; and a text without errors of its own that was accepted
is reported without errors.
-/

set_option autoImplicit false

namespace StrategyDesk

namespace Session

def localFindings (session : Session) : List Finding :=
  session.sandbox.toList.flatMap fun env => env.findings session.settings.documentPath

def CaughtUp (session : Session) : Prop :=
  ∀ worker, session.worker = some worker → worker.queue = []

/-- Whether the latest request was for the text, and its answer a success. -/
def Accepted (session : Session) (ledger : List Answer) : Prop :=
  ∃ worker issued, session.worker = some worker ∧ worker.pipeline.lastIssued = some issued ∧
    issued.content = session.text ∧ ⟨issued.number, session.text, .ok .success⟩ ∈ ledger

section Coherent

variable {session : Session} {env : Environment} {worker : Worker} {ledger : List Answer}

theorem Coherent.localFindings (coherent : session.Coherent env worker ledger) :
    session.localFindings = env.findings session.settings.documentPath := by
  simp [Session.localFindings, coherent.running.sandbox]

/-- Both producers of errors are behind the flag of the session. -/
theorem Coherent.hasErrors (coherent : session.Coherent env worker ledger) :
    session.hasErrors =
      (session.localFindings.any Finding.isError || worker.pipeline.gate) := by
  rw [coherent.localFindings, ← coherent.analysed.flagged,
    ← coherent.running.informed.displayed.flag]
  exact coherent.running.informed.displayed.published

theorem Coherent.accepted_iff (coherent : session.Coherent env worker ledger) :
    session.Accepted ledger ↔ ∃ issued, worker.pipeline.lastIssued = some issued ∧
      issued.content = session.text ∧ issued.verdict = some .valid := by
  have working := coherent.running.working
  have valid := coherent.running.informed.recorded.valid
  constructor
  · rintro ⟨other, issued, same, last, content, answered⟩
    cases working.symm.trans same
    rw [← content] at answered
    exact ⟨issued, last, content, (valid issued last).mpr answered⟩
  · rintro ⟨issued, last, content, verdict⟩
    refine ⟨worker, issued, working, last, content, ?_⟩
    rw [← content]
    exact (valid issued last).mp verdict

/-- With every command taken, the gate knows of the text and of its errors. -/
theorem Coherent.faithful (coherent : session.Coherent env worker ledger)
    (caughtUp : session.CaughtUp) : worker.pipeline.GateFaithful (some session.feed) := by
  obtain ⟨fed, faithful, known⟩ := coherent.running.informed.current
  rw [caughtUp worker coherent.running.working] at known
  cases known
  exact faithful

theorem Coherent.feed (coherent : session.Coherent env worker ledger)
    (clean : ∀ finding ∈ session.localFindings, finding.isError = false) :
    session.feed = ⟨session.text, false⟩ := by
  have flag : session.display.signals.flags.sandbox = false := by
    rw [coherent.analysed.flagged, ← coherent.localFindings]
    simpa using clean
  rw [Session.feed, flag]

theorem Coherent.accepted_of_no_errors (coherent : session.Coherent env worker ledger)
    (caughtUp : session.CaughtUp) (quiet : session.hasErrors = false) :
    (∀ finding ∈ session.localFindings, finding.isError = false) ∧
      (∀ diagnostic ∈ session.view.allFindings, diagnostic.isError = false) ∧
        (session.text = [] ∨ session.Accepted ledger) := by
  rw [coherent.hasErrors, Bool.or_eq_false_iff] at quiet
  obtain ⟨found, gate⟩ := quiet
  have clean : ∀ finding ∈ session.localFindings, finding.isError = false := by
    simpa using found
  have faithful := coherent.faithful caughtUp
  refine ⟨clean, ?_, ?_⟩
  · intro diagnostic shown
    rcases List.mem_append.mp shown with sandboxed | remote
    · rw [coherent.analysed.shown, ← coherent.localFindings] at sandboxed
      obtain ⟨finding, listed, rfl⟩ := List.mem_map.mp sandboxed
      rw [Finding.shownIn_isError]
      exact clean finding (List.mem_filter.mp listed).1
    · have cleared := coherent.running.informed.displayed.cleared (faithful.open_valid gate)
      rw [show session.view.validatorFindings = [] from cleared] at remote
      cases remote
  · by_cases empty : session.text = []
    · exact Or.inl empty
    · refine Or.inr (coherent.accepted_iff.mpr ?_)
      exact (faithful.open_iff empty (congrArg some (coherent.feed clean))).mp gate

theorem Coherent.no_errors_of_accepted (coherent : session.Coherent env worker ledger)
    (caughtUp : session.CaughtUp) (nonempty : session.text ≠ [])
    (clean : ∀ finding ∈ session.localFindings, finding.isError = false)
    (accepted : session.Accepted ledger) : session.hasErrors = false := by
  have gate := ((coherent.faithful caughtUp).open_iff nonempty
    (congrArg some (coherent.feed clean))).mpr (coherent.accepted_iff.mp accepted)
  rw [coherent.hasErrors, gate, Bool.or_false]
  simpa using clean

end Coherent

end Session

end StrategyDesk
