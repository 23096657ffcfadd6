import StrategyDesk.Proofs.Pipeline.Operation

/-!
# What an open gate means

The gate of a pipeline is open only if nothing waits and the latest request, if there is one, was
found valid. After a content that may be sent, it is open exactly if the latest request is a request
for that content that was found valid.
-/

set_option autoImplicit false

namespace StrategyDesk.Pipeline

/-- The gate is open for good reason only, what waits is not what was sent last, and the latest
content, if it may be sent, waits or was sent last; in that case the gate opens when it is valid. -/
structure GateFaithful (pipeline : Pipeline) (latest : Option Feed) : Prop where
  open_pending : pipeline.gate = false → pipeline.pending = none
  open_valid : pipeline.gate = false → ∀ issued, pipeline.lastIssued = some issued →
    issued.verdict = some .valid
  fresh : ∀ pending, pipeline.pending = some pending →
    pipeline.lastIssued.map Issued.content ≠ some pending.content
  clean : ∀ text, text ≠ [] → latest = some ⟨text, false⟩ →
    (∃ pending, pipeline.pending = some pending ∧ pending.content = text) ∨
      pipeline.pending = none ∧ ∃ issued, pipeline.lastIssued = some issued ∧
        issued.content = text ∧ (issued.verdict = some .valid → pipeline.gate = false)

theorem start_faithful (window : Nat) : (start window).GateFaithful none where
  open_pending _ := rfl
  open_valid _ issued last := by cases last
  fresh pending waits := by cases waits
  clean text _ latest := by cases latest

theorem GateFaithful.pending_raises {pipeline : Pipeline} {latest : Option Feed}
    {pending : Pending} (faithful : pipeline.GateFaithful latest)
    (waits : pipeline.pending = some pending) : pipeline.gate = true := by
  cases gate : pipeline.gate with
  | true => rfl
  | false =>
      have empty := faithful.open_pending gate
      rw [waits] at empty
      cases empty

theorem GateFaithful.unverified_raises {pipeline : Pipeline} {latest : Option Feed}
    {issued : Issued} (faithful : pipeline.GateFaithful latest)
    (last : pipeline.lastIssued = some issued) (unverified : issued.verdict ≠ some .valid) :
    pipeline.gate = true := by
  cases gate : pipeline.gate with
  | true => rfl
  | false => exact absurd (faithful.open_valid gate issued last) unverified

theorem restoredGate_eq_false {pipeline : Pipeline} {latest : Option Feed} {issued : Issued}
    (faithful : pipeline.GateFaithful latest) (last : pipeline.lastIssued = some issued) :
    pipeline.restoredGate = false ↔ issued.verdict = some .valid := by
  have raised := faithful.unverified_raises last
  unfold restoredGate
  rw [last, Option.bind_some]
  cases verdict : issued.verdict with
  | none => simp [raised, verdict]
  | some given => cases given <;> simp [raised, verdict]

/-! ## Every operation keeps the gate faithful -/

theorem onContent_faithful {pipeline : Pipeline} {latest : Option Feed} (text : Text)
    (localError : Bool) (now : Nat) (faithful : pipeline.GateFaithful latest) :
    (pipeline.onContent text localError now).1.GateFaithful (some ⟨text, localError⟩) := by
  have effect := onContent_effect pipeline text localError now
  generalize (pipeline.onContent text localError now).1 = next at effect ⊢
  cases effect with
  | withheld unsent =>
      refine ⟨fun _ => rfl, faithful.open_valid, fun _ waits => (by cases waits), ?_⟩
      intro other nonempty same
      cases same
      rcases unsent with empty | flagged
      · exact absurd empty nonempty
      · cases flagged
  | returned issued nonempty clean last same =>
      refine ⟨fun _ => rfl, ?_, fun _ waits => (by cases waits), ?_⟩
      · intro opened other found
        cases last.symm.trans found
        exact (restoredGate_eq_false faithful last).mp opened
      · intro other _ equal
        cases equal
        exact Or.inr ⟨rfl, issued, last, same, (restoredGate_eq_false faithful last).mpr⟩
  | waiting pending nonempty clean waits same =>
      refine ⟨faithful.open_pending, faithful.open_valid, faithful.fresh, ?_⟩
      intro other _ equal
      cases equal
      exact Or.inl ⟨pending, waits, same⟩
  | scheduled nonempty clean new =>
      refine ⟨fun opened => (by cases opened), fun opened => (by cases opened), ?_, ?_⟩
      · intro pending waits
        cases waits
        exact new
      · intro other _ equal
        cases equal
        exact Or.inl ⟨_, rfl, rfl⟩

theorem fireNow_faithful {pipeline : Pipeline} {latest : Option Feed}
    (faithful : pipeline.GateFaithful latest) : pipeline.fireNow.1.GateFaithful latest := by
  cases waits : pipeline.pending with
  | none =>
      rw [fireNow_of_none waits]
      exact faithful
  | some pending =>
      rw [fireNow_of_some waits]
      have raised := faithful.pending_raises waits
      refine ⟨fun _ => rfl, ?_, fun _ waits => (by cases waits), ?_⟩
      · intro opened
        rw [issue, raised] at opened
        cases opened
      · intro text nonempty fed
        rcases faithful.clean text nonempty fed with ⟨other, found, same⟩ | ⟨empty, _⟩
        · cases waits.symm.trans found
          exact Or.inr ⟨rfl, _, rfl, same, fun valid => by cases valid⟩
        · rw [waits] at empty
          cases empty

theorem pollDue_faithful {pipeline : Pipeline} {latest : Option Feed} (now : Nat)
    (faithful : pipeline.GateFaithful latest) : (pipeline.pollDue now).1.GateFaithful latest := by
  rcases pollDue_eq pipeline now with idle | fires
  · rw [idle]
    exact faithful
  · rw [fires]
    exact fireNow_faithful faithful

/-- A verdict on an open request finds the gate up, and opens it only if the verdict is valid and
nothing waits. -/
theorem record_faithful {pipeline : Pipeline} {latest : Option Feed} {issued : Issued}
    (verdict : Verdict) (faithful : pipeline.GateFaithful latest)
    (last : pipeline.lastIssued = some issued) (isOpen : issued.verdict = none) :
    (pipeline.record issued verdict).GateFaithful latest := by
  have raised : pipeline.gate = true := faithful.unverified_raises last (by simp [isOpen])
  have opened : (pipeline.record issued verdict).gate = false ↔
      verdict = .valid ∧ pipeline.pending = none := by
    cases verdict <;> simp [record, gateAfter, raised]
  refine ⟨fun gate => (opened.mp gate).2, ?_, ?_, ?_⟩
  · intro gate other found
    cases found
    rw [(opened.mp gate).1]
  · intro pending waits
    have different := faithful.fresh pending waits
    rw [last] at different
    exact different
  · intro text nonempty fed
    rcases faithful.clean text nonempty fed with waits | ⟨empty, other, found, same, _⟩
    · exact Or.inl waits
    · cases last.symm.trans found
      refine Or.inr ⟨empty, _, rfl, same, ?_⟩
      intro valid
      exact opened.mpr ⟨Option.some.inj valid, empty⟩

theorem settle_faithful {pipeline : Pipeline} {latest : Option Feed} (number : Nat)
    (verdict : Verdict) (faithful : pipeline.GateFaithful latest) :
    (pipeline.settle number verdict).1.GateFaithful latest := by
  rcases settle_cases pipeline number verdict with dropped | ⟨issued, last, _, isOpen, recorded⟩
  · rw [dropped]
    exact faithful
  · rw [recorded]
    exact record_faithful verdict faithful last isOpen

theorem abandon_faithful {pipeline : Pipeline} {latest : Option Feed}
    (faithful : pipeline.GateFaithful latest) : pipeline.abandon.GateFaithful latest := by
  rcases abandon_eq pipeline with same | ⟨issued, last, isOpen, recorded⟩
  · rw [same]
    exact faithful
  · rw [recorded]
    exact record_faithful .failed faithful last isOpen

theorem perform_faithful {pipeline : Pipeline} {latest : Option Feed} (operation : Operation)
    (faithful : pipeline.GateFaithful latest) :
    (pipeline.perform operation).GateFaithful (operation.feed latest) := by
  cases operation with
  | content text localError now => exact onContent_faithful text localError now faithful
  | poll now => exact pollDue_faithful now faithful
  | fire => exact fireNow_faithful faithful
  | settle number verdict => exact settle_faithful number verdict faithful
  | abandon => exact abandon_faithful faithful

theorem performAll_faithful {pipeline : Pipeline} {latest : Option Feed}
    (operations : List Operation) (faithful : pipeline.GateFaithful latest) :
    (pipeline.performAll operations).GateFaithful (feedAfter latest operations) := by
  induction operations generalizing pipeline latest with
  | nil => exact faithful
  | cons operation rest ih => exact ih (perform_faithful operation faithful)

/-! ## The gate of every reachable pipeline -/

/-- The gate is open after a content that may be sent exactly if the latest request is for that
content and was found valid. -/
theorem GateFaithful.open_iff {pipeline : Pipeline} {latest : Option Feed} {text : Text}
    (faithful : pipeline.GateFaithful latest) (nonempty : text ≠ [])
    (fed : latest = some ⟨text, false⟩) :
    pipeline.gate = false ↔ ∃ issued, pipeline.lastIssued = some issued ∧
      issued.content = text ∧ issued.verdict = some .valid := by
  constructor
  · intro opened
    rcases faithful.clean text nonempty fed with ⟨pending, waits, _⟩ | ⟨_, issued, last, same, _⟩
    · rw [faithful.open_pending opened] at waits
      cases waits
    · exact ⟨issued, last, same, faithful.open_valid opened issued last⟩
  · rintro ⟨issued, last, same, valid⟩
    rcases faithful.clean text nonempty fed with ⟨pending, waits, equal⟩ | ⟨_, other, found, _, opens⟩
    · have different := faithful.fresh pending waits
      rw [last, equal, Option.map_some, same] at different
      exact absurd rfl different
    · cases last.symm.trans found
      exact opens valid

/-- Whatever was asked of a pipeline: if the latest content may be sent, the gate is open exactly if
the latest request is for that content and was found valid; and an open gate always means that
nothing waits and that the latest request, if anything was ever issued, was found valid. -/
theorem gate_open_of_run (window : Nat) (operations : List Operation) :
    (∀ text, text ≠ [] → feedAfter none operations = some ⟨text, false⟩ →
      (((start window).performAll operations).gate = false ↔
        ∃ issued, ((start window).performAll operations).lastIssued = some issued ∧
          issued.content = text ∧ issued.verdict = some .valid)) ∧
    (((start window).performAll operations).gate = false →
      ((start window).performAll operations).pending = none ∧
        (((start window).performAll operations).lastIssued = none ∨
          ∃ issued, ((start window).performAll operations).lastIssued = some issued ∧
            issued.verdict = some .valid)) := by
  have faithful := performAll_faithful operations (start_faithful window)
  refine ⟨fun text nonempty fed => faithful.open_iff nonempty fed, fun opened => ?_⟩
  refine ⟨faithful.open_pending opened, ?_⟩
  cases last : ((start window).performAll operations).lastIssued with
  | none => exact Or.inl rfl
  | some issued => exact Or.inr ⟨issued, rfl, faithful.open_valid opened issued last⟩

/-- The text `a` is sent, replaced by `b` before its answer comes, and restored before `b` is sent:
the gate is open again. -/
theorem gate_open_after_return :
    let operations : List Operation :=
      [.content ['a'] false 0, .fire, .content ['b'] false 10, .settle 1 .valid,
        .content ['a'] false 20]
    feedAfter none operations = some ⟨['a'], false⟩ ∧
      ((start 500).performAll operations).gate = false := by
  intro operations
  have fed : feedAfter none operations = some ⟨['a'], false⟩ := rfl
  exact ⟨fed, ((gate_open_of_run 500 operations).1 ['a'] (by decide) fed).mpr ⟨_, rfl, rfl, rfl⟩⟩

end StrategyDesk.Pipeline
