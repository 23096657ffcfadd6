import StrategyDesk.Proofs.Pipeline.Gate
import StrategyDesk.Proofs.Pipeline.Waiting

/-!
# Contents that pass

A content that is replaced before it is sent passes. What waits afterwards and what was sent last do
not depend on the contents that passed. The gate does not either after a content that may be sent,
but a content that is empty or has errors keeps the gate as the contents that passed left it.
-/

set_option autoImplicit false

namespace StrategyDesk.Pipeline

/-- The gate of a pipeline, the content that waits, and the latest request. -/
def outlook (pipeline : Pipeline) : Bool × Option Text × Option Issued :=
  (pipeline.gate, pipeline.pending.map Pending.content, pipeline.lastIssued)

/-- What a content that may be sent leads to after a latest request. -/
def sendableOutlook (last : Option Issued) (text : Text) : Bool × Option Text × Option Issued :=
  if last.map Issued.content = some text then
    (decide (last.bind Issued.verdict ≠ some .valid), none, last)
  else (true, some text, last)

/-- Whether a content changes the gate: one that may be sent lowers it if it is what was found valid
last, and raises it if it is not what was sent last. -/
def ShiftsGate (pipeline : Pipeline) (text : Text) (localError : Bool) : Prop :=
  text ≠ [] ∧ localError = false ∧
    if pipeline.gate then
      ∃ issued, pipeline.lastIssued = some issued ∧ issued.content = text ∧
        issued.verdict = some .valid
    else pipeline.lastContent? ≠ some text

def arrivals (passing : List (Feed × Nat)) : List Operation :=
  passing.map fun (feed, moment) => .content feed.text feed.localError moment

theorem performAll_arrivals_lastIssued (pipeline : Pipeline) (passing : List (Feed × Nat)) :
    (pipeline.performAll (arrivals passing)).lastIssued = pipeline.lastIssued := by
  induction passing generalizing pipeline with
  | nil => rfl
  | cons first rest ih =>
      have kept := (onContent_requests pipeline first.1.text first.1.localError first.2).1
      exact (ih _).trans kept

/-! ## The second content alone decides -/

theorem onContent_withheld {pipeline : Pipeline} {text : Text} {localError : Bool}
    (unsendable : ¬ (text ≠ [] ∧ localError = false)) (now : Nat) :
    (pipeline.onContent text localError now).1 = { pipeline with pending := none } := by
  have effect := onContent_effect pipeline text localError now
  generalize (pipeline.onContent text localError now).1 = next at effect ⊢
  cases effect with
  | withheld _ => rfl
  | returned issued nonempty clean last same => exact absurd ⟨nonempty, clean⟩ unsendable
  | waiting pending nonempty clean waits same => exact absurd ⟨nonempty, clean⟩ unsendable
  | scheduled nonempty clean new => exact absurd ⟨nonempty, clean⟩ unsendable

/-- After a content that may be sent, nothing but the latest request matters of what was before. -/
theorem onContent_sendable {pipeline : Pipeline} {latest : Option Feed} {text : Text}
    (faithful : pipeline.GateFaithful latest) (nonempty : text ≠ []) (now : Nat) :
    (pipeline.onContent text false now).1.outlook = sendableOutlook pipeline.lastIssued text := by
  have effect := onContent_effect pipeline text false now
  generalize (pipeline.onContent text false now).1 = next at effect ⊢
  cases effect with
  | withheld unsent =>
      rcases unsent with empty | flagged
      · exact absurd empty nonempty
      · cases flagged
  | returned issued _ clean last same =>
      have sent : pipeline.lastIssued.map Issued.content = some text := by
        rw [last, Option.map_some, same]
      have gate : pipeline.restoredGate = decide (issued.verdict ≠ some .valid) := by
        have lowered := restoredGate_eq_false faithful last
        by_cases valid : issued.verdict = some .valid
        · simp [lowered.mpr valid, valid]
        · have raised : pipeline.restoredGate = true :=
            (Bool.not_eq_false _).mp (mt lowered.mp valid)
          simp [raised, valid]
      rw [sendableOutlook, if_pos sent, outlook, gate, last]
      rfl
  | waiting pending _ clean waits same =>
      have new : pipeline.lastIssued.map Issued.content ≠ some text :=
        same ▸ faithful.fresh pending waits
      rw [sendableOutlook, if_neg new, outlook, faithful.pending_raises waits, waits,
        Option.map_some, same]
  | scheduled _ clean new =>
      rw [sendableOutlook, if_neg new]
      rfl

/-! ## What a content does to the gate -/

theorem onContent_gate_eq_iff {pipeline : Pipeline} {latest : Option Feed}
    (faithful : pipeline.GateFaithful latest) (text : Text) (localError : Bool) (now : Nat) :
    (pipeline.onContent text localError now).1.gate = pipeline.gate ↔
      ¬ pipeline.ShiftsGate text localError := by
  by_cases sendable : text ≠ [] ∧ localError = false
  · obtain ⟨nonempty, rfl⟩ := sendable
    have gate : (pipeline.onContent text false now).1.gate =
        (sendableOutlook pipeline.lastIssued text).1 :=
      congrArg Prod.fst (onContent_sendable faithful nonempty now)
    rw [gate]
    unfold sendableOutlook ShiftsGate lastContent?
    cases last : pipeline.lastIssued with
    | none => cases pipeline.gate <;> simp [nonempty]
    | some issued =>
        by_cases same : issued.content = text
        · by_cases valid : issued.verdict = some .valid
          · cases pipeline.gate <;> simp [nonempty, same, valid]
          · have raised := faithful.unverified_raises last valid
            simp [same, valid, raised]
        · cases pipeline.gate <;> simp [nonempty, same]
  · rw [onContent_withheld sendable now]
    exact ⟨fun _ shifts => sendable ⟨shifts.1, shifts.2.1⟩, fun _ => rfl⟩

/-- Whatever was asked of a pipeline, contents that pass leave no trace in what waits and in the
latest request, whatever content comes next. They leave none in the gate exactly if that content may
be sent or they left the gate as it was; and a content leaves the gate as it was exactly if it does
not raise it by waiting, and does not lower it by being what was found valid last. -/
theorem passing_traceless_iff (window : Nat) (operations : List Operation)
    (passing : List (Feed × Nat)) (text : Text) (localError : Bool) (now : Nat) :
    let pipeline := (start window).performAll operations
    let passed := pipeline.performAll (arrivals passing)
    let direct := (pipeline.onContent text localError now).1
    let later := (passed.onContent text localError now).1
    (later.pending.map Pending.content = direct.pending.map Pending.content ∧
      later.lastIssued = direct.lastIssued) ∧
    (later.outlook = direct.outlook ↔
      text ≠ [] ∧ localError = false ∨ passed.gate = pipeline.gate) ∧
    ∀ first firstError earlier,
      (pipeline.onContent first firstError earlier).1.gate = pipeline.gate ↔
        ¬ pipeline.ShiftsGate first firstError := by
  intro pipeline passed direct later
  have faithful := performAll_faithful operations (start_faithful window)
  have stillFaithful : passed.GateFaithful _ := performAll_faithful (arrivals passing) faithful
  have last : passed.lastIssued = pipeline.lastIssued :=
    performAll_arrivals_lastIssued pipeline passing
  have shifts := onContent_gate_eq_iff faithful
  by_cases sendable : text ≠ [] ∧ localError = false
  · obtain ⟨nonempty, rfl⟩ := sendable
    have same : later.outlook = direct.outlook := by
      calc later.outlook
          = sendableOutlook passed.lastIssued text := onContent_sendable stillFaithful nonempty now
        _ = sendableOutlook pipeline.lastIssued text := by rw [last]
        _ = direct.outlook := (onContent_sendable faithful nonempty now).symm
    refine ⟨?_, ⟨fun _ => Or.inl ⟨nonempty, rfl⟩, fun _ => same⟩, shifts⟩
    exact ⟨congrArg (fun seen => seen.2.1) same, congrArg (fun seen => seen.2.2) same⟩
  · have before : direct = { pipeline with pending := none } := onContent_withheld sendable now
    have after : later = { passed with pending := none } := onContent_withheld sendable now
    rw [before, after]
    refine ⟨⟨rfl, last⟩, ?_, shifts⟩
    simp only [outlook, last, Prod.mk.injEq, and_true, sendable, false_or]

/-- The text `a` waits and is withdrawn for an empty text: the gate stays up, and would be open had
the text been empty from the start. -/
theorem withdrawn_content_keeps_gate_up :
    let passed := (start 500).performAll (arrivals [(⟨['a'], false⟩, 0)])
    let later := (passed.onContent [] false 100).1
    let direct := ((start 500).onContent [] false 100).1
    later.outlook ≠ direct.outlook ∧ later.gate = true ∧ later.isIdle = true ∧
      direct.gate = false := by
  intro passed later direct
  have traceless := (passing_traceless_iff 500 [] [(⟨['a'], false⟩, 0)] [] false 100).2.1
  refine ⟨fun same => ?_, rfl, rfl, rfl⟩
  exact absurd (traceless.mp same) (by decide)

end StrategyDesk.Pipeline
