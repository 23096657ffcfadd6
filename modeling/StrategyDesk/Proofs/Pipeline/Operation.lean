import StrategyDesk.Validation.Pipeline

/-!
# Runs of a pipeline

A pipeline is driven by five operations. This module names them as data, lets a pipeline carry out a
list of them, and states for each operation everything that it may do, so that what holds of every
run can be proved one operation at a time.
-/

set_option autoImplicit false

namespace StrategyDesk

/-- A content that a pipeline took in, and whether the sandbox found errors in it. -/
structure Feed where
  text : Text
  localError : Bool
deriving DecidableEq, Repr

namespace Pipeline

inductive Operation where
  | content (text : Text) (localError : Bool) (now : Nat)
  | poll (now : Nat)
  | fire
  | settle (number : Nat) (verdict : Verdict)
  | abandon
deriving DecidableEq, Repr

def perform (pipeline : Pipeline) : Operation → Pipeline
  | .content text localError now => (pipeline.onContent text localError now).1
  | .poll now => (pipeline.pollDue now).1
  | .fire => pipeline.fireNow.1
  | .settle number verdict => (pipeline.settle number verdict).1
  | .abandon => pipeline.abandon

def performAll (pipeline : Pipeline) : List Operation → Pipeline
  | [] => pipeline
  | operation :: rest => (pipeline.perform operation).performAll rest

/-- The latest content after an operation, given the latest one before it. -/
def Operation.feed (latest : Option Feed) : Operation → Option Feed
  | .content text localError _ => some ⟨text, localError⟩
  | _ => latest

def feedAfter (latest : Option Feed) : List Operation → Option Feed
  | [] => latest
  | operation :: rest => feedAfter (operation.feed latest) rest

/-! ## What each operation may do -/

theorem skipReason?_eq_sameAsIssued {pipeline : Pipeline} {content : Text} {localError : Bool}
    (same : pipeline.skipReason? content localError = some .sameAsIssued) :
    content ≠ [] ∧ localError = false ∧
      ∃ issued, pipeline.lastIssued = some issued ∧ issued.content = content := by
  unfold skipReason? at same
  split at same
  · cases same
  next nonempty =>
    split at same
    · cases same
    next clean =>
      split at same
      next issuedBefore =>
        obtain ⟨issued, found, equal⟩ := Option.map_eq_some_iff.mp issuedBefore
        exact ⟨nonempty, Bool.eq_false_iff.mpr clean, issued, found, equal⟩
      · cases same

theorem skipReason?_eq_none {pipeline : Pipeline} {content : Text} {localError : Bool}
    (sent : pipeline.skipReason? content localError = none) :
    content ≠ [] ∧ localError = false ∧
      pipeline.lastIssued.map Issued.content ≠ some content := by
  unfold skipReason? at sent
  split at sent
  · cases sent
  next nonempty =>
    split at sent
    · cases sent
    next clean =>
      split at sent
      · cases sent
      next different => exact ⟨nonempty, Bool.eq_false_iff.mpr clean, different⟩

theorem skipReason?_eq_other {pipeline : Pipeline} {content : Text} {localError : Bool}
    {reason : SkipReason} (skipped : pipeline.skipReason? content localError = some reason)
    (other : reason ≠ .sameAsIssued) : content = [] ∨ localError = true := by
  unfold skipReason? at skipped
  split at skipped
  next empty => exact Or.inl empty
  next =>
    split at skipped
    next flagged => exact Or.inr flagged
    next =>
      split at skipped
      · exact absurd (Option.some.inj skipped).symm other
      · cases skipped

/-- What becomes of a pipeline that takes in a content. -/
inductive ContentEffect (pipeline : Pipeline) (content : Text) (localError : Bool) (now : Nat) :
    Pipeline → Prop where
  | withheld (unsent : content = [] ∨ localError = true) :
      ContentEffect pipeline content localError now { pipeline with pending := none }
  | returned (issued : Issued) (nonempty : content ≠ []) (clean : localError = false)
      (last : pipeline.lastIssued = some issued) (same : issued.content = content) :
      ContentEffect pipeline content localError now
        { pipeline with pending := none, gate := pipeline.restoredGate }
  | waiting (pending : Pending) (nonempty : content ≠ []) (clean : localError = false)
      (waits : pipeline.pending = some pending) (same : pending.content = content) :
      ContentEffect pipeline content localError now pipeline
  | scheduled (nonempty : content ≠ []) (clean : localError = false)
      (new : pipeline.lastIssued.map Issued.content ≠ some content) :
      ContentEffect pipeline content localError now
        { pipeline with pending := some ⟨content, now + pipeline.window⟩, gate := true }

theorem onContent_effect (pipeline : Pipeline) (content : Text) (localError : Bool) (now : Nat) :
    ContentEffect pipeline content localError now
      (pipeline.onContent content localError now).1 := by
  unfold onContent
  split
  next same =>
    obtain ⟨nonempty, clean, issued, last, equal⟩ := skipReason?_eq_sameAsIssued same
    exact .returned issued nonempty clean last equal
  next reason other skipped => exact .withheld (skipReason?_eq_other skipped other)
  next sent =>
    obtain ⟨nonempty, clean, new⟩ := skipReason?_eq_none sent
    split
    next waits =>
      obtain ⟨pending, found, equal⟩ := Option.map_eq_some_iff.mp waits
      exact .waiting pending nonempty clean found equal
    · exact .scheduled nonempty clean new

theorem onContent_requests (pipeline : Pipeline) (content : Text) (localError : Bool)
    (now : Nat) :
    (pipeline.onContent content localError now).1.lastIssued = pipeline.lastIssued ∧
      (pipeline.onContent content localError now).1.nextNumber = pipeline.nextNumber := by
  have effect := onContent_effect pipeline content localError now
  generalize (pipeline.onContent content localError now).1 = next at effect ⊢
  cases effect <;> exact ⟨rfl, rfl⟩

def issue (pipeline : Pipeline) (pending : Pending) : Pipeline :=
  { pipeline with
      pending := none
      lastIssued := some ⟨pipeline.nextNumber, pending.content, none⟩
      nextNumber := pipeline.nextNumber + 1 }

theorem fireNow_of_none {pipeline : Pipeline} (none_waits : pipeline.pending = none) :
    pipeline.fireNow = (pipeline, none) := by
  simp only [fireNow, none_waits]

theorem fireNow_of_some {pipeline : Pipeline} {pending : Pending}
    (waits : pipeline.pending = some pending) :
    pipeline.fireNow =
      (pipeline.issue pending, some ⟨pipeline.nextNumber, pending.content⟩) := by
  simp only [fireNow, waits, issue]

theorem pollDue_of_due {pipeline : Pipeline} {pending : Pending} {now : Nat}
    (waits : pipeline.pending = some pending) (due : pending.deadline ≤ now) :
    pipeline.pollDue now = pipeline.fireNow := by
  simp [pollDue, waits, due]

theorem pollDue_of_early {pipeline : Pipeline} {now : Nat}
    (early : ∀ pending, pipeline.pending = some pending → now < pending.deadline) :
    pipeline.pollDue now = (pipeline, none) := by
  cases waits : pipeline.pending with
  | none => simp [pollDue, waits]
  | some pending =>
      have later : ¬ pending.deadline ≤ now := Nat.not_le.mpr (early pending waits)
      simp [pollDue, waits, later]

theorem pollDue_eq (pipeline : Pipeline) (now : Nat) :
    pipeline.pollDue now = (pipeline, none) ∨ pipeline.pollDue now = pipeline.fireNow := by
  unfold pollDue
  split
  · exact Or.inr rfl
  · exact Or.inl rfl

def record (pipeline : Pipeline) (issued : Issued) (verdict : Verdict) : Pipeline :=
  { pipeline with
      lastIssued := some { issued with verdict := some verdict }
      gate := pipeline.gateAfter verdict }

theorem settle_of_open {pipeline : Pipeline} {issued : Issued} (verdict : Verdict)
    (last : pipeline.lastIssued = some issued) (isOpen : issued.verdict = none) :
    pipeline.settle issued.number verdict = (pipeline.record issued verdict, true) := by
  simp [settle, last, isOpen, record]

/-- A verdict counts exactly if it is on the latest request and that request has none. -/
theorem settle_accepts_iff (pipeline : Pipeline) (number : Nat) (verdict : Verdict) :
    (pipeline.settle number verdict).2 = true ↔
      ∃ issued, pipeline.lastIssued = some issued ∧ issued.number = number ∧
        issued.verdict = none := by
  constructor
  · intro accepted
    unfold settle at accepted
    split at accepted
    · cases accepted
    next issued last =>
      split at accepted
      · cases accepted
      next counts =>
        rw [not_or, Decidable.not_not, Bool.not_eq_true, Option.isSome_eq_false_iff,
          Option.isNone_iff_eq_none] at counts
        exact ⟨issued, last, counts.1, counts.2⟩
  · rintro ⟨issued, last, rfl, isOpen⟩
    rw [settle_of_open verdict last isOpen]

theorem settle_rejected {pipeline : Pipeline} {number : Nat} {verdict : Verdict}
    (refused : (pipeline.settle number verdict).2 = false) :
    pipeline.settle number verdict = (pipeline, false) := by
  unfold settle at refused ⊢
  split
  · rfl
  next issued last =>
    split
    · rfl
    next counts => simp only [last, if_neg counts] at refused; cases refused

/-- A verdict does not count and changes nothing, or it is recorded for the latest request. -/
theorem settle_cases (pipeline : Pipeline) (number : Nat) (verdict : Verdict) :
    pipeline.settle number verdict = (pipeline, false) ∨
      ∃ issued, pipeline.lastIssued = some issued ∧ issued.number = number ∧
        issued.verdict = none ∧
        pipeline.settle number verdict = (pipeline.record issued verdict, true) := by
  cases accepted : (pipeline.settle number verdict).2 with
  | false => exact Or.inl (settle_rejected accepted)
  | true =>
      obtain ⟨issued, last, rfl, isOpen⟩ := (settle_accepts_iff _ _ _).mp accepted
      exact Or.inr ⟨issued, last, rfl, isOpen, settle_of_open verdict last isOpen⟩

theorem not_open_of_dropped {pipeline : Pipeline} {number : Nat} {verdict : Verdict}
    {issued : Issued} (dropped : pipeline.settle number verdict = (pipeline, false))
    (last : pipeline.lastIssued = some issued) (same : issued.number = number) :
    issued.verdict ≠ none := by
  intro isOpen
  rw [← same, settle_of_open verdict last isOpen] at dropped
  cases congrArg Prod.snd dropped

theorem settle_upcoming (pipeline : Pipeline) (number : Nat) (verdict : Verdict) :
    (pipeline.settle number verdict).1.pending = pipeline.pending ∧
      (pipeline.settle number verdict).1.nextNumber = pipeline.nextNumber := by
  rcases settle_cases pipeline number verdict with dropped | ⟨issued, _, _, _, recorded⟩
  · rw [dropped]
    exact ⟨rfl, rfl⟩
  · rw [recorded]
    exact ⟨rfl, rfl⟩

theorem abandon_eq (pipeline : Pipeline) :
    pipeline.abandon = pipeline ∨
      ∃ issued, pipeline.lastIssued = some issued ∧ issued.verdict = none ∧
        pipeline.abandon = pipeline.record issued .failed := by
  unfold abandon
  split
  next issued last =>
    split
    next isOpen =>
      have unanswered : issued.verdict = none := Option.isNone_iff_eq_none.mp isOpen
      exact Or.inr ⟨issued, last, unanswered, by rw [settle_of_open _ last unanswered]⟩
    · exact Or.inl rfl
  · exact Or.inl rfl

theorem abandon_upcoming (pipeline : Pipeline) :
    pipeline.abandon.pending = pipeline.pending ∧
      pipeline.abandon.nextNumber = pipeline.nextNumber := by
  rcases abandon_eq pipeline with same | ⟨issued, _, _, recorded⟩
  · rw [same]
    exact ⟨rfl, rfl⟩
  · rw [recorded]
    exact ⟨rfl, rfl⟩

end Pipeline

end StrategyDesk
