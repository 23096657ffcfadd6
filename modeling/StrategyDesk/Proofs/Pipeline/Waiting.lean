import StrategyDesk.Proofs.Pipeline.Streak

/-!
# What waits in a pipeline

What waits is always the content that came in last. It waits exactly if it may be sent and was not
sent last, and its window began when it came in first, however often it came in again since.
-/

set_option autoImplicit false

namespace StrategyDesk.Pipeline

def dispatch? (pipeline : Pipeline) : Operation → Option Dispatch
  | .poll now => (pipeline.pollDue now).2
  | .fire => pipeline.fireNow.2
  | _ => none

@[simp] theorem dispatch?_content (pipeline : Pipeline) (text : Text) (localError : Bool)
    (now : Nat) : pipeline.dispatch? (.content text localError now) = none := rfl

def lastContent? (pipeline : Pipeline) : Option Text := pipeline.lastIssued.map Issued.content

theorem onContent_lastContent? (pipeline : Pipeline) (text : Text) (localError : Bool)
    (now : Nat) :
    (pipeline.onContent text localError now).1.lastContent? = pipeline.lastContent? :=
  congrArg (Option.map Issued.content) (onContent_requests pipeline text localError now).1

/-! ## What an operation does to what waits -/

theorem skipReason?_eq_none_iff (pipeline : Pipeline) (text : Text) (localError : Bool) :
    pipeline.skipReason? text localError = none ↔
      text ≠ [] ∧ localError = false ∧ pipeline.lastContent? ≠ some text := by
  constructor
  · exact skipReason?_eq_none
  · rintro ⟨nonempty, rfl, new⟩
    have different : pipeline.lastIssued.map Issued.content ≠ some text := new
    simp [skipReason?, nonempty, different]

theorem onContent_sent {pipeline : Pipeline} {text : Text} (nonempty : text ≠ [])
    (new : pipeline.lastContent? ≠ some text) (now : Nat) :
    (pipeline.onContent text false now).1.pending =
      if pipeline.pending.map Pending.content = some text then pipeline.pending
      else some ⟨text, now + pipeline.window⟩ := by
  have sent := (skipReason?_eq_none_iff pipeline text false).mpr ⟨nonempty, rfl, new⟩
  unfold onContent
  rw [sent]
  dsimp only
  split <;> rfl

theorem onContent_unsent {pipeline : Pipeline} {text : Text} {localError : Bool}
    (unsent : ¬ (text ≠ [] ∧ localError = false ∧ pipeline.lastContent? ≠ some text))
    (now : Nat) : (pipeline.onContent text localError now).1.pending = none := by
  rw [← skipReason?_eq_none_iff] at unsent
  unfold onContent
  split
  · rfl
  · rfl
  next sent => exact absurd sent unsent

theorem onContent_holds {pipeline : Pipeline} {text : Text} {localError : Bool} {now : Nat}
    {pending : Pending}
    (found : (pipeline.onContent text localError now).1.pending = some pending) :
    pending.content = text := by
  have effect := onContent_effect pipeline text localError now
  generalize (pipeline.onContent text localError now).1 = next at effect found
  cases effect with
  | withheld unsent => cases found
  | returned issued nonempty clean last same => cases found
  | waiting waiting nonempty clean waits same =>
      cases waits.symm.trans found
      exact same
  | scheduled nonempty clean new =>
      cases found
      rfl

theorem perform_window (pipeline : Pipeline) (operation : Operation) :
    (pipeline.perform operation).window = pipeline.window := by
  have fired : pipeline.fireNow.1.window = pipeline.window := by
    unfold fireNow
    split <;> rfl
  have settled (number : Nat) (verdict : Verdict) :
      (pipeline.settle number verdict).1.window = pipeline.window := by
    unfold settle
    split
    · rfl
    · split <;> rfl
  cases operation with
  | content text localError now =>
      have effect := onContent_effect pipeline text localError now
      show (pipeline.onContent text localError now).1.window = pipeline.window
      generalize (pipeline.onContent text localError now).1 = next at effect ⊢
      cases effect <;> rfl
  | poll now =>
      rcases pollDue_eq pipeline now with idle | fires
      · rw [perform, idle]
      · rw [perform, fires, fired]
  | fire => exact fired
  | settle number verdict => exact settled number verdict
  | abandon =>
      rcases abandon_eq pipeline with same | ⟨issued, _, _, recorded⟩
      · rw [perform, same]
      · rw [perform, recorded]
        rfl

theorem performAll_window (pipeline : Pipeline) (operations : List Operation) :
    (pipeline.performAll operations).window = pipeline.window := by
  induction operations generalizing pipeline with
  | nil => rfl
  | cons operation rest ih => exact (ih _).trans (perform_window _ _)

/-- What an operation that brings no content may do to what waits and to the requests: it issues
what waits, or it leaves all of it alone but for the verdict on the latest request. -/
inductive Progress (pipeline next : Pipeline) : Option Dispatch → Prop where
  | quiet (pending : next.pending = pipeline.pending)
      (last : next.lastContent? = pipeline.lastContent?)
      (number : next.nextNumber = pipeline.nextNumber) : Progress pipeline next none
  | issued (pending : Pending) (waits : pipeline.pending = some pending)
      (empty : next.pending = none) (last : next.lastContent? = some pending.content)
      (number : next.nextNumber = pipeline.nextNumber + 1) :
      Progress pipeline next (some ⟨pipeline.nextNumber, pending.content⟩)

theorem record_progress {pipeline : Pipeline} {issued : Issued} (verdict : Verdict)
    (last : pipeline.lastIssued = some issued) :
    Progress pipeline (pipeline.record issued verdict) none :=
  .quiet rfl (by simp [lastContent?, record, last]) rfl

theorem fire_progress (pipeline : Pipeline) :
    Progress pipeline (pipeline.perform .fire) (pipeline.dispatch? .fire) := by
  rw [perform, dispatch?]
  cases waits : pipeline.pending with
  | none =>
      rw [fireNow_of_none waits]
      exact .quiet rfl rfl rfl
  | some pending =>
      rw [fireNow_of_some waits]
      exact .issued pending waits rfl rfl rfl

theorem settle_progress (pipeline : Pipeline) (number : Nat) (verdict : Verdict) :
    Progress pipeline (pipeline.settle number verdict).1 none := by
  rcases settle_cases pipeline number verdict with dropped | ⟨issued, last, _, _, recorded⟩
  · rw [dropped]
    exact .quiet rfl rfl rfl
  · rw [recorded]
    exact record_progress verdict last

theorem abandon_progress (pipeline : Pipeline) : Progress pipeline pipeline.abandon none := by
  rcases abandon_eq pipeline with same | ⟨issued, last, _, recorded⟩
  · rw [same]
    exact .quiet rfl rfl rfl
  · rw [recorded]
    exact record_progress .failed last

theorem poll_progress (pipeline : Pipeline) (now : Nat) :
    Progress pipeline (pipeline.perform (.poll now)) (pipeline.dispatch? (.poll now)) := by
  rw [perform, dispatch?]
  rcases pollDue_eq pipeline now with idle | fires
  · rw [idle]
    exact .quiet rfl rfl rfl
  · rw [fires]
    exact fire_progress pipeline

theorem perform_cases (pipeline : Pipeline) (operation : Operation) :
    (∃ text localError now, operation = .content text localError now) ∨
      (∀ latest, operation.streak latest = latest) ∧
        Progress pipeline (pipeline.perform operation) (pipeline.dispatch? operation) := by
  cases operation with
  | content text localError now => exact Or.inl ⟨text, localError, now, rfl⟩
  | poll now => exact Or.inr ⟨fun _ => rfl, poll_progress pipeline now⟩
  | fire => exact Or.inr ⟨fun _ => rfl, fire_progress pipeline⟩
  | settle number verdict => exact Or.inr ⟨fun _ => rfl, settle_progress pipeline number verdict⟩
  | abandon => exact Or.inr ⟨fun _ => rfl, abandon_progress pipeline⟩

/-! ## What waits, after every run -/

/-- What waits is the latest content, since it came in first, if it may be sent and is not what was
sent last. -/
def Waits (pipeline : Pipeline) (latest : Option Streak) : Prop :=
  ∀ text deadline, pipeline.pending = some ⟨text, deadline⟩ ↔
    text ≠ [] ∧ pipeline.lastContent? ≠ some text ∧
      ∃ since, latest = some ⟨⟨text, false⟩, since⟩ ∧ deadline = since + pipeline.window

theorem start_waits (window : Nat) : (start window).Waits none := by
  intro text deadline
  simp [start]

theorem onContent_waits {pipeline : Pipeline} {latest : Option Streak} (text : Text)
    (localError : Bool) (now : Nat) (waits : pipeline.Waits latest) :
    (pipeline.perform (.content text localError now)).Waits
      ((Operation.content text localError now).streak latest) := by
  have window := perform_window pipeline (.content text localError now)
  have last : (pipeline.perform (.content text localError now)).lastContent? =
      pipeline.lastContent? := onContent_lastContent? pipeline text localError now
  have feed := streak_feed latest (.content text localError now)
  intro other deadline
  rw [window, last]
  by_cases sent : text ≠ [] ∧ localError = false ∧ pipeline.lastContent? ≠ some text
  · obtain ⟨nonempty, rfl, new⟩ := sent
    have pending := onContent_sent nonempty new now
    rw [perform, pending]
    by_cases again : latest.map Streak.feed = some ⟨text, false⟩
    · -- The content came in before, so it waits already.
      obtain ⟨streak, found, same⟩ := Option.map_eq_some_iff.mp again
      have already : pipeline.pending = some ⟨text, streak.since + pipeline.window⟩ :=
        (waits text _).mpr ⟨nonempty, new, streak.since, by rw [found, ← same], rfl⟩
      have kept : (Operation.content text false now).streak latest = latest := if_pos again
      rw [if_pos (by rw [already]; rfl), kept]
      exact waits other deadline
    · have other_waits : pipeline.pending.map Pending.content ≠ some text := by
        intro already
        obtain ⟨pending, found, same⟩ := Option.map_eq_some_iff.mp already
        obtain ⟨_, _, since, known, _⟩ := (waits pending.content pending.deadline).mp found
        exact again (by rw [known, Option.map_some, same])
      have fresh : (Operation.content text false now).streak latest =
          some ⟨⟨text, false⟩, now⟩ := if_neg again
      rw [if_neg other_waits, fresh]
      constructor
      · intro found
        cases found
        exact ⟨nonempty, new, now, rfl, rfl⟩
      · rintro ⟨_, _, since, found, rfl⟩
        cases found
        rfl
  · rw [perform, onContent_unsent sent]
    constructor
    · intro found
      cases found
    · rintro ⟨nonempty, new, since, found, _⟩
      rw [found, Option.map_some, Operation.feed] at feed
      cases feed
      exact absurd ⟨nonempty, rfl, new⟩ sent

theorem Progress.waits {pipeline next : Pipeline} {latest : Option Streak}
    {request? : Option Dispatch} (progress : Progress pipeline next request?)
    (window : next.window = pipeline.window) (waits : pipeline.Waits latest) :
    next.Waits latest := by
  intro text deadline
  cases progress with
  | quiet pending last number =>
      rw [pending, last, window]
      exact waits text deadline
  | issued pending found empty last number =>
      obtain ⟨_, _, since, known, _⟩ := (waits pending.content pending.deadline).mp found
      rw [empty, last]
      constructor
      · intro absent
        cases absent
      · rintro ⟨_, new, _, same, _⟩
        cases known.symm.trans same
        exact absurd rfl new

theorem perform_waits {pipeline : Pipeline} {latest : Option Streak} (operation : Operation)
    (waits : pipeline.Waits latest) :
    (pipeline.perform operation).Waits (operation.streak latest) := by
  rcases perform_cases pipeline operation with ⟨text, localError, now, rfl⟩ | ⟨same, progress⟩
  · exact onContent_waits text localError now waits
  · rw [same latest]
    exact progress.waits (perform_window pipeline operation) waits

theorem performAll_waits {pipeline : Pipeline} {latest : Option Streak}
    (operations : List Operation) (waits : pipeline.Waits latest) :
    (pipeline.performAll operations).Waits (streakAfter latest operations) := by
  induction operations generalizing pipeline latest with
  | nil => exact waits
  | cons operation rest ih => exact ih (perform_waits operation waits)

end StrategyDesk.Pipeline
