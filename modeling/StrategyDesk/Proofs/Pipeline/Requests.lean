import StrategyDesk.Proofs.Pipeline.Waiting

/-!
# The requests of a run

The requests of a run are numbered from 1 on. Each is for the content that came in last, which is
not empty and has no errors, and differs from the request before it. A request is issued only after
a window was begun for it, so that a content that keeps coming in is sent once.
-/

set_option autoImplicit false

namespace StrategyDesk.Pipeline

/-- What becomes of the content that an operation brings, if it brings one. -/
def decision? (pipeline : Pipeline) : Operation → Option Decision
  | .content text localError now => some (pipeline.onContent text localError now).2
  | _ => none

def dispatchesAlong (pipeline : Pipeline) : List Operation → List Dispatch
  | [] => []
  | operation :: rest =>
      (pipeline.dispatch? operation).toList ++ (pipeline.perform operation).dispatchesAlong rest

def decisionsAlong (pipeline : Pipeline) : List Operation → List Decision
  | [] => []
  | operation :: rest =>
      (pipeline.decision? operation).toList ++ (pipeline.perform operation).decisionsAlong rest

/-! ## Numbers and contents -/

/-- What a pipeline knows about the requests that it issued. -/
structure HasIssued (pipeline : Pipeline) (issued : List Dispatch) : Prop where
  numbers : issued.map Dispatch.number = List.range' 1 issued.length
  upcoming : pipeline.nextNumber = issued.length + 1
  last : pipeline.lastContent? = issued.getLast?.map Dispatch.content

theorem start_hasIssued (window : Nat) : (start window).HasIssued [] where
  numbers := rfl
  upcoming := rfl
  last := rfl

theorem Progress.hasIssued {pipeline next : Pipeline} {issued : List Dispatch}
    {request? : Option Dispatch} (progress : Progress pipeline next request?)
    (known : pipeline.HasIssued issued) : next.HasIssued (issued ++ request?.toList) := by
  cases progress with
  | quiet pending last number =>
      rw [Option.toList_none, List.append_nil]
      exact ⟨known.numbers, number.trans known.upcoming, last.trans known.last⟩
  | issued pending waits empty last number =>
      refine ⟨?_, ?_, ?_⟩
      · simp [known.numbers, known.upcoming, List.range'_1_concat, Nat.add_comm]
      · simp [number, known.upcoming]
      · simp [last]

theorem perform_hasIssued {pipeline : Pipeline} {issued : List Dispatch} (operation : Operation)
    (known : pipeline.HasIssued issued) :
    (pipeline.perform operation).HasIssued
      (issued ++ (pipeline.dispatch? operation).toList) := by
  rcases perform_cases pipeline operation with ⟨text, localError, now, rfl⟩ | ⟨_, progress⟩
  · rw [dispatch?_content, Option.toList_none, List.append_nil]
    exact ⟨known.numbers, (onContent_requests _ _ _ _).2.trans known.upcoming,
      (onContent_lastContent? _ _ _ _).trans known.last⟩
  · exact progress.hasIssued known

theorem performAll_hasIssued {pipeline : Pipeline} {issued : List Dispatch}
    (operations : List Operation) (known : pipeline.HasIssued issued) :
    (pipeline.performAll operations).HasIssued
      (issued ++ pipeline.dispatchesAlong operations) := by
  induction operations generalizing pipeline issued with
  | nil =>
      rw [dispatchesAlong, List.append_nil]
      exact known
  | cons operation rest ih =>
      rw [dispatchesAlong, ← List.append_assoc]
      exact ih (perform_hasIssued operation known)

theorem dispatch?_eq_some {pipeline : Pipeline} {operation : Operation} {request : Dispatch}
    (issued : pipeline.dispatch? operation = some request) :
    (∃ pending, pipeline.pending = some pending ∧
        request = ⟨pipeline.nextNumber, pending.content⟩) ∧
      (pipeline.perform operation).pending = none := by
  rcases perform_cases pipeline operation with ⟨text, localError, now, rfl⟩ | ⟨_, progress⟩
  · cases issued
  · rw [issued] at progress
    cases progress with
    | issued pending waits empty last number => exact ⟨⟨pending, waits, rfl⟩, empty⟩

/-! ## The window before a request -/

/-- Where nothing waits, only a content for which a window begins can wait afterwards. -/
theorem onContent_unscheduled {pipeline : Pipeline} {text : Text} {localError : Bool} {now : Nat}
    (idle : pipeline.pending = none)
    (unscheduled : (pipeline.onContent text localError now).2 ≠ .scheduled) :
    (pipeline.onContent text localError now).1.pending = none := by
  unfold onContent at unscheduled ⊢
  split
  · rfl
  · rfl
  next sent =>
    rw [sent] at unscheduled
    simp [idle] at unscheduled

theorem performAll_idle {pipeline : Pipeline} {operations : List Operation}
    (idle : pipeline.pending = none)
    (unscheduled : .scheduled ∉ pipeline.decisionsAlong operations) :
    (pipeline.performAll operations).pending = none := by
  induction operations generalizing pipeline with
  | nil => exact idle
  | cons operation rest ih =>
      rw [decisionsAlong, List.mem_append, not_or] at unscheduled
      obtain ⟨here, later⟩ := unscheduled
      refine ih ?_ later
      rcases perform_cases pipeline operation with ⟨text, localError, now, rfl⟩ | ⟨_, progress⟩
      · refine onContent_unscheduled idle fun scheduled => here ?_
        rw [decision?, scheduled]
        exact List.mem_singleton_self _
      · generalize pipeline.dispatch? operation = request? at progress
        cases progress with
        | quiet pending last number => exact pending.trans idle
        | issued pending waits empty last number => exact empty

/-! ## A content that keeps coming in -/

/-- What was sent last is not sent again while no other content comes in. -/
theorem dispatchesAlong_of_sent {pipeline : Pipeline} {text : Text} {repeats : List Operation}
    (idle : pipeline.pending = none) (sent : pipeline.lastContent? = some text)
    (only : ∀ other flag moment, .content other flag moment ∈ repeats → other = text) :
    pipeline.dispatchesAlong repeats = [] := by
  induction repeats generalizing pipeline with
  | nil => rfl
  | cons operation rest ih =>
      have onlyRest : ∀ other flag moment, .content other flag moment ∈ rest → other = text :=
        fun other flag moment member => only other flag moment (List.mem_cons_of_mem _ member)
      rw [dispatchesAlong]
      rcases perform_cases pipeline operation with ⟨other, localError, now, rfl⟩ | ⟨_, progress⟩
      · have same : other = text := only other localError now List.mem_cons_self
        have unsent : ¬ (other ≠ [] ∧ localError = false ∧
            pipeline.lastContent? ≠ some other) := by
          rintro ⟨_, _, new⟩
          exact new (same ▸ sent)
        rw [dispatch?_content, Option.toList_none, List.nil_append]
        exact ih (onContent_unsent unsent now) ((onContent_lastContent? _ _ _ _).trans sent)
          onlyRest
      · generalize pipeline.dispatch? operation = request? at progress ⊢
        cases progress with
        | quiet pending last number =>
            rw [Option.toList_none, List.nil_append]
            exact ih (pending.trans idle) (last.trans sent) onlyRest
        | issued pending waits empty last number =>
            rw [idle] at waits
            cases waits

theorem dispatchesAlong_of_repeats {pipeline : Pipeline} {text : Text} {repeats : List Operation}
    (holds : ∀ pending, pipeline.pending = some pending → pending.content = text)
    (only : ∀ other flag moment, .content other flag moment ∈ repeats → other = text) :
    pipeline.dispatchesAlong repeats = [] ∨
      pipeline.dispatchesAlong repeats = [⟨pipeline.nextNumber, text⟩] := by
  induction repeats generalizing pipeline with
  | nil => exact Or.inl rfl
  | cons operation rest ih =>
      have onlyRest : ∀ other flag moment, .content other flag moment ∈ rest → other = text :=
        fun other flag moment member => only other flag moment (List.mem_cons_of_mem _ member)
      rw [dispatchesAlong]
      rcases perform_cases pipeline operation with ⟨other, localError, now, rfl⟩ | ⟨_, progress⟩
      · have same : other = text := only other localError now List.mem_cons_self
        rw [dispatch?_content, Option.toList_none, List.nil_append,
          ← (onContent_requests pipeline other localError now).2]
        exact ih (fun pending found => (onContent_holds found).trans same) onlyRest
      · generalize pipeline.dispatch? operation = request? at progress ⊢
        cases progress with
        | quiet pending last number =>
            rw [Option.toList_none, List.nil_append, ← number]
            exact ih (fun waiting found => holds waiting (pending ▸ found)) onlyRest
        | issued pending waits empty last number =>
            have same := holds pending waits
            rw [same] at last ⊢
            rw [dispatchesAlong_of_sent empty last onlyRest]
            exact Or.inr rfl

/-! ## The requests of every run -/

theorem HasIssued.next {pipeline : Pipeline} {issued : List Dispatch} {latest : Option Streak}
    {operation : Operation} {request : Dispatch} (known : pipeline.HasIssued issued)
    (waits : pipeline.Waits latest) (issues : pipeline.dispatch? operation = some request) :
    request.content ≠ [] ∧ latest.map Streak.feed = some ⟨request.content, false⟩ ∧
      request.number = issued.length + 1 ∧
        ∀ previous, issued.getLast? = some previous → request.content ≠ previous.content := by
  obtain ⟨⟨pending, found, rfl⟩, _⟩ := dispatch?_eq_some issues
  obtain ⟨nonempty, new, since, streak, _⟩ := (waits pending.content pending.deadline).mp found
  refine ⟨nonempty, by rw [streak, Option.map_some], known.upcoming, ?_⟩
  intro previous last same
  rw [known.last, last, Option.map_some] at new
  exact new (congrArg some same.symm)

/-- In every run the requests are numbered 1, 2, 3 and so on. What an operation issues at any point
of a run is for the content that came in last, which is not empty and came in without errors, bears
the next number, and differs from the content of the request before it. Between two requests a
window was begun; and while the same content keeps coming in, with or without errors, it is sent at
most once. -/
theorem requests_of_run (window : Nat) (operations : List Operation) :
    ((start window).dispatchesAlong operations).map Dispatch.number =
      List.range' 1 ((start window).dispatchesAlong operations).length ∧
    (∀ operation request,
      ((start window).performAll operations).dispatch? operation = some request →
        request.content ≠ [] ∧ feedAfter none operations = some ⟨request.content, false⟩ ∧
          request.number = ((start window).dispatchesAlong operations).length + 1 ∧
            ∀ previous, ((start window).dispatchesAlong operations).getLast? = some previous →
              request.content ≠ previous.content) ∧
    (∀ first earlier between second later,
      ((start window).performAll operations).dispatch? first = some earlier →
        (((start window).performAll operations).performAll (first :: between)).dispatch? second =
            some later →
          .scheduled ∈ (((start window).performAll operations).perform first).decisionsAlong
            between) ∧
    (∀ text localError now repeats,
      (∀ other flag moment, .content other flag moment ∈ repeats → other = text) →
        (((start window).performAll operations).dispatchesAlong
          (.content text localError now :: repeats)).length ≤ 1) := by
  have known := performAll_hasIssued operations (start_hasIssued window)
  have waits := performAll_waits operations (start_waits window)
  have feed := streakAfter_feed none operations
  rw [List.nil_append] at known
  rw [Option.map_none] at feed
  refine ⟨known.numbers, ?_, ?_, ?_⟩
  · intro operation request issues
    have next := known.next waits issues
    rw [feed] at next
    exact next
  · intro first earlier between second later issues issuesAgain
    refine Decidable.byContradiction fun unscheduled => ?_
    have idle := performAll_idle (dispatch?_eq_some issues).2 unscheduled
    obtain ⟨⟨pending, found, _⟩, _⟩ := dispatch?_eq_some issuesAgain
    rw [performAll, idle] at found
    cases found
  · intro text localError now repeats only
    rw [dispatchesAlong, dispatch?_content, Option.toList_none, List.nil_append, perform]
    rcases dispatchesAlong_of_repeats (fun pending => onContent_holds) only with nothing | once
    · rw [nothing]
      exact Nat.zero_le 1
    · rw [once]
      exact Nat.le_refl 1

/-- The text `a` is sent, and `b` waits, is withdrawn for an empty text and waits again: the second
request is for `b`, after a window that was begun for it. -/
theorem second_request_after_withdrawal :
    let operations : List Operation := [.content ['a'] false 0]
    let between : List Operation :=
      [.content ['b'] false 600, .content [] false 700, .content ['b'] false 800]
    let all : List Operation := operations ++ .poll 500 :: between
    ((start 500).performAll operations).dispatch? (.poll 500) = some ⟨1, ['a']⟩ ∧
      ((start 500).performAll all).dispatch? .fire = some ⟨2, ['b']⟩ ∧
        feedAfter none all = some ⟨['b'], false⟩ ∧
          .scheduled ∈
            (((start 500).performAll operations).perform (.poll 500)).decisionsAlong between := by
  intro operations between all
  have first : ((start 500).performAll operations).dispatch? (.poll 500) = some ⟨1, ['a']⟩ := rfl
  have second : ((start 500).performAll all).dispatch? .fire = some ⟨2, ['b']⟩ := rfl
  have latest := ((requests_of_run 500 all).2.1 .fire _ second).2.1
  have scheduled :=
    (requests_of_run 500 operations).2.2.1 (.poll 500) _ between .fire _ first second
  exact ⟨first, second, latest, scheduled⟩

end StrategyDesk.Pipeline
