import StrategyDesk.Proofs.Pipeline.Requests

/-!
# The window of quiet

In a run in which time does not go back and nothing is fired by hand, a content is sent a window
after it came in first, and not before; contents that follow each other within a window are sent
once, as the last of them. What carries this is that what waits is always the latest content, since
it came in first.
-/

set_option autoImplicit false

namespace StrategyDesk.Pipeline

theorem performAll_append (pipeline : Pipeline) (first second : List Operation) :
    pipeline.performAll (first ++ second) = (pipeline.performAll first).performAll second := by
  induction first generalizing pipeline with
  | nil => rfl
  | cons operation rest ih => exact ih _

/-! ## When a poll sends -/

theorem poll_issues_iff (pipeline : Pipeline) (now : Nat) (request : Dispatch) :
    pipeline.dispatch? (.poll now) = some request ↔
      ∃ pending, pipeline.pending = some pending ∧ pending.deadline ≤ now ∧
        request = ⟨pipeline.nextNumber, pending.content⟩ := by
  constructor
  · intro issues
    obtain ⟨⟨pending, waits, made⟩, _⟩ := dispatch?_eq_some issues
    refine ⟨pending, waits, ?_, made⟩
    by_cases due : pending.deadline ≤ now
    · exact due
    · have early : pipeline.pollDue now = (pipeline, none) := by
        refine pollDue_of_early fun other found => ?_
        cases waits.symm.trans found
        exact Nat.not_le.mp due
      rw [dispatch?, early] at issues
      cases issues
  · rintro ⟨pending, waits, due, rfl⟩
    rw [dispatch?, pollDue_of_due waits due, fireNow_of_some waits]

theorem poll_issues_iff_deadline (pipeline : Pipeline) (now : Nat) :
    (∃ request, pipeline.dispatch? (.poll now) = some request) ↔
      ∃ deadline, pipeline.deadline? = some deadline ∧ deadline ≤ now := by
  constructor
  · rintro ⟨request, issues⟩
    obtain ⟨pending, waits, due, _⟩ := (poll_issues_iff _ _ _).mp issues
    exact ⟨pending.deadline, by rw [deadline?, waits, Option.map_some], due⟩
  · rintro ⟨deadline, found, due⟩
    obtain ⟨pending, waits, rfl⟩ := Option.map_eq_some_iff.mp found
    exact ⟨_, (poll_issues_iff _ _ _).mpr ⟨pending, waits, due, rfl⟩⟩

theorem Waits.deadline?_eq_some {pipeline : Pipeline} {latest : Option Streak} {deadline : Nat}
    (waits : pipeline.Waits latest) :
    pipeline.deadline? = some deadline ↔
      ∃ text since, text ≠ [] ∧ pipeline.lastContent? ≠ some text ∧
        latest = some ⟨⟨text, false⟩, since⟩ ∧ deadline = since + pipeline.window := by
  constructor
  · intro found
    obtain ⟨pending, waiting, rfl⟩ := Option.map_eq_some_iff.mp found
    obtain ⟨nonempty, new, since, streak, ends⟩ :=
      (waits pending.content pending.deadline).mp waiting
    exact ⟨pending.content, since, nonempty, new, streak, ends⟩
  · rintro ⟨text, since, nonempty, new, streak, ends⟩
    rw [Pipeline.deadline?, (waits text deadline).mpr ⟨nonempty, new, since, streak, ends⟩,
      Option.map_some]

/-! ## Two requests -/

theorem deadline_of_later {pipeline : Pipeline} {bound : Nat} {operations : List Operation}
    (start : ∀ pending, pipeline.pending = some pending → bound ≤ pending.deadline)
    (later : ∀ moment ∈ moments operations, bound ≤ moment + pipeline.window) :
    ∀ pending, (pipeline.performAll operations).pending = some pending →
      bound ≤ pending.deadline := by
  induction operations generalizing pipeline with
  | nil => exact start
  | cons operation rest ih =>
      have laterRest : ∀ moment ∈ moments rest,
          bound ≤ moment + (pipeline.perform operation).window := by
        intro moment member
        rw [perform_window]
        exact later moment ((moments_sublist _ _).mem member)
      refine ih ?_ laterRest
      rcases perform_cases pipeline operation with ⟨text, localError, now, rfl⟩ | ⟨_, progress⟩
      · intro pending found
        have effect := onContent_effect pipeline text localError now
        rw [perform] at found
        generalize (pipeline.onContent text localError now).1 = next at effect found
        cases effect with
        | withheld unsent => cases found
        | returned issued nonempty clean last same => cases found
        | waiting waiting nonempty clean waits same => exact start pending found
        | scheduled nonempty clean new =>
            cases found
            exact later now (moment_mem List.mem_cons_self rfl)
      · intro pending found
        generalize pipeline.dispatch? operation = request? at progress
        cases progress with
        | quiet same last number => exact start pending (same ▸ found)
        | issued waiting waits empty last number =>
            rw [empty] at found
            cases found

theorem requests_apart {pipeline : Pipeline} {first second : Nat} {between : List Operation}
    {earlier later : Dispatch} (after : ∀ moment ∈ moments between, first ≤ moment)
    (issues : pipeline.dispatch? (.poll first) = some earlier)
    (issuesAgain : (pipeline.performAll (.poll first :: between)).dispatch? (.poll second) =
      some later) : first + pipeline.window ≤ second := by
  have empty := (dispatch?_eq_some issues).2
  obtain ⟨pending, found, due, _⟩ := (poll_issues_iff _ _ _).mp issuesAgain
  have begun : first + pipeline.window ≤ pending.deadline := by
    rw [performAll] at found
    refine deadline_of_later ?_ ?_ pending found
    · intro waiting waits
      rw [empty] at waits
      cases waits
    · intro moment member
      rw [perform_window]
      exact Nat.add_le_add_right (after moment member) _
  omega

/-! ## Contents that follow each other within a window -/

/-- Whether each content that differs from the one before it comes in less than a window after that
one came in first. -/
def Hurried (window : Nat) (latest : Streak) : List Operation → Prop
  | [] => True
  | .content text localError now :: rest =>
      if latest.feed = ⟨text, localError⟩ then Hurried window latest rest
      else now < latest.since + window ∧ Hurried window ⟨⟨text, localError⟩, now⟩ rest
  | _ :: rest => Hurried window latest rest

/-- The next operation either leaves the latest content as it is or brings another in time. -/
theorem Hurried.cons {window : Nat} {latest : Streak} {operation : Operation}
    {rest : List Operation} (hurried : Hurried window latest (operation :: rest)) :
    ∃ next, operation.streak (some latest) = some next ∧ Hurried window next rest ∧
      (next = latest ∨ operation.moment? = some next.since ∧
        next.since < latest.since + window) := by
  rcases streak_cases (some latest) operation with
    same | ⟨text, localError, now, rfl, fresh, streak⟩
  · refine ⟨latest, same, ?_, Or.inl rfl⟩
    cases operation with
    | content text localError now =>
        rw [Hurried, if_pos (repeats_of_streak same).symm] at hurried
        exact hurried
    | poll now => exact hurried
    | fire => exact hurried
    | settle number verdict => exact hurried
    | abandon => exact hurried
  · rw [Hurried, if_neg fun same => fresh (congrArg some same)] at hurried
    exact ⟨_, streak, hurried.2, Or.inr ⟨rfl, hurried.1⟩⟩

theorem Hurried.only_repeats {window now : Nat} {latest : Streak} {operations : List Operation}
    (hurried : Hurried window latest operations) (late : latest.since + window ≤ now)
    (after : ∀ moment ∈ moments operations, now ≤ moment) :
    ∀ text localError moment, .content text localError moment ∈ operations →
      ⟨text, localError⟩ = latest.feed := by
  induction operations with
  | nil =>
      intro text localError moment absent
      cases absent
  | cons operation rest ih =>
      obtain ⟨next, streak, hurriedRest, same | ⟨timed, early⟩⟩ := hurried.cons
      · rw [same] at streak hurriedRest
        have repeats := ih hurriedRest fun moment member =>
          after moment ((moments_sublist _ _).mem member)
        intro text localError moment member
        rcases List.mem_cons.mp member with head | among
        · rw [← head] at streak
          exact repeats_of_streak streak
        · exact repeats text localError moment among
      · have reached := after next.since (moment_mem List.mem_cons_self timed)
        omega

/-- Whether a content may be sent: it is not empty, has no errors and was not sent last. -/
def Sendable (pipeline : Pipeline) (feed : Feed) : Prop :=
  feed.text ≠ [] ∧ feed.localError = false ∧ pipeline.lastContent? ≠ some feed.text

/-- Whether operations that end with a content send nothing but that content, once: they send it if
it may be sent and a poll among them reaches its window. -/
def SendsLast (pipeline : Pipeline) (operations : List Operation) (last : Streak) : Prop :=
  (pipeline.dispatchesAlong operations = [⟨pipeline.nextNumber, last.feed.text⟩] ∧
      pipeline.Sendable last.feed ∧
        ∃ now, .poll now ∈ operations ∧ last.since + pipeline.window ≤ now) ∨
    (pipeline.dispatchesAlong operations = [] ∧
      (pipeline.Sendable last.feed →
        ∀ now, .poll now ∈ operations → now < last.since + pipeline.window))

theorem SendsLast.cons {pipeline : Pipeline} {operation : Operation} {rest : List Operation}
    {last : Streak} (silent : pipeline.dispatch? operation = none)
    (number : (pipeline.perform operation).nextNumber = pipeline.nextNumber)
    (sent : (pipeline.perform operation).lastContent? = pipeline.lastContent?)
    (early : pipeline.Sendable last.feed →
      ∀ now, operation = .poll now → now < last.since + pipeline.window)
    (sendsRest : (pipeline.perform operation).SendsLast rest last) :
    pipeline.SendsLast (operation :: rest) last := by
  have same : pipeline.dispatchesAlong (operation :: rest) =
      (pipeline.perform operation).dispatchesAlong rest := by
    rw [dispatchesAlong, silent, Option.toList_none, List.nil_append]
  unfold SendsLast Sendable at sendsRest ⊢
  rw [same, ← number, ← sent, ← perform_window pipeline operation]
  rcases sendsRest with ⟨once, sendable, now, polled, reached⟩ | ⟨nothing, before⟩
  · exact Or.inl ⟨once, sendable, now, List.mem_cons_of_mem _ polled, reached⟩
  · refine Or.inr ⟨nothing, fun sendable now polled => ?_⟩
    rcases List.mem_cons.mp polled with head | among
    · rw [perform_window]
      rw [sent] at sendable
      exact early sendable now head.symm
    · exact before sendable now among

section Hurried

variable {pipeline : Pipeline} {latest last : Streak} {rest : List Operation} {now : Nat}

theorem Waits.sendsLast_of_issued {request : Dispatch} (waits : pipeline.Waits (some latest))
    (after : ∀ moment ∈ moments rest, now ≤ moment)
    (hurried : Hurried pipeline.window latest rest)
    (ends : streakAfter (some latest) rest = some last)
    (issues : pipeline.dispatch? (.poll now) = some request) :
    pipeline.SendsLast (.poll now :: rest) last := by
  obtain ⟨pending, found, due, _⟩ := (poll_issues_iff _ _ _).mp issues
  obtain ⟨nonempty, new, since, streak, deadline⟩ :=
    (waits pending.content pending.deadline).mp found
  cases streak
  have late : since + pipeline.window ≤ now := deadline ▸ due
  have repeats := hurried.only_repeats late after
  rw [streakAfter_unchanged (streak_of_repeats repeats)] at ends
  cases ends
  have progress := poll_progress pipeline now
  rw [issues] at progress
  cases progress with
  | issued waiting waits empty sent number =>
      cases waits.symm.trans found
      have quiet := dispatchesAlong_of_sent empty sent fun other flag moment member =>
        congrArg Feed.text (repeats other flag moment member)
      refine Or.inl ⟨?_, ⟨nonempty, rfl, new⟩, now, List.mem_cons_self, late⟩
      rw [dispatchesAlong, issues, quiet]
      rfl

/-- A poll that sends nothing does not reach the window of a last content that may be sent. -/
theorem Waits.early_of_silent (waits : pipeline.Waits (some latest))
    (begun : latest.since ≤ now) (after : ∀ moment ∈ moments rest, now ≤ moment)
    (hurried : Hurried pipeline.window latest rest)
    (ends : streakAfter (some latest) rest = some last) (sendable : pipeline.Sendable last.feed)
    (silent : pipeline.dispatch? (.poll now) = none) : now < last.since + pipeline.window := by
  by_contra reached
  have late : latest.since + pipeline.window ≤ now := by
    rcases since_mem_moments ends with same | later
    · rw [Option.some.inj same]
      exact Nat.le_of_not_lt reached
    · -- The last content comes in after the poll, so that the window has no length.
      have afterwards := after last.since later
      omega
  rw [streakAfter_unchanged (streak_of_repeats (hurried.only_repeats late after))] at ends
  cases ends
  obtain ⟨nonempty, clean, new⟩ := sendable
  have streak : some latest = some ⟨⟨latest.feed.text, false⟩, latest.since⟩ := by rw [← clean]
  have waiting := (waits latest.feed.text (latest.since + pipeline.window)).mpr
    ⟨nonempty, new, latest.since, streak, rfl⟩
  have issues := (poll_issues_iff pipeline now _).mpr ⟨_, waiting, late, rfl⟩
  rw [silent] at issues
  cases issues

end Hurried

/-- Of contents that follow each other within a window, the last is sent, once, and no other. -/
theorem Waits.sendsLast {pipeline : Pipeline} {latest last : Streak} {operations : List Operation}
    (waits : pipeline.Waits (some latest)) (unforced : .fire ∉ operations)
    (ordered : (moments operations).Pairwise (· ≤ ·))
    (begun : ∀ moment ∈ moments operations, latest.since ≤ moment)
    (hurried : Hurried pipeline.window latest operations)
    (ends : streakAfter (some latest) operations = some last) :
    pipeline.SendsLast operations last := by
  induction operations generalizing pipeline latest with
  | nil =>
      refine Or.inr ⟨rfl, fun sendable now polled => ?_⟩
      cases polled
  | cons operation rest ih =>
      obtain ⟨next, streak, hurriedRest, changed⟩ := hurried.cons
      have after (moment : Nat) (timed : operation.moment? = some moment) :
          ∀ later ∈ moments rest, moment ≤ later := by
        rw [moments, List.filterMap_cons, timed] at ordered
        exact (List.pairwise_cons.mp ordered).1
      have begunRest : ∀ moment ∈ moments rest, next.since ≤ moment := by
        rcases changed with rfl | ⟨timed, _⟩
        · exact fun moment member => begun moment ((moments_sublist _ _).mem member)
        · exact after next.since timed
      have waitsRest := perform_waits operation waits
      rw [streak] at waitsRest
      have endsRest : streakAfter (some next) rest = some last := streak ▸ ends
      have sendsRest : (pipeline.perform operation).SendsLast rest last := by
        refine ih waitsRest (fun fired => unforced (List.mem_cons_of_mem _ fired))
          (ordered.sublist (moments_sublist _ _)) begunRest ?_ endsRest
        rw [perform_window]
        exact hurriedRest
      have quietly (progress : Progress pipeline (pipeline.perform operation) none)
          (silent : pipeline.dispatch? operation = none)
          (early : pipeline.Sendable last.feed →
            ∀ now, operation = .poll now → now < last.since + pipeline.window) :
          pipeline.SendsLast (operation :: rest) last := by
        cases progress with
        | quiet pending sent number => exact SendsLast.cons silent number sent early sendsRest
      cases operation with
      | content text localError now =>
          refine SendsLast.cons rfl (onContent_requests _ _ _ _).2 (onContent_lastContent? _ _ _ _)
            (fun _ now same => ?_) sendsRest
          cases same
      | poll now =>
          cases streak
          have progress := poll_progress pipeline now
          cases issues : pipeline.dispatch? (.poll now) with
          | none =>
              rw [issues] at progress
              refine quietly progress issues fun sendable moment same => ?_
              cases same
              exact waits.early_of_silent (begun now (moment_mem List.mem_cons_self rfl))
                (after now rfl) hurriedRest endsRest sendable issues
          | some request =>
              exact waits.sendsLast_of_issued (after now rfl) hurriedRest endsRest issues
      | fire => exact absurd List.mem_cons_self unforced
      | settle number verdict =>
          refine quietly (settle_progress pipeline number verdict) rfl fun _ now same => ?_
          cases same
      | abandon =>
          refine quietly (abandon_progress pipeline) rfl fun _ now same => ?_
          cases same

/-! ## The window in every run -/

/-- The deadline of a run is a window after the last content came in first, if that content may be
sent, and there is none otherwise. -/
theorem deadline?_of_run (window : Nat) (operations : List Operation) (deadline : Nat) :
    ((start window).performAll operations).deadline? = some deadline ↔
      ∃ before text since repeats, operations = before ++ .content text false since :: repeats ∧
        feedAfter none before ≠ some ⟨text, false⟩ ∧
          (∀ other localError moment, .content other localError moment ∈ repeats →
            other = text ∧ localError = false) ∧
          text ≠ [] ∧ ((start window).performAll operations).lastContent? ≠ some text ∧
            deadline = since + window := by
  have waits := performAll_waits operations (start_waits window)
  rw [waits.deadline?_eq_some, performAll_window]
  constructor
  · rintro ⟨text, since, nonempty, new, latest, ends⟩
    obtain ⟨before, repeats, split, other, only⟩ := (streakAfter_eq_some_iff _ _ _).mp latest
    refine ⟨before, text, since, repeats, split, other, ?_, nonempty, new, ends⟩
    intro again flag moment member
    exact Feed.mk.inj (only again flag moment member)
  · rintro ⟨before, text, since, repeats, split, other, only, nonempty, new, ends⟩
    refine ⟨text, since, nonempty, new, ?_, ends⟩
    refine (streakAfter_eq_some_iff _ _ _).mpr ⟨before, repeats, split, other, ?_⟩
    intro again flag moment member
    obtain ⟨rfl, rfl⟩ := only again flag moment member
    rfl

/-- What a poll sends after a run came in no later than a window before, and nothing else since. -/
theorem quiet_before_request {window now : Nat} {operations : List Operation} {request : Dispatch}
    (ordered : (moments operations).Pairwise (· ≤ ·))
    (issues : ((start window).performAll operations).dispatch? (.poll now) = some request)
    {text : Text} {localError : Bool} {moment : Nat}
    (member : .content text localError moment ∈ operations) (recent : now < moment + window) :
    text = request.content ∧ localError = false := by
  obtain ⟨pending, found, due, rfl⟩ := (poll_issues_iff _ _ _).mp issues
  have waits := performAll_waits operations (start_waits window)
  obtain ⟨_, _, since, latest, ends⟩ := (waits pending.content pending.deadline).mp found
  rw [performAll_window] at ends
  by_contra different
  have other : (⟨text, localError⟩ : Feed) ≠ ⟨pending.content, false⟩ :=
    fun same => different (Feed.mk.inj same)
  have earlier := moment_le_since ordered latest member other
  have reached : since + window ≤ now := ends ▸ due
  omega

/-- Consider a run in which time does not go back and nothing is fired by hand. When a poll sends a
content, no other content and none with errors came in within the window before. The deadline is a
window after the first of the equal contents without errors that came in last, and a poll sends
exactly if it reaches the deadline. Two polls that send are a window apart. Of contents that follow
each other within a window the last is sent, once, if it may be sent and a poll reaches its window,
and nothing else. -/
theorem window_of_run (window : Nat) (operations : List Operation) (unforced : .fire ∉ operations)
    (ordered : (moments operations).Pairwise (· ≤ ·)) :
    (∀ now request,
      ((start window).performAll operations).dispatch? (.poll now) = some request →
        ∀ text localError moment, .content text localError moment ∈ operations →
          now < moment + window → text = request.content ∧ localError = false) ∧
    (∀ deadline, ((start window).performAll operations).deadline? = some deadline ↔
      ∃ before text since repeats, operations = before ++ .content text false since :: repeats ∧
        feedAfter none before ≠ some ⟨text, false⟩ ∧
          (∀ other localError moment, .content other localError moment ∈ repeats →
            other = text ∧ localError = false) ∧
          text ≠ [] ∧ ((start window).performAll operations).lastContent? ≠ some text ∧
            deadline = since + window) ∧
    (∀ now, (∃ request,
        ((start window).performAll operations).dispatch? (.poll now) = some request) ↔
      ∃ deadline, ((start window).performAll operations).deadline? = some deadline ∧
        deadline ≤ now) ∧
    (∀ before first earlier between second later, operations = before ++ .poll first :: between →
      ((start window).performAll before).dispatch? (.poll first) = some earlier →
        ((start window).performAll operations).dispatch? (.poll second) = some later →
          first + window ≤ second) ∧
    (∀ before burst latest last, operations = before ++ burst →
      streakAfter none before = some latest → Hurried window latest burst →
        streakAfter none operations = some last →
          ((start window).performAll before).SendsLast burst last) := by
  refine ⟨?_, deadline?_of_run window operations, poll_issues_iff_deadline _, ?_, ?_⟩
  · intro now request issues text localError moment member recent
    exact quiet_before_request ordered issues member recent
  · rintro before first earlier between second later rfl issues issuesAgain
    rw [performAll_append] at issuesAgain
    rw [moments, List.filterMap_append] at ordered
    have after := (List.pairwise_cons.mp (List.pairwise_append.mp ordered).2.1).1
    have apart := requests_apart after issues issuesAgain
    rw [performAll_window] at apart
    exact apart
  · rintro before burst latest last rfl began hurried ends
    rw [streakAfter_append, began] at ends
    rw [moments, List.filterMap_append] at ordered
    obtain ⟨_, orderedBurst, across⟩ := List.pairwise_append.mp ordered
    have waits := performAll_waits before (start_waits window)
    rw [began] at waits
    have since : latest.since ∈ moments before := by
      rcases since_mem_moments began with absent | member
      · cases absent
      · exact member
    refine waits.sendsLast (fun fired => unforced (List.mem_append_right _ fired)) orderedBurst
      (across latest.since since) ?_ ends
    rw [performAll_window]
    exact hurried

/-- With a window of 500, `a`, `ab`, `ab` again and `abc` follow each other within a window, with
polls among them. Only `abc` is sent, at 1100, which is a window after it came in. -/
theorem burst_sends_last :
    let before : List Operation := [.content ['a'] false 0]
    let burst : List Operation :=
      [.content ['a', 'b'] false 300, .poll 500, .content ['a', 'b'] false 550,
        .content ['a', 'b', 'c'] false 600, .poll 1099, .poll 1100]
    .fire ∉ before ++ burst ∧ (moments (before ++ burst)).Pairwise (· ≤ ·) ∧
      ((start 500).performAll before).dispatchesAlong burst = [⟨1, ['a', 'b', 'c']⟩] := by
  intro before burst
  have unforced : .fire ∉ before ++ burst := by decide
  have ordered : (moments (before ++ burst)).Pairwise (· ≤ ·) := by decide
  have hurried : Hurried 500 ⟨⟨['a'], false⟩, 0⟩ burst := by simp [burst, Hurried]
  have sends := (window_of_run 500 (before ++ burst) unforced ordered).2.2.2.2 before burst
    ⟨⟨['a'], false⟩, 0⟩ ⟨⟨['a', 'b', 'c'], false⟩, 600⟩ rfl rfl hurried rfl
  refine ⟨unforced, ordered, ?_⟩
  rcases sends with ⟨once, _⟩ | ⟨_, early⟩
  · exact once
  · have sendable : ((start 500).performAll before).Sendable ⟨['a', 'b', 'c'], false⟩ :=
      ⟨by decide, rfl, by decide⟩
    have reached : (1100 : Nat) < 600 + 500 := early sendable 1100 (by decide)
    omega

end StrategyDesk.Pipeline
