import StrategyDesk.Proofs.Worker.Numbering

/-!
# Those who wait

Those who ask a worker to be told are told in the order in which they asked, once, and only when
nothing is open. They are sure to be told as long as the call of the open request is under way. When
that call dies the request is given up only if no other call is left: if one that was superseded has
not ended yet, the request stays open without a call, and those who wait are not told until another
content is sent.
-/

set_option autoImplicit false

namespace StrategyDesk

theorem Pipeline.isInFlight_eq_true_iff (pipeline : Pipeline) :
    pipeline.isInFlight = true ↔
      ∃ issued, pipeline.lastIssued = some issued ∧ issued.verdict = none := by
  unfold isInFlight
  rw [Option.any_eq_true]
  simp only [Option.isNone_iff_eq_none]

theorem Pipeline.isInFlight_abandon (pipeline : Pipeline) :
    pipeline.abandon.isInFlight = false := by
  unfold abandon isInFlight
  cases last : pipeline.lastIssued with
  | none => simp [last]
  | some issued =>
      cases isOpen : issued.verdict with
      | none =>
          simp only [isOpen, settle_of_open .failed last isOpen]
          rfl
      | some verdict => simp [last, isOpen]

namespace Worker

/-! ## The call of the open request -/

/-- While the latest request is open, its call has not ended and is not aborted. -/
def Attended (worker : Worker) : Prop :=
  ∀ issued, worker.pipeline.lastIssued = some issued → issued.verdict = none →
    ∃ call ∈ worker.calls, call.number = issued.number ∧ call.aborted = false

/-- Whether the call of the open request dies with an event while other calls are left. -/
def Overlooks (worker : Worker) (event : Event) : Prop :=
  ∃ issued reason, worker.pipeline.lastIssued = some issued ∧ issued.verdict = none ∧
    event = .ended issued.number (.crashed reason) ∧ worker.otherCalls issued.number ≠ []

theorem attended_of_not_inFlight {worker : Worker}
    (closed : worker.pipeline.isInFlight = false) : worker.Attended := by
  intro issued last isOpen
  have inFlight := worker.pipeline.isInFlight_eq_true_iff.mpr ⟨issued, last, isOpen⟩
  rw [closed] at inFlight
  cases inFlight

theorem sends_attended {worker next : Worker} (attended : worker.Attended)
    (sends : Sends worker next) : next.Attended := by
  intro issued last isOpen
  cases sends with
  | nothing empty pipeline calls =>
      rw [pipeline] at last
      rw [calls]
      exact attended issued last isOpen
  | request pending waits pipeline calls =>
      rw [pipeline] at last
      cases last
      rw [calls]
      exact ⟨_, List.mem_append_right _ (List.mem_singleton_self _), rfl, rfl⟩

theorem Attended.of_other {worker next : Worker} {number : Nat} (attended : worker.Attended)
    (pipeline : next.pipeline = worker.pipeline) (calls : next.calls = worker.otherCalls number)
    (other : ∀ issued, worker.pipeline.lastIssued = some issued → issued.verdict = none →
      issued.number ≠ number) : next.Attended := by
  intro issued last isOpen
  rw [pipeline] at last
  obtain ⟨call, member, same, going⟩ := attended issued last isOpen
  refine ⟨call, ?_, same, going⟩
  rw [calls]
  exact mem_otherCalls.mpr ⟨member, same ▸ other issued last isOpen⟩

theorem mayEnd_of_step {worker : Worker} {display : Display} {number : Nat} {ending : Ending}
    {result : Worker × Display} (run : worker.step display (.ended number ending) = some result) :
    worker.mayEnd number ending = true := by
  simp only [step] at run
  split at run
  next possible => exact possible
  · cases run

theorem step_attended {worker next : Worker} {display shown : Display} {event : Event}
    (numbered : worker.Numbered) (attended : worker.Attended)
    (run : worker.step display event = some (next, shown))
    (noticed : ¬ worker.Overlooks event) : next.Attended := by
  cases step_transition run with
  | content text localError now taken calls pipeline effect =>
      intro issued last isOpen
      rw [pipeline, (Pipeline.onContent_requests _ _ _ _).1] at last
      rw [calls]
      exact attended issued last isOpen
  | flush waiter now taken sends effect => exact sends_attended attended sends
  | expiry now queue due sends effect => exact sends_attended attended sends
  | answered number result calling queue calls pipeline effect =>
      rcases worker.pipeline.settle_cases number (verdictOf result) with
        dropped | ⟨issued, _, _, _, recorded⟩
      · rw [dropped] at pipeline
        refine attended.of_other pipeline calls fun issued last isOpen same => ?_
        exact Pipeline.not_open_of_dropped dropped last same isOpen
      · refine attended_of_not_inFlight ?_
        rw [pipeline, recorded]
        rfl
  | cancelled number calling queue calls pipeline effect =>
      refine attended.of_other pipeline calls fun issued last isOpen same => ?_
      obtain ⟨call, member, latest, going⟩ := attended issued last isOpen
      obtain ⟨ended, among, found⟩ := List.any_eq_true.mp (mayEnd_of_step run)
      rw [Bool.and_eq_true, beq_iff_eq] at found
      -- Only an aborted call is cancelled, and the call of the open request is not.
      have unique := numbered.call_unique among member
        (found.1.trans (same.symm.trans latest.symm))
      rw [unique, going] at found
      exact Bool.false_ne_true found.2
  | crashed number reason calling queue calls pipeline effect =>
      by_cases alone : (worker.otherCalls number).isEmpty
      · rw [if_pos alone] at pipeline
        refine attended_of_not_inFlight ?_
        rw [pipeline]
        exact Pipeline.isInFlight_abandon _
      · rw [if_neg alone] at pipeline
        refine attended.of_other pipeline calls fun issued last isOpen same => noticed ?_
        refine ⟨issued, reason, last, isOpen, by rw [same], fun empty => alone ?_⟩
        rw [← same, empty]
        rfl

/-- After a death that was overlooked the open request has no call. -/
theorem Overlooks.unattended {worker next : Worker} {display shown : Display} {event : Event}
    (overlooks : worker.Overlooks event)
    (run : worker.step display event = some (next, shown)) : ¬ next.Attended := by
  obtain ⟨issued, reason, last, isOpen, rfl, others⟩ := overlooks
  cases step_transition run with
  | crashed _ _ calling queue calls pipeline effect =>
      rw [if_neg (mt List.isEmpty_iff.mp others)] at pipeline
      intro attended
      obtain ⟨call, member, same, _⟩ := attended issued (pipeline ▸ last) isOpen
      rw [calls] at member
      exact (mem_otherCalls.mp member).2 same

/-! ## Who was told -/

def asks (worker : Worker) : Event → List Nat
  | .command _ =>
      match worker.queue with
      | .flush waiter :: _ => [waiter]
      | _ => []
  | _ => []

def asksAlong (worker : Worker) (display : Display) : List Move → List Nat
  | [] => []
  | move :: rest =>
      let now := match move with
        | .meet event => worker.asks event
        | _ => []
      match worker.move display move with
      | none => now
      | some (next, shown) => now ++ next.asksAlong shown rest

@[simp] theorem send_waiters (worker : Worker) (dispatch? : Option Dispatch) :
    (worker.send dispatch?).waiters = worker.waiters := by
  cases dispatch? <;> rfl

@[simp] theorem send_answered (worker : Worker) (dispatch? : Option Dispatch) :
    (worker.send dispatch?).answered = worker.answered := by
  cases dispatch? <;> rfl

theorem settle_waiters (worker : Worker) (display : Display) (number : Nat)
    (result : Except Failure Outcome) :
    (worker.settle display number result).1.waiters = worker.waiters ∧
      (worker.settle display number result).1.answered = worker.answered := by
  unfold settle
  split <;> exact ⟨rfl, rfl⟩

theorem reap_waiters (worker : Worker) (display : Display) (number : Nat) (ending : Ending) :
    (worker.reap display number ending).1.waiters = worker.waiters ∧
      (worker.reap display number ending).1.answered = worker.answered := by
  cases ending with
  | answered result => exact settle_waiters _ display number result
  | cancelled => exact ⟨rfl, rfl⟩
  | crashed reason => exact ⟨rfl, rfl⟩

/-- An event ends with telling those who wait, after the one who asks with it was added. -/
theorem step_notify {worker next : Worker} {display shown : Display} {event : Event}
    (run : worker.step display event = some (next, shown)) :
    ∃ before : Worker, next = before.notify ∧ before.answered = worker.answered ∧
      before.waiters = worker.waiters ++ worker.asks event := by
  cases event with
  | command now =>
      simp only [step] at run
      cases queued : worker.queue with
      | nil => simp [queued] at run
      | cons command rest =>
          cases command with
          | content text localError =>
              simp only [queued, handle, Option.some.injEq, Prod.mk.injEq] at run
              exact ⟨_, run.1.symm, rfl, by simp [asks, queued]⟩
          | flush waiter =>
              simp only [queued, handle, Option.some.injEq, Prod.mk.injEq] at run
              exact ⟨_, run.1.symm, by simp, by simp [asks, queued]⟩
  | expiry now =>
      simp only [step] at run
      split at run
      · cases run
      · split at run
        · cases run
          exact ⟨_, rfl, by simp [expire], by simp [expire, asks]⟩
        · cases run
  | ended number ending =>
      have possible := mayEnd_of_step run
      simp only [step, possible, if_true, Option.some.injEq, Prod.mk.injEq] at run
      obtain ⟨waiters, answered⟩ := reap_waiters worker display number ending
      exact ⟨_, run.1.symm, answered, by simp [waiters, asks]⟩

/-- An event tells nobody while something is open, and everybody who waits otherwise. -/
theorem step_told {worker next : Worker} {display shown : Display} {event : Event}
    (run : worker.step display event = some (next, shown)) :
    next.answered ++ next.waiters =
        worker.answered ++ worker.waiters ++ worker.asks event ∧
      (next.pipeline.isIdle = true → next.waiters = []) ∧
      (next.pipeline.isIdle = false → next.answered = worker.answered) := by
  obtain ⟨before, rfl, answered, waiters⟩ := step_notify run
  rw [notify_pipeline]
  by_cases idle : before.pipeline.isIdle = true
  · have told : before.notify =
        { before with waiters := [], answered := before.answered ++ before.waiters } := if_pos idle
    rw [told]
    refine ⟨by simp [answered, waiters], fun _ => rfl, fun busy => ?_⟩
    rw [idle] at busy
    cases busy
  · have silent : before.notify = before := if_neg idle
    rw [silent]
    exact ⟨by simp [answered, waiters], fun same => absurd same idle, fun _ => answered⟩

theorem move_told {worker next : Worker} {display shown : Display} {move : Move}
    (told : worker.pipeline.isIdle = true → worker.waiters = [])
    (run : worker.move display move = some (next, shown)) :
    next.pipeline.isIdle = true → next.waiters = [] := by
  cases move with
  | submit command =>
      cases run
      exact told
  | host act =>
      cases run
      exact told
  | meet event => exact (step_told run).2.1

theorem play_told {worker final : Worker} {display shown : Display} (moves : List Move)
    (told : worker.pipeline.isIdle = true → worker.waiters = [])
    (run : worker.play display moves = some (final, shown)) :
    final.answered ++ final.waiters =
        worker.answered ++ worker.waiters ++ worker.asksAlong display moves ∧
      (final.pipeline.isIdle = true → final.waiters = []) := by
  induction moves generalizing worker display with
  | nil =>
      cases run
      exact ⟨by simp [asksAlong], told⟩
  | cons move rest ih =>
      obtain ⟨⟨next, middle⟩, first, later⟩ := Option.bind_eq_some_iff.mp run
      obtain ⟨asked, last⟩ := ih (move_told told first) later
      refine ⟨?_, last⟩
      simp only [asksAlong, first]
      rw [asked]
      cases move with
      | submit command =>
          cases first
          rfl
      | host act =>
          cases first
          rfl
      | meet event =>
          rw [(step_told first).1, List.append_assoc]

/-! ## In the order of the queue -/

def wish? : Command → Option Nat
  | .content _ _ => none
  | .flush waiter => some waiter

/-- All who wanted to be told so far, in the order of their commands. -/
def wishes (worker : Worker) : List Nat :=
  worker.answered ++ worker.waiters ++ worker.queue.filterMap wish?

theorem step_queue {worker next : Worker} {display shown : Display} {event : Event}
    (run : worker.step display event = some (next, shown)) :
    ∃ taken, worker.queue = taken ++ next.queue ∧ taken.filterMap wish? = worker.asks event := by
  cases step_transition run with
  | content text localError now taken calls pipeline effect =>
      exact ⟨[.content text localError], taken, by simp [asks, taken, wish?]⟩
  | flush waiter now taken sends effect =>
      exact ⟨[.flush waiter], taken, by simp [asks, taken, wish?]⟩
  | expiry now queue due sends effect => exact ⟨[], queue.symm, rfl⟩
  | answered number result calling queue calls pipeline effect => exact ⟨[], queue.symm, rfl⟩
  | cancelled number calling queue calls pipeline effect => exact ⟨[], queue.symm, rfl⟩
  | crashed number reason calling queue calls pipeline effect => exact ⟨[], queue.symm, rfl⟩

/-- No event changes who wanted to be told. -/
theorem step_wishes {worker next : Worker} {display shown : Display} {event : Event}
    (run : worker.step display event = some (next, shown)) : next.wishes = worker.wishes := by
  obtain ⟨taken, queue, asked⟩ := step_queue run
  rw [wishes, wishes, (step_told run).1, queue, List.filterMap_append, asked]
  simp only [List.append_assoc]

/-- Once the only one who wanted to be told was told, a worker whose last command was his is left
without commands. -/
theorem queue_eq_nil_of_told {worker : Worker} {waiter : Nat} {before : List Command}
    (alone : worker.wishes = [waiter]) (left : worker.queue <:+ before ++ [.flush waiter])
    (told : waiter ∈ worker.answered) : worker.queue = [] := by
  rcases List.suffix_concat_iff.mp left with empty | ⟨rest, queue, _⟩
  · exact empty
  · obtain ⟨first, others, answered⟩ := List.append_of_mem told
    have two := congrArg List.length alone
    simp [wishes, queue, answered, wish?] at two
    omega

/-! ## Deaths that are overlooked -/

/-- Whether an event of a run overlooks the death of the call of the open request. -/
def OverlooksAlong (worker : Worker) (display : Display) : List Move → Prop
  | [] => False
  | move :: rest =>
      (∃ event, move = .meet event ∧ worker.Overlooks event) ∨
        ∃ next shown, worker.move display move = some (next, shown) ∧
          next.OverlooksAlong shown rest

theorem play_attended {worker final : Worker} {display shown : Display} (moves : List Move)
    (numbered : worker.Numbered) (attended : worker.Attended)
    (run : worker.play display moves = some (final, shown))
    (noticed : ¬ worker.OverlooksAlong display moves) : final.Attended := by
  induction moves generalizing worker display with
  | nil =>
      cases run
      exact attended
  | cons move rest ih =>
      obtain ⟨⟨next, middle⟩, first, later⟩ := Option.bind_eq_some_iff.mp run
      rw [OverlooksAlong, not_or] at noticed
      refine ih (move_numbered numbered first) ?_ later
        fun overlooks => noticed.2 ⟨next, middle, first, overlooks⟩
      cases move with
      | submit command =>
          cases first
          exact attended
      | host act =>
          cases first
          exact attended
      | meet event =>
          exact step_attended numbered attended first
            fun overlooks => noticed.1 ⟨event, rfl, overlooks⟩

theorem Attended.told {worker : Worker} (attended : worker.Attended)
    (told : worker.pipeline.isIdle = true → worker.waiters = []) (ended : worker.calls = [])
    (empty : worker.pipeline.pending = none) : worker.waiters = [] := by
  have closed : worker.pipeline.isInFlight ≠ true := by
    intro inFlight
    obtain ⟨issued, last, isOpen⟩ := worker.pipeline.isInFlight_eq_true_iff.mp inFlight
    obtain ⟨call, member, _⟩ := attended issued last isOpen
    rw [ended] at member
    cases member
  refine told ?_
  simp [Pipeline.isIdle, Pipeline.hasPending, empty, closed]

/-- The open request has no call, nothing waits to be sent, and no content is to come. -/
structure Stranded (worker : Worker) : Prop where
  inFlight : worker.pipeline.isInFlight = true
  empty : worker.pipeline.pending = none
  ended : worker.calls = []
  flushes : ∀ command ∈ worker.queue, ∃ waiter, command = .flush waiter

theorem Stranded.step {worker next : Worker} {display shown : Display} {event : Event}
    (stranded : worker.Stranded) (run : worker.step display event = some (next, shown)) :
    next.Stranded ∧ next.answered = worker.answered := by
  have nobody (number : Nat) : ¬ worker.Calling number := by
    rintro ⟨call, member, _⟩
    rw [stranded.ended] at member
    cases member
  have lost : next.Stranded := by
    cases step_transition run with
    | content text localError now taken calls pipeline effect =>
        obtain ⟨waiter, other⟩ := stranded.flushes _ (taken ▸ List.mem_cons_self)
        cases other
    | flush waiter now taken sends effect =>
        cases sends with
        | nothing empty pipeline calls =>
            refine ⟨pipeline ▸ stranded.inFlight, pipeline ▸ stranded.empty,
              calls.trans stranded.ended, fun command member => ?_⟩
            exact stranded.flushes command (taken ▸ List.mem_cons_of_mem _ member)
        | request pending waits pipeline calls =>
            rw [stranded.empty] at waits
            cases waits
    | expiry now queue due sends effect => exact absurd stranded.empty due
    | answered number result calling queue calls pipeline effect => exact absurd calling (nobody _)
    | cancelled number calling queue calls pipeline effect => exact absurd calling (nobody _)
    | crashed number reason calling queue calls pipeline effect => exact absurd calling (nobody _)
  refine ⟨lost, (step_told run).2.2 ?_⟩
  simp [Pipeline.isIdle, lost.inFlight]

theorem Stranded.play {worker final : Worker} {display shown : Display} {moves : List Move}
    (stranded : worker.Stranded)
    (uneventful : ∀ text localError, .submit (.content text localError) ∉ moves)
    (run : worker.play display moves = some (final, shown)) :
    final.Stranded ∧ final.answered = worker.answered := by
  induction moves generalizing worker display with
  | nil =>
      cases run
      exact ⟨stranded, rfl⟩
  | cons move rest ih =>
      obtain ⟨⟨next, middle⟩, first, later⟩ := Option.bind_eq_some_iff.mp run
      have moved : next.Stranded ∧ next.answered = worker.answered := by
        cases move with
        | submit command =>
            cases first
            refine ⟨⟨stranded.inFlight, stranded.empty, stranded.ended, ?_⟩, rfl⟩
            intro other member
            rcases List.mem_append.mp member with old | new
            · exact stranded.flushes other old
            · cases command with
              | content text localError =>
                  exact absurd List.mem_cons_self (uneventful text localError)
              | flush waiter => exact ⟨waiter, List.mem_singleton.mp new⟩
        | host act =>
            cases first
            exact ⟨stranded, rfl⟩
        | meet event => exact stranded.step first
      obtain ⟨after, told⟩ := ih moved.1
        (fun text localError member => uneventful text localError (List.mem_cons_of_mem _ member))
        later
      exact ⟨after, told.trans moved.2⟩

/-- In every run, with whatever the host does meanwhile: all who asked were told or wait, in the
order in which they asked, and an event tells nobody while something is open after it. The call of
the open request stays under way until its death is overlooked; in a run in which none is, nobody
waits once no call is left and nothing waits to be sent. A stranded worker tells nobody before
another content is submitted. -/
theorem waiters_of_run (window : Nat) (display shown : Display) (moves : List Move)
    (worker : Worker) (run : (start window).play display moves = some (worker, shown)) :
    worker.answered ++ worker.waiters = (start window).asksAlong display moves ∧
    (∀ event next after, worker.step shown event = some (next, after) →
      next.pipeline.isIdle = false → next.answered = worker.answered) ∧
    (∀ event next after, worker.Attended → worker.step shown event = some (next, after) →
      (next.Attended ↔ ¬ worker.Overlooks event)) ∧
    (¬ (start window).OverlooksAlong display moves → worker.Attended ∧
      (worker.calls = [] → worker.pipeline.pending = none → worker.waiters = [])) ∧
    (worker.Stranded → ∀ later final after,
      (∀ text localError, .submit (.content text localError) ∉ later) →
        worker.play shown later = some (final, after) → final.answered = worker.answered) := by
  have numbered := play_numbered moves (start_numbered window) run
  obtain ⟨asked, told⟩ := play_told moves (fun _ => rfl) run
  refine ⟨asked, ?_, ?_, ?_, ?_⟩
  · intro event next after met busy
    exact (step_told met).2.2 busy
  · intro event next after attended met
    exact ⟨fun still overlooks => overlooks.unattended met still,
      step_attended numbered attended met⟩
  · intro noticed
    have attended : worker.Attended :=
      play_attended moves (start_numbered window) (attended_of_not_inFlight rfl) run noticed
    exact ⟨attended, attended.told told⟩
  · intro stranded later final after uneventful played
    exact (stranded.play uneventful played).2

/-- The call for `b` dies before the end of the superseded call for `a` is taken in: both who asked
are left waiting, with no call under way. -/
theorem overlooked_death_strands :
    let display : Display := ⟨.create ['b'] .readOnlyView, .quiet, []⟩
    let moves : List Move :=
      [.submit (.content ['a'] false), .submit (.flush 0), .meet (.command 0),
        .meet (.command 0), .submit (.content ['b'] false), .submit (.flush 1),
        .meet (.command 10), .meet (.command 10), .meet (.ended 2 (.crashed "lost")),
        .meet (.ended 1 .cancelled)]
    let worker : Worker :=
      ⟨⟨500, none, some ⟨2, ['b'], none⟩, 3, true⟩, [], [], [0, 1], []⟩
    ∃ shown, (start 500).play display moves = some (worker, shown) ∧ worker.Stranded ∧
      ∀ later final after, (∀ text localError, .submit (.content text localError) ∉ later) →
        worker.play shown later = some (final, after) → final.answered = [] := by
  intro display moves worker
  let shown : Display :=
    ⟨.create ['b'] .readOnlyView, ⟨⟨false, true⟩, true, 1⟩,
      [.internal "validation task failed: lost"]⟩
  have run : (start 500).play display moves = some (worker, shown) := by decide
  have stranded : worker.Stranded := ⟨rfl, rfl, rfl, fun command absent => by cases absent⟩
  exact ⟨shown, run, stranded, (waiters_of_run 500 display shown moves worker run).2.2.2.2 stranded⟩

end Worker

end StrategyDesk
