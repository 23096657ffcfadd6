import Mathlib.Algebra.GroupWithZero.Nat
import StrategyDesk.Proofs.Session.Acceptance
import StrategyDesk.Proofs.Worker.Work
import StrategyDesk.Rehearsal

/-!
# How a rehearsal settles

Whatever needs no time is done in turns: the first participant that can meet an event meets it. Each
turn is an event of its worker, and the work of the participants bounds the turns, so that afterwards
none of them has a command left.
-/

set_option autoImplicit false

namespace StrategyDesk

namespace Participant

theorem mayEnd_of_aborted {worker : Worker} {call : Call} (among : call ∈ worker.calls)
    (aborted : call.aborted = true) (ending : Ending) :
    worker.mayEnd call.number ending = true := by
  cases ending with
  | cancelled => exact List.any_eq_true.mpr ⟨call, among, by simp [aborted]⟩
  | answered result => exact List.any_eq_true.mpr ⟨call, among, by simp⟩
  | crashed reason => exact List.any_eq_true.mpr ⟨call, among, by simp⟩

theorem event?_of_command {participant : Participant} {worker : Worker} (now : Nat)
    (working : participant.session.worker = some worker) (left : worker.queue ≠ []) :
    ∃ event session, participant.event? now = some event ∧
      participant.session.workerStep event = some session := by
  have stepped (event : Worker.Event)
      (possible : (worker.step participant.session.display event).isSome = true) :
      ∃ session, participant.session.workerStep event = some session := by
    obtain ⟨⟨next, shown⟩, step⟩ := Option.isSome_iff_exists.mp possible
    exact ⟨_, Session.workerStep_of_step working step⟩
  cases found : worker.calls.find? Call.aborted with
  | some call =>
      let ending := participant.abortedEnding now call.number
      have ends : worker.mayEnd call.number ending = true :=
        mayEnd_of_aborted (List.mem_of_find?_eq_some found) (List.find?_some found) ending
      obtain ⟨session, step⟩ := stepped (.ended call.number ending) (by simp [Worker.step, ends])
      exact ⟨.ended call.number ending, session, by simp [event?, working, found, ending], step⟩
  | none =>
      obtain ⟨command, rest, queued⟩ := List.exists_cons_of_ne_nil left
      obtain ⟨session, step⟩ := stepped (.command now) (by simp [Worker.step, queued])
      exact ⟨.command now, session, by simp [event?, working, found, queued], step⟩

theorem workerStep_work_lt {participant : Participant} {event : Worker.Event} {session : Session}
    (stepped : participant.session.workerStep event = some session) :
    ({ participant with session } : Participant).work < participant.work := by
  obtain ⟨worker, next, shown, working, step, rfl⟩ := Session.workerStep_eq_some stepped
  have less := Worker.step_work_lt step
  simpa [work, working] using less

end Participant

namespace Rehearsal

theorem playFirst?_eq_some {rehearsal : Rehearsal} {participants later : List Participant}
    {contents : List Text}
    (played : rehearsal.playFirst? participants = some (later, contents)) :
    ∃ before participant after event session, participants = before ++ participant :: after ∧
      participant.event? rehearsal.now = some event ∧
      participant.session.workerStep event = some session ∧
      later = before ++ rehearsal.timeCalls { participant with session } :: after := by
  induction participants generalizing later contents with
  | nil => cases played
  | cons participant rest ih =>
      unfold playFirst? at played
      dsimp only at played
      split at played
      next next turn =>
        obtain ⟨event, met, stepped⟩ := Option.bind_eq_some_iff.mp turn
        obtain ⟨session, step, made⟩ := Option.bind_eq_some_iff.mp stepped
        cases made
        cases played
        exact ⟨[], participant, rest, event, session, rfl, met, step, rfl⟩
      · obtain ⟨⟨others, texts⟩, found, made⟩ := Option.map_eq_some_iff.mp played
        cases made
        obtain ⟨before, player, after, event, session, rfl, met, step, rfl⟩ := ih found
        exact ⟨participant :: before, player, after, event, session, rfl, met, step, rfl⟩

theorem playFirst?_eq_none {rehearsal : Rehearsal} {participants : List Participant}
    (stuck : rehearsal.playFirst? participants = none) :
    ∀ participant ∈ participants, ∀ event, participant.event? rehearsal.now = some event →
      participant.session.workerStep event = none := by
  induction participants with
  | nil =>
      intro participant member
      cases member
  | cons first rest ih =>
      unfold playFirst? at stuck
      dsimp only at stuck
      split at stuck
      · cases stuck
      next idle =>
        intro participant member event met
        rcases List.mem_cons.mp member with rfl | other
        · cases step : participant.session.workerStep event with
          | none => rfl
          | some session =>
              rw [met, Option.bind_eq_bind, Option.bind_some, step] at idle
              cases idle
        · exact ih (Option.map_eq_none_iff.mp stuck) participant other event met

theorem work_eq (rehearsal : Rehearsal) :
    rehearsal.work = (rehearsal.participants.map Participant.work).sum := rfl

theorem playFirst?_work_lt {rehearsal : Rehearsal} {later : List Participant}
    {contents : List Text} (received : List Text)
    (played : rehearsal.playFirst? rehearsal.participants = some (later, contents)) :
    ({ rehearsal with participants := later, received } : Rehearsal).work < rehearsal.work := by
  obtain ⟨before, participant, after, event, session, members, _, step, rfl⟩ :=
    playFirst?_eq_some played
  have less := Participant.workerStep_work_lt step
  have timed : (rehearsal.timeCalls { participant with session }).work =
      ({ participant with session } : Participant).work := rfl
  rw [work_eq, work_eq, members]
  simp only [List.map_append, List.map_cons, List.sum_append, List.sum_cons, timed]
  omega

/-- With fuel for all the work, it ends when no participant can meet anything. -/
theorem settleWith_stuck {fuel : Nat} {rehearsal : Rehearsal} (enough : rehearsal.work ≤ fuel) :
    (settleWith fuel rehearsal).playFirst? (settleWith fuel rehearsal).participants = none := by
  induction fuel generalizing rehearsal with
  | zero =>
      unfold settleWith
      cases played : rehearsal.playFirst? rehearsal.participants with
      | none => rfl
      | some result =>
          have less := playFirst?_work_lt rehearsal.received played
          omega
  | succ fuel ih =>
      unfold settleWith
      split
      next stuck => exact stuck
      next later contents played =>
        have less := playFirst?_work_lt (rehearsal.received ++ contents) played
        exact ih (by omega)

/-- Once everything that needs no time is done, every worker took every command. -/
theorem settle_caughtUp (rehearsal : Rehearsal) :
    ∀ participant ∈ rehearsal.settle.participants, participant.session.CaughtUp := by
  intro participant member worker working
  have stuck := playFirst?_eq_none (settleWith_stuck (Nat.le_refl rehearsal.work))
  refine Decidable.byContradiction fun left => ?_
  obtain ⟨event, session, met, step⟩ :=
    Participant.event?_of_command rehearsal.settle.now working left
  have idle := stuck participant member event met
  rw [step] at idle
  cases idle

/-- What is done without taking time is, for each participant, a run of its worker. -/
theorem settle_plays (rehearsal : Rehearsal) :
    ∀ participant ∈ rehearsal.settle.participants,
      ∃ before ∈ rehearsal.participants, before.name = participant.name ∧
        ∃ events : List Worker.Event,
          before.session.play (events.map .meet) = some participant.session := by
  unfold settle
  generalize rehearsal.work = fuel
  induction fuel generalizing rehearsal with
  | zero => exact fun participant member => ⟨participant, member, rfl, [], rfl⟩
  | succ fuel ih =>
      intro participant member
      unfold settleWith at member
      split at member
      · exact ⟨participant, member, rfl, [], rfl⟩
      next later contents played =>
        obtain ⟨front, player, back, event, session, members, met, step, rfl⟩ :=
          playFirst?_eq_some played
        obtain ⟨before, known, name, events, run⟩ := ih _ participant member
        simp only [List.mem_append, List.mem_cons] at known
        rw [members]
        rcases known with earlier | rfl | afterwards
        · exact ⟨before, by simp [earlier], name, events, run⟩
        · refine ⟨player, by simp, name, event :: events, ?_⟩
          exact Option.bind_eq_some_iff.mpr ⟨session, step, run⟩
        · exact ⟨before, by simp [afterwards], name, events, run⟩

end Rehearsal

end StrategyDesk
