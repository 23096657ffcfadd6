import Mathlib.Data.List.Destutter
import StrategyDesk.Proofs.Worker.Displayed

/-!
# What subscribers are told

After any events the value of the signals is whether a producer raised its flag and has not lowered
it since. It is published exactly when it flips, so published values alternate. A subscriber has
news exactly if the value flipped since the subscriber last looked, or since it subscribed, however
often it flipped and whatever it is by now.
-/

set_option autoImplicit false

namespace StrategyDesk

/-! ## What the events say -/

namespace SignalEvent

def sandbox? : SignalEvent → Option Bool
  | sandbox value => some value
  | _ => none

def validator? : SignalEvent → Option Bool
  | validator value => some value
  | _ => none

def IsSetting (event : SignalEvent) : Prop :=
  ∃ value, event = sandbox value ∨ event = validator value

end SignalEvent

/-- What was set last; a flag that was never set is down. -/
def lastSet (values : List Bool) : Bool := values.getLast?.getD false

def ErrorFlags.after (events : List SignalEvent) : ErrorFlags :=
  ⟨lastSet (events.filterMap SignalEvent.sandbox?),
    lastSet (events.filterMap SignalEvent.validator?)⟩

def errorsAfter (events : List SignalEvent) : Bool := (ErrorFlags.after events).any

/-- Whether there are errors before the event or after it, and not both. -/
def Flips (past : List SignalEvent) (event : SignalEvent) : Prop :=
  errorsAfter (past ++ [event]) ≠ errorsAfter past

def Flipped (past since : List SignalEvent) : Prop :=
  ∃ earlier event later, since = earlier ++ event :: later ∧ Flips (past ++ earlier) event

/-- Whether the last of the events is that a subscriber looks, or that it joins. -/
def Attends (number : Nat) (past : List SignalEvent) : Prop :=
  ∃ before, past = before ++ [.look number] ∧ number < before.count .subscribe ∨
    past = before ++ [.subscribe] ∧ number = before.count .subscribe

theorem lastSet_concat (values : List Bool) (value : Bool) :
    lastSet (values ++ [value]) = value := by
  simp [lastSet]

theorem ErrorFlags.after_concat (events : List SignalEvent) (event : SignalEvent) :
    after (events ++ [event]) =
      match event with
      | .sandbox value => { after events with sandbox := value }
      | .validator value => { after events with validator := value }
      | _ => after events := by
  cases event <;> simp [after, List.filterMap_cons, SignalEvent.sandbox?, SignalEvent.validator?,
    lastSet_concat]

theorem not_flipped_nil (past : List SignalEvent) : ¬ Flipped past [] := by
  rintro ⟨earlier, event, later, split, _⟩
  simp at split

theorem flipped_cons {past rest : List SignalEvent} {event : SignalEvent} :
    Flipped past (event :: rest) ↔ Flips past event ∨ Flipped (past ++ [event]) rest := by
  constructor
  · rintro ⟨earlier, flip, later, split, flips⟩
    cases earlier with
    | nil =>
        obtain ⟨rfl, rfl⟩ := List.cons.inj split
        exact Or.inl (by simpa using flips)
    | cons first earlier =>
        obtain ⟨rfl, rfl⟩ := List.cons.inj split
        exact Or.inr ⟨earlier, flip, later, rfl, by simpa using flips⟩
  · rintro (flips | ⟨earlier, flip, later, rfl, flips⟩)
    · exact ⟨[], event, rest, rfl, by simpa using flips⟩
    · exact ⟨event :: earlier, flip, later, rfl, by simpa using flips⟩

/-! ## One event -/

namespace Signals

variable (signals : Signals) (flags : ErrorFlags)

theorem update_publications :
    (signals.update flags).publications =
      signals.publications + if flags.any = signals.hasErrors then 0 else 1 := by
  unfold update
  split <;> rfl

end Signals

namespace Audience

variable (audience : Audience) (event : SignalEvent)

theorem run_concat (events : List SignalEvent) :
    audience.run (events ++ [event]) = (audience.run events).step event := by
  simp [run]

theorem run_append (events more : List SignalEvent) :
    audience.run (events ++ more) = (audience.run events).run more := by
  simp [run]

theorem step_publications :
    (audience.step event).signals.publications = audience.signals.publications +
      if (audience.step event).signals.hasErrors = audience.signals.hasErrors then 0 else 1 := by
  cases event with
  | sandbox value =>
      simp only [step, Signals.setSandbox, Signals.update_publications, Signals.update_hasErrors]
  | validator value =>
      simp only [step, Signals.setValidator, Signals.update_publications, Signals.update_hasErrors]
  | subscribe => simp [step]
  | look number => simp [step]

theorem publications_le_run (events : List SignalEvent) :
    audience.signals.publications ≤ (audience.run events).signals.publications := by
  induction events generalizing audience with
  | nil => exact Nat.le_refl _
  | cons event rest ih =>
      have published := audience.step_publications event
      have later := ih (audience.step event)
      simp only [run, List.foldl_cons] at later ⊢
      omega

/-! ## Runs -/

theorem run_flags (events : List SignalEvent) :
    (start.run events).signals.flags = .after events ∧
      (start.run events).signals.hasErrors = errorsAfter events := by
  induction events using List.reverseRecOn with
  | nil => exact ⟨rfl, rfl⟩
  | append_singleton events event ih =>
      obtain ⟨flags, errors⟩ := ih
      rw [run_concat]
      rw [errorsAfter, ErrorFlags.after_concat]
      cases event with
      | sandbox value =>
          simp [step, Signals.setSandbox, Signals.update_flags, Signals.update_hasErrors, flags]
      | validator value =>
          simp [step, Signals.setValidator, Signals.update_flags, Signals.update_hasErrors, flags]
      | subscribe => exact ⟨flags, errors⟩
      | look number => exact ⟨flags, errors⟩

theorem run_concat_publications (past : List SignalEvent) :
    (start.run (past ++ [event])).signals.publications = (start.run past).signals.publications ↔
      ¬ Flips past event := by
  have published := (start.run past).step_publications event
  rw [← run_concat, (run_flags _).2, (run_flags _).2] at published
  rw [published, Flips, not_not]
  split <;> simp_all

/-- Something was published since exactly if there was a flip. -/
theorem run_publications (past since : List SignalEvent) :
    (start.run (past ++ since)).signals.publications ≠ (start.run past).signals.publications ↔
      Flipped past since := by
  induction since generalizing past with
  | nil => simp [not_flipped_nil]
  | cons event rest ih =>
      have here := run_concat_publications event past
      have later := ih (past ++ [event])
      have first := (start.run past).publications_le_run [event]
      have others := (start.run (past ++ [event])).publications_le_run rest
      rw [← run_append] at first others
      rw [flipped_cons, ← later, ← List.append_cons]
      rw [← List.append_cons] at others
      by_cases flips : Flips past event
      · have apart := mt here.mp (not_not.mpr flips)
        simp only [flips, true_or, iff_true]
        omega
      · rw [here.mpr flips]
        simp [flips]

/-! ## Published values -/

def published (audience : Audience) : List SignalEvent → List Bool
  | [] => []
  | event :: rest =>
      let next := audience.step event
      if next.signals.publications = audience.signals.publications then next.published rest
      else next.signals.hasErrors :: next.published rest

theorem published_eq_destutter (events : List SignalEvent) :
    audience.signals.hasErrors :: audience.published events =
      (events.inits.map fun recent => (audience.run recent).signals.hasErrors).destutter
        (· ≠ ·) := by
  induction events generalizing audience with
  | nil => simp [published, run]
  | cons event rest ih =>
      have onward := ih (audience.step event)
      have counted := audience.step_publications event
      obtain ⟨values, along⟩ : ∃ values,
          (rest.inits.map fun recent => ((audience.step event).run recent).signals.hasErrors) =
            (audience.step event).signals.hasErrors :: values := by
        cases rest <;> exact ⟨_, rfl⟩
      rw [along, List.destutter_cons'] at onward
      have course : ((event :: rest).inits.map fun recent =>
            (audience.run recent).signals.hasErrors) =
          audience.signals.hasErrors :: (audience.step event).signals.hasErrors :: values := by
        rw [← along]
        simp [run, Function.comp_def]
      rw [course, List.destutter_cons', List.destutter'_cons, ← onward, published]
      by_cases same : (audience.step event).signals.hasErrors = audience.signals.hasErrors
      · rw [if_pos same, Nat.add_zero] at counted
        rw [if_pos counted, if_neg (not_not.mpr same.symm), ← same]
        exact onward
      · rw [if_neg same] at counted
        simp [counted, Ne.symm same]

/-! ## Subscribers -/

theorem run_subscribers_length (events : List SignalEvent) :
    (start.run events).subscribers.length = events.count .subscribe := by
  induction events using List.reverseRecOn with
  | nil => rfl
  | append_singleton events event ih =>
      rw [run_concat]
      cases event <;> simp [step, ih]

/-- A subscriber has seen what was published before it attended last. -/
theorem exists_attends {events : List SignalEvent} {number : Nat} {subscriber : Subscriber}
    (found : (start.run events).subscribers[number]? = some subscriber) :
    ∃ past since, events = past ++ since ∧ Attends number past ∧ .look number ∉ since ∧
      subscriber = .of (start.run past).signals := by
  induction events using List.reverseRecOn with
  | nil => simp [run, start] at found
  | append_singleton events event ih =>
      have counted := run_subscribers_length events
      rw [run_concat] at found
      have keep (other : event ≠ .look number)
          (held : (start.run events).subscribers[number]? = some subscriber) :
          ∃ past since, events ++ [event] = past ++ since ∧ Attends number past ∧
            .look number ∉ since ∧ subscriber = .of (start.run past).signals := by
        obtain ⟨past, since, rfl, attends, unseen, same⟩ := ih held
        exact ⟨past, since ++ [event], by simp, attends, by simp [unseen, other.symm], same⟩
      cases event with
      | sandbox value => exact keep nofun found
      | validator value => exact keep nofun found
      | subscribe =>
          simp only [step] at found
          by_cases joined : number < (start.run events).subscribers.length
          · rw [List.getElem?_append_left joined] at found
            exact keep nofun found
          · rw [List.getElem?_append_right (Nat.not_lt.mp joined)] at found
            obtain ⟨inside, rfl⟩ := List.getElem?_eq_some_iff.mp found
            rw [List.length_singleton] at inside
            have joins : Attends number (events ++ [.subscribe]) :=
              ⟨events, Or.inr ⟨rfl, by omega⟩⟩
            exact ⟨_, [], by simp, joins, by simp, by simp [run_concat, step]⟩
      | look other =>
          simp only [step] at found
          by_cases here : other = number
          · subst here
            obtain ⟨inside, rfl⟩ := List.getElem?_eq_some_iff.mp found
            rw [List.length_set, counted] at inside
            have looks : Attends other (events ++ [.look other]) :=
              ⟨events, Or.inl ⟨rfl, inside⟩⟩
            exact ⟨_, [], by simp, looks, by simp, by simp [run_concat, step]⟩
          · rw [List.getElem?_set_ne here] at found
            exact keep (by simpa using here) found

/-- After any events the signals hold what the producers set last, and the disjunction of it. What
was published is the value after each event without the repetitions, so that it alternates. A
setting that flips nothing changes no subscriber's news, and a subscriber has news exactly if there
was a flip since it last looked or joined. -/
theorem publications_of_run (events : List SignalEvent) :
    let audience := start.run events
    audience.signals.flags = .after events ∧
    audience.signals.hasErrors =
      (audience.signals.flags.sandbox || audience.signals.flags.validator) ∧
    false :: start.published events = (events.inits.map errorsAfter).destutter (· ≠ ·) ∧
    (false :: start.published events).IsChain (· ≠ ·) ∧
    (∀ event, event.IsSetting → ¬ Flips events event →
      (audience.step event).subscribers.map (·.hasNews (audience.step event).signals) =
        audience.subscribers.map (·.hasNews audience.signals)) ∧
    audience.subscribers.length = events.count .subscribe ∧
    ∀ number subscriber, audience.subscribers[number]? = some subscriber →
      ∃ past since, events = past ++ since ∧ Attends number past ∧ .look number ∉ since ∧
        (subscriber.hasNews audience.signals = true ↔ Flipped past since) := by
  intro audience
  obtain ⟨flags, errors⟩ := run_flags events
  have course : false :: start.published events =
      (events.inits.map errorsAfter).destutter (· ≠ ·) := by
    have along := start.published_eq_destutter events
    simp only [(run_flags _).2] at along
    exact along
  refine ⟨flags, ?_, course, ?_, ?_, run_subscribers_length events, ?_⟩
  · rw [flags]
    exact errors
  · rw [course]
    exact List.isChain_destutter _ _
  · intro event setting still
    have unpublished := (run_concat_publications event events).mpr still
    rw [run_concat] at unpublished
    have subscribers : (audience.step event).subscribers = audience.subscribers := by
      obtain ⟨value, rfl | rfl⟩ := setting <;> rfl
    rw [subscribers]
    simp only [Subscriber.hasNews, audience, unpublished]
  · intro number subscriber found
    obtain ⟨past, since, rfl, attends, unseen, rfl⟩ := exists_attends found
    refine ⟨past, since, rfl, attends, unseen, ?_⟩
    rw [← run_publications past since, Subscriber.hasNews, Subscriber.of, bne_iff_ne]
    exact ne_comm

/-- The value rises and falls again behind the back of the one subscriber, who is told of it. What
the other producer says then changes nothing for anyone. -/
theorem unseen_flips_are_news :
    let events : List SignalEvent := [.subscribe, .sandbox true, .sandbox false]
    let audience := start.run events
    let later := audience.step (.validator false)
    audience.signals.hasErrors = false ∧
    (∃ subscriber past since, audience.subscribers[0]? = some subscriber ∧
      subscriber.hasNews audience.signals = true ∧
      events = past ++ since ∧ Attends 0 past ∧ Flipped past since) ∧
    later.subscribers.map (·.hasNews later.signals) =
      audience.subscribers.map (·.hasNews audience.signals) := by
  intro events audience later
  obtain ⟨-, -, -, -, silent, -, told⟩ := publications_of_run events
  obtain ⟨past, since, split, attends, -, news⟩ := told 0 _ rfl
  refine ⟨rfl, ⟨_, past, since, rfl, rfl, split, attends, news.mp rfl⟩, ?_⟩
  exact silent (.validator false) ⟨false, Or.inr rfl⟩ (fun flips => flips rfl)

end Audience

end StrategyDesk
