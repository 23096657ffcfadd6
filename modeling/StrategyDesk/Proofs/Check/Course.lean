import StrategyDesk.Check
import StrategyDesk.Proofs.Session.Acceptance
import StrategyDesk.Proofs.Worker.Responses
import StrategyDesk.Proofs.Worker.Waiters

/-!
# What holds on the course of a check

Whatever the worker meets and whatever the network answers, the session of a check keeps its text,
its settings and the service of its sandbox, and every success that it was answered with is among
the exchanges. Once the wait for the validation is over no command is left.
-/

set_option autoImplicit false

namespace StrategyDesk

theorem Environment.sync_service {env mirrored : Environment} {path : String} {text : Text}
    (synced : env.sync path text = .ok mirrored) : mirrored.service = env.service := by
  unfold sync write at synced
  split at synced
  · cases synced
    rfl
  · split at synced
    · cases synced
    · cases synced
      rfl

namespace Session

def wishes (session : Session) : List Nat := session.worker.toList.flatMap Worker.wishes

/-- What neither the worker nor a library that is installed changes. -/
structure Continues (session next : Session) : Prop where
  text : next.text = session.text
  settings : next.settings = session.settings
  service : next.sandbox.map Environment.service = session.sandbox.map Environment.service
  wishes : next.wishes = session.wishes

theorem Continues.refl (session : Session) : session.Continues session := ⟨rfl, rfl, rfl, rfl⟩

theorem Continues.trans {first second third : Session} (earlier : first.Continues second)
    (later : second.Continues third) : first.Continues third where
  text := later.text.trans earlier.text
  settings := later.settings.trans earlier.settings
  service := later.service.trans earlier.service
  wishes := later.wishes.trans earlier.wishes

theorem submit_wishes (session : Session) (localError : Bool) :
    (session.submit localError).wishes = session.wishes := by
  unfold submit wishes
  cases session.worker with
  | none => rfl
  | some worker => simp [Worker.submit, Worker.wishes, Worker.wish?]

theorem analyze_wishes {session next : Session} {result : Except Failure Unit}
    (analysed : session.analyze = some (next, result)) :
    next.settings = session.settings ∧ next.wishes = session.wishes ∧
      next.sandbox.map Environment.service = session.sandbox.map Environment.service := by
  cases analyze_ends analysed with
  | unneeded bare => exact ⟨rfl, rfl, rfl⟩
  | refused holds refused => exact ⟨rfl, rfl, rfl⟩
  | @carriedOut env mirrored holds synced =>
      refine ⟨rfl, submit_wishes _ _, ?_⟩
      rw [holds, Option.map_some, ← Environment.sync_service synced]
      rfl

theorem addLibrary_continues {session next : Session} {path : String} {content : Text}
    {result : Except Failure FileChange} {env : Environment} {worker : Worker}
    {ledger : List Answer} (coherent : session.Coherent env worker ledger)
    (added : session.addLibrary path content = some (next, result)) :
    session.Continues next := by
  obtain ⟨_, _, _, document⟩ := addLibrary_coherent coherent added
  have text : next.text = session.text := congrArg Document.text document
  rcases addLibrary_cases added with same | ⟨written, change, done, wrote, linted, _⟩
  · rw [same]
    exact .refl session
  · have service : written.service = env.service := by
      rw [coherent.running.sandbox, Environment.writeLibrary,
        Environment.write_of_live coherent.running.live] at wrote
      cases wrote
      rfl
    have holding : session.sandbox.map Environment.service = some written.service := by
      rw [coherent.running.sandbox, Option.map_some, service]
    cases dispatch_ends linted with
    | refused refused => exact ⟨text, rfl, holding.symm, rfl⟩
    | irrelevant carried irrelevant => exact ⟨text, rfl, holding.symm, rfl⟩
    | analysed carried relevant analysed =>
        obtain ⟨settings, wishes, kept⟩ := analyze_wishes analysed
        exact ⟨text, settings, kept.trans holding.symm, wishes⟩

theorem workerStep_continues {session next : Session} {event : Worker.Event}
    (stepped : session.workerStep event = some next) : session.Continues next := by
  obtain ⟨worker, after, shown, working, step, rfl⟩ := workerStep_eq_some stepped
  have same := Worker.transition_sameHostSide (Worker.step_transition step)
  refine ⟨congrArg Document.text same.1, rfl, rfl, ?_⟩
  simp [wishes, working, Worker.step_wishes step]

end Session

namespace Backtest

theorem status_of_judge_success {response : Web.Response}
    (judged : judge response = .ok .success) : 200 ≤ response.status ∧ response.status < 300 := by
  unfold judge at judged
  split at judged
  next success => simpa [Web.isSuccess] using success
  · split at judged
    · split at judged
      · cases judged
      · split at judged <;> cases judged
    · cases judged

/-- Only an answer of success accepts a text. -/
theorem exists_of_validate_success {service : Backtest} {network : Web.Network} {content : Text}
    (accepted : service.validate network content = .ok .success) :
    ∃ request response, service.parseRequest content = .ok request ∧
      network request = .ok response ∧ 200 ≤ response.status ∧ response.status < 300 := by
  unfold validate exchange at accepted
  cases formed : service.parseRequest content with
  | error failure =>
      rw [formed] at accepted
      cases accepted
  | ok request =>
      cases arrived : network request with
      | error reason =>
          simp only [formed, arrived, bind, Except.bind] at accepted
          cases accepted
      | ok response =>
          simp only [formed, arrived, bind, Except.bind] at accepted
          exact ⟨request, response, rfl, arrived, status_of_judge_success accepted⟩

end Backtest

/-- Whether the validator was asked for a content in an exchange and accepted it. -/
structure Exchange.Grants (exchange : Exchange) (service : Backtest) (content : Text) : Prop where
  asked : service.parseRequest content = .ok exchange.request
  granted : ∃ response, exchange.arrival = .ok response ∧ 200 ≤ response.status ∧
    response.status < 300

namespace Progress

/-- Whether every success in a ledger is among the exchanges. -/
def Notes (progress : Progress) (service : Backtest) (ledger : List Answer) : Prop :=
  ∀ answer ∈ ledger, answer.result = .ok .success →
    ∃ exchange ∈ progress.exchanges, exchange.number = answer.number ∧
      exchange.Grants service answer.content

/-- Whether every exchange went as the network stood when its call was answered. -/
def Genuine (progress : Progress) (course : Course) : Prop :=
  ∀ exchange ∈ progress.exchanges, ∃ pause network,
    .answered exchange.number network ∈ course.meanwhile pause ∧
      exchange.arrival = network exchange.request

/-- What holds of a check of a task at any time. -/
structure Held (progress : Progress) (task : Check.Task) (course : Course) (service : Service) :
    Prop where
  coherent : ∃ env worker ledger, progress.session.Coherent env worker ledger ∧
    progress.Notes task.service ledger
  genuine : progress.Genuine course
  text : progress.session.text = task.text
  settings : progress.session.settings = task.settings
  service : progress.session.sandbox.map Environment.service = some service

variable {progress next : Progress} {task : Check.Task} {service : Service} {course : Course}

theorem Held.of_continues (held : progress.Held task course service)
    (continues : progress.session.Continues next.session)
    (coherent : ∃ env worker ledger, next.session.Coherent env worker ledger ∧
      next.Notes task.service ledger) (genuine : next.Genuine course) :
    next.Held task course service where
  coherent := coherent
  genuine := genuine
  text := continues.text.trans held.text
  settings := continues.settings.trans held.settings
  service := continues.service.trans held.service

theorem exists_of_step {event : Worker.Event} (stepped : progress.step event = some next) :
    ∃ session, progress.session.workerStep event = some session ∧
      next = { progress with session } := by
  obtain ⟨session, step, made⟩ := Option.bind_eq_some_iff.mp stepped
  exact ⟨session, step, (Option.some.inj made).symm⟩

/-- How the worker takes what happens: as an event, and with the exchanges of the calls that it
ends. An answer is noted if it is a success, and what is noted arrived. -/
structure Takes (progress : Progress) (validator : Backtest) (happening : Happening)
    (next : Progress) (event : Worker.Event) (more : List Exchange) : Prop where
  stepped : progress.session.workerStep event = some next.session
  exchanges : next.exchanges = progress.exchanges ++ more
  noted : next.Notes validator (progress.session.answer? (.meet event)).toList
  arrived : ∀ exchange ∈ more, ∃ network, happening = .answered exchange.number network ∧
    exchange.arrival = network exchange.request

theorem takes_of_silent {validator : Backtest} {happening : Happening} {event : Worker.Event}
    (silent : ∀ worker : Worker, worker.answer? event = none)
    (stepped : progress.step event = some next) :
    progress.Takes validator happening next event [] := by
  obtain ⟨session, step, rfl⟩ := exists_of_step stepped
  have unanswered : progress.session.answer? (.meet event) = none := by
    cases working : progress.session.worker <;> simp [Session.answer?, working, silent]
  exact ⟨step, (List.append_nil _).symm, by simp [unanswered, Notes], by simp⟩

theorem takes_of_meet {validator : Backtest} {happening : Happening}
    (met : progress.meet validator happening = some next) :
    ∃ event more, progress.Takes validator happening next event more := by
  cases happening with
  | command now => exact ⟨_, _, takes_of_silent (fun _ => rfl) met⟩
  | expiry now => exact ⟨_, _, takes_of_silent (fun _ => rfl) met⟩
  | cancelled number => exact ⟨_, _, takes_of_silent (fun _ => rfl) met⟩
  | crashed number reason => exact ⟨_, _, takes_of_silent (fun _ => rfl) met⟩
  | answered number network =>
      obtain ⟨call, found, met⟩ := Option.bind_eq_some_iff.mp met
      obtain ⟨after, stepped, made⟩ := Option.bind_eq_some_iff.mp met
      cases made
      obtain ⟨session, step, rfl⟩ := exists_of_step stepped
      obtain ⟨worker, working, among⟩ := Option.bind_eq_some_iff.mp found
      have same : call.number = number := by simpa using List.find?_some among
      refine ⟨_, _, step, rfl, ?_, ?_⟩
      · intro answer member success
        simp only [Session.answer?, working, Option.bind_some, Worker.answer?, among,
          Option.map_some, Option.toList_some, List.mem_singleton] at member
        subst member
        obtain ⟨request, response, formed, arrived, status⟩ :=
          Backtest.exists_of_validate_success success
        refine ⟨⟨call.number, request, network request⟩, ?_, same, formed, response, arrived,
          status⟩
        simp [Backtest.exchangeOf?, formed, Except.toOption]
      · intro exchange member
        obtain ⟨request, _, rfl⟩ := Option.map_eq_some_iff.mp (Option.mem_toList.mp member)
        exact ⟨network, by rw [same], rfl⟩

theorem Notes.append {validator : Backtest} {ledger later : List Answer}
    (earlier : progress.Notes validator ledger)
    (kept : progress.exchanges ⊆ next.exchanges) (newest : next.Notes validator later) :
    next.Notes validator (ledger ++ later) := by
  intro answer member success
  rcases List.mem_append.mp member with old | new
  · obtain ⟨exchange, noted, granted⟩ := earlier answer old success
    exact ⟨exchange, kept noted, granted⟩
  · exact newest answer new success

theorem Held.meet {happening : Happening} {pause : Pause}
    (held : progress.Held task course service) (happens : happening ∈ course.meanwhile pause)
    (met : progress.meet task.service happening = some next) :
    next.Held task course service ∧ progress.session.Continues next.session := by
  obtain ⟨event, more, stepped, longer, newest, arrived⟩ := takes_of_meet met
  have continues := Session.workerStep_continues stepped
  obtain ⟨env, worker, ledger, coherent, noted⟩ := held.coherent
  have acted : progress.session.act (.meet event) = some next.session := stepped
  obtain ⟨env, worker, after⟩ := Session.act_coherent coherent acted
  have kept : progress.exchanges ⊆ next.exchanges := longer ▸ List.subset_append_left _ _
  refine ⟨held.of_continues continues ⟨env, worker, _, after, noted.append kept newest⟩ ?_,
    continues⟩
  intro exchange member
  rw [longer] at member
  rcases List.mem_append.mp member with old | new
  · exact held.genuine exchange old
  · obtain ⟨network, rfl, arrival⟩ := arrived exchange new
    exact ⟨pause, network, happens, arrival⟩

theorem Held.meetAll {happenings : List Happening} {pause : Pause}
    (held : progress.Held task course service) (happen : happenings ⊆ course.meanwhile pause)
    (met : progress.meetAll task.service happenings = some next) :
    next.Held task course service ∧ progress.session.Continues next.session := by
  induction happenings generalizing progress with
  | nil =>
      cases met
      exact ⟨held, .refl _⟩
  | cons happening rest ih =>
      obtain ⟨first, others⟩ := List.cons_subset.mp happen
      obtain ⟨middle, now, later⟩ := Option.bind_eq_some_iff.mp met
      obtain ⟨between, earlier⟩ := held.meet first now
      obtain ⟨last, continues⟩ := ih between others later
      exact ⟨last, earlier.trans continues⟩

theorem Held.pause {pause : Pause} (held : progress.Held task course service)
    (met : task.meanwhile course progress pause = some next) :
    next.Held task course service ∧ progress.session.Continues next.session :=
  held.meetAll (List.Subset.refl _) met

theorem meetAll_queue {validator : Backtest} {happenings : List Happening} {worker : Worker}
    (working : progress.session.worker = some worker)
    (met : progress.meetAll validator happenings = some next) :
    ∃ after, next.session.worker = some after ∧ after.queue <:+ worker.queue := by
  induction happenings generalizing progress worker with
  | nil =>
      cases met
      exact ⟨worker, working, List.suffix_refl _⟩
  | cons happening rest ih =>
      obtain ⟨middle, first, later⟩ := Option.bind_eq_some_iff.mp met
      obtain ⟨event, _, takes⟩ := takes_of_meet first
      obtain ⟨_, between, shown, same, step, moved⟩ := Session.workerStep_eq_some takes.stepped
      cases working.symm.trans same
      obtain ⟨after, ended, left⟩ := ih (by rw [moved]) later
      obtain ⟨taken, queue, _⟩ := Worker.step_queue step
      exact ⟨after, ended, left.trans ⟨taken, queue.symm⟩⟩

theorem Held.pause_caughtUp {pause : Pause} (held : progress.Held task course service)
    (caughtUp : progress.session.CaughtUp)
    (met : task.meanwhile course progress pause = some next) :
    next.Held task course service ∧ next.session.CaughtUp := by
  obtain ⟨env, worker, ledger, coherent, _⟩ := held.coherent
  obtain ⟨after, ended, left⟩ := meetAll_queue coherent.running.working met
  refine ⟨(held.pause met).1, fun other working => ?_⟩
  cases ended.symm.trans working
  rw [caughtUp worker coherent.running.working] at left
  exact List.suffix_nil.mp left

theorem Held.takeFailures (held : progress.Held task course service) :
    ({ progress with session := progress.session.takeFailures.1 } : Progress).Held task course
      service := by
  obtain ⟨env, worker, ledger, coherent, noted⟩ := held.coherent
  have taken : progress.session.act .takeFailures = some progress.session.takeFailures.1 := rfl
  obtain ⟨env, worker, after⟩ := Session.act_coherent coherent taken
  rw [show progress.session.answer? .takeFailures = none from rfl, Option.toList_none,
    List.append_nil] at after
  exact ⟨⟨env, worker, ledger, after, noted⟩, held.genuine, held.text, held.settings,
    held.service⟩

theorem Held.addLibrary {path : String} {content : Text} {result : Except Failure FileChange}
    (held : progress.Held task course service)
    (added : progress.act (fun session => session.addLibrary path content) =
      some (next, result)) :
    next.Held task course service ∧ progress.session.Continues next.session := by
  obtain ⟨⟨session, change⟩, wrote, made⟩ := Option.bind_eq_some_iff.mp added
  cases made
  obtain ⟨env, worker, ledger, coherent, noted⟩ := held.coherent
  have continues := Session.addLibrary_continues coherent wrote
  obtain ⟨env, worker, after, _⟩ := Session.addLibrary_coherent coherent wrote
  exact ⟨held.of_continues continues ⟨env, worker, ledger, after, noted⟩ held.genuine, continues⟩

theorem Held.installUniverse {provider : Except Failure (List Instrument)}
    {result : Except Failure FileChange} (held : progress.Held task course service)
    (installed : progress.act (fun session => session.installUniverse provider) =
      some (next, result)) :
    next.Held task course service ∧ progress.session.Continues next.session := by
  cases provider with
  | error failure =>
      cases installed
      exact ⟨held, .refl _⟩
  | ok instruments => exact held.addLibrary installed

end Progress

theorem Manager.acquire_service {manager supplier : Manager} {env : Environment}
    {service : Service}
    (creates : ∀ options attempt, manager.backend.create options attempt = .ok service)
    (acquired : manager.acquire = (supplier, .ok env)) : env.service = service := by
  have furnished {source : Manager} {snapshot : Snapshot}
      (same : source.backend = manager.backend)
      (made : (source.furnish snapshot).2 = .ok env) : env.service = service := by
    simp only [furnish, same, creates, Except.map, Except.ok.injEq] at made
    rw [← made]
    rfl
  unfold acquire at acquired
  split at acquired
  · exact furnished rfl (congrArg Prod.snd acquired)
  · unfold endLoad at acquired
    cases loaded : manager.source.load manager.loads with
    | error failure =>
        simp [beginLoad, loaded] at acquired
    | ok snapshot =>
        simp only [beginLoad, loaded] at acquired
        exact furnished rfl (congrArg Prod.snd acquired)

namespace Check.Task

variable {task : Task} {service : Service} {course : Course} {progress next : Progress}

theorem held_of_openEditable {supplier : Manager} {session : Session}
    (creates : ∀ options attempt, task.manager.backend.create options attempt = .ok service)
    (opened : Session.openEditable task.manager task.text task.settings =
      some (supplier, .ok session)) :
    (⟨session, []⟩ : Progress).Held task course service ∧ session.wishes = [] := by
  obtain ⟨env, worker, coherent, text⟩ := Session.openEditable_coherent opened
  obtain ⟨started, next, acquired, analysed, rfl⟩ := Session.exists_of_openEditable opened
  obtain ⟨settings, wishes, kept⟩ := Session.analyze_wishes analysed
  have unanswered : (⟨{ next with ready := true }, []⟩ : Progress).Notes task.service [] :=
    fun answer member => by cases member
  have unasked : (⟨{ next with ready := true }, []⟩ : Progress).Genuine course :=
    fun exchange member => by cases member
  refine ⟨⟨⟨env, worker, [], coherent, unanswered⟩, unasked, text, settings, ?_⟩, wishes⟩
  rw [← Manager.acquire_service creates acquired]
  exact kept

theorem held_of_install {result : Except Failure FileChange} (held : progress.Held task course service)
    (installed : task.install course progress = some (next, result)) :
    next.Held task course service ∧ progress.session.Continues next.session := by
  obtain ⟨⟨helped, outcome⟩, first, later⟩ := Option.bind_eq_some_iff.mp installed
  obtain ⟨between, earlier⟩ := held.addLibrary first
  cases outcome with
  | error failure =>
      cases later
      exact ⟨between, earlier⟩
  | ok change =>
      obtain ⟨asking, met, last⟩ := Option.bind_eq_some_iff.mp later
      obtain ⟨waited, onward⟩ := between.pause met
      obtain ⟨ended, ending⟩ := waited.installUniverse last
      exact ⟨ended, (earlier.trans onward).trans ending⟩

/-- The wait for the validation is over only when the worker took every command. -/
theorem held_of_flush (held : progress.Held task course service)
    (nobody : progress.session.wishes = [])
    (flushed : task.flush course progress = some next) :
    next.Held task course service ∧ next.session.CaughtUp := by
  obtain ⟨env, worker, ledger, coherent, noted⟩ := held.coherent
  have working := coherent.running.working
  let asked : Progress := { progress with session := progress.session.requestFlush waiter }
  have requested : progress.session.act (.requestFlush waiter) = some asked.session := rfl
  obtain ⟨env, told, after⟩ := Session.act_coherent coherent requested
  have asking : asked.session.worker = some (worker.submit (.flush waiter)) := by
    simp [asked, Session.requestFlush, working]
  have alone : asked.session.wishes = [waiter] := by
    simp only [Session.wishes, working, asking, Option.toList_some, List.flatMap_singleton,
      Worker.wishes] at nobody ⊢
    simp only [List.append_eq_nil_iff] at nobody
    simp [Worker.submit, nobody, Worker.wish?]
  have waiting : asked.Held task course service := by
    refine ⟨⟨env, told, _, after, ?_⟩, held.genuine, held.text, held.settings, held.service⟩
    have still : asked.Notes task.service ledger := noted
    simpa [Session.answer?] using still
  obtain ⟨waited, met, done⟩ := Option.bind_eq_some_iff.mp flushed
  obtain ⟨last, continues⟩ := waiting.pause met
  obtain ⟨ended, finished, left⟩ := Progress.meetAll_queue asking met
  split at done
  next answered =>
    cases done
    refine ⟨last, fun other same => ?_⟩
    cases finished.symm.trans same
    have wishes := continues.wishes.trans alone
    simp only [Session.wishes, finished, Option.toList_some, List.flatMap_singleton] at wishes
    simp only [Session.isFlushed, finished, List.contains_iff_mem] at answered
    exact Worker.queue_eq_nil_of_told wishes left answered
  · cases done

theorem held_of_follow {session : Session} {checked : Checked}
    (held : (⟨session, []⟩ : Progress).Held task course service) (nobody : session.wishes = [])
    (followed : task.follow course session = some checked) :
    checked.last.Held task course service ∧ checked.last.session.CaughtUp := by
  obtain ⟨opened, met, followed⟩ := Option.bind_eq_some_iff.mp followed
  obtain ⟨held, first⟩ := held.pause met
  obtain ⟨⟨installed, result⟩, installing, followed⟩ := Option.bind_eq_some_iff.mp followed
  obtain ⟨held, second⟩ := held_of_install held installing
  obtain ⟨ready, met, followed⟩ := Option.bind_eq_some_iff.mp followed
  obtain ⟨held, third⟩ := held.pause met
  have nobody : ready.session.wishes = [] :=
    ((first.trans second).trans third).wishes.trans nobody
  obtain ⟨flushed, flushing, followed⟩ := Option.bind_eq_some_iff.mp followed
  obtain ⟨held, caughtUp⟩ := held_of_flush held nobody flushing
  obtain ⟨collecting, met, followed⟩ := Option.bind_eq_some_iff.mp followed
  obtain ⟨held, caughtUp⟩ := held.pause_caughtUp caughtUp met
  obtain ⟨warned, met, followed⟩ := Option.bind_eq_some_iff.mp followed
  have taken := held.takeFailures
  obtain ⟨held, caughtUp⟩ := taken.pause_caughtUp caughtUp met
  obtain ⟨last, met, made⟩ := Option.bind_eq_some_iff.mp followed
  cases made
  exact held.pause_caughtUp caughtUp met

end Check.Task

end StrategyDesk
