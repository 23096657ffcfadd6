import StrategyDesk.Proofs.Check.Course
import StrategyDesk.Proofs.Web.Endpoint
import StrategyDesk.Web.Domain

/-!
# What a successful check means

A session reports no errors only over a text that was accepted, and the program ends with success
only after such a session over the strategy that it was given.
-/

set_option autoImplicit false

namespace StrategyDesk

theorem exists_of_bind_eq_ok {ε α β : Type} {first : Except ε α} {next : α → Except ε β}
    {result : β} (done : first >>= next = .ok result) :
    ∃ value, first = .ok value ∧ next value = .ok result := by
  cases first with
  | error fault => cases done
  | ok value => exact ⟨value, rfl, done⟩

theorem ok_of_mapError {ε ε' α : Type} {result : Except ε α} {change : ε → ε'} {value : α}
    (done : result.mapError change = .ok value) : result = .ok value := by
  cases result with
  | error fault => cases done
  | ok other =>
      cases done
      rfl

namespace Check

variable {platform : Platform} {loaded : Except LoadFault Configuration}
  {surroundings : Surroundings} {arguments : List String}

/-- Whether a text is the strategy to be checked: that in the file named first, or the starting
one. -/
def IsStrategy (surroundings : Surroundings) (arguments : List String) (text : Text) : Prop :=
  match arguments with
  | [] => text = Library.startingStrategy.toList
  | path :: _ => surroundings.read path = .ok text

theorem isStrategy_of_strategy {name : String} {text : Text}
    (found : strategy surroundings arguments = .ok (name, text)) :
    IsStrategy surroundings arguments text := by
  unfold strategy at found
  unfold IsStrategy
  split at found
  · cases found
    rfl
  next path _ =>
    split at found
    next content read =>
      cases found
      exact read
    · cases found

structure Prepared (platform : Platform) (configuration : Configuration)
    (surroundings : Surroundings) (arguments : List String) (task : Task) : Prop where
  base : Web.Url.parse platform.ascii? configuration.api.baseUrl.toList = .ok task.service.base
  strategy : IsStrategy surroundings arguments task.text
  settings : task.settings = configuration.sessionSettings
  creates : ∀ options attempt, task.manager.backend.create options attempt = .ok Structural.service

theorem exists_of_prepare {download : Nat → Download} {task : Task}
    (made : prepare platform loaded surroundings arguments download = .ok task) :
    ∃ configuration, loaded = .ok configuration ∧
      Prepared platform configuration surroundings arguments task := by
  obtain ⟨configuration, load, made⟩ := exists_of_bind_eq_ok made
  obtain ⟨_, _, made⟩ := exists_of_bind_eq_ok made
  obtain ⟨⟨name, text⟩, found, made⟩ := exists_of_bind_eq_ok made
  obtain ⟨target, _, made⟩ := exists_of_bind_eq_ok made
  obtain ⟨service, addressed, made⟩ := exists_of_bind_eq_ok made
  cases made
  exact ⟨configuration, ok_of_mapError load, Backtest.parse_of_ofAddress (ok_of_mapError addressed),
    isStrategy_of_strategy found, rfl, fun _ _ => rfl⟩

theorem exists_of_report {course : Course} {result : Report}
    (reported : report platform loaded surroundings arguments course = some result)
    (success : result.exitStatus = 0) :
    ∃ task checked, prepare platform loaded surroundings arguments course.download = .ok task ∧
      task.carryOut course = some (.ok checked) ∧ checked.last.session.hasErrors = false := by
  unfold report at reported
  split at reported
  · cases reported
    cases success
  next task prepared =>
    obtain ⟨ended, carried, concluded⟩ := Option.bind_eq_some_iff.mp reported
    cases ended with
    | error fault =>
        cases concluded
        cases success
    | ok checked =>
        refine ⟨task, checked, prepared, carried, ?_⟩
        cases concluded
        cases errors : checked.last.session.hasErrors with
        | false => rfl
        | true => simp [conclude, errors, Report.exitStatus] at success

theorem held_of_carryOut {task : Task} {course : Course} {checked : Checked} {service : Service}
    (creates : ∀ options attempt, task.manager.backend.create options attempt = .ok service)
    (carried : task.carryOut course = some (.ok checked)) :
    checked.last.Held task course service ∧ checked.last.session.CaughtUp := by
  obtain ⟨⟨supplier, result⟩, opened, later⟩ := Option.bind_eq_some_iff.mp carried
  cases result with
  | error failure => cases later
  | ok session =>
      obtain ⟨held, nobody⟩ := Task.held_of_openEditable creates opened
      obtain ⟨followed, along, made⟩ := Option.bind_eq_some_iff.mp later
      cases made
      exact Task.held_of_follow held nobody along

/-- Whether the latest request of a check was for a content at an address and, as the network stood
when its call was answered, what arrived was a success. -/
def Granted (course : Course) (progress : Progress) (base : Web.Url) (content : Text) : Prop :=
  ∃ worker issued, progress.session.worker = some worker ∧
    worker.pipeline.lastIssued = some issued ∧ issued.content = content ∧
    ∃ exchange ∈ progress.exchanges, exchange.number = issued.number ∧
      exchange.request = Backtest.validation base content ∧
      (∃ pause network, .answered exchange.number network ∈ course.meanwhile pause ∧
        exchange.arrival = network exchange.request) ∧
      ∃ response, exchange.arrival = .ok response ∧ 200 ≤ response.status ∧ response.status < 300

theorem granted_of_accepted {course : Course} {progress : Progress} {service : Backtest}
    {ledger : List Answer} (genuine : progress.Genuine course)
    (noted : progress.Notes service ledger) (accepted : progress.session.Accepted ledger) :
    Granted course progress service.base progress.session.text := by
  obtain ⟨worker, issued, working, last, content, answered⟩ := accepted
  obtain ⟨exchange, among, number, grants⟩ := noted _ answered rfl
  exact ⟨worker, issued, working, last, content, exchange, among, number,
    Backtest.parseRequest_eq grants.asked, genuine exchange among, grants.granted⟩

/-- In every run of a session for editing: once every command was taken, no errors means that no
error is shown, and that the text is empty or the latest request was for it and was answered with
success; and an accepted text in which the sandbox finds no error means no errors. So whatever the
worker meets on the course of a check and however servers answer, the program ends with success over
the strategy that it was given only if the sandbox found no error in it and, unless it is empty, the
service was sent this text last and answered with success. -/
theorem no_errors_means_accepted :
    (∀ (manager supplier : Manager) (text : Text) (settings : SessionSettings)
        (session final : Session) (actions : List Session.Action),
      Session.openEditable manager text settings = some (supplier, .ok session) →
      session.play actions = some final → final.CaughtUp →
        (final.hasErrors = false →
          (∀ diagnostic ∈ final.view.allFindings, diagnostic.isError = false) ∧
            (final.text = [] ∨ final.Accepted (session.answersAlong actions))) ∧
        (final.text ≠ [] → (∀ finding ∈ final.localFindings, finding.isError = false) →
          final.Accepted (session.answersAlong actions) → final.hasErrors = false)) ∧
    (∀ (platform : Platform) (loaded : Except LoadFault Configuration)
        (surroundings : Surroundings) (arguments : List String) (course : Course)
        (result : Report),
      report platform loaded surroundings arguments course = some result →
      result.exitStatus = 0 →
        ∃ configuration base text task checked env, loaded = .ok configuration ∧
          Web.Url.parse platform.ascii? configuration.api.baseUrl.toList = .ok base ∧
          IsStrategy surroundings arguments text ∧
          prepare platform loaded surroundings arguments course.download = .ok task ∧
          task.carryOut course = some (.ok checked) ∧
          checked.last.session.text = text ∧ checked.last.session.sandbox = some env ∧
          env.service = Structural.service ∧
          env.files.read? configuration.editor.documentPath = some text ∧
          (∀ finding ∈ env.findings configuration.editor.documentPath,
            finding.isError = false) ∧
          (∀ diagnostic ∈ checked.last.session.view.allFindings, diagnostic.isError = false) ∧
          (text ≠ [] → Granted course checked.last base text)) := by
  constructor
  · intro manager supplier text settings session final actions opened played caughtUp
    obtain ⟨env, worker, start, _⟩ := Session.openEditable_coherent opened
    obtain ⟨env, worker, coherent⟩ := Session.play_coherent actions start played
    rw [List.nil_append] at coherent
    refine ⟨fun quiet => ?_, coherent.no_errors_of_accepted caughtUp⟩
    exact (coherent.accepted_of_no_errors caughtUp quiet).2
  · intro platform loaded surroundings arguments course result reported success
    obtain ⟨task, checked, made, carried, quiet⟩ := exists_of_report reported success
    obtain ⟨configuration, load, prepared⟩ := exists_of_prepare made
    obtain ⟨held, caughtUp⟩ := held_of_carryOut prepared.creates carried
    obtain ⟨env, worker, ledger, coherent, noted⟩ := held.coherent
    obtain ⟨clean, shown, accepted⟩ := coherent.accepted_of_no_errors caughtUp quiet
    have path : checked.last.session.settings.documentPath =
        configuration.editor.documentPath := by rw [held.settings, prepared.settings]; rfl
    have reads := coherent.analysed.reads
    have service := held.service
    rw [coherent.running.sandbox] at service
    rw [path, held.text] at reads
    rw [coherent.localFindings, path] at clean
    refine ⟨configuration, task.service.base, task.text, task, checked, env, load, prepared.base,
      prepared.strategy, made, carried, held.text, coherent.running.sandbox,
      Option.some.inj service, reads, clean, shown, fun nonempty => ?_⟩
    rw [← held.text] at nonempty ⊢
    exact granted_of_accepted held.genuine noted (accepted.resolve_left nonempty)

/-- The text `a` is opened, sent and accepted; and the program checks a file that holds it, which is
sent while the instruments are asked for. -/
theorem accepted_text_succeeds :
    let settings : SessionSettings := ⟨"/s", 500, 0, []⟩
    let manager : Manager :=
      .create ⟨fun _ => .ok .empty⟩ ⟨fun _ _ => .ok (.reporting [])⟩ ⟨.es5⟩
    let env : Environment := .create s!"sandbox-{0}"
      ((FileSystem.onSnapshot .empty).write "/s" ['a']).1 (.reporting [])
    let view : View := .create ['a'] (.editable ⟨0⟩ [])
    let session : Session := ⟨settings, some ⟨0⟩, some env,
      some ((Worker.start 500).submit (.content ['a'] false)),
      ⟨{ view with publications := 1 }, .quiet, []⟩, true⟩
    let final : Session := ⟨settings, some ⟨0⟩, some env,
      some ⟨⟨500, none, some ⟨1, ['a'], some .valid⟩, 2, false⟩, [], [], [], [0]⟩,
      ⟨{ view with publications := 2 }, ⟨⟨false, false⟩, false, 2⟩, []⟩, true⟩
    let actions : List Session.Action :=
      [.meet (.command 0), .requestFlush 0, .meet (.command 0),
        .meet (.ended 1 (.answered (.ok .success)))]
    let platform : Platform := ⟨Web.asciiDomain?, fun _ => .ok (), .ok (), .ok ()⟩
    let configuration : Configuration :=
      ⟨⟨"http://h", 1⟩, ⟨1⟩, ⟨"/s", 0, []⟩, ⟨"ES5", "1", "http://h", ["l"]⟩, ⟨"info", false⟩⟩
    let surroundings : Surroundings := ⟨fun _ => .ok ['a'], []⟩
    let network : Web.Network := fun _ => .ok ⟨200, .ok []⟩
    let course : Course := ⟨fun _ => .over network, network, fun pause =>
      match pause with
      | .opened => [.command 0]
      | .listing => [.expiry 1]
      | .flushing => [.command 2, .command 2, .answered 1 network]
      | _ => []⟩
    (∃ supplier, Session.openEditable manager ['a'] settings = some (supplier, .ok session)) ∧
      session.play actions = some final ∧ final.Accepted (session.answersAlong actions) ∧
      ∃ result, report platform (.ok configuration) surroundings ["s"] course = some result ∧
        result.exitStatus = 0 ∧ ∃ progress base, Granted course progress base ['a'] := by
  intro settings manager env view session final actions platform configuration surroundings network
    course
  let supplier : Manager := { manager with snapshot := some .empty, loads := 1, services := 1 }
  have opened : Session.openEditable manager ['a'] settings = some (supplier, .ok session) := rfl
  have played : session.play actions = some final := rfl
  have caughtUp : final.CaughtUp := by
    intro worker working
    cases working
    rfl
  have quiet := (no_errors_means_accepted.1 _ _ _ _ _ _ actions opened played caughtUp).1 rfl
  have succeeds : (report platform (.ok configuration) surroundings ["s"] course).map
      Report.exitStatus = some 0 := by
    decide +kernel
  obtain ⟨result, reported, success⟩ := Option.map_eq_some_iff.mp succeeds
  obtain ⟨_, base, text, _, checked, _, _, _, named, _, _, _, _, _, _, _, _, granted⟩ :=
    no_errors_means_accepted.2 platform (.ok configuration) surroundings ["s"] course result
      reported success
  cases named
  exact ⟨⟨supplier, opened⟩, played, quiet.2.resolve_left (by decide), result, reported, success,
    checked.last, base, granted (by decide)⟩

end Check

end StrategyDesk
