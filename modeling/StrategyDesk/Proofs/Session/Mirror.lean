import StrategyDesk.Proofs.Session.Acceptance

/-!
# The sandbox of a session as a mirror

The sandbox of a session that may be edited mirrors it: the document reads as the view shows it, any
other path as the library that was written there last, and the findings about these files are all
that is shown of the sandbox. A library that is written over the document does not stay there.
-/

set_option autoImplicit false

namespace StrategyDesk

/-! ## What an operation leaves of a sandbox -/

/-- The analysis stays, and so does every file but the document and those that are written. -/
structure Environment.Follows (env next : Environment) (document : String)
    (written? : String → Option Text) : Prop where
  service : next.service = env.service
  disposed : next.disposed = env.disposed
  reads : ∀ path, path ≠ document →
    next.files.read? path = (written? path).or (env.files.read? path)

theorem Environment.sync_follows {env next : Environment} {document : String} {text : Text}
    (synced : env.sync document text = .ok next) :
    env.Follows next document fun _ => none := by
  unfold sync at synced
  split at synced
  · cases synced
    exact ⟨rfl, rfl, fun path _ => rfl⟩
  · unfold write at synced
    split at synced
    · cases synced
    · cases synced
      exact ⟨rfl, rfl, fun path different => FileSystem.read?_write_of_ne different _ _⟩

namespace Session

/-- How an operation changes a session with a sandbox. -/
structure Advances (session next : Session) (env after : Environment)
    (written? : String → Option Text) : Prop where
  settings : next.settings = session.settings
  sandbox : next.sandbox = some after
  follows : env.Follows after session.settings.documentPath written?

section Advances

variable {session : Session} {env : Environment}

theorem Advances.of_same {next : Session} (settings : next.settings = session.settings)
    (sandbox : next.sandbox = some env) : session.Advances next env env fun _ => none :=
  ⟨settings, sandbox, rfl, rfl, fun _ _ => rfl⟩

theorem analyze_advances {next : Session} {result : Except Failure Unit}
    (holds : session.sandbox = some env) (analysed : session.analyze = some (next, result)) :
    ∃ after, session.Advances next env after fun _ => none := by
  cases analyze_ends analysed with
  | unneeded bare => cases holds.symm.trans bare
  | refused held refused => exact ⟨env, .of_same rfl holds⟩
  | carriedOut held synced =>
      cases holds.symm.trans held
      exact ⟨_, rfl, rfl, Environment.sync_follows synced⟩

theorem dispatch_advances {next : Session} {transaction : Transaction}
    {result : Except Failure Unit} (holds : session.sandbox = some env)
    (dispatched : session.dispatch transaction = some (next, result)) :
    ∃ after, session.Advances next env after fun _ => none := by
  cases dispatch_ends dispatched with
  | refused refused => exact ⟨env, .of_same rfl holds⟩
  | irrelevant carried irrelevant => exact ⟨env, .of_same rfl holds⟩
  | @analysed view _ _ _ carried relevant analysed =>
      have moving : ({ session with display := { session.display with view } } :
          Session).sandbox = some env := holds
      obtain ⟨after, settings, sandbox, follows⟩ := analyze_advances moving analysed
      exact ⟨after, settings, sandbox, follows⟩

theorem edit_advances {next : Session} {change : Change} {result : Except Failure EditOutcome}
    (holds : session.sandbox = some env) (edited : session.edit change = some (next, result)) :
    ∃ after, session.Advances next env after fun _ => none := by
  rcases edit_cases edited with ⟨rfl, _⟩ | ⟨_, _, _, _, dispatched, _⟩
  · exact ⟨env, .of_same rfl holds⟩
  · exact dispatch_advances holds dispatched

def Action.library? (path : String) : Action → Option Text
  | .addLibrary other content => if other = path then some content else none
  | _ => none

theorem addLibrary_advances {next : Session} {path : String} {content : Text}
    {result : Except Failure FileChange} (holds : session.sandbox = some env)
    (live : env.disposed = false)
    (added : session.addLibrary path content = some (next, result)) :
    ∃ after, session.Advances next env after fun other =>
      Action.library? other (.addLibrary path content) := by
  let written : Environment := { env with files := (env.files.write path content).1 }
  have wrote : Environment.writeLibrary session.sandbox path content =
      .ok (written, (env.files.write path content).2) := by
    rw [holds, Environment.writeLibrary, Environment.write_of_live live]
  have holding : ({ session with sandbox := some written } : Session).sandbox = some written := rfl
  simp only [addLibrary, wrote] at added
  obtain ⟨⟨after, done⟩, linted, same⟩ := Option.bind_eq_some_iff.mp added
  cases same
  obtain ⟨after, settings, sandbox, follows⟩ := dispatch_advances holding linted
  refine ⟨after, settings, sandbox, follows.service, follows.disposed, ?_⟩
  intro other different
  rw [follows.reads other different, Option.none_or, Action.library?]
  by_cases same : path = other
  · rw [if_pos same, Option.some_or, ← same]
    exact FileSystem.read?_write_self _ _ _
  · rw [if_neg same, Option.none_or]
    exact FileSystem.read?_write_of_ne (Ne.symm same) _ _

theorem act_advances {next : Session} {action : Action} (holds : session.sandbox = some env)
    (live : env.disposed = false) (acted : session.act action = some next) :
    ∃ after, session.Advances next env after fun path => action.library? path := by
  cases action with
  | setCode text =>
      obtain ⟨⟨after, result⟩, replaced, rfl⟩ := Option.map_eq_some_iff.mp acted
      exact dispatch_advances holds replaced
  | edit change =>
      obtain ⟨⟨after, result⟩, edited, rfl⟩ := Option.map_eq_some_iff.mp acted
      exact edit_advances holds edited
  | addLibrary path content =>
      obtain ⟨⟨after, result⟩, added, rfl⟩ := Option.map_eq_some_iff.mp acted
      exact addLibrary_advances holds live added
  | lint =>
      obtain ⟨⟨after, result⟩, linted, rfl⟩ := Option.map_eq_some_iff.mp acted
      exact dispatch_advances holds linted
  | requestFlush waiter =>
      cases acted
      exact ⟨env, .of_same rfl holds⟩
  | takeFailures =>
      cases acted
      exact ⟨env, .of_same rfl holds⟩
  | meet event =>
      obtain ⟨_, _, _, _, _, rfl⟩ := workerStep_eq_some acted
      exact ⟨env, .of_same rfl holds⟩

def latestLibrary? (actions : List Action) (path : String) : Option Text :=
  actions.reverse.findSome? (Action.library? path)

theorem latestLibrary?_cons (action : Action) (rest : List Action) (path : String) :
    latestLibrary? (action :: rest) path =
      (latestLibrary? rest path).or (action.library? path) := by
  rw [latestLibrary?, List.reverse_cons, List.findSome?_append]
  cases written : action.library? path <;> simp [latestLibrary?, written]

theorem play_advances {final : Session} (actions : List Action)
    (holds : session.sandbox = some env) (live : env.disposed = false)
    (played : session.play actions = some final) :
    ∃ after, session.Advances final env after (latestLibrary? actions) := by
  induction actions generalizing session env with
  | nil =>
      cases played
      exact ⟨env, .of_same rfl holds⟩
  | cons action rest ih =>
      obtain ⟨next, first, later⟩ := Option.bind_eq_some_iff.mp played
      obtain ⟨middle, settings, sandbox, follows⟩ := act_advances holds live first
      obtain ⟨after, settled, last, following⟩ :=
        ih sandbox (follows.disposed.trans live) later
      refine ⟨after, settled.trans settings, last, following.service.trans follows.service,
        following.disposed.trans follows.disposed, ?_⟩
      intro path different
      have elsewhere : path ≠ next.settings.documentPath := settings ▸ different
      rw [following.reads path elsewhere, follows.reads path different, latestLibrary?_cons,
        Option.or_assoc]

end Advances

/-- A session that was opened for editing has a sandbox over the snapshot of its manager. -/
theorem openEditable_sandbox {manager supplier : Manager} {text : Text}
    {settings : SessionSettings} {session : Session}
    (opened : openEditable manager text settings = some (supplier, .ok session)) :
    session.settings = settings ∧ ∃ env snapshot, session.sandbox = some env ∧
      env.disposed = false ∧ supplier.snapshot = some snapshot ∧
      manager.backend.create manager.options manager.services = .ok env.service ∧
        ∀ path, path ≠ settings.documentPath →
          env.files.read? path = snapshot.find? path := by
  obtain ⟨env, next, acquired, analysed, rfl⟩ := exists_of_openEditable opened
  obtain ⟨snapshot, loaded, files, created⟩ := Manager.acquire_ok acquired
  have live := Manager.acquire_live (congrArg Prod.snd acquired)
  have holding : (unanalysed settings text env).sandbox = some env := rfl
  obtain ⟨after, same, sandbox, follows⟩ := analyze_advances holding analysed
  refine ⟨same, after, snapshot, sandbox, follows.disposed.trans live, loaded,
    follows.service ▸ created, ?_⟩
  intro path different
  rw [follows.reads path different, files]
  rfl

/-- In every run of a session for editing, whatever is done to it: its sandbox reads the document as
the view shows it, and every other path as the library that was written there last, or else as in
the snapshot. All errors and warnings that the analysis finds in these files are shown as the
findings of the sandbox, in their order, and nothing else; the flag of the sandbox says whether one
of them is an error; and the session has errors exactly if one of the two flags is up. -/
theorem sandbox_mirrors {manager supplier : Manager} {text : Text} {settings : SessionSettings}
    {session final : Session} {actions : List Action}
    (opened : openEditable manager text settings = some (supplier, .ok session))
    (played : session.play actions = some final) :
    let path := settings.documentPath
    let flags := final.display.signals.flags
    ∃ env snapshot, final.sandbox = some env ∧ supplier.snapshot = some snapshot ∧
      manager.backend.create manager.options manager.services = .ok env.service ∧
      env.files.read? path = some final.text ∧
      (∀ other, other ≠ path → env.files.read? other =
        (latestLibrary? actions other).or (snapshot.find? other)) ∧
      final.view.sandboxFindings =
        ((env.service.syntactic env.files path ++ env.service.semantic env.files path).filter
          Finding.isShown).map (Finding.shownIn final.document) ∧
      (flags.sandbox = true ↔
        ∃ diagnostic ∈ final.view.sandboxFindings, diagnostic.severity = .error) ∧
      final.hasErrors = (flags.sandbox || flags.validator) := by
  intro path flags
  obtain ⟨_, _, start, _⟩ := openEditable_coherent opened
  obtain ⟨env, worker, coherent⟩ := play_coherent actions start played
  obtain ⟨same, first, snapshot, holds, live, loaded, created, shared⟩ :=
    openEditable_sandbox opened
  obtain ⟨after, settled, sandbox, follows⟩ := play_advances actions holds live played
  cases coherent.running.sandbox.symm.trans sandbox
  have settings' : final.settings = settings := settled.trans same
  rw [same] at follows
  have analysed := coherent.analysed
  have findings : env.findings path =
      env.service.syntactic env.files path ++ env.service.semantic env.files path := by
    rw [Environment.findings, coherent.running.live]
    rfl
  have shown : final.view.sandboxFindings =
      ((env.findings path).filter Finding.isShown).map (Finding.shownIn final.document) := by
    rw [analysed.shown, settings', Finding.shownAll]
  have flagged : flags.sandbox = (env.findings path).any Finding.isError := by
    rw [show flags.sandbox = _ from analysed.flagged, settings']
  refine ⟨env, snapshot, sandbox, loaded, follows.service ▸ created, ?_, ?_, ?_, ?_, ?_⟩
  · exact (congrArg (fun held => env.files.read? held.documentPath) settings').symm.trans
      analysed.reads
  · intro other different
    rw [follows.reads other different, shared other different]
  · rw [shown, findings]
  · rw [flagged, shown]
    exact Finding.any_isError_iff _ _
  · exact coherent.running.informed.displayed.published

/-- A library is written beside the document `b`, and an empty one over it: the document reads as
before, and the warning and the error are shown, but not the suggestion between them. -/
theorem library_over_document_mirrored :
    let settings : SessionSettings := ⟨"/s", 500, 0, []⟩
    let findings : List Finding :=
      [⟨0, 1, .warning, 1, "unused"⟩, ⟨0, 1, .suggestion, 2, "shorter"⟩, ⟨0, 9, .error, 3, "bad"⟩]
    let service : Service := .reporting findings
    let manager : Manager := .create ⟨fun _ => .ok .empty⟩ ⟨fun _ _ => .ok service⟩ ⟨.es5⟩
    let files : FileSystem := ((FileSystem.onSnapshot .empty).write "/s" ['b']).1
    let shown : List Diagnostic :=
      [.ofSandbox 0 1 .warning "unused", .ofSandbox 0 1 .error "bad"]
    let session : Session := ⟨settings, some ⟨0⟩, some (.create s!"sandbox-{0}" files service),
      some ((Worker.start 500).submit (.content ['b'] true)),
      ⟨⟨.editable ⟨0⟩ [], ⟨['b']⟩, shown, [], 1, false⟩, ⟨⟨true, false⟩, true, 1⟩, []⟩, true⟩
    (∃ supplier, openEditable manager ['b'] settings = some (supplier, .ok session)) ∧
      ∃ final env, session.play [.addLibrary "/l" ['y'], .addLibrary "/s" []] = some final ∧
        final.sandbox = some env ∧ env.files.read? "/s" = some ['b'] ∧
        env.files.read? "/l" = some ['y'] ∧ final.view.sandboxFindings = shown ∧
        final.hasErrors = true := by
  intro settings findings service manager files shown session
  obtain ⟨supplier, opened⟩ : ∃ supplier,
      openEditable manager ['b'] settings = some (supplier, .ok session) := ⟨_, rfl⟩
  obtain ⟨final, played, text, displayed, flag⟩ : ∃ final,
      session.play [.addLibrary "/l" ['y'], .addLibrary "/s" []] = some final ∧
        final.text = ['b'] ∧ final.view.sandboxFindings = shown ∧
        final.display.signals.flags = ⟨true, false⟩ := ⟨_, rfl, rfl, rfl, rfl⟩
  obtain ⟨env, snapshot, sandbox, _, _, document, others, _, _, errors⟩ :=
    sandbox_mirrors opened played
  rw [text] at document
  rw [flag] at errors
  exact ⟨⟨supplier, opened⟩, final, env, played, sandbox, document, others "/l" (by decide),
    displayed, errors⟩

end Session

end StrategyDesk
