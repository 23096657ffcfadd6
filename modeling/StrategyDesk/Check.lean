import StrategyDesk.Analysis.Structural
import StrategyDesk.Check.Course
import StrategyDesk.Configuration.Load

/-!
# Checking a strategy

The program: with its configuration it reads a strategy, opens it the way the editor does, installs
the libraries, waits for the validation and reports every diagnostic. It ends without success when
the strategy has errors, and when it could not be checked. There is no report on a course that the
check cannot take to its end.
-/

set_option autoImplicit false

namespace StrategyDesk

/-- What the program has from its libraries. -/
structure Platform where
  /-- The name of a host in ASCII, from its bytes, if it may be one. -/
  ascii? : List Nat → Option Text
  /-- Whether a text says what is to be noted down, or why it does not. -/
  readFilter : String → Except String Unit
  /-- What comes of setting up the notes. -/
  notes : Except String Unit
  /-- What comes of setting up the exchanges with servers. -/
  client : Except String Unit

structure Report where
  success : Bool
  output : List String
  complaints : List String
deriving DecidableEq, Repr

namespace Report

def joined (lines : List String) : String := String.join (lines.map fun line => line ++ "\n")

def exitStatus (report : Report) : Nat := if report.success then 0 else 1

end Report

inductive CheckFault where
  | configuration (fault : LoadFault)
  | tracing (reason : String)
  | unreadable (path reason : String)
  | failure (failure : Failure)
deriving DecidableEq, Repr

namespace CheckFault

def message : CheckFault → String
  | configuration fault => s!"failed to load configuration\n\nCaused by:\n    {fault.message}"
  | tracing reason => reason
  | unreadable path reason => s!"failed to read {path}\n\nCaused by:\n    {reason}"
  | failure cause => cause.message

def report (fault : CheckFault) : Report := ⟨false, [], [s!"Error: {fault.message}"]⟩

end CheckFault

namespace Check

/-- The variable that says what is to be noted down, before the configuration does. -/
def filterVariable : String := "RUST_LOG"

def configureTracing (platform : Platform) (surroundings : Surroundings)
    (logging : LoggingConfiguration) : Except CheckFault Unit := do
  match (surroundings.environment.lookup filterVariable).map platform.readFilter with
  | some (.ok ()) => pure ()
  | _ => (platform.readFilter logging.filter).mapError .tracing
  platform.notes.mapError .tracing

def startingName : String := "<default>"

/-- The name and the text of the strategy: that of the file named first, or the starting one. -/
def strategy (surroundings : Surroundings) (arguments : List String) :
    Except CheckFault (String × Text) :=
  match arguments with
  | [] => .ok (startingName, Library.startingStrategy.toList)
  | path :: _ =>
      match surroundings.read path with
      | .ok text => .ok (path, text)
      | .error reason => .error (.unreadable path reason)

/-- A diagnostic as it is reported: with the line and the column where it begins, from one on. -/
def describe (name : String) (doc : Document) (diagnostic : Diagnostic) : String :=
  let line := doc.lineAt diagnostic.start
  let column := diagnostic.start - line.start + 1
  let severity := diagnostic.severity.name
  s!"{name}:{line.number}:{column}: {severity} [{diagnostic.source}] {diagnostic.message}"

def precedes (a b : Diagnostic) : Bool :=
  a.start < b.start || (a.start == b.start && a.stop ≤ b.stop)

/-- A strategy that is to be checked, with what it takes. -/
structure Task where
  manager : Manager
  settings : SessionSettings
  service : Backtest
  name : String
  text : Text

structure Checked where
  document : Document
  diagnostics : List Diagnostic
  complaints : List String
  last : Progress

def conclude (name : String) (checked : Checked) : Report :=
  let diagnostics := checked.diagnostics.mergeSort precedes
  let lines := diagnostics.map (describe name checked.document)
  let errors := (diagnostics.filter Diagnostic.isError).length
  if checked.last.session.hasErrors then
    ⟨false, lines ++ [s!"{name}: {errors} error(s); strategy not accepted"], checked.complaints⟩
  else ⟨true, lines ++ [s!"{name}: ok"], checked.complaints⟩

namespace Task

def meanwhile (task : Task) (course : Course) (progress : Progress) (pause : Pause) :
    Option Progress :=
  progress.meetAll task.service (course.meanwhile pause)

/-- Installs the libraries. The instruments are asked for once the helpers are written. -/
def install (task : Task) (course : Course) (progress : Progress) :
    Option (Progress × Except Failure FileChange) := do
  match ← progress.act Session.installHelpers with
  | (progress, .error failure) => some (progress, .error failure)
  | (progress, .ok _) =>
      let asking ← task.meanwhile course progress .listing
      asking.act fun session => session.installUniverse (task.service.instruments course.listing)

def waiter : Nat := 0

/-- Waits for the validation. The worker must get as far as to tell that it is done. -/
def flush (task : Task) (course : Course) (progress : Progress) : Option Progress := do
  let asked := { progress with session := progress.session.requestFlush waiter }
  let flushed ← task.meanwhile course asked .flushing
  if flushed.session.isFlushed waiter then some flushed else none

def unavailable : Except Failure FileChange → List String
  | .ok _ => []
  | .error failure => [s!"warning: instrument universe unavailable: {failure.message}"]

def follow (task : Task) (course : Course) (session : Session) : Option Checked := do
  let opened ← task.meanwhile course ⟨session, []⟩ .opened
  let (installed, result) ← task.install course opened
  let ready ← task.meanwhile course installed .installed
  let flushed ← task.flush course ready
  let collecting ← task.meanwhile course flushed .flushed
  let (session, failures) := collecting.session.takeFailures
  let warned ← task.meanwhile course { collecting with session } .warned
  let last ← task.meanwhile course warned .shown
  let unanswered := failures.map fun failure =>
    s!"warning: remote validation unavailable: {failure.message}"
  pure ⟨warned.session.document, warned.session.view.allFindings,
    unavailable result ++ unanswered, last⟩

def carryOut (task : Task) (course : Course) : Option (Except CheckFault Checked) := do
  match ← Session.openEditable task.manager task.text task.settings with
  | (_, .error failure) => some (.error (.failure failure))
  | (_, .ok session) => return .ok (← task.follow course session)

end Task

def prepare (platform : Platform) (loaded : Except LoadFault Configuration)
    (surroundings : Surroundings) (arguments : List String) (download : Nat → Download) :
    Except CheckFault Task := do
  let configuration ← loaded.mapError .configuration
  configureTracing platform surroundings configuration.logging
  let (name, text) ← strategy surroundings arguments
  let target ← (Target.parse configuration.sandbox.target).mapError .failure
  let server := DeclarationServer.ofAddress configuration.sandbox.cdnAddress
    configuration.sandbox.declarationVersion configuration.sandbox.libraries
  let options : CompilerOptions := ⟨target⟩
  let load (attempt : Nat) := server.load platform.ascii? (download attempt) options
  let manager := Manager.create ⟨load⟩ ⟨fun _ _ => .ok Structural.service⟩ options
  let service ← (Backtest.ofAddress platform.ascii? platform.client
    configuration.api.baseUrl).mapError .failure
  pure ⟨manager, configuration.sessionSettings, service, name, text⟩

def report (platform : Platform) (loaded : Except LoadFault Configuration)
    (surroundings : Surroundings) (arguments : List String) (course : Course) : Option Report :=
  match prepare platform loaded surroundings arguments course.download with
  | .error fault => some fault.report
  | .ok task => do
      match ← task.carryOut course with
      | .error fault => some fault.report
      | .ok checked => some (conclude task.name checked)

def neededFiles (environment : List (String × String)) (arguments : List String) : List String :=
  arguments.take 1 ++
    (Configuration.sources environment).flatMap fun name =>
      let (path, extended) := Configuration.sourcePaths name
      [path, extended]

end Check

end StrategyDesk
