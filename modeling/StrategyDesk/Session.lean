import StrategyDesk.Analysis.Hover
import StrategyDesk.Library.HelperMethods
import StrategyDesk.Library.Strategy
import StrategyDesk.Number.Power
import StrategyDesk.Sandbox.Manager
import StrategyDesk.Sandbox.Universe
import StrategyDesk.Validation.Worker

/-!
# Editor sessions

A session is one document being edited: its display, and, if it may be edited, its sandbox and its
validation worker. Each change of the document or of the configuration is followed by an analysis
pass: the sandbox gets the text, its findings are shown, its error flag is set, and the text goes to
the worker. What an operation did before it failed stays done. An operation has no outcome at all if
the program dies in it, which it does over a finding whose end exceeds the words of the machine.
-/

set_option autoImplicit false

namespace StrategyDesk

structure SessionSettings where
  documentPath : String
  debounce : Nat
  protectedLines : Nat
  styledLines : List Nat
deriving DecidableEq, Repr

/-- A session. A read-only one has neither sandbox nor worker, and no header. -/
structure Session where
  settings : SessionSettings
  header : Option Header
  sandbox : Option Environment
  worker : Option Worker
  display : Display
  ready : Bool

inductive EditOutcome where
  | applied
  | rejected
deriving DecidableEq, Repr

/-- The severity of the findings of a category. Suggestions and messages are not displayed. -/
def Category.severity? : Category → Option Severity
  | .error => some .error
  | .warning => some .warning
  | .suggestion | .message => none

/-- A finding as it is displayed, if it is: cut at the end of the document. -/
def Finding.displayed? (finding : Finding) (doc : Document) : Option (Option Diagnostic) :=
  match finding.category.severity? with
  | none => some none
  | some severity => do
      let start := min finding.start doc.length
      let stop := min (max (← addWords? finding.start finding.length) start) doc.length
      some (some (.ofSandbox start stop severity finding.message))

namespace Session

def view (session : Session) : View := session.display.view

def document (session : Session) : Document := session.display.view.document

def text (session : Session) : Text := session.document.text

def isReadOnly (session : Session) : Bool := session.sandbox.isNone

def hasErrors (session : Session) : Bool := session.display.signals.hasErrors

def freshDisplay (text : Text) (features : Features) : Display :=
  ⟨.create text features, .quiet, []⟩

def submit (session : Session) (localError : Bool) : Session :=
  { session with
      worker := session.worker.map fun worker =>
        worker.submit (.content session.text localError) }

def analyze (session : Session) : Option (Session × Except Failure Unit) :=
  match session.sandbox with
  | none => some (session, .ok ())
  | some env =>
      match env.sync session.settings.documentPath session.text with
      | .error failure => some (session, .error failure)
      | .ok env => do
          let findings := env.findings session.settings.documentPath
          let localError := findings.any Finding.isError
          let shown ← findings.filterMapM fun finding => finding.displayed? session.document
          let display := (session.display.publish .sandbox shown).setSandbox localError
          some ({ session with sandbox := some env, display }.submit localError, .ok ())

def onUpdate (session : Session) (update : Update) : Option (Session × Except Failure Unit) :=
  if update.isRelevant then session.analyze else some (session, .ok ())

def dispatch (session : Session) (transaction : Transaction) :
    Option (Session × Except Failure Unit) :=
  match session.view.dispatch transaction with
  | .error failure => some (session, .error failure)
  | .ok (view, update) =>
      { session with display := { session.display with view } }.onUpdate update

def openReadOnly (text : Text) (settings : SessionSettings) : Session :=
  ⟨settings, none, none, none, freshDisplay text .readOnlyView, true⟩

def openEditable (manager : Manager) (text : Text) (settings : SessionSettings) :
    Option (Manager × Except Failure Session) :=
  match manager.acquire with
  | (manager, .error failure) => some (manager, .error failure)
  | (manager, .ok env) => do
      let header : Header := ⟨settings.protectedLines⟩
      let display := freshDisplay text (.editable header settings.styledLines)
      let session : Session :=
        ⟨settings, some header, some env, some (.start settings.debounce), display, false⟩
      match ← session.analyze with
      | (_, .error failure) => some (manager, .error failure)
      | (session, .ok ()) => some (manager, .ok { session with ready := true })

def setCode (session : Session) (text : Text) : Option (Session × Except Failure Unit) :=
  session.dispatch (.change (.replaceAll session.document text))

def lint (session : Session) : Option (Session × Except Failure Unit) :=
  session.dispatch .reconfigure

/-- An edit by the user. It is rejected in read-only sessions and inside the header. -/
def edit (session : Session) (change : Change) : Option (Session × Except Failure EditOutcome) :=
  match session.header with
  | none => some (session, .ok .rejected)
  | some header =>
      if header.permits session.document change .user then do
        let (session, result) ← session.dispatch (.change change)
        some (session, result.map fun _ => .applied)
      else some (session, .ok .rejected)

def addLibrary (session : Session) (path : String) (content : Text) :
    Option (Session × Except Failure FileChange) :=
  match Environment.writeLibrary session.sandbox path content with
  | .error failure => some (session, .error failure)
  | .ok (env, change) => do
      let (session, result) ← { session with sandbox := some env }.lint
      some (session, result.map fun _ => change)

def installHelpers (session : Session) : Option (Session × Except Failure FileChange) :=
  session.addLibrary Library.helperPath Library.helperMethods.toList

def installUniverse (session : Session) (provider : Except Failure (List Instrument)) :
    Option (Session × Except Failure FileChange) :=
  match provider with
  | .error failure => some (session, .error failure)
  | .ok instruments =>
      let module := Library.universeModule ((tickers instruments).map String.toList)
      session.addLibrary Library.universePath module

/-- Writes both modules. The provider is asked only if the helpers could be written; whether it was
is returned. -/
def installLibraries (session : Session) (provider : Except Failure (List Instrument)) :
    Option (Session × Bool × Except Failure FileChange) := do
  match ← session.installHelpers with
  | (session, .error failure) => some (session, false, .error failure)
  | (session, .ok _) =>
      let (session, result) ← session.installUniverse provider
      some (session, true, result)

def takeFailures (session : Session) : Session × List Failure :=
  ({ session with display := { session.display with failures := [] } }, session.display.failures)

def completions (session : Session) (position : Nat) : List Completion :=
  match session.sandbox with
  | none => []
  | some env => env.completions session.settings.documentPath position

def hover? (session : Session) (position : Nat) : Option Hover := do
  let env ← session.sandbox
  let info ← env.quickInfo? session.settings.documentPath position
  pure (.ofInfo info)

def requestFlush (session : Session) (waiter : Nat) : Session :=
  { session with worker := session.worker.map fun worker => worker.submit (.flush waiter) }

/-- Whether the waiter was told. Without a worker there is nothing to wait for. -/
def isFlushed (session : Session) (waiter : Nat) : Bool :=
  match session.worker with
  | none => true
  | some worker => worker.answered.contains waiter

def workerStep (session : Session) (event : Worker.Event) : Option Session := do
  let worker ← session.worker
  let (next, display) ← worker.step session.display event
  pure { session with worker := some next, display }

def destroyView (session : Session) : Session :=
  { session with display := { session.display with view := session.view.destroy } }

/-- Stops the worker, takes the view down and disposes of the sandbox. Open calls are dropped. -/
def close (session : Session) : Session :=
  { session.destroyView with
      worker := none
      sandbox := session.sandbox.map Environment.dispose }

end Session

end StrategyDesk
