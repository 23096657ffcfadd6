import StrategyDesk.Diagnostic
import StrategyDesk.Document.Header
import StrategyDesk.Document.Decoration

/-!
# Views

A view owns the document and shows the diagnostics that were last published for each origin. A
destroyed view keeps its text, shows nothing more and refuses every transaction.
-/

set_option autoImplicit false

namespace StrategyDesk

structure Features where
  readOnly : Bool
  lintGutter : Bool
  autocompletion : Bool
  hover : Bool
  header : Option Header
  styledLines : List Nat
deriving DecidableEq, Repr

namespace Features

/-- A view that only displays: no diagnostics, completions or hovers. -/
def readOnlyView : Features := ⟨true, false, false, false, none, []⟩

def editable (header : Header) (styledLines : List Nat) : Features :=
  ⟨false, true, true, true, some header, styledLines⟩

end Features

/-- A change of state that a view is asked for. -/
inductive Transaction where
  | change (change : Change)
  /-- Loads the configuration of the view again and leaves the document alone. -/
  | reconfigure
deriving DecidableEq, Repr

structure Update where
  documentChanged : Bool
  reconfigured : Bool
deriving DecidableEq, Repr

namespace Update

def nothing : Update := ⟨false, false⟩

def isRelevant (update : Update) : Bool := update.documentChanged || update.reconfigured

end Update

structure View where
  features : Features
  document : Document
  sandboxFindings : List Diagnostic
  validatorFindings : List Diagnostic
  publications : Nat
  destroyed : Bool
deriving DecidableEq, Repr

namespace View

def create (text : Text) (features : Features) : View := ⟨features, ⟨text⟩, [], [], 0, false⟩

def findings (view : View) : Origin → List Diagnostic
  | .sandbox => view.sandboxFindings
  | .validator => view.validatorFindings

def allFindings (view : View) : List Diagnostic :=
  view.sandboxFindings ++ view.validatorFindings

def decorations (view : View) (visible : List (Nat × Nat)) : List Decoration :=
  view.document.decorations visible view.features.styledLines

/-- Carries out a transaction. A change that inserts nothing at one position is done at once,
wherever that position is. -/
def dispatch (view : View) (transaction : Transaction) : Except Failure (View × Update) :=
  if view.destroyed then .error (.internal "dispatch to a destroyed view")
  else
    match transaction with
    | .reconfigure => .ok (view, ⟨false, true⟩)
    | .change change =>
        if change.start = change.stop ∧ change.insert = [] then .ok (view, .nothing)
        else do
          let document ← view.document.apply change
          pure ({ view with document }, ⟨document.text != view.document.text, false⟩)

def publish (view : View) (origin : Origin) (diagnostics : List Diagnostic) : View :=
  if view.destroyed then view
  else
    match origin with
    | .sandbox =>
        { view with sandboxFindings := diagnostics, publications := view.publications + 1 }
    | .validator =>
        { view with validatorFindings := diagnostics, publications := view.publications + 1 }

def destroy (view : View) : View :=
  { view with sandboxFindings := [], validatorFindings := [], destroyed := true }

end View

end StrategyDesk
