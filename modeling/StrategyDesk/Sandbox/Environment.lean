import StrategyDesk.Analysis.Service
import StrategyDesk.Failure
import StrategyDesk.Text.Quoting

/-!
# Sandboxes

A sandbox is the files of one document with the analysis of them. It is live until it is disposed
of; from then on it takes no files and gives no answers.
-/

set_option autoImplicit false

namespace StrategyDesk

structure Environment where
  id : String
  files : FileSystem
  service : Service
  disposed : Bool

namespace Environment

/-- A live sandbox. -/
def create (id : String) (files : FileSystem) (service : Service) : Environment :=
  ⟨id, files, service, false⟩

def write (env : Environment) (path : String) (content : Text) :
    Except Failure (Environment × FileChange) :=
  if env.disposed then
    .error (.sandbox s!"sandbox {env.id} is disposed; cannot write '{path}'")
  else
    let (files, change) := env.files.write path content
    .ok ({ env with files }, change)

def writeLibrary (env? : Option Environment) (path : String) (content : Text) :
    Except Failure (Environment × FileChange) :=
  match env? with
  | none => .error (.sandboxUninitialized path)
  | some env => env.write path content

/-- Makes the file at a path read as the given text, writing it only if it does not. -/
def sync (env : Environment) (path : String) (text : Text) : Except Failure Environment :=
  if env.files.read? path = some text then .ok env
  else (env.write path text).map Prod.fst

def findings (env : Environment) (path : String) : List Finding :=
  if env.disposed then []
  else env.service.syntactic env.files path ++ env.service.semantic env.files path

def errorCount (env : Environment) (path : String) : Nat :=
  ((env.findings path).filter Finding.isError).length

def answers (env : Environment) (path : String) : Answers :=
  if env.disposed then .silent else env.service.answers env.files path

def completions (env : Environment) (path : String) (position : Nat) : List Completion :=
  (env.answers path).completions position

def quickInfo? (env : Environment) (path : String) (position : Nat) : Option QuickInfo :=
  (env.answers path).quickInfo? position

def dispose (env : Environment) : Environment := { env with disposed := true }

def describe (env : Environment) : String :=
  "SandboxEnvironment \x7b id: SandboxId(" ++ Text.quote env.id ++ "), files: " ++
    toString env.files.own.size ++ ", disposed: " ++ toString env.disposed ++ " \x7d"

end Environment

end StrategyDesk
