import StrategyDesk.Configuration.Basic
import StrategyDesk.Configuration.KeyPath
import StrategyDesk.Toml.Document

/-!
# Loading the configuration

The configuration is laid together from files and from the environment, each source over the ones
before: the file of defaults, the file of the surroundings the program runs in, the file of the
machine, and the variables of the environment. Files that are not there are passed over.
-/

set_option autoImplicit false

namespace StrategyDesk

/-- What the program finds around it when it starts. -/
structure Surroundings where
  read : String → Except String Text
  environment : List (String × String)

def Surroundings.file? (surroundings : Surroundings) (path : String) : Option Text :=
  (surroundings.read path).toOption

inductive LoadFault where
  | malformed (path : String)
  | misfit (reason : Misfit)
deriving DecidableEq, Repr

namespace LoadFault

def message : LoadFault → String
  | malformed path => s!"malformed settings in {path}"
  | misfit reason => reason.message

end LoadFault

namespace Configuration

def variableStart : String := "strategy_editor__"

def surroundingsVariable : String := "STRATEGY_EDITOR_ENV"

def environmentName : String := "the environment"

/-- The text with each `__` replaced by a dot. -/
def dotted : Text → Text
  | '_' :: '_' :: rest => '.' :: dotted rest
  | c :: rest => c :: dotted rest
  | [] => []

/-- The settings in the environment, by path. Of two variables for one path the later one counts. -/
def environmentSettings (environment : List (String × String)) : List (String × Setting) :=
  environment.foldl (fun settings (name, value) =>
    match variableStart.toList.isPrefixOf? (Text.lower name.toList) with
    | some key =>
        Setting.putEntry (String.ofList (dotted key))
          (.scalar (some environmentName) (.text value)) settings
    | none => settings) []

def trimSlashes (path : Text) : Text := (path.reverse.dropWhile fun c => c == '/').reverse

def extension (path : Text) : Text :=
  let name := (path.reverse.takeWhile fun c => c != '/').reverse
  match (name.drop 1).reverse.takeWhile fun c => c != '.' with
  | taken => if taken.length + 1 < name.length then taken.reverse else []

/-- The paths at which a source may be: just its name, and its name with the extension. -/
def sourcePaths (name : String) : String × String :=
  let path := trimSlashes name.toList
  (String.ofList path, String.ofList (path ++ ".toml".toList))

/-- The file of a source, if it is there. A file of just the name counts only if it has the
extension, and hides the other one. -/
def findSource? (surroundings : Surroundings) (name : String) : Option (String × Text) :=
  let (path, extended) := sourcePaths name
  match surroundings.file? path with
  | some content =>
      if extension path.toList = "toml".toList then some (path, content) else none
  | none => (surroundings.file? extended).map fun content => (extended, content)

def fileSettings (surroundings : Surroundings) (name : String) :
    Except LoadFault (List (String × Setting)) :=
  match findSource? surroundings name with
  | none => .ok []
  | some (path, content) =>
      match Toml.read? path content with
      | some settings => .ok settings
      | none => .error (.malformed path)

def sources (environment : List (String × String)) : List String :=
  let name := (environment.lookup surroundingsVariable).getD "development"
  ["config/default", "config/" ++ name, "config/local"]

def overlay (settings : List (String × Setting)) (root : Setting) : Setting :=
  settings.foldl (fun root (key, value) => (KeyPath.ofText key).write value root) root

def filesLayer (surroundings : Surroundings) :
    List String → Setting → Except LoadFault Setting
  | [], root => .ok root
  | name :: rest, root => do
      let settings ← fileSettings surroundings name
      filesLayer surroundings rest (overlay settings root)

def gather (surroundings : Surroundings) : Except LoadFault Setting := do
  let root ← filesLayer surroundings (sources surroundings.environment) Setting.emptyTable
  pure (overlay (environmentSettings surroundings.environment) root)

def load (surroundings : Surroundings) : Except LoadFault Configuration := do
  (read (← gather surroundings)).mapError .misfit

end Configuration

end StrategyDesk
