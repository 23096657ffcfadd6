import StrategyDesk.Analysis.Finding
import StrategyDesk.Document.Rejection
import StrategyDesk.Json.Value
import StrategyDesk.Sandbox.Target
import StrategyDesk.Sandbox.Universe

/-!
# Wire forms

How the values of this library are written as JSON values and read back. A record is read from an
object, in any order and beside unknown names, or from the array of its fields. Each number has the
width of its field, and a case without content may also be written as an object.
-/

set_option autoImplicit false

namespace StrategyDesk

inductive ErrorBody where
  | parserError (rejection : Rejection)
deriving DecidableEq, Repr

namespace Json

def listOf? {α : Type} (element? : Json → Option α) (value : Json) : Option (List α) := do
  (← value.array?).mapM element?

def signed? (value : Json) : Option Int := value.integer? (-(wordValues 63 : Int)) (wordValues 63)

end Json

namespace Line

def toJson (line : Line) : Json :=
  .object [("number", .integer line.number), ("from", .integer line.start),
    ("to", .integer line.stop)]

def ofJson? (json : Json) : Option Line := do
  let [number, start, stop] ← json.fields? ["number", "from", "to"] | none
  pure ⟨← number.natural? 64, ← start.natural? 64, ← stop.natural? 64⟩

end Line

namespace LineRange

def toJson (range : LineRange) : Json :=
  .object [("line", .integer range.line), ("from", .integer range.start),
    ("to", .integer range.stop)]

def ofJson? (json : Json) : Option LineRange := do
  let [line, start, stop] ← json.fields? ["line", "from", "to"] | none
  pure ⟨← line.natural? 64, ← start.natural? 64, ← stop.natural? 64⟩

end LineRange

namespace Change

def toJson (change : Change) : Json :=
  .object [("from", .integer change.start), ("to", .integer change.stop),
    ("insert", .string (String.ofList change.insert))]

def ofJson? (json : Json) : Option Change := do
  let [start, stop, insert] ← json.fields? ["from", "to", "insert"] | none
  pure ⟨← start.natural? 64, ← stop.natural? 64, (← insert.string?).toList⟩

end Change

namespace Severity

def name : Severity → String
  | error => "error"
  | warning => "warning"

def ofJson? (json : Json) : Option Severity := do
  let name ← json.caseName?
  if name = "error" then pure .error
  else if name = "warning" then pure .warning
  else none

end Severity

namespace Origin

def name : Origin → String
  | sandbox => "local"
  | validator => "remote"

def ofJson? (json : Json) : Option Origin := do
  let name ← json.caseName?
  if name = "local" then pure .sandbox
  else if name = "remote" then pure .validator
  else none

end Origin

namespace Diagnostic

def toJson (diagnostic : Diagnostic) : Json :=
  .object [("from", .integer diagnostic.start), ("to", .integer diagnostic.stop),
    ("severity", .string diagnostic.severity.name), ("message", .string diagnostic.message),
    ("origin", .string diagnostic.origin.name), ("source", .string diagnostic.source)]

def ofJson? (json : Json) : Option Diagnostic := do
  let [start, stop, severity, message, origin, source] ←
    json.fields? ["from", "to", "severity", "message", "origin", "source"] | none
  pure ⟨← start.natural? 64, ← stop.natural? 64, ← Severity.ofJson? severity, ← message.string?,
    ← Origin.ofJson? origin, ← source.string?⟩

end Diagnostic

namespace Rejection

def toJson (rejection : Rejection) : Json :=
  .object [("message", .string rejection.message), ("line", .integer rejection.line),
    ("column", .integer rejection.column), ("index", .integer rejection.index)]

def ofJson? (json : Json) : Option Rejection := do
  let [message, line, column, index] ← json.fields? ["message", "line", "column", "index"] | none
  pure ⟨← message.string?, ← line.natural? 32, ← column.natural? 32, ← index.signed?⟩

end Rejection

namespace ErrorBody

def toJson : ErrorBody → Json
  | parserError rejection =>
      .object [("case", .string "parserError"), ("fields", rejection.toJson)]

/-- Whether the member called `fields` stands before the one called `case`. -/
def contentFirst (members : List (String × Json)) : Bool :=
  ((members.find? fun member => member.1 == "case" || member.1 == "fields").map fun member =>
    member.1 == "fields").getD false

/-- Content that stands before the name of its case is kept until that is known, so it must be
sound as a whole and must not nest too deeply. -/
def contentAdmissible (json content : Json) : Bool :=
  match json with
  | .object members => !contentFirst members || content.isSound 126
  | _ => true

def ofJson? (json : Json) : Option ErrorBody := do
  let [name, content] ← json.fields? ["case", "fields"] | none
  if (← name.caseName?) = "parserError" ∧ contentAdmissible json content then
    pure (.parserError (← Rejection.ofJson? content))
  else none

end ErrorBody

namespace Instrument

def toJson (instrument : Instrument) : Json := .object [("ticker", .string instrument.ticker)]

def ofJson? (json : Json) : Option Instrument := do
  let [ticker] ← json.fields? ["ticker"] | none
  pure ⟨← ticker.string?⟩

def listToJson (instruments : List Instrument) : Json := .array (instruments.map toJson)

def listOfJson? (json : Json) : Option (List Instrument) := json.listOf? ofJson?

end Instrument

namespace Category

def name : Category → String
  | error => "Error"
  | warning => "Warning"
  | suggestion => "Suggestion"
  | message => "Message"

def ofJson? (json : Json) : Option Category := do
  let name ← json.caseName?
  [error, warning, suggestion, message].find? fun category => category.name = name

end Category

namespace Finding

def toJson (finding : Finding) : Json :=
  .object [("start", .integer finding.start), ("length", .integer finding.length),
    ("category", .string finding.category.name), ("code", .integer finding.code),
    ("message", .string finding.message)]

def ofJson? (json : Json) : Option Finding := do
  let [start, length, category, code, message] ←
    json.fields? ["start", "length", "category", "code", "message"] | none
  pure ⟨← start.natural? 64, ← length.natural? 64, ← Category.ofJson? category, ← code.natural? 32,
    ← message.string?⟩

end Finding

namespace Completion

def toJson (completion : Completion) : Json :=
  .object [("name", .string completion.name), ("kind", .string completion.kind)]

def ofJson? (json : Json) : Option Completion := do
  let [name, kind] ← json.fields? ["name", "kind"] | none
  pure ⟨← name.string?, ← kind.string?⟩

end Completion

namespace DisplayPart

def toJson (part : DisplayPart) : Json :=
  .object [("text", .string part.text), ("kind", .string part.kind)]

def ofJson? (json : Json) : Option DisplayPart := do
  let [text, kind] ← json.fields? ["text", "kind"] | none
  pure ⟨← text.string?, ← kind.string?⟩

end DisplayPart

namespace DocTag

def toJson (tag : DocTag) : Json :=
  .object [("name", .string tag.name), ("text", .array (tag.text.map DisplayPart.toJson))]

def ofJson? (json : Json) : Option DocTag := do
  let [name, text] ← json.fields? ["name", "text"] | none
  pure ⟨← name.string?, ← text.listOf? DisplayPart.ofJson?⟩

end DocTag

namespace QuickInfo

def toJson (info : QuickInfo) : Json :=
  .object [("start", .integer info.start), ("length", .integer info.length),
    ("display_parts", .array (info.displayParts.map DisplayPart.toJson)),
    ("tags", .array (info.tags.map DocTag.toJson))]

def ofJson? (json : Json) : Option QuickInfo := do
  let [start, length, displayParts, tags] ←
    json.fields? ["start", "length", "display_parts", "tags"] | none
  pure ⟨← start.natural? 64, ← length.natural? 64, ← displayParts.listOf? DisplayPart.ofJson?,
    ← tags.listOf? DocTag.ofJson?⟩

end QuickInfo

namespace Target

def name : Target → String
  | es5 => "Es5"
  | es2015 => "Es2015"
  | es2017 => "Es2017"
  | esNext => "EsNext"

def ofJson? (json : Json) : Option Target := do
  let name ← json.caseName?
  [es5, es2015, es2017, esNext].find? fun target => target.name = name

end Target

namespace CompilerOptions

def toJson (options : CompilerOptions) : Json :=
  .object [("target", .string options.target.name)]

def ofJson? (json : Json) : Option CompilerOptions := do
  let [target] ← json.fields? ["target"] | none
  pure ⟨← Target.ofJson? target⟩

end CompilerOptions

end StrategyDesk
