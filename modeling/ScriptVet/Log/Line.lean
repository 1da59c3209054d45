import ScriptVet.Json.Printer
import ScriptVet.Log.Clock

/-!
# Lines of the log

A record becomes one line of JSON in printable ASCII, so that nothing in it can break the line or pass for another
record. Known fields stand in a fixed order, and others are left out.
-/

namespace ScriptVet.Log

/-- The error that a record is about: its kind and its text. -/
structure Cause where
  kind : Text
  text : Text

/-- The text of a cause. A missing key is shown between quotes. -/
def Cause.describe (c : Cause) : Text :=
  let text := if c.kind = Text.ofString "KeyError" then c.text.quoted else c.text
  if text.isEmpty then c.kind else c.kind ++ Text.ofString ": " ++ text

/-- What is known about a record when it is written. -/
structure Entry where
  created : Json
  milliseconds : Json
  level : Json
  logger : Json
  /-- The message, or its template. -/
  message : Json
  arguments : Arguments := .list []
  /-- Further fields by name. -/
  fields : List (Text × Json) := []
  cause : Option Cause := none

/-- The further fields that are written, in order. -/
def knownFields : List String :=
  ["event", "analyzer", "category", "import_module", "status", "error_count", "script_size", "duration_ms", "method",
    "path", "client", "status_code", "error"]

/-- Why an entry cannot be written. -/
inductive LineError where
  | clock (e : ClockError)
  | template (e : TemplateError)

/-- The message about an entry that cannot be written. -/
def LineError.message : LineError → Text
  | clock e => e.message
  | template e => e.message

namespace Entry

/-- The further fields of an entry that are written. -/
def writtenFields (e : Entry) : List (Text × Json) :=
  knownFields.filterMap fun (name : String) => (Json.lookup name e.fields).map fun v => (Text.ofString name, v)

/-- The members of a line behind its time. -/
def members (e : Entry) (message : Text) : List (Text × Json) :=
  [(Text.ofString "level", e.level), (Text.ofString "logger", e.logger), (Text.ofString "message", .str message)] ++
    e.writtenFields ++ (e.cause.map fun c => [(Text.ofString "exception", Json.str c.describe)]).getD []

/-- The message of an entry with its arguments filled in. -/
def filled (e : Entry) : Except TemplateError Text := do
  fill (← inWords Json.plain e.message) e.arguments

/-- The line of an entry as a value. -/
def toJson (e : Entry) : Except LineError Json :=
  match timestamp e.created e.milliseconds, e.filled with
  | .error c, _ => .error (.clock c)
  | .ok _, .error t => .error (.template t)
  | .ok time, .ok message => .ok (.obj ((Text.ofString "timestamp", .str time) :: e.members message))

/-- The line of an entry. An integer that has too many digits for a message has too many for a line. -/
def line (e : Entry) : Except LineError (List Char) := do
  let value ← e.toJson
  if value.integers.any Number.isOverlong then throw (.template .tooManyDigits)
  return value.write

end Entry

end ScriptVet.Log
