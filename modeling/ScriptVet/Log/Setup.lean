import ScriptVet.Log.Event
import ScriptVet.Text.Case
import ScriptVet.Text.Quoted

/-!
# Setting up the log

The log of the service has a threshold and places to which records go: a file, the console, or nowhere. The console is
left out in a test environment. Parts of the service log under names below that of the service.
-/

namespace ScriptVet.Log

/-- The name of the log. -/
def rootName : Text := "k6validator"

/-- The name under which a part of the service logs. -/
def loggerName (part : Option Text) : Text :=
  match part with
  | none | some [] => rootName
  | some p => rootName ++ Text.ofString "." ++ p

/-- Why a threshold is none. -/
inductive ThresholdError where
  /-- No threshold has this name. -/
  | unknownName (name : Text)
  /-- The name stands for something else. -/
  | notThreshold (value : Text)

/-- The message about a threshold that is none. -/
def ThresholdError.message : ThresholdError → Text
  | unknownName name => Text.ofString "module 'logging' has no attribute '" ++ name ++ Text.ofString "'"
  | notThreshold value => Text.ofString "Unknown level: " ++ value.quoted

/-- The rank of a level. -/
def Level.rank : Level → Nat
  | debug => 10
  | info => 20
  | warning => 30
  | error => 40
  | critical => 50

/-- The ranks by name. -/
def thresholds : List (String × Nat) :=
  [("NOTSET", 0), ("DEBUG", 10), ("INFO", 20), ("WARN", 30), ("WARNING", 30), ("ERROR", 40), ("FATAL", 50),
    ("CRITICAL", 50)]

/-- The name of the format that records have by default, which is no threshold. -/
def formatName : Text := "BASIC_FORMAT"

/-- The format that records have by default. -/
def defaultFormat : Text := "%(levelname)s:%(name)s:%(message)s"

/-- The threshold with a name in any case. -/
def thresholdOf (name : Text) : Except ThresholdError Nat :=
  let name := name.upper
  match thresholds.find? fun (n, _) => Text.ofString n = name with
  | some (_, rank) => .ok rank
  | none => if name = formatName then .error (.notThreshold defaultFormat) else .error (.unknownName name)

/-- Where records go. -/
inductive Sink where
  | file (name : Text)
  | console
  | nowhere
  deriving DecidableEq

/-- A record as it is written. -/
structure Written where
  level : Level
  logger : Text
  message : Text

/-- The log: its threshold, where its records go, and what its files hold. -/
structure Journal where
  threshold : Nat := 0
  sinks : List Sink := []
  files : List (Text × List Written) := []

/-- What the log is set up with. -/
structure Options where
  file : Option Text := none
  level : Text := "INFO"
  console : Bool := true
  /-- The name of the environment, when it has one. -/
  environment : Option Text := none

/-- The environment is one for tests. -/
def Options.isTest (o : Options) : Bool := (o.environment.getD []).lower = Text.ofString "test"

/-- Where the records go that are asked for. -/
def Options.sinks (o : Options) : List Sink :=
  let file := match o.file with
    | none | some [] => []
    | some name => [Sink.file name]
  let asked := file ++ (if o.console && !o.isTest then [.console] else [])
  if asked.isEmpty then [.nowhere] else asked

namespace Journal

/-- Sets the log up anew. Files keep what they hold, and a wrong threshold changes nothing. -/
def configure (l : Journal) (o : Options) : Except ThresholdError Journal := do
  let threshold ← thresholdOf o.level
  return { l with threshold, sinks := o.sinks }

/-- The least rank of records that are written. Without a threshold that of warnings counts. -/
def effective (l : Journal) : Nat := if l.threshold = 0 then Level.warning.rank else l.threshold

/-- What a file holds. -/
def fileContent (l : Journal) (name : Text) : List Written :=
  ((l.files.find? fun (n, _) => n = name).map Prod.snd).getD []

/-- Adds a record to a file. -/
def append (name : Text) (w : Written) : List (Text × List Written) → List (Text × List Written)
  | [] => [(name, [w])]
  | (n, ws) :: rest => if n = name then (n, ws ++ [w]) :: rest else (n, ws) :: append name w rest

/-- Writes a record to a place. -/
def writeTo (w : Written) (l : Journal) : Sink → Journal
  | .file name => { l with files := append name w l.files }
  | .console | .nowhere => l

/-- Logs a record when it reaches the threshold. The console shows it in the second part of the result. -/
def emit (l : Journal) (w : Written) : Journal × List Written :=
  if l.effective ≤ w.level.rank then (l.sinks.foldl (writeTo w) l, [w]) else (l, [])

end Journal

end ScriptVet.Log
