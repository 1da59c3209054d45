import ScriptVet.Failure

/-!
# Events

What the service writes to its log. An event is a fact; its record says at which level, by which part and
in which words it is written.

The check and its analyses log events, and so does the route. The part that reads scripts into trees writes a record of
its own for the first fault of a tree, at the level `debug`: that one is left out, and no event stands for it.
-/

namespace ScriptVet.Log

/-- How serious a record is. -/
inductive Level where
  | debug
  | info
  | warning
  | error
  | critical
  deriving DecidableEq

/-- The name of a level in records. -/
def Level.name : Level → String
  | debug => "DEBUG"
  | info => "INFO"
  | warning => "WARNING"
  | error => "ERROR"
  | critical => "CRITICAL"

/-- An analysis of scripts. -/
inductive Analyzer where
  | structural
  | pattern
  | resource
  deriving DecidableEq

namespace Analyzer

/-- The name of an analysis in records. -/
def name : Analyzer → String
  | structural => "structural"
  | pattern => "pattern"
  | resource => "resource"

/-- The logger of an analysis. -/
def logger : Analyzer → String
  | structural => "k6validator.analysis.structural"
  | pattern => "k6validator.analysis.pattern_analyzer"
  | resource => "k6validator.analysis.resource"

/-- What is logged when an analysis fails. -/
def failed : Analyzer → String
  | structural => "Structural analysis failed"
  | pattern => "Pattern analysis failed"
  | resource => "Resource analysis failed"

end Analyzer

/-- A fact to be logged. -/
inductive Event where
  /-- A script imports a module on the denylist. -/
  | forbiddenImport (module : Text)
  /-- A script imports a module that is not known. -/
  | unknownImport (module : Text)
  /-- A script does not follow the grammar. -/
  | parseFailed (message : Text)
  /-- An analysis failed. -/
  | analysisFailed (analyzer : Analyzer) (cause : Failure)
  /-- A rule found something. -/
  | patternViolation (category : Category)
  /-- The number of virtual users is no number. -/
  | invalidVus (value : Text)
  /-- The number of virtual users is too large. -/
  | vusExceeded (vus : Int) (ceiling : Nat)
  /-- The check of a script failed. -/
  | validationFailed (cause : Failure) (size : Nat)
  /-- The check of a script is done. -/
  | validationComplete (valid : Bool) (errors size : Nat)
  /-- A request came with options. -/
  | optionsReceived
  /-- A request could not be answered as it should be. -/
  | serverError (message : String) (cause : Failure)
  /-- A request was answered. -/
  | httpRequest (method path : Text) (status : Nat) (client : Text)

/-- A record of the log: its level, the logger, the message, further fields, and the failure it is about. -/
structure Record where
  level : Level
  logger : String
  message : Text
  fields : List (String × Json) := []
  failure : Option Failure := none

namespace Event

/-- The record of an event. -/
def record : Event → Record
  | forbiddenImport m =>
    { level := .warning, logger := Analyzer.structural.logger
      message := Text.ofString "Security violation: Forbidden Node.js module: " ++ m
      fields := [("event", "forbidden_import"), ("import_module", .str m)] }
  | unknownImport m =>
    { level := .warning, logger := Analyzer.structural.logger
      message := Text.ofString "Disallowed import detected: " ++ m
      fields := [("event", "unknown_import"), ("import_module", .str m)] }
  | parseFailed message =>
    { level := .info, logger := Analyzer.structural.logger, message
      fields := [("event", "parse_failed"), ("analyzer", Analyzer.structural.name)] }
  | analysisFailed a cause =>
    { level := .error, logger := a.logger, message := a.failed
      fields := [("analyzer", a.name)], failure := some cause }
  | patternViolation c =>
    { level := .warning, logger := Analyzer.pattern.logger, message := "Security pattern detected"
      fields := [("event", "pattern_violation"), ("category", c.name)] }
  | invalidVus value =>
    { level := .warning, logger := Analyzer.resource.logger
      message := Text.ofString "Invalid VUs value detected: '" ++ value ++ Text.ofString "' is not a number"
      fields := [("event", "invalid_vus")] }
  | vusExceeded vus ceiling =>
    { level := .warning, logger := Analyzer.resource.logger
      message := s!"Hard limit violation: VUs {vus} exceeds maximum {ceiling}"
      fields := [("event", "vus_limit_exceeded")] }
  | validationFailed cause size =>
    { level := .error, logger := "k6validator.validator", message := "Unexpected validation failure"
      fields := [("event", "validation_error"), ("script_size", .int size)], failure := some cause }
  | validationComplete valid errors size =>
    { level := .info, logger := "k6validator.validator"
      message := if valid then "Validation passed" else "Validation failed"
      fields := [("event", "validation_complete"), ("status", if valid then "valid" else "invalid"),
        ("error_count", .int errors), ("script_size", .int size)] }
  | optionsReceived =>
    { level := .debug, logger := "k6validator.server", message := "Request options received"
      fields := [("event", "options_parsed")] }
  | serverError message cause =>
    { level := .error, logger := "k6validator.server", message
      fields := [("event", "server_error")], failure := some cause }
  | httpRequest method path status client =>
    { level := .info, logger := "k6validator.server"
      message := method ++ Text.ofString " " ++ path ++ Text.ofString s!" {status}"
      fields := [("event", "http_request"), ("method", .str method), ("path", .str path),
        ("status_code", .int status), ("client", .str client)] }

end Event

end ScriptVet.Log
