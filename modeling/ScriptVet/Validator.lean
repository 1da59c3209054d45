import ScriptVet.Analysis.Patterns
import ScriptVet.Analysis.Resources
import ScriptVet.Analysis.Structure
import ScriptVet.Response
import ScriptVet.Rule.Defaults

/-!
# Checking a script

First the size and the structure of a script are checked. Only a script that passes is looked at by the
rules and asked for its resources, so that an answer never mixes errors of the two stages.
-/

namespace ScriptVet

/-- What scripts are read with and checked against. -/
structure Validator where
  parse : Script.Parser
  limits : Limits := {}
  registry : Registry := Registry.default

namespace Validator

/-- A script must import a module of the tool or a file of its own. -/
def missingImport : Text := "Script must contain at least one K6 import (e.g., import http from 'k6/http')"

/-- A script must import a module that makes requests. -/
def missingProtocol : Text :=
  "Script must import at least one protocol module (k6/http, k6/ws, or k6/net/grpc)"

/-- A script must export a function to run. -/
def missingFunction : Text := "Script must contain an exported test function"

/-- The error about the size of a script. -/
def sizeErrors (limits : Limits) (script : Text) : List Text :=
  let size := script.units16
  if limits.maxScriptSize < size then
    [s!"Script size ({size} bytes) exceeds maximum allowed size ({limits.maxScriptSize} bytes)"]
  else []

/-- The errors about what is missing in a script. -/
def missingErrors (s : Structure) : List Text :=
  (if s.hasK6Import then [] else [missingImport]) ++
    (if s.hasProtocolImport then [] else [missingProtocol]) ++
      (if s.hasExportedFunction then [] else [missingFunction])

/-- The answer about a script with these errors. -/
def respond (errors : List Text) : Response :=
  if errors.isEmpty then Response.success else Response.error errors

/-- Checks a script in two stages. -/
def stages (v : Validator) (script language : Text) : Logged Response :=
  let structural := Structure.analyze v.parse script language
  let errors := sizeErrors v.limits script ++ structural.value.errors ++ missingErrors structural.value
  if !errors.isEmpty then ⟨respond errors, structural.events⟩
  else
    let patterns := Patterns.analyze v.registry script
    let resources := Resources.analyze v.parse v.limits script language
    ⟨respond (patterns.value.errors ++ resources.value.errors),
      structural.events ++ patterns.events ++ resources.events⟩

/-- Adds what is logged at the end of a check. -/
def completed (size : Nat) (r : Logged Response) : Logged Response :=
  { r with events := r.events ++ [.validationComplete r.value.valid r.value.errors.length size] }

/-- Checks a script. -/
def validate (v : Validator) (script : Text) (language : Text := "javascript") : Logged Response :=
  completed script.length (v.stages script language)

/-- Answers about a value that is no text and can be no script. -/
def refuse (kind : String) (size : Nat) : Logged Response :=
  let cause := Failure.notText kind
  completed size
    ⟨Response.error [cause.report "An unknown error occurred during validation"] "Validation error",
      [.validationFailed cause size]⟩

end Validator

end ScriptVet
