import ScriptVet.Analysis.Verdict
import ScriptVet.Specifier

/-!
# The structure of a script

One reading of a script answers three questions: does it import only what it may, does it import a module
that makes requests, and does it export a function to run. The result is filled on the way, import by import, and a
failure is reported on what there is of it by then.
-/

namespace ScriptVet

/-- What is known of the structure of a script. -/
structure Structure extends Verdict where
  imports : List Script.Import := []
  hasK6Import : Bool := false
  hasProtocolImport : Bool := false
  hasExportedFunction : Bool := false
  deriving DecidableEq

namespace Structure

/-- The error about an import that is not allowed. -/
def importError (i : Script.Import) : Option Text :=
  if Specifier.isAllowed i.module then none
  else if Specifier.isForbidden i.module then
    some (Text.ofString "Forbidden Node.js module: " ++ i.module)
  else some (Text.ofString "Unknown/disallowed import: " ++ i.module)

/-- What is logged about an import that is not allowed. -/
def importEvent (i : Script.Import) : Option Log.Event :=
  if Specifier.isAllowed i.module then none
  else if Specifier.isForbidden i.module then some (.forbiddenImport i.module)
  else some (.unknownImport i.module)

/-- Nothing is known yet. -/
def unknown : Logged Structure := ⟨{ errors := [] }, []⟩

/-- Adds an import to a result. -/
def addImport (r : Logged Structure) (i : Script.Import) : Logged Structure :=
  let allowed := Specifier.isAllowed i.module
  ⟨{ r.value with
      errors := r.value.errors ++ (importError i).toList
      imports := r.value.imports ++ [i]
      hasK6Import := r.value.hasK6Import || allowed
      hasProtocolImport := r.value.hasProtocolImport || (allowed && Specifier.isProtocol i.module) },
    r.events ++ (importEvent i).toList⟩

/-- Fills a result with what a parsed script says. A failure leaves the result as it is by then. -/
def fill (p : Script.Parsed) (r : Logged Structure) : Except Script.ScriptError Unit × Logged Structure :=
  match p.checkSyntax with
  | .error e => (.error e, r)
  | .ok () =>
    match p.imports with
    | .error e => (.error e, r)
    | .ok imports =>
      let r := imports.foldl addImport r
      match p.hasExportedFunction with
      | .error e => (.error e, r)
      | .ok exported => (.ok (), { r with value := { r.value with hasExportedFunction := exported } })

/-- Adds the failure that ended an analysis to its result. -/
def addFailure (r : Logged Structure) (e : Script.ScriptError) : Logged Structure :=
  let add (message : Text) (event : Log.Event) : Logged Structure :=
    ⟨{ r.value with errors := r.value.errors ++ [message] }, r.events ++ [event]⟩
  match e with
  | .syntaxError line column =>
    let message := (Script.ScriptError.syntaxError line column).message
    add message (.parseFailed message)
  | e => add ((Failure.script e).report "Script parsing failed") (.analysisFailed .structural (.script e))

/-- Analyses the structure of a script. -/
def analyze (parse : Script.Parser) (script language : Text) : Logged Structure :=
  match Script.Parsed.ofSource parse script language with
  | .error e => addFailure unknown e
  | .ok parsed =>
    match (parsed.within fun p => fill p unknown).1 with
    | (.ok (), r) => r
    | (.error e, r) => addFailure r e

end Structure

end ScriptVet
