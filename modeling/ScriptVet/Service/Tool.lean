import ScriptVet.Service.Checking

/-!
# The check as a tool

An agent calls the check with a script and, if it likes, a file name and options. It gets the answer without its
status.
-/

namespace ScriptVet.Tool

/-- Why a call gives no answer. -/
inductive CallError where
  | missingScript
  | failed (cause : Failure)

/-- The message about a call without an answer. -/
def CallError.message : CallError → Text
  | missingScript => "validate_k6_script() missing 1 required positional argument: 'script'"
  | failed cause => cause.message

/-- The payload of a call. An argument that is null is left out. -/
def payload (script : Json) (filename options : Json) : List (Text × Json) :=
  let given (name : String) (v : Json) : List (Text × Json) :=
    match v with
    | .null => []
    | v => [(Text.ofString name, v)]
  [(Text.ofString "script", script)] ++ given "filename" filename ++ given "options" options

/-- Calls the tool. -/
def call (check : Checker) (depth : Nat) (limits : Limits) (script : Option Json) (filename options : Json := .null) :
    Except CallError Response :=
  match script with
  | none => .error .missingScript
  | some script =>
    match Checking.payload check depth limits (payload script filename options) with
    | .error cause => .error (.failed cause)
    | .ok r => .ok r.value.response

end ScriptVet.Tool
