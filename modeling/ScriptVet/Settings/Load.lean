import ScriptVet.Limits
import ScriptVet.Number.Binary64
import ScriptVet.Settings.Field

/-!
# Settings of the service

The limits that scripts are held to, and how the service is run. All errors are reported at once, by field
in the order of the record and then unknown fields in the order given.
-/

namespace ScriptVet

/-- How the service is run. -/
structure ServerSettings where
  host : Text := "0.0.0.0"
  port : Nat := 3000
  corsOrigins : List Text := [Text.ofString "http://localhost:3000"]
  /-- The length of the window in which a client's requests are counted, in seconds. -/
  windowSeconds : Float := 900
  /-- How many requests a client may make in a window. -/
  maxRequests : Nat := 100
  maxFormFields : Nat := 10

namespace Limits

open Settings

/-- The fields of the limits. -/
def fieldNames : List String := ["max_script_size", "max_vus", "valid_extensions"]

/-- Reads limits. Unknown fields are not allowed. -/
def load (members : List (Text × Json)) : Checked Limits :=
  let default : Limits := {}
  let size := fieldOr members "max_script_size" default.maxScriptSize fun n => integerField n 0 none
  let vus := fieldOr members "max_vus" default.maxVus fun n => integerField n 0 none
  let extensions := fieldOr members "valid_extensions" default.extensions fun n => textsField n .notTuple
  let unknown := (members.filter fun (k, _) => !fieldNames.any fun n => Text.ofString n = k).map fun (k, _) =>
    (⟨[k], .unknownField⟩ : FieldError)
  match size, vus, extensions, unknown with
  | .ok maxScriptSize, .ok maxVus, .ok extensions, [] => .ok { maxScriptSize, maxVus, extensions }
  | _, _, _, _ => .error (errorsOf size ++ errorsOf vus ++ errorsOf extensions ++ unknown)

/-- The room that a body has above the size of a script: the double nearest to 1.2. -/
def headroom : Number.Scaled := ⟨5404319552844595, -52⟩

/-- The room above the size of a script as a double. -/
def headroomFloat : Float := Float.scaleB headroom.significand.toFloat headroom.power

/-- How many bytes the body of a request may have: the size of a script with some room for the form it comes
in, in double arithmetic and rounded up. -/
def bodyLimit (l : Limits) : Except Number.OverflowError Nat := do
  let size ← Number.Scaled.ofNat l.maxScriptSize
  return (← size.mul headroom).ceil

end Limits

namespace ServerSettings

open Settings

/-- Reads settings. Unknown fields are passed over. -/
def load (members : List (Text × Json)) (default : ServerSettings := {}) : Checked ServerSettings :=
  let host := fieldOr members "host" default.host textField
  let port := fieldOr members "port" default.port fun n => integerField n 0 (some 65536)
  let origins := fieldOr members "cors_origins" default.corsOrigins fun n => textsField n .notList
  let window := fieldOr members "rate_limit_window_seconds" default.windowSeconds positiveField
  let requests := fieldOr members "rate_limit_max_requests" default.maxRequests fun n => integerField n 0 none
  let fields := fieldOr members "max_form_fields" default.maxFormFields fun n => integerField n 0 none
  match host, port, origins, window, requests, fields with
  | .ok host, .ok port, .ok corsOrigins, .ok windowSeconds, .ok maxRequests, .ok maxFormFields =>
    .ok { host, port, corsOrigins, windowSeconds, maxRequests, maxFormFields }
  | _, _, _, _, _, _ =>
    .error (errorsOf host ++ errorsOf port ++ errorsOf origins ++ errorsOf window ++ errorsOf requests ++
      errorsOf fields)

end ServerSettings

end ScriptVet
