import ScriptVet.Json.Value

/-!
# Responses

Every answer about a script has the same four parts.
-/

namespace ScriptVet

/-- An answer about a script. -/
structure Response where
  valid : Bool
  errors : List Text
  warnings : List Text := []
  message : Text
  deriving DecidableEq

namespace Response

/-- The answer about a script that passes. -/
def success (message : Text := "Script validation passed") : Response :=
  { valid := true, errors := [], message }

/-- The answer about a script or request with errors. -/
def error (errors : List Text) (message : Text := "Script validation failed") (warnings : List Text := []) :
    Response :=
  { valid := false, errors, warnings, message }

/-- The answer to a request that is no request to check a script. -/
def invalidRequest (message : Text := "Invalid request format") : Response :=
  error ["Request must include a script field with valid JavaScript code"] message

/-- The answer when the service itself fails. -/
def serverError (message : Text := "Server error") : Response :=
  error ["Internal server error during validation"] message

/-- The answer to a body that is no JSON. -/
def malformedJson : Response :=
  error ["Invalid JSON format in request body"] "Request body contains malformed JSON"

/-- The answer as it is sent. -/
def toJson (r : Response) : Json :=
  Json.record [("valid", .bool r.valid), ("errors", Json.texts r.errors), ("warnings", Json.texts r.warnings),
    ("message", .str r.message)]

end Response

end ScriptVet
