import ScriptVet.Response
import ScriptVet.Service.Payload

/-!
# Error codes

Errors in reading a request carry a code, and a code has an answer of its own.
-/

namespace ScriptVet.ErrorCode

/-- A field of a form is too large. -/
def fieldTooLarge : Text := "LIMIT_FIELD_VALUE"

/-- A form cannot be read. -/
def unreadableForm : Text := "entity.parse.failed"

/-- A body is too large. -/
def bodyTooLarge : Text := "entity.too.large"

/-- The answer to an error with a code. -/
def response? (code : Text) : Option Response :=
  if code = fieldTooLarge then some (.error ["Form field exceeds 50KB limit"] "Field too large")
  else if code = unreadableForm then some (.error ["Request body parsing failed"] "Invalid request format")
  else if code = bodyTooLarge then some (.error ["Request body too large"] "Invalid request format")
  else none

/-- The code that an error carries in its two marks: the first of them that is a text. -/
def ofMarks (code type : Option Json) : Option Text :=
  match code, type with
  | some (.str t), _ => some t
  | _, some (.str t) => some t
  | _, _ => none

/-- The status and the answer to an error with or without a code, which may be one of malformed JSON. -/
def answer? (code : Option Text) (malformedJson : Bool) : Option (Nat × Response) :=
  match code.bind response? with
  | some r => some (400, r)
  | none => if malformedJson then some (400, .malformedJson) else none

/-- The code of an error in reading a payload. -/
def ofPayload? : PayloadError → Option Text
  | .bodyTooLarge => some bodyTooLarge
  | .unreadableForm _ => some unreadableForm
  | .fieldTooLarge _ _ => some fieldTooLarge
  | _ => none

end ScriptVet.ErrorCode
