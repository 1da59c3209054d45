import ScriptVet.Json.Reader
import ScriptVet.Number.Binary64
import ScriptVet.Rule.Registry
import ScriptVet.Script.Parsed
import ScriptVet.Text.Decode
import ScriptVet.Url

/-!
# Failures

What can go wrong inside a step whose failure is reported and not passed on.
-/

namespace ScriptVet

/-- The cause of a failure. -/
inductive Failure where
  /-- A script could not be parsed or asked. -/
  | script (e : Script.ScriptError)
  /-- A rule could not be applied. -/
  | rule (e : RuleError)
  /-- An integer has more digits than are read. -/
  | tooManyDigits (digits : Nat)
  /-- A value of another kind stands where a text is wanted. -/
  | notText (kind : String)
  /-- A text has no UTF-8 form. -/
  | unencodable (bad : Unencodable)
  /-- Bytes are no text in the encoding they are in. -/
  | undecodable (bad : DecodeError)
  /-- A JSON text is nested too deep. -/
  | tooDeep (container : Json.Container)
  /-- A number is too large for a double. -/
  | overflow (e : Number.OverflowError)
  /-- A double that is not a number stands where an integer is wanted. -/
  | notANumber
  /-- The client went away. -/
  | disconnected
  /-- The URL of a request has no path. -/
  | url (e : Url.Error)
  /-- A failure of another part, with its message. -/
  | other (message : Text)

namespace Failure

/-- The message about a failure. -/
def message : Failure → Text
  | script e => e.message
  | rule e => e.message
  | tooManyDigits n => Number.tooManyDigitsMessage n
  | notText kind => s!"'{kind}' object has no attribute 'encode'"
  | unencodable bad => bad.message
  | undecodable bad => bad.message
  | tooDeep c => Json.ReadError.message [] (.tooDeep c)
  | overflow e => e.message
  | notANumber => "cannot convert float NaN to integer"
  | disconnected => ""
  | url e => e.message
  | other message => message

/-- What is reported about a failure: its message, or a fixed text when it has none. -/
def report (f : Failure) (fallback : String) : Text := if f.message.isEmpty then fallback else f.message

end Failure

end ScriptVet
