import ScriptVet.Failure
import ScriptVet.Form.Multipart
import ScriptVet.Form.UrlEncoded
import ScriptVet.Json.Bytes
import ScriptVet.Service.Request
import ScriptVet.Text.Quoted

/-!
# Payloads

The body of a request is a JSON object or a form, as its content type says. Both give fields by name.
-/

namespace ScriptVet

/-- Why a request has no payload. -/
inductive PayloadError where
  /-- The declared length of the body is no number. -/
  | badLength
  /-- The body is JSON, but no object. -/
  | notObject
  /-- The body is neither JSON nor a form. -/
  | unsupported (contentType : Text)
  | bodyTooLarge
  | unreadableForm (e : FormError)
  | fieldTooLarge (name : Text) (limit : Nat)
  /-- The body should be JSON and is none. -/
  | malformedJson (t : Text) (problem : Json.Problem) (position : Nat)
  /-- The body could not be looked at. -/
  | failed (cause : Failure)

namespace PayloadError

/-- The message about a request without a payload. -/
def message : PayloadError → Text
  | badLength => "Invalid Content-Length header"
  | notObject => "Request body must be a JSON object"
  | unsupported contentType =>
    Text.ofString "Unsupported content type: " ++ (if contentType.isEmpty then Text.ofString "none" else contentType)
  | bodyTooLarge => "Request body too large"
  | unreadableForm e => s!"Unreadable form body: {e.message}"
  | fieldTooLarge name limit => Text.ofString "Form field " ++ name.quoted ++ Text.ofString s!" exceeds {limit} code units"
  | malformedJson t problem position => Json.ReadError.message t (.malformed problem position)
  | failed cause => cause.message

/-- The error of a body that cannot be read. -/
def ofBody : BodyError → PayloadError
  | .badLength => badLength
  | .tooLarge => bodyTooLarge
  | .disconnected => failed .disconnected

/-- The error of bytes that are no JSON. -/
def ofBytes : Json.BytesError → PayloadError
  | .undecodable e => failed (.undecodable e)
  | .unreadable t (.malformed problem position) => malformedJson t problem position
  | .unreadable _ (.tooManyDigits n) => failed (.tooManyDigits n)
  | .unreadable _ (.tooDeep c) => failed (.tooDeep c)

end PayloadError

/-- The result of reading a payload, and how many messages were taken for it. -/
structure PayloadRead where
  result : Except PayloadError (List (Text × Json))
  taken : Nat

namespace Payload

/-- The members of a JSON body with containers at most `depth` deep. An empty body is null. -/
def ofJson (depth : Nat) (body : List UInt8) : Except PayloadError (List (Text × Json)) :=
  if body.isEmpty then .error .notObject
  else
    match Json.parseBytes depth body with
    | .error e => .error (.ofBytes e)
    | .ok (.obj members) => .ok members
    | .ok _ => .error .notObject

/-- The fields of a form in parts. -/
def ofParts (codec : Form.Codec) (maxFields : Nat) (header : Form.Header) (body : List UInt8) :
    Except FormFailure FormFields :=
  match header.parameter? "boundary" with
  | none => .error (.refused .missingBoundary)
  | some boundary =>
    let charset := (header.parameter? "charset").getD "utf-8".toList
    Form.Multipart.parse ⟨maxFields, codec, charset⟩ (Form.Multipart.parameterBytes boundary) body

/-- The fields of a form. A content type that only starts like that of a form gives none. -/
def ofForm (codec : Form.Codec) (maxFields : Nat) (contentType : List Char) (body : List UInt8) :
    Except FormFailure FormFields :=
  let header := Form.Header.parse contentType
  if header.value = "multipart/form-data".toList then ofParts codec maxFields header body
  else if header.value = "application/x-www-form-urlencoded".toList then
    (Form.UrlEncoded.parse maxFields body).mapError .refused
  else .ok []

/-- The payload of a form whose fields have at most `limit` UTF-16 units. -/
def ofFields (limit : Nat) (fields : FormFields) : Except PayloadError (List (Text × Json)) :=
  match fields.find? fun (_, v) => limit < v.units16 with
  | some (name, _) => .error (.fieldTooLarge name limit)
  | none => .ok (fields.map fun (n, v) => (n, .str v))

/-- The payload of a body with a content type. -/
def ofBody (codec : Form.Codec) (depth fieldLimit maxFields : Nat) (contentType : Text) (body : List UInt8) :
    Except PayloadError (List (Text × Json)) :=
  if contentType.startsWith "application/json" then ofJson depth body
  else if contentType.startsWith "application/x-www-form-urlencoded" || contentType.startsWith "multipart/form-data" then
    match ofForm codec maxFields (contentType.filterMap CodePoint.scalar?) body with
    | .error (.refused e) => .error (.unreadableForm e)
    | .error (.failed message) => .error (.failed (.other message))
    | .ok fields => ofFields fieldLimit (FormFields.latest fields)
  else .error (.unsupported contentType)

/-- Reads the payload of a request. Forms are decoded with a codec, and containers in JSON are nested at most `depth`
deep. -/
def read (codec : Form.Codec) (depth bodyLimit fieldLimit maxFields : Nat) (r : Request) : PayloadRead :=
  let body := r.readBody bodyLimit
  match body.result with
  | .error e => ⟨.error (.ofBody e), body.taken⟩
  | .ok bytes => ⟨ofBody codec depth fieldLimit maxFields ((r.header? "content-type").getD []) bytes, body.taken⟩

end Payload

end ScriptVet
