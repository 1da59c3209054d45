import ScriptVet.Number.Integer
import ScriptVet.Text.Case

/-!
# Requests

A request comes with headers and a body in messages, and the client may go away between two of them. A body is read
no further than the limit on its size.
-/

namespace ScriptVet

/-- A message of a request. -/
inductive Message where
  | chunk (bytes : List UInt8)
  /-- The client went away. -/
  | disconnect

/-- What a request says before its body. -/
structure Head where
  method : Text := "POST"
  /-- The path that the request was routed by. The path of its URL may be another one, or none. -/
  path : Text := "/api/v1/validate"
  headers : List (Text × Text) := []
  /-- Where the request comes from, when it is known. -/
  client : Option Text := none

namespace Head

/-- The value of the first header of a name, in any case of its letters. -/
def header? (h : Head) (name : String) : Option Text :=
  (h.headers.find? fun (n, _) => n.lower = Text.ofString name).map Prod.snd

/-- Whom the requests of a client are counted for. -/
def clientKey (h : Head) : Text := h.client.getD "unknown"

end Head

/-- A request to the service. -/
structure Request extends Head where
  messages : List Message := []

/-- Why a body cannot be read. -/
inductive BodyError where
  /-- The header that declares the length of the body is no number. -/
  | badLength
  | tooLarge
  | disconnected
  deriving DecidableEq

/-- The result of reading a body, and how many messages were taken for it. -/
structure BodyRead where
  result : Except BodyError (List UInt8)
  taken : Nat

namespace Request

/-- Takes messages until all are read or the body is too large. `received` bytes came before, in the chunks of
`done`, last one first. -/
def takeMessages (limit received taken : Nat) (done : List (List UInt8)) : List Message → BodyRead
  | [] => ⟨.ok done.reverse.flatten, taken⟩
  | .disconnect :: _ => ⟨.error .disconnected, taken + 1⟩
  | .chunk bytes :: rest =>
    let received := received + bytes.length
    if limit < received then ⟨.error .tooLarge, taken + 1⟩
    else takeMessages limit received (taken + 1) (bytes :: done) rest

/-- Reads the body of a request, unless its declared length is already too large. -/
def readBody (limit : Nat) (r : Request) : BodyRead :=
  match r.header? "content-length" with
  | none => takeMessages limit 0 0 [] r.messages
  | some declared =>
    match Number.ofText 10 declared with
    | .error _ => ⟨.error .badLength, 0⟩
    | .ok n => if limit < n then ⟨.error .tooLarge, 0⟩ else takeMessages limit 0 0 [] r.messages

end Request

end ScriptVet
