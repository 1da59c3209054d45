import ScriptVet.Limiter
import ScriptVet.Service.Basis
import ScriptVet.Service.Checking
import ScriptVet.Service.ErrorCode
import ScriptVet.Settings.Load

/-!
# Routes

The service answers requests to check a script, and questions about its health and its name. A request is first
counted against the limit of its client, then its payload is read, then its script is checked. The first step that
fails decides the answer. In the end a request to check a script leaves a record with the status of its answer. The
record names the path of the request's URL: when that cannot be told, there is no record, and the answer is lost, too.
-/

namespace ScriptVet

/-- What is sent to a client. -/
structure Reply where
  status : Nat
  body : Json

/-- A reply, or why there is none, how many messages of the request were taken, and what was logged. -/
structure Exchange where
  reply : Except Failure Reply
  taken : Nat
  events : List Log.Event

/-- The service with all that it holds. -/
structure Service where
  basis : Basis
  settings : ServerSettings
  /-- The limits on what comes over the network. -/
  limits : Limits
  /-- The limits on the fields of a request. -/
  fieldLimits : Limits
  check : Checker
  limiter : Limiter Float

namespace Service

/-- The name of the service. -/
def name : Text := "k6-script-validator"

/-- The version of the service. -/
def version : Text := "1.0.0"

/-- A service that starts at a time. -/
def start (basis : Basis) (settings : ServerSettings) (limits : Limits) (now : Float) (fieldLimits : Limits := {}) :
    Service :=
  { basis, settings, limits, fieldLimits, check := Validator.checker { parse := basis.parse, limits }
    limiter := Limiter.new settings.maxRequests settings.windowSeconds now }

/-- The whole part of a double. -/
def wholePart (x : Float) : Except Failure Int :=
  match Number.Parts.ofFloat x with
  | .zero _ => .ok 0
  | .finite negative mantissa power =>
    let n : Int := Number.wholePart mantissa power
    .ok (if negative then -n else n)
  | .infinite _ => .error (.overflow .infinite)
  | .notANumber => .error .notANumber

/-- The reply to a client over its limit, which is told the length of the window. -/
def limitedReply (settings : ServerSettings) : Except Failure Reply := do
  let seconds ← wholePart settings.windowSeconds
  return ⟨429, Json.record [("error", Limiter.limitedMessage), ("retryAfter", .int seconds)]⟩

/-- The reply with an answer. A text that has no UTF-8 form cannot be sent. -/
def encode (a : Answer) : Except Failure Reply :=
  match (a.response.message :: a.response.errors ++ a.response.warnings).findSome? Text.unencodable? with
  | some bad => .error (.unencodable bad)
  | none => .ok ⟨a.status, a.response.toJson⟩

/-- The reply to a failure of the service itself, and its record. -/
def failed (cause : Failure) : Reply × List Log.Event :=
  (⟨500, Response.serverError.toJson⟩, [.serverError "Error occurred" cause])

/-- The reply to a request without a payload. -/
def refuse (e : PayloadError) : Reply × List Log.Event :=
  match e with
  | .badLength | .notObject | .unsupported _ => (⟨400, Response.invalidRequest.toJson⟩, [])
  | .malformedJson _ _ _ => (⟨400, Response.malformedJson.toJson⟩, [])
  | .failed cause => failed cause
  | e =>
    match ErrorCode.answer? (ErrorCode.ofPayload? e) false with
    | some (status, r) => (⟨status, r.toJson⟩, [])
    | none => failed (.other e.message)

/-- The reply to a payload. -/
def answer (s : Service) (members : List (Text × Json)) : Reply × List Log.Event :=
  match Checking.payload s.check s.basis.optionsDepth s.fieldLimits members with
  | .error cause => failed cause
  | .ok r =>
    match encode r.value with
    | .ok reply => (reply, r.events)
    | .error cause =>
      let (reply, events) := failed cause
      (reply, r.events ++ events)

/-- The reply to a request that is within the limit of its client. -/
def admitted (s : Service) (r : Request) : Reply × Nat × List Log.Event :=
  match s.limits.bodyLimit with
  | .error e =>
    let (reply, events) := failed (.overflow e)
    (reply, 0, events)
  | .ok bodyLimit =>
    let payload :=
      Payload.read s.basis.codec s.basis.bodyDepth bodyLimit s.limits.maxScriptSize s.settings.maxFormFields r
    let (reply, events) := match payload.result with
      | .error e => refuse e
      | .ok members => s.answer members
    (reply, payload.taken, events)

/-- The record of a request whose URL has a path. -/
def accessRecord (h : Head) (path : Text) (status : Nat) : Log.Event := .httpRequest h.method path status h.clientKey

/-- Ends an exchange that has come to a status: the request is recorded. A failure to tell its path takes the place of
whatever the reply was. -/
def close (s : Service) (h : Head) (status : Nat) (e : Exchange) : Exchange :=
  match s.basis.path h with
  | .ok path => { e with events := e.events ++ [accessRecord h path status] }
  | .error cause => { e with reply := .error cause }

/-- Answers a request to check a script. -/
def validate (s : Service) (now : Float) (r : Request) : Service × Exchange :=
  let (limiter, outcome) := s.limiter.check now r.clientKey
  let s := { s with limiter }
  match outcome with
  | .error (.exceeded _) => (s, s.close r.toHead 429 ⟨limitedReply s.settings, 0, []⟩)
  | .error .closed =>
    let (reply, events) := failed (.other Limiter.closedMessage)
    (s, s.close r.toHead reply.status ⟨.ok reply, 0, events⟩)
  | .ok () =>
    let (reply, taken, events) := s.admitted r
    (s, s.close r.toHead reply.status ⟨.ok reply, taken, events⟩)

/-- Says at a time that the service is up. -/
def health (timestamp : Text) : Reply :=
  ⟨200, Json.record [("status", "healthy"), ("service", .str name), ("timestamp", .str timestamp)]⟩

/-- Says at a time what the service is. -/
def info (timestamp : Text) : Reply :=
  ⟨200, Json.record [("service", .str name), ("version", .str version), ("status", "running"),
    ("timestamp", .str timestamp)]⟩

end Service

end ScriptVet
