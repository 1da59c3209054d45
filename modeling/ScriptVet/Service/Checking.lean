import ScriptVet.Service.Submission
import ScriptVet.Validator

/-!
# Checking what a request submits

A payload is read as a submission, and its script is checked. The answer has status 200 for a script that passes, 400
for one that does not and for fields that are wrong, and 500 when the check itself fails.
-/

namespace ScriptVet

/-- An answer with its status. -/
structure Answer where
  status : Nat
  response : Response
  deriving DecidableEq

/-- A way to check scripts, which may fail. -/
abbrev Checker := Text → Script.Language → Except Failure (Logged Response)

/-- The check against limits and rules, which does not fail. -/
def Validator.checker (v : Validator) : Checker := fun script language => .ok (v.validate script language.name)

namespace Checking

/-- Options are there and not empty. -/
def hasOptions (s : Submission) : Bool := s.options.any fun members => !members.isEmpty

/-- Checks a submission. -/
def submission (check : Checker) (s : Submission) : Logged Answer :=
  let received := if hasOptions s then [Log.Event.optionsReceived] else []
  match check s.script s.language with
  | .error cause => ⟨⟨500, .serverError⟩, received ++ [.serverError "Validation error" cause]⟩
  | .ok r => ⟨⟨if r.value.valid then 200 else 400, r.value⟩, received ++ r.events⟩

/-- Checks a payload. The limits are those on the fields of a request, and the containers of options that are given as a
text are nested at most `depth` deep. -/
def payload (check : Checker) (depth : Nat) (limits : Limits) (members : List (Text × Json)) :
    Except Failure (Logged Answer) :=
  match Submission.read depth limits members with
  | .error (.failed cause) => .error cause
  | .error (.invalid errors) => .ok ⟨⟨400, .error errors "Validation failed"⟩, []⟩
  | .ok s => .ok (submission check s)

end Checking

end ScriptVet
