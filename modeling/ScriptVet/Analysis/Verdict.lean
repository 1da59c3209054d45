import ScriptVet.Log.Event

/-!
# Verdicts

An analysis gives the errors it found. A script passes when there are none.
-/

namespace ScriptVet

/-- The errors that an analysis found. -/
structure Verdict where
  errors : List Text
  deriving DecidableEq

/-- Nothing was found. -/
def Verdict.valid (v : Verdict) : Bool := v.errors.isEmpty

/-- A result together with what was logged on the way, in order. -/
structure Logged (α : Type) where
  value : α
  events : List Log.Event

end ScriptVet
