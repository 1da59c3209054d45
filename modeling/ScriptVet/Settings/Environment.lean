import ScriptVet.Limits
import ScriptVet.Number.Integer
import ScriptVet.Settings.Load
import ScriptVet.Text.Quoted

/-!
# Settings from the environment

Some defaults can be set by environment variables. A number that is none is an error, and the first one found is
reported. Defaults are not held to the bounds of settings.
-/

namespace ScriptVet

/-- The defaults that the environment can set. -/
structure Defaults where
  maxScriptSize : Int := 50 * 1024
  maxVus : Int := 500
  port : Int := 3000
  host : Text := "0.0.0.0"
  corsOrigins : List Text := [Text.ofString "http://localhost:3000"]

/-- Why a variable is no number. -/
inductive VariableError where
  | malformed (value : Text)
  | tooManyDigits (digits : Nat)

/-- The message about a variable that is no number. -/
def VariableError.message : VariableError → Text
  | malformed value => Number.notIntegerMessage value
  | tooManyDigits n => Number.tooManyDigitsMessage n

namespace Defaults

/-- The integer in a variable, or a default when the variable is not set. -/
def integerVariable (value : Option Text) (default : Int) : Except VariableError Int :=
  match value with
  | none => .ok default
  | some t =>
    match Number.ofText 10 t with
    | .ok n => .ok n
    | .error .malformed => .error (.malformed t)
    | .error (.tooManyDigits n) => .error (.tooManyDigits n)

/-- Splits a text at commas. -/
def splitCommas (t : Text) : List Text :=
  let (last, done) := t.foldl (fun (piece, done) p =>
    if p = .scalar ',' then ([], piece.reverse :: done) else (p :: piece, done)) (([] : Text), ([] : List Text))
  (last.reverse :: done).reverse

/-- The origins in a list with commas. -/
def origins (t : Text) : List Text := ((splitCommas t).map Text.strip).filter fun o => !o.isEmpty

/-- The defaults in an environment, which gives the values of variables. -/
def load (read : String → Option Text) : Except VariableError Defaults := do
  let default : Defaults := {}
  let maxScriptSize ← integerVariable (read "K6V_MAX_SCRIPT_SIZE") default.maxScriptSize
  let maxVus ← integerVariable (read "K6V_MAX_VUS") default.maxVus
  let port ← integerVariable (read "PORT") default.port
  let host := (read "HOST").getD default.host
  let corsOrigins := ((read "CORS_ORIGINS").map origins).getD default.corsOrigins
  return { maxScriptSize, maxVus, port, host, corsOrigins }

/-- The limits with these defaults. -/
def limits (d : Defaults) : Limits := { maxScriptSize := d.maxScriptSize.toNat, maxVus := d.maxVus.toNat }

/-- The settings with these defaults. -/
def settings (d : Defaults) : ServerSettings := { host := d.host, port := d.port.toNat, corsOrigins := d.corsOrigins }

end Defaults

end ScriptVet
