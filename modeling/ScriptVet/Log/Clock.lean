import ScriptVet.Number.Shortest
import ScriptVet.Log.Template

/-!
# Times of records

The date and the time of day of a number of seconds since the start of 1970, in the calendar of today extended to all
times.
-/

namespace ScriptVet.Log

/-- A date and a time of day. -/
structure Moment where
  year : Int
  month : Nat
  day : Nat
  hour : Nat
  minute : Nat
  second : Nat
  deriving DecidableEq

/-- Days are counted in eras of 400 years that start on the first of March, so that the day that some years have more
comes last. -/
def daysPerEra : Int := 146097

/-- Days from the first of March of the year 0 to the start of 1970. -/
def epochDay : Int := 719468

/-- The moment that is some seconds after the start of 1970. -/
def Moment.ofSeconds (seconds : Int) : Moment :=
  let days := seconds.fdiv 86400 + epochDay
  let time := (seconds.fmod 86400).toNat
  let era := days.fdiv daysPerEra
  let dayOfEra := (days.fmod daysPerEra).toNat
  let yearOfEra := (dayOfEra - dayOfEra / 1460 + dayOfEra / 36524 - dayOfEra / 146096) / 365
  let dayOfYear := dayOfEra - (365 * yearOfEra + yearOfEra / 4 - yearOfEra / 100)
  -- months of 31, 30, 31, 30, 31 days repeat from March on
  let shifted := (5 * dayOfYear + 2) / 153
  let month := if shifted < 10 then shifted + 3 else shifted - 9
  { year := era * 400 + yearOfEra + (if month ≤ 2 then 1 else 0)
    month
    day := dayOfYear - (153 * shifted + 2) / 5 + 1
    hour := time / 3600
    minute := time / 60 % 60
    second := time % 60 }

/-- Two digits of a number. -/
def twoDigits (n : Nat) : String := if n < 10 then s!"0{n}" else toString n

/-- A moment in a record. -/
def Moment.text (m : Moment) : String :=
  s!"{m.year}-{twoDigits m.month}-{twoDigits m.day} {twoDigits m.hour}:{twoDigits m.minute}:{twoDigits m.second}"

/-- Why a number is no time. -/
inductive ClockError where
  | notANumber
  | outOfRange
  | badMilliseconds (e : TemplateError)

/-- The message about a number that is no time. -/
def ClockError.message : ClockError → Text
  | notANumber => "Invalid value NaN (not a number)"
  | outOfRange => "timestamp out of range for platform time_t"
  | badMilliseconds e => e.message

/-- The whole seconds of a time, rounded down. -/
def wholeSeconds (created : Json) : Except ClockError Int :=
  let checked (n : Int) : Except ClockError Int :=
    if Number.fitsWord 64 n then .ok n else .error .outOfRange
  match created with
  | .int n => checked n
  | .bool b => .ok (if b then 1 else 0)
  | .float x =>
    match Number.Parts.ofFloat x with
    | .zero _ => .ok 0
    | .finite negative mantissa power =>
      let n : Int := mantissa * Number.twoTo power.toNat
      checked ((if negative then -n else n).fdiv (Number.twoTo (-power).toNat))
    | .infinite _ => .error .outOfRange
    | .notANumber => .error .notANumber
  | _ => .ok 0

/-- The time of a record with three digits of milliseconds. -/
def timestamp (created milliseconds : Json) : Except ClockError Text := do
  let seconds ← wholeSeconds created
  match fill "%s,%03d" (.list [.str (Moment.ofSeconds seconds).text, milliseconds]) with
  | .ok t => return t
  | .error e => throw (.badMilliseconds e)

end ScriptVet.Log
