import ScriptVet.Analysis.Verdict
import ScriptVet.Limits
import ScriptVet.Number.Integer

/-!
# The resources a script asks for

The size of a script, and the number of virtual users that the first property `vus` declares.
-/

namespace ScriptVet.Resources

/-! ## Leading integers -/

/-- A blank before an integer. -/
def isBlank (c : Char) : Bool := c = '\t' || c = '\n' || c = '\x0c' || c = '\r' || c = ' '

/-- The expression for the integer at the start of a text: blanks, perhaps a sign, and digits. -/
def prefixExpression : List Char := "^\\s*([+-]?[0-9]+)".toList

/-- The expression, ready to run. -/
def integerPrefix : Regex := (Regex.compile prefixExpression).toOption.getD .empty

/-- The integer at the start of a text. What follows its digits does not matter. -/
def leadingInteger (cs : List Char) : Except Failure (Option Int) :=
  match integerPrefix.search cs with
  | none => .ok none
  | some (start, stop) =>
    -- the part of the expression in brackets takes no blanks: it is what stands behind those of the match
    let group := Text.ofChars (((cs.take stop).drop start).dropWhile isBlank)
    match Number.ofText 10 group with
    | .ok n => .ok (some n)
    | .error (.tooManyDigits n) => .error (.tooManyDigits n)
    | .error .malformed => .error (.other (Number.notIntegerMessage group))

/-- The integer at the start of a text that has a UTF-8 form. -/
def leadingIntegerOf (t : Text) : Except Failure (Option Int) :=
  match t.encode with
  | .error bad => .error (.unencodable bad)
  | .ok cs => leadingInteger cs

/-! ## Virtual users -/

/-- The name of the property that declares the number of virtual users. -/
def vusKey : Text := "vus"

/-- What is wrong with a declared number of virtual users, with what is logged about it. -/
def judge (limits : Limits) (value : List Char) : Except Failure (Option (Text × Log.Event)) := do
  let shown := Text.ofChars value
  match ← leadingInteger value with
  | none =>
    return some (Text.ofString "Invalid VUs value: '" ++ shown ++
      Text.ofString "' is not a number (found: vus: " ++ shown ++ Text.ofString ")", .invalidVus shown)
  | some vus =>
    if (limits.maxVus : Int) < vus then
      return some (s!"VUs limit exceeded: {vus} > {limits.maxVus} (found: vus: {vus})",
        .vusExceeded vus limits.maxVus)
    else return none

/-- The value of the first property `vus` as it is written. -/
def declaredVus (parse : Script.Parser) (script language : Text) : Except Failure (Option (List Char)) := do
  let parsed ← (Script.Parsed.ofSource parse script language).mapError .script
  let (found, _) := parsed.within fun p => p.firstProperty? vusKey
  let found ← found.mapError .script
  return found.map (·.value)

/-- What is wrong with the virtual users of a script. -/
def checkVus (parse : Script.Parser) (limits : Limits) (script language : Text) :
    Except Failure (Option (Text × Log.Event)) := do
  match ← declaredVus parse script language with
  | none | some [] => return none
  | some value => judge limits value

/-- Analyses the resources that a script asks for. A script that is too long is not read. -/
def analyze (parse : Script.Parser) (limits : Limits) (script language : Text) : Logged Verdict :=
  let size := script.units16
  if limits.maxScriptSize < size then
    ⟨⟨[s!"Script size exceeds maximum allowed length: {size} > {limits.maxScriptSize} bytes"]⟩, []⟩
  else
    match checkVus parse limits script language with
    | .ok none => ⟨⟨[]⟩, []⟩
    | .ok (some (error, event)) => ⟨⟨[error]⟩, [event]⟩
    | .error e => ⟨⟨[e.report "Resource analysis failed"]⟩, [.analysisFailed .resource e]⟩

end ScriptVet.Resources
