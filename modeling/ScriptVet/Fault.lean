import ScriptVet.Json.Plain
import ScriptVet.Service.ErrorCode

/-!
# Kinds of errors

Errors of the service form a tree of kinds. Those about requests have a status, and some of them a code.
-/

namespace ScriptVet

/-- A kind of error. -/
inductive FaultKind where
  | general
  | analysis
  | scriptParse
  | ruleCompile
  | configuration
  | invalidConfiguration
  | request
  | invalidInput
  | malformedRequest
  | bodyParse
  | fieldTooLarge
  | requestTooLarge
  | rateLimit
  deriving DecidableEq

namespace FaultKind

/-- All kinds, from general to special. -/
def all : List FaultKind :=
  [general, analysis, scriptParse, ruleCompile, configuration, invalidConfiguration, request, invalidInput,
    malformedRequest, bodyParse, fieldTooLarge, requestTooLarge, rateLimit]

/-- The next more general kind. -/
def parent? : FaultKind → Option FaultKind
  | general => none
  | analysis | configuration | request => some general
  | scriptParse | ruleCompile => some analysis
  | invalidConfiguration => some configuration
  | invalidInput | malformedRequest | bodyParse | fieldTooLarge | requestTooLarge | rateLimit => some request

/-- A kind and all more general ones. -/
def lineage (k : FaultKind) : List FaultKind :=
  match k.parent? with
  | none => [k]
  | some p =>
    match p.parent? with
    | none => [k, p]
    | some q => [k, p, q]

/-- The status of an answer to an error about a request. -/
def status? (k : FaultKind) : Option Nat :=
  if k = rateLimit then some 429 else if k.lineage.contains request then some 400 else none

/-- The code of an error. -/
def code? : FaultKind → Option Text
  | bodyParse => some ErrorCode.unreadableForm
  | fieldTooLarge => some ErrorCode.fieldTooLarge
  | requestTooLarge => some ErrorCode.bodyTooLarge
  | _ => none

end FaultKind

/-- An error with what it carries. -/
structure Fault where
  kind : FaultKind
  message : Text
  /-- What an error carries besides its message, by name. -/
  details : List (String × Json)

namespace Fault

/-- The message that values make together: none, one as it is, or several as a list in round brackets. -/
def messageOf : List Json → Text
  | [] => []
  | [v] => v.plain
  | vs => .scalar '(' :: Json.shownItems vs ++ [.scalar ')']

/-- The text of each item of a list. -/
def textsOf : Json → List Text
  | .arr items => items.map Json.plain
  | _ => []

/-- The error of a kind with values. -/
def make (kind : FaultKind) (values : List Json) : Fault :=
  let nth (i : Nat) : Json := values[i]?.getD .null
  let first := values.take 1
  match kind with
  | .scriptParse => ⟨kind, messageOf first, [("line", nth 1), ("column", nth 2)]⟩
  | .invalidInput => ⟨kind, Text.join "; " (textsOf (nth 0)), [("errors", nth 0)]⟩
  | .rateLimit => ⟨kind, messageOf first, [("retry_after", nth 1)]⟩
  | _ => ⟨kind, messageOf values, []⟩

end Fault

/-- The kind of an error in reading a payload, when it is one of the service. -/
def PayloadError.kind? : PayloadError → Option FaultKind
  | .badLength | .notObject | .unsupported _ => some .malformedRequest
  | .bodyTooLarge => some .requestTooLarge
  | .unreadableForm _ => some .bodyParse
  | .fieldTooLarge _ _ => some .fieldTooLarge
  | .malformedJson _ _ _ | .failed _ => none

end ScriptVet
