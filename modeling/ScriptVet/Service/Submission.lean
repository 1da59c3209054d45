import ScriptVet.Failure
import ScriptVet.Json.Reader
import ScriptVet.Limits
import ScriptVet.Script.Language
import ScriptVet.Text.Case

/-!
# Submissions

What a request submits to be checked: a script, the language that its file name chooses, and options. All that is
wrong with the fields of a request is reported at once.
-/

namespace ScriptVet

/-- A script to be checked, with its language and its options. -/
structure Submission where
  script : Text
  language : Script.Language
  options : Option (List (Text × Json))

/-- Why the fields of a request are no submission. -/
inductive SubmissionError where
  /-- Fields are missing or wrong. -/
  | invalid (errors : List Text)
  /-- A field could not be looked at. -/
  | failed (cause : Failure)

namespace Submission

/-- What is said about options that are no object. -/
def badOptions : Text := "Options must be a valid JSON object"

/-- Reads options: an object, or its JSON text with containers at most `depth` deep. Options that are none of the two
give an error. -/
def readOptions (depth : Nat) (v : Json) : Except Failure (Except Text (Option (List (Text × Json)))) :=
  match v with
  | .null => .ok (.ok none)
  | .obj members => .ok (.ok (some members))
  | .str t =>
    match Json.parse depth t with
    | .ok (.obj members) => .ok (.ok (some members))
    | .ok _ => .ok (.error badOptions)
    | .error (.malformed _ _) => .ok (.error badOptions)
    | .error (.tooManyDigits n) => .error (.tooManyDigits n)
    | .error (.tooDeep c) => .error (.tooDeep c)
  | _ => .ok (.error badOptions)

/-- What is wrong with the script of a request. -/
def scriptErrors (limits : Limits) (v : Json) : List Text :=
  match v with
  | .null => ["Script is required"]
  | .str [] => ["Script cannot be empty"]
  | .str t =>
    if limits.maxScriptSize < t.units16 then [s!"Script exceeds maximum size of {limits.maxScriptSize / 1024}KB"]
    else []
  | _ => ["Script must be a string"]

/-- A file name has an allowed extension, in any case of its letters. -/
def hasExtension (limits : Limits) (name : Text) : Bool := limits.extensions.any fun e => e.isSuffixOf name.lower

/-- What is wrong with the file name of a request. -/
def filenameErrors (limits : Limits) (v : Json) : List Text :=
  let wrong := Text.ofString "Script filename must end with one of: " ++ Text.join ", " limits.extensions
  match v with
  | .null => []
  | .str name => if hasExtension limits name then [] else [wrong]
  | _ => [wrong]

/-- The value of a field. A field that is missing is null. -/
def fieldOf (payload : List (Text × Json)) (name : String) : Json := (Json.lookup name payload).getD .null

/-- Reads the fields of a request. -/
def read (depth : Nat) (limits : Limits) (payload : List (Text × Json)) : Except SubmissionError Submission :=
  let script := fieldOf payload "script"
  let filename := fieldOf payload "filename"
  let errors := scriptErrors limits script ++ filenameErrors limits filename
  match readOptions depth (fieldOf payload "options") with
  | .error cause => .error (.failed cause)
  | .ok (.error wrong) => .error (.invalid (errors ++ [wrong]))
  | .ok (.ok options) =>
    match errors, script with
    | [], .str script =>
      let language := match filename with
        | .str name => Script.Language.ofFilename name
        | _ => .javascript
      .ok { script, language, options }
    | errors, _ => .error (.invalid errors)

end Submission

end ScriptVet
