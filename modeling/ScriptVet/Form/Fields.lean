import ScriptVet.Text

/-!
# Fields of a form

What a form holds, and why a form cannot be read.
-/

namespace ScriptVet

/-- The fields of a form in the order in which they stand in it. -/
abbrev FormFields := List (Text × Text)

/-- Why a form cannot be read. -/
inductive FormError where
  /-- The header does not say what separates the parts. -/
  | missingBoundary
  /-- The parts are not separated and headed as they should be. -/
  | malformed
  /-- A part has no name. -/
  | missingName
  /-- A part is a file, and files are not taken. -/
  | tooManyFiles
  | tooManyFields (limit : Nat)
  | partTooLarge (kilobytes : Nat)
  deriving DecidableEq

/-- The message about a form that cannot be read. -/
def FormError.message : FormError → String
  | missingBoundary => "Missing boundary in multipart."
  | malformed => "Invalid multipart data."
  | missingName => "The Content-Disposition header field \"name\" must be provided."
  | tooManyFiles => "Too many files. Maximum number of files is 0."
  | tooManyFields limit => s!"Too many fields. Maximum number of fields is {limit}."
  | partTooLarge kilobytes => s!"Part exceeded maximum size of {kilobytes}KB."

/-- Why a form gives no fields. -/
inductive FormFailure where
  /-- The form cannot be read. -/
  | refused (e : FormError)
  /-- Something else failed, with a message. -/
  | failed (message : Text)
  deriving DecidableEq

namespace FormFields

/-- Gives a field a value: in place when the name is known, at the end otherwise. -/
def put (name value : Text) : FormFields → FormFields
  | [] => [(name, value)]
  | (n, v) :: rest => if n = name then (n, value) :: rest else (n, v) :: put name value rest

/-- One value for each name, the last one, in the order in which names first appear. -/
def latest (fields : FormFields) : FormFields := fields.foldl (fun done (n, v) => put n v done) []

end FormFields

end ScriptVet
