import ScriptVet.Text

/-!
# Categories of rules
-/

namespace ScriptVet

/-- What a rule looks for. -/
inductive Category where
  | dangerousFunctions
  | xss
  | sqlInjection
  | obfuscation
  deriving DecidableEq

namespace Category

/-- The categories in the order in which they are checked. -/
def all : List Category := [dangerousFunctions, xss, sqlInjection, obfuscation]

/-- The name of a category in records. -/
def name : Category → String
  | dangerousFunctions => "dangerous_functions"
  | xss => "xss_patterns"
  | sqlInjection => "sql_injection"
  | obfuscation => "code_obfuscation"

/-- What is reported about a script that a rule of the category finds something in. -/
def description : Category → String
  | dangerousFunctions => "Script contains dangerous functions that could execute arbitrary code"
  | xss => "Script contains XSS patterns that could inject malicious content"
  | sqlInjection => "Script contains SQL injection patterns"
  | obfuscation => "Script contains code obfuscation patterns that may hide malicious intent"

/-- The category of a given name. -/
def ofName? (t : Text) : Option Category := all.find? fun c => Text.ofString c.name = t

end Category

end ScriptVet
