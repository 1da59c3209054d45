import ScriptVet.Rule.Registry

/-!
# The rules that every script is checked against

The counts in the rules on database statements are bounded, so that they stay cheap with any matcher.
-/

namespace ScriptVet.Registry

/-- A rule of the default registry. -/
def definition (id : String) (category : Category) (name expression : String) : RuleDefinition :=
  { id, category, name, expression }

/-- The rules as they are written down. -/
def defaultDefinitions : List RuleDefinition :=
  [ -- code made from text, also by way of a constructor
    definition "DF-001" .dangerousFunctions "eval() call" "(?i)\\beval\\s*\\(",
    definition "DF-002" .dangerousFunctions "Function constructor" "(?i)\\bnew\\s+Function\\s*\\(",
    definition "DF-003" .dangerousFunctions "Global Function() call"
      "(?i)\\b(?:window\\.|globalThis\\.)Function\\s*\\(",
    definition "DF-004" .dangerousFunctions "Bracket constructor access"
      "(?i)\\b(?:this|self)\\[['\"`]Function['\"`]\\]",
    -- scripts inside pages
    definition "XSS-001" .xss "Inline script tag" "(?is)<script[^>]*>.*?</script>",
    definition "XSS-002" .xss "javascript: URI" "(?i)javascript\\s*:",
    definition "XSS-003" .xss "Inline event handler" "(?i)\\bon(click|load|error|focus|blur)\\s*=",
    -- database statements
    definition "SQL-001" .sqlInjection "UNION SELECT" "(?i)\\bUNION\\s+SELECT\\b",
    definition "SQL-002" .sqlInjection "SELECT ... FROM" "(?i)\\bSELECT\\s+[\\w*,\\s]\x7b1,30\x7d\\s+FROM\\b",
    definition "SQL-003" .sqlInjection "Destructive statement"
      "(?i)\\b(DROP|DELETE|INSERT|UPDATE)\\s+(TABLE|FROM|INTO|SET)\\b",
    -- text that hides what it says
    definition "OBF-001" .obfuscation "Hex escape" "(?i)\\\\x[0-9a-f]\x7b2\x7d",
    definition "OBF-002" .obfuscation "Unicode escape" "(?i)\\\\u[0-9a-f]\x7b4\x7d",
    definition "OBF-003" .obfuscation "Character code conversion" "(?i)String\\.fromCharCode"]

/-- The registry of these rules. All of them can be prepared. -/
def default : Registry := (build Regex.compile defaultDefinitions).toOption.getD ⟨[]⟩

end ScriptVet.Registry
