import ScriptVet.Text.Case

/-!
# Languages of scripts

Scripts are written in one of two languages. A request names a language by text, and a file name
chooses one by its extension.
-/

namespace ScriptVet.Script

/-- The languages a script may be written in. -/
inductive Language where
  | javascript
  | typescript
  deriving DecidableEq, Inhabited

namespace Language

/-- The name of a language. -/
def name : Language → String
  | javascript => "javascript"
  | typescript => "typescript"

/-- The supported languages in the order in which they are listed to clients. -/
def all : List Language := [javascript, typescript]

/-- The language with a given name. -/
def ofName? (t : Text) : Option Language :=
  all.find? fun l => Text.ofString l.name = t

/-- The extensions that choose a language. -/
def extensions : List (String × Language) :=
  [(".js", javascript), (".mjs", javascript), (".ts", typescript)]

/-- The language that a file name chooses, in any case of its letters. Other names choose the first
language. -/
def ofFilename (name : Text) : Language :=
  ((extensions.find? fun (e, _) => name.lower.endsWith e).map Prod.snd).getD javascript

end Language

end ScriptVet.Script
