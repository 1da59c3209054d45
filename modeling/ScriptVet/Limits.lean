import ScriptVet.Text

/-!
# Limits

The ceilings that hold for every script.
-/

namespace ScriptVet

/-- The ceilings: the size of a script in UTF-16 units, the number of virtual users, and the extensions
that a file name may have. -/
structure Limits where
  maxScriptSize : Nat := 50 * 1024
  maxVus : Nat := 500
  extensions : List Text := [Text.ofString ".js", Text.ofString ".ts"]
  deriving DecidableEq

end ScriptVet
