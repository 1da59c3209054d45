import ScriptVet.Script.Parse
import ScriptVet.Service.Basis

/-!
# The basis of the command line

The library's own grammar, its character sets, and its way to cut a URL. The URL of a request starts with the host that
the client names.
-/

namespace ScriptVet.Basis

/-- The path of the URL of a request. -/
def urlPath (h : Head) : Except Failure Text :=
  (Url.path ((h.header? "host").getD [] ++ h.path)).mapError .url

/-- What the library has to build a service on. -/
def builtin : Basis where
  parse := Script.parse
  codec := Form.Charset.codec
  path := urlPath
  bodyDepth := 990
  optionsDepth := 990

end ScriptVet.Basis
