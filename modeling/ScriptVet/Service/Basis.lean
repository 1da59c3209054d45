import ScriptVet.Service.Payload

/-!
# What the service is built on

Some of what decides an answer is not up to the service: how a script is read, which character sets there are, what the
path of a request's URL is, and how deep JSON may be nested before there is no room left to read it. The service takes
all this from its basis and makes no assumption about it.
-/

namespace ScriptVet

/-- What the service is built on. -/
structure Basis where
  /-- The trees of scripts. -/
  parse : Script.Parser
  /-- The character sets of form fields. -/
  codec : Form.Codec
  /-- The path of the URL of a request. The URL is made from the head of the request and may have none. -/
  path : Head → Except Failure Text
  /-- How deep containers may be nested in a JSON body. -/
  bodyDepth : Nat
  /-- How deep containers may be nested in options that are given as a text. -/
  optionsDepth : Nat

end ScriptVet
