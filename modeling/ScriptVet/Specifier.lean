import ScriptVet.Text

/-!
# Module specifiers

A script may import the modules of the load-testing tool and its own files, and nothing else. Some
modules of the host runtime are named in a list of their own, so that a script that asks for them is
told so.
-/

namespace ScriptVet.Specifier

/-- The root of the tool's own modules. -/
def root : String := "k6"

/-- The modules that make network requests. -/
def protocols : List String := ["k6/http", "k6/ws", "k6/net/grpc"]

/-- The modules of the host runtime that scripts ask for by mistake or with bad intent: files and
processes, the network and cryptography, and others that can be misused. -/
def denylist : List String :=
  ["child_process", "fs", "os", "path", "vm", "cluster", "net", "dgram", "tls", "dns", "crypto", "zlib",
    "util", "events", "stream", "buffer"]

/-- A module of the tool. -/
def isK6 (m : Text) : Bool := m = Text.ofString root || m.startsWith (root ++ "/")

/-- A module that makes network requests. -/
def isProtocol (m : Text) : Bool := protocols.any fun p => m = Text.ofString p

/-- A file next to the script or above it. -/
def isRelative (m : Text) : Bool := m.startsWith "./" || m.startsWith "../"

/-- A module on the denylist. -/
def isForbidden (m : Text) : Bool := denylist.any fun p => m = Text.ofString p

/-- A module that a script may import. -/
def isAllowed (m : Text) : Bool := isK6 m || isRelative m

/-- A module that is neither allowed nor on the denylist. -/
def isUnknown (m : Text) : Bool := !isAllowed m && !isForbidden m

end ScriptVet.Specifier
