import ScriptVet.Service.Route

/-!
# Starting the service

What is printed when the service starts and ends, and how the network side is set up.
-/

namespace ScriptVet.Startup

/-- How the run of the service ended. -/
inductive Outcome where
  | finished
  | interrupted
  | failed (message : Text)

/-- What the network side is told about requests from other origins. -/
structure CorsPolicy where
  origins : List Text
  credentials : Bool := true
  methods : List Text := [Text.ofString "GET", Text.ofString "POST"]
  headers : List Text := [Text.ofString "*"]

/-- How the network side is set up. -/
structure Launch where
  transport : Text := "streamable-http"
  host : Text
  port : Nat
  cors : CorsPolicy

/-- The setup that settings ask for. -/
def launch (s : ServerSettings) : Launch := { host := s.host, port := s.port, cors := { origins := s.corsOrigins } }

/-- A line across the screen. -/
def rule : Text := List.replicate 50 (.scalar '=')

/-- The lines printed before the service runs. -/
def banner (limits : Limits) (s : ServerSettings) : List Text :=
  [Text.ofString "k6 Script Validator v" ++ Service.version ++ Text.ofString " (HTTP Streaming)", rule,
    Text.ofString s!"Limits: {limits.maxScriptSize} bytes per script, {limits.maxVus} VUs",
    Text.ofString "CORS origins: " ++ Text.join ", " s.corsOrigins, rule,
    Text.ofString "Starting HTTP server on " ++ s.host ++ Text.ofString s!":{s.port}...",
    Text.ofString s!"Validation endpoint: http://localhost:{s.port}/api/v1/validate"]

/-- The lines printed when the service has run. -/
def farewell : Outcome → List Text
  | .finished => []
  | .interrupted => [[], "Shutting down..."]
  | .failed message => [Text.ofString "Server error: " ++ message]

/-- The exit code that the service asks for. -/
def exitCode : Outcome → Option Nat
  | .finished => none
  | .interrupted => some 0
  | .failed _ => some 1

/-- All that is printed. -/
def printed (limits : Limits) (s : ServerSettings) (o : Outcome) : Text :=
  (banner limits s ++ farewell o).flatMap fun line => line ++ Text.ofString "\n"

end ScriptVet.Startup
