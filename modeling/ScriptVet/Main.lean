import ScriptVet.Json.Printer
import ScriptVet.Service.Builtin
import ScriptVet.Service.Startup
import ScriptVet.Settings.Environment

/-!
# The command line

Reads the settings from the environment, prints what the service starts with, and then answers the JSON payloads on
standard input, one in each line, until the input ends. Each answer is a line with the status and the body.
-/

namespace ScriptVet.CommandLine

/-- The environment variables that the settings come from. -/
def variableNames : List String := ["K6V_MAX_SCRIPT_SIZE", "K6V_MAX_VUS", "PORT", "HOST", "CORS_ORIGINS"]

/-- The request that carries a payload. -/
def request (payload : List UInt8) : Request :=
  { headers := [(Text.ofString "content-type", Text.ofString "application/json")], messages := [.chunk payload] }

/-- The line with the reply to a request. -/
def replyLine (e : Exchange) : String :=
  match e.reply with
  | .ok reply => s!"{reply.status} {String.ofList reply.body.write}"
  | .error cause => cause.message.display

/-- Prints lines. -/
def printLines (out : IO.FS.Stream) (lines : List Text) : IO Unit := do
  for line in lines do
    out.putStrLn line.display
  out.flush

/-- Answers the payload of each line until the input ends. -/
partial def serve (input output : IO.FS.Stream) (service : Service) : IO Unit := do
  let line ← input.getLine
  if line.isEmpty then return
  let now ← IO.monoMsNow
  let (service, exchange) := service.validate (now.toFloat / 1000) (request line.toUTF8.toList)
  output.putStrLn (replyLine exchange)
  output.flush
  serve input output service

end ScriptVet.CommandLine

open ScriptVet CommandLine in
/-- Runs the service on standard input and output. -/
def main : IO UInt32 := do
  let values ← variableNames.mapM fun name => do return (name, ← IO.getEnv name)
  let console ← IO.getStderr
  match Defaults.load fun name => (values.lookup name).join.map Text.ofString with
  | .error e =>
    printLines console [e.message]
    return 1
  | .ok defaults =>
    printLines console (Startup.banner defaults.limits defaults.settings)
    let now ← IO.monoMsNow
    let service := Service.start .builtin defaults.settings defaults.limits (now.toFloat / 1000) defaults.limits
    serve (← IO.getStdin) (← IO.getStdout) service
    return 0
