import Attribution.Host
import Attribution.Json.Printer

/-!
The command line.  The settings come from the environment and the host is described by a document on
the standard input.
-/

namespace Attribution.Program

/-- All that a stream still holds. -/
partial def readAll (stream : IO.FS.Stream) (read : String) : IO String := do
  let line ← stream.getLine
  if line.isEmpty then return read else readAll stream (read ++ line)

/-- The variables that settings are read from. -/
def settingNames : List String :=
  ["SENSE_PROC_ROOT", "SENSE_EBPF_DIR", "SENSE_API_LISTEN", "SENSE_CONTAINERD_SOCKET",
    "SENSE_DOCKER_SOCKET", "SENSE_EVENT_BUFFER", "SENSE_DISABLE_L7", "SENSE_CONNECTION_TTL_SECS"]

end Attribution.Program

open Attribution Program

def main : IO UInt32 := do
  let written ← readAll (← IO.getStdin) ""
  let values ← settingNames.mapM fun name => return (name, ← IO.getEnv name)
  let environment : Environment := fun name => (Table.ofList values).getD name none
  match (Json.parse? (Text.utf8 written)).bind fun document =>
      (Host.bare ((document.field? "release").bind Json.text? |>.getD "")).describe? [] document with
  | none =>
    IO.eprintln "Error: the description of the host cannot be read"
    return 2
  | some host =>
    let started := Agent.start host environment
    let outcome := Outcome.ofStart started
    IO.eprint outcome.stderr
    match started with
    | .ok agent => IO.println (Api.containersJson agent.registry).render
    | .error _ => pure ()
    return outcome.code
