import Attribution.Api
import Attribution.Cgroup.Vantage
import Attribution.Engine.Client
import Attribution.Probe.Tracer
import Attribution.Registry.Nat
import Attribution.Settings

/-!
The agent: what it finds on its host, how it starts, and what it shows.

It starts in a fixed order. The settings are read, then the agent's place among the cgroups is found,
then the kernel is instrumented; the first of these to fail ends it. Without a container engine or a
table of connections it goes on and knows less. At last it sweeps up the processes that were there
before it.
-/

namespace Attribution

/-- A machine to start on. -/
structure Host where
  files : Files.Tree
  services : Engine.Services
  /-- The kernel's release. -/
  release : String
  architecture : String
  /-- The tracepoints that the kernel offers. -/
  tracepoints : List Probe.Tracepoint

/-- Why the agent does not start. -/
inductive StartError where
  | settings (failure : InvalidSetting)
  | cgroup (failure : Cgroup.Error)
  | probe (failure : Probe.Error)

namespace StartError

def message : StartError → String
  | settings failure => failure.message
  | cgroup failure => failure.message
  | probe failure => failure.message

/-- Every part of the failure spelled out. -/
def details : StartError → String
  | settings failure => failure.details
  | cgroup failure => failure.details
  | probe failure => failure.details

end StartError

/-- An agent at work. -/
structure Agent where
  settings : Settings
  /-- The agent's own place among the cgroups. -/
  base : String
  tracer : Tracer
  client : Engine.Client
  registry : Registry

namespace Agent

/-- Where the kernel's tracing is mounted. -/
def tracingDirectory : Path := "/sys/kernel/debug/tracing"

def plan (host : Host) (settings : Settings) : Probe.Plan where
  directory := settings.imageDirectory
  tracing := tracingDirectory
  architecture := host.architecture
  release := host.release
  withoutRequests := settings.withoutRequests
  tracepoints := host.tracepoints

/-- Subscribes one channel to every kind of event. -/
def subscribeAll (tracer : Tracer) (capacity : Nat) : Tracer :=
  let channel := tracer.fanout.channels.length
  { tracer with
    fanout := EventType.all.foldl (fun fanout kind => fanout.subscribe kind channel)
      (tracer.fanout.addChannel capacity) }

def sources (host : Host) (settings : Settings) (base : String) (client : Engine.Client) : Sources :=
  .ofFiles host.files settings.procRoot base client.metadata

/-- The table of connections, if the host has one. -/
def conntrack (host : Host) (settings : Settings) : Conntrack :=
  let path := Conntrack.tablePath settings.procRoot
  if Conntrack.isAvailable host.files path then .ofTable host.files path else .unaware

/-- One event for every process that is there already. -/
def sweep (host : Host) (settings : Settings) : List Event :=
  match Kernel.listPids host.files settings.procRoot with
  | .ok pids => pids.map Event.start
  | .error _ => []

/-- Starts the agent and takes in the processes that are there. -/
def start (host : Host) (environment : Environment) : Except StartError Agent := do
  let settings ← (Settings.ofEnvironment environment).mapError .settings
  let base ← (Cgroup.detectBase host.files settings.procRoot).mapError .cgroup
  let tracer ← (Tracer.load host.files (plan host settings)).mapError .probe
  let client := Engine.Client.detect host.files host.services
    (.onHost settings.procRoot settings.containerdSocket) (.onHost settings.procRoot settings.dockerSocket)
  let registry := Registry.run (sources host settings base client) (conntrack host settings) .empty
    (sweep host settings) 0
  return ⟨settings, base, (subscribeAll tracer settings.eventBuffer).run, client, registry⟩

def respond (agent : Agent) (method uri : String) : Api.Response :=
  Api.respond agent.registry method uri

end Agent

/-- How a run of the program ends. -/
structure Outcome where
  code : UInt32
  stdout : String
  stderr : String
  deriving DecidableEq, Repr

namespace Outcome

/-- A start that fails is reported on the error stream. An agent that has started runs until it is
interrupted, and ends well. -/
def ofStart : Except StartError Agent → Outcome
  | .ok _ => ⟨0, "", ""⟩
  | .error failure => ⟨1, "", "Error: " ++ failure.details ++ "\n"⟩

end Outcome

end Attribution
