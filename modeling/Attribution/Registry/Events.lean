import Attribution.Registry.Basic

/-! How the registry takes events in. -/

namespace Attribution.Registry

open Kernel (Pid)

/-- How many requests can wait. -/
def queueLimit : Nat := 4096

/-- Queues a request, unless too many wait already. -/
def ask (registry : Registry) (request : NatRequest) : Registry :=
  if registry.queue.length < queueLimit then
    { registry with queue := registry.queue ++ [request] }
  else registry

/-- Resolves a process and hands its container, if it has one, to a change. -/
def withContainer (sources : Sources) (registry : Registry) (pid : Pid) (again : Bool) (now : Instant)
    (use : Registry → Nat → Registry) : Registry :=
  let registry := registry.ensure sources pid again now
  match registry.containerOf? pid with
  | some number => use registry number
  | none => registry

/-- A connection was opened: it is recorded under the destination that the process sees, and the
destination after NAT is asked for. -/
def connectionOpened (registry : Registry) (event : Event) (source destination : Address) (now : Instant)
    (number : Nat) : Registry :=
  let recorded := registry.track number (·.opened
    ⟨source, destination, destination, event.pid, event.fd, event.timestamp⟩ now)
  if destination.isLoopback then recorded
  else recorded.ask ⟨number, ⟨event.pid, event.fd⟩, event.timestamp, ⟨source, destination⟩⟩

/-- Takes an event in. Events that lack an address or a request they need say nothing. -/
def handle (sources : Sources) (registry : Registry) (event : Event) (now : Instant) : Registry :=
  let socket : Socket := ⟨event.pid, event.fd⟩
  match event.kind, event.source, event.destination, event.request with
  | .processStart, _, _, _ => registry.start sources event.pid
  | .processExit, _, _, _ => registry.exit event.pid now
  | .connectionOpen, some source, some destination, _ =>
    registry.withContainer sources event.pid true now fun registry number =>
      registry.connectionOpened event source destination now number
  | .connectionError, some _, some destination, _ =>
    registry.withContainer sources event.pid true now fun registry number =>
      registry.track number (·.failedOpen destination now)
  | .connectionClose, _, _, _ =>
    match registry.containerOf? event.pid with
    | some number => registry.track number fun tracker => (tracker.close socket event.timestamp now).2
    | none => registry
  | .listenOpen, some address, _, _ =>
    registry.withContainer sources event.pid true now fun registry number =>
      registry.track number (·.listen address)
  | .listenClose, some address, _, _ =>
    registry.withContainer sources event.pid false now fun registry number =>
      registry.track number (·.unlisten address)
  | .tcpRetransmit, some _, some destination, _ =>
    registry.withContainer sources event.pid false now fun registry number =>
      registry.track number (·.retransmitted destination)
  | .l7Request, _, _, some request =>
    registry.withContainer sources event.pid false now fun registry number =>
      registry.track number fun tracker => (tracker.requested socket event.timestamp request).2
  | _, _, _, _ => registry

/-- Takes events in one after the other, all at one moment. -/
def handleAll (sources : Sources) (registry : Registry) (events : List Event) (now : Instant) : Registry :=
  events.foldl (fun registry event => registry.handle sources event now) registry

end Attribution.Registry
