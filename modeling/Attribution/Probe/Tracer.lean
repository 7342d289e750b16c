import Attribution.Event.Fanout
import Attribution.Probe.Catalog
import Attribution.Probe.Target
import Attribution.Text.Quoted

/-!
The instrumentation of the running kernel: loaded image, attached programs, and readers that pass
records on to the subscribers.
-/

namespace Attribution

namespace Probe

/-- A map through which the kernel hands out records. -/
structure PerfMap where
  name : String
  kind : RecordKind
  /-- Size of the buffer of each processor. -/
  pages : Nat
  deriving DecidableEq, Repr

/-- The maps that are read, in the order in which their readers are opened. -/
def perfMaps : List PerfMap :=
  [⟨"proc_events", .proc, 4⟩, ⟨"tcp_listen_events", .tcp, 4⟩, ⟨"tcp_connect_events", .tcp, 8⟩,
    ⟨"tcp_retransmit_events", .tcp, 4⟩, ⟨"file_events", .file, 4⟩, ⟨"l7_events", .l7, 32⟩]

/-- What decides which instrumentation is set up. -/
structure Plan where
  directory : Path
  tracing : Path
  architecture : String
  release : String
  /-- Whether application requests are left out. -/
  withoutRequests : Bool
  /-- The tracepoints that the kernel offers. -/
  tracepoints : List Tracepoint

/-- The programs of an image, section by section in order of first appearance. -/
def visitOrder (programs : List Program) : List Program :=
  (programs.map (·.target)).eraseDups.flatMap fun target => programs.filter (·.target == target)

/-- The programs that end up attached to a tracepoint; the others are passed over. -/
def attached (tracepoints : List Tracepoint) (programs : List Program) : List Program :=
  (visitOrder programs).filter fun program =>
    programType? program.target = some .tracepoint &&
      (tracepoint? program.target).any (tracepoints.contains ·)

/-- The names of the programs that are kept for user-space functions. -/
def retained (programs : List Program) : List String :=
  ((visitOrder programs).filter fun program =>
    programType? program.target = some .kprobe && isUprobe program.target).map (·.name)

/-- Opens a reader for every map that the image has. A map of the wrong kind stops it. -/
def openReaders (withoutRequests : Bool) (object : Object) : List PerfMap → Except Error (List PerfMap)
  | [] => .ok []
  | map :: rest =>
    if withoutRequests && map.kind == .l7 then openReaders withoutRequests object rest
    else
      match object.maps.find? (·.name == map.name) with
      | none => openReaders withoutRequests object rest
      | some found =>
        match found.kind with
        | .array => .error (.openReader map.name)
        | .perf => (openReaders withoutRequests object rest).map (map :: ·)

/-- Reads an image; every program must be of a known type. -/
def loadObject (tree : Files.Tree) (path : Path) : Except Error Object :=
  match tree.openEntry path with
  | .ok (.image object) =>
    if object.programs.all fun program => (programType? program.target).isSome then .ok object
    else .error (.load path .invalidProgram)
  | _ => .error (.load path .notAnImage)

end Probe

open Probe

/-- A reader at work. One that has failed reads nothing more. -/
structure Worker where
  map : PerfMap
  failed : Bool
  deriving DecidableEq, Repr

structure Tracer where
  loaded : Bool
  links : Nat
  uprobes : List String
  /-- Readers that do not run yet. -/
  readers : List PerfMap
  workers : List Worker
  fanout : Fanout
  deriving DecidableEq, Repr

namespace Tracer

/-- Loads and attaches the instrumentation for the running kernel. -/
def load (tree : Files.Tree) (plan : Plan) : Except Error Tracer := do
  let image ← resolveImage tree plan.directory plan.tracing plan.architecture plan.release
  let object ← loadObject tree image.path
  let readers ← openReaders plan.withoutRequests object perfMaps
  return ⟨true, (attached plan.tracepoints object.programs).length, retained object.programs, readers,
    [], .empty⟩

/-- Starts the readers. -/
def run (tracer : Tracer) : Tracer :=
  { tracer with
    readers := []
    workers := tracer.workers ++ tracer.readers.map (⟨·, false⟩) }

/-- Releases everything. -/
def close (tracer : Tracer) : Tracer :=
  { tracer with loaded := false, links := 0, uprobes := [], readers := [], workers := [] }

/-- The reader of a map, while it works. -/
def worker? (tracer : Tracer) (map : String) : Option Worker :=
  tracer.workers.find? fun worker => worker.map.name == map && !worker.failed

/-- Samples arrive with zeros appended until they and a four-byte size fill whole words. -/
def padSample (data : Bytes) : Bytes :=
  data ++ List.replicate ((8 - (data.length + 4) % 8) % 8) 0

/-- The kernel writes a sample into a map. -/
def sample (tracer : Tracer) (map : String) (data : Bytes) : Tracer :=
  match tracer.worker? map with
  | none => tracer
  | some worker => { tracer with fanout := tracer.fanout.accept worker.map.kind (padSample data) }

/-- The kernel tells that samples of a map were lost. -/
def lose (tracer : Tracer) (map : String) (count : UInt64) : Tracer :=
  match tracer.worker? map with
  | none => tracer
  | some _ => { tracer with fanout := tracer.fanout.recordLost count }

/-- The error of an interrupted wait, after which a reader goes on. -/
def interrupted : Nat := 4

/-- A reader's wait fails; unless it was only interrupted, the reader ends. -/
def failWait (tracer : Tracer) (map : String) (code : Nat) : Tracer :=
  if code = interrupted then tracer
  else { tracer with
    workers := tracer.workers.map fun worker =>
      if worker.map.name == map then { worker with failed := true } else worker }

/-- The state of the instrumentation in one line. -/
def describe (tracer : Tracer) : String :=
  let flag := if tracer.loaded then "true" else "false"
  let names := String.intercalate ", " (tracer.uprobes.map Text.quoted)
  "Tracer \x7b loaded: " ++ flag ++ ", links: " ++ toString tracer.links ++ ", uprobes: [" ++ names ++
    "], readers: " ++ toString tracer.readers.length ++ ", workers: " ++
    toString tracer.workers.length ++ " \x7d"

end Tracer

end Attribution
