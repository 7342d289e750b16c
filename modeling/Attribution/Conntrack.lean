import Attribution.Files.Tree
import Attribution.Net.AddressText
import Attribution.Text.Blank

/-!
The kernel's table of tracked connections, and where a rewritten destination leads.

A line tells of two directions of a connection. Its first source and destination are what the
opener sees; the second source is who really answers.
-/

namespace Attribution

/-- One direction of a connection. -/
structure Flow where
  source : Address
  destination : Address
  deriving DecidableEq, Repr

/-- A tracked connection in both directions. -/
structure Tracked where
  forward : Flow
  reply : Flow
  deriving DecidableEq, Repr

namespace Conntrack

/-- The values of the fields that make up the two directions, in the order of the line. -/
structure Fields where
  sources : List Ip
  destinations : List Ip
  sourcePorts : List UInt16
  destinationPorts : List UInt16

/-- Adds a word of the line. A word without `=` or with another name says nothing; a value that
cannot be read spoils the line. -/
def Fields.add (fields : Fields) (word : List Char) : Option Fields :=
  match Text.cut '=' word with
  | none => some fields
  | some (name, value) =>
    if name = "src".toList then
      (Ip.parse? value).map fun ip => { fields with sources := fields.sources ++ [ip] }
    else if name = "dst".toList then
      (Ip.parse? value).map fun ip => { fields with destinations := fields.destinations ++ [ip] }
    else if name = "sport".toList then
      (Text.readUInt16? value).map fun port => { fields with sourcePorts := fields.sourcePorts ++ [port] }
    else if name = "dport".toList then
      (Text.readUInt16? value).map fun port =>
        { fields with destinationPorts := fields.destinationPorts ++ [port] }
    else some fields

/-- The directions that the fields make up, if each field occurs at least twice. -/
def Fields.tracked? : Fields → Option Tracked
  | ⟨source :: replySource :: _, destination :: replyDestination :: _, port :: replyPort :: _,
      toPort :: replyToPort :: _⟩ =>
    some ⟨⟨source.address port, destination.address toPort⟩,
      ⟨replySource.address replyPort, replyDestination.address replyToPort⟩⟩
  | _ => none

/-- Reads a line of the table. -/
def tracked? (line : List Char) : Option Tracked := do
  let fields ← (Text.wordsWhen Text.isBlank line).foldlM Fields.add ⟨[], [], [], []⟩
  fields.tracked?

/-- Goes through the lines until every wanted flow has its answer; the first line about a flow
counts. A line that is reached and is no text spoils the table. -/
def scan : List Bytes → List Flow → Table Flow Address → Option (Table Flow Address)
  | _, [], found => some found
  | [], _, found => some found
  | line :: rest, wanted, found =>
    match Text.ofUtf8? line with
    | none => none
    | some text =>
      match tracked? text.toList with
      | none => scan rest wanted found
      | some tracked =>
        if tracked.forward ∈ wanted then
          scan rest (wanted.filter (· ≠ tracked.forward))
            (found.insert tracked.forward tracked.reply.source)
        else scan rest wanted found

/-- The lines of a table. -/
def tableLines (content : Bytes) : List Bytes :=
  Text.linesOf 0x0A 0x0D content

/-- What a table's content says about each flow. -/
def answersIn (content : Bytes) (flows : List Flow) : List (Option Address) :=
  match scan (tableLines content) flows .empty with
  | some found => flows.map found.get?
  | none => flows.map fun _ => none

end Conntrack

/-- Whoever knows the destinations after NAT; answers come in the order of the questions. -/
abbrev Conntrack := List Flow → List (Option Address)

namespace Conntrack

/-- The answer to the question about one flow alone. -/
def single (conntrack : Conntrack) (flow : Flow) : Option Address :=
  (conntrack [flow]).getLast?.join

/-- Asks about every flow alone. -/
def oneByOne (conntrack : Conntrack) : Conntrack := fun flows => flows.map conntrack.single

/-- Knows of no NAT. -/
def unaware : Conntrack := fun flows => flows.map fun _ => none

/-- The table of the host's network under a root of processes. -/
def tablePath (root : Path) : Path :=
  Path.ofPid root 1 ["net", "nf_conntrack"]

def isAvailable (tree : Files.Tree) (path : Path) : Bool :=
  (tree.openEntry path).toBool

/-- Reads the table anew for each list of questions; without a readable table nothing is known. -/
def ofTable (tree : Files.Tree) (path : Path) : Conntrack := fun flows =>
  match tree.read path with
  | .ok content => answersIn content flows
  | .error _ => flows.map fun _ => none

end Conntrack

end Attribution
