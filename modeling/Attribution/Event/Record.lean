import Attribution.Event.Basic
import Attribution.Event.Word
import Attribution.Text.Split

/-!
The records that the kernel writes: packed little-endian fields, addresses as sixteen bytes in
network order, and after the header of a request the request's payload.
-/

namespace Attribution

/-- The four layouts of records. -/
inductive RecordKind where
  | proc
  | tcp
  | file
  | l7
  deriving DecidableEq, Repr

namespace RecordKind

def name : RecordKind → String
  | proc => "Proc"
  | tcp => "Tcp"
  | file => "File"
  | l7 => "L7"

/-- How many bytes the fields take. -/
def width : RecordKind → Nat
  | proc => 12
  | tcp => 60
  | file => 16
  | l7 => 48

end RecordKind

/-- Why bytes are no record. -/
inductive DecodeError where
  | tooShort (kind : RecordKind) (length : Nat)
  | unknownEventType (tag : UInt32) (kind : RecordKind)
  deriving DecidableEq, Repr

namespace DecodeError

def message : DecodeError → String
  | tooShort kind length =>
    kind.name ++ " record too short: got " ++ Text.decimalString length ++ " bytes, need " ++
      Text.decimalString kind.width
  | unknownEventType tag kind =>
    "unknown event type " ++ Text.decimalString tag.toNat ++ " in " ++ kind.name ++ " record"

end DecodeError

/-- The field of a given width at an offset. -/
def fieldAt (offset width : Nat) (data : Bytes) : Nat :=
  wordOf ((data.drop offset).take width)

/-- The sixteen bytes of an address at an offset, the greatest first. -/
def addressAt (offset : Nat) (data : Bytes) : BitVec 128 :=
  BitVec.ofNat 128 (wordOf ((data.drop offset).take 16).reverse)

/-- Sixteen bytes, the greatest first. -/
def networkOrder (bits : BitVec 128) : Bytes :=
  (littleEndian 16 bits.toNat).reverse

structure ProcRecord where
  tag : UInt32
  pid : UInt32
  reason : UInt32
  deriving DecidableEq, Repr

structure TcpRecord where
  fd : UInt64
  timestamp : UInt64
  tag : UInt32
  pid : UInt32
  sourcePort : UInt16
  destinationPort : UInt16
  source : BitVec 128
  destination : BitVec 128
  deriving DecidableEq, Repr

structure FileRecord where
  tag : UInt32
  pid : UInt32
  fd : UInt64
  deriving DecidableEq, Repr

structure RequestHeader where
  fd : UInt64
  /-- When the connection was opened. -/
  connection : UInt64
  pid : UInt32
  status : UInt32
  duration : UInt64
  protocol : UInt8
  method : UInt8
  padding : UInt16
  statement : UInt32
  payloadSize : UInt64
  deriving DecidableEq, Repr

namespace ProcRecord

def encode (record : ProcRecord) : Bytes :=
  littleEndian 4 record.tag.toNat ++ littleEndian 4 record.pid.toNat ++
    littleEndian 4 record.reason.toNat

def read (data : Bytes) : ProcRecord where
  tag := .ofNat (fieldAt 0 4 data)
  pid := .ofNat (fieldAt 4 4 data)
  reason := .ofNat (fieldAt 8 4 data)

end ProcRecord

namespace TcpRecord

def encode (record : TcpRecord) : Bytes :=
  littleEndian 8 record.fd.toNat ++ littleEndian 8 record.timestamp.toNat ++
    littleEndian 4 record.tag.toNat ++ littleEndian 4 record.pid.toNat ++
    littleEndian 2 record.sourcePort.toNat ++ littleEndian 2 record.destinationPort.toNat ++
    networkOrder record.source ++ networkOrder record.destination

def read (data : Bytes) : TcpRecord where
  fd := .ofNat (fieldAt 0 8 data)
  timestamp := .ofNat (fieldAt 8 8 data)
  tag := .ofNat (fieldAt 16 4 data)
  pid := .ofNat (fieldAt 20 4 data)
  sourcePort := .ofNat (fieldAt 24 2 data)
  destinationPort := .ofNat (fieldAt 26 2 data)
  source := addressAt 28 data
  destination := addressAt 44 data

end TcpRecord

namespace FileRecord

def encode (record : FileRecord) : Bytes :=
  littleEndian 4 record.tag.toNat ++ littleEndian 4 record.pid.toNat ++
    littleEndian 8 record.fd.toNat

def read (data : Bytes) : FileRecord where
  tag := .ofNat (fieldAt 0 4 data)
  pid := .ofNat (fieldAt 4 4 data)
  fd := .ofNat (fieldAt 8 8 data)

end FileRecord

namespace RequestHeader

def encode (header : RequestHeader) : Bytes :=
  littleEndian 8 header.fd.toNat ++ littleEndian 8 header.connection.toNat ++
    littleEndian 4 header.pid.toNat ++ littleEndian 4 header.status.toNat ++
    littleEndian 8 header.duration.toNat ++ littleEndian 1 header.protocol.toNat ++
    littleEndian 1 header.method.toNat ++ littleEndian 2 header.padding.toNat ++
    littleEndian 4 header.statement.toNat ++ littleEndian 8 header.payloadSize.toNat

def read (data : Bytes) : RequestHeader where
  fd := .ofNat (fieldAt 0 8 data)
  connection := .ofNat (fieldAt 8 8 data)
  pid := .ofNat (fieldAt 16 4 data)
  status := .ofNat (fieldAt 20 4 data)
  duration := .ofNat (fieldAt 24 8 data)
  protocol := .ofNat (fieldAt 32 1 data)
  method := .ofNat (fieldAt 33 1 data)
  padding := .ofNat (fieldAt 34 2 data)
  statement := .ofNat (fieldAt 36 4 data)
  payloadSize := .ofNat (fieldAt 40 8 data)

end RequestHeader

/-- At most so many bytes of a payload are kept. -/
def payloadLimit : Nat := 1024

/-- Requests whose payload holds these bytes come from printers that poll, and are not reported. -/
def suppressedSignature : Bytes :=
  Text.utf8 "CUPS/2.4.1"

namespace Event

def ofProc (record : ProcRecord) : Except DecodeError Event :=
  match EventType.ofTag? record.tag with
  | none => .error (.unknownEventType record.tag .proc)
  | some kind => .ok { ofKind kind record.pid with reason := Reason.ofCode record.reason }

def ofTcp (record : TcpRecord) : Except DecodeError Event :=
  match EventType.ofTag? record.tag with
  | none => .error (.unknownEventType record.tag .tcp)
  | some kind =>
    .ok { ofKind kind record.pid with
      fd := record.fd
      timestamp := record.timestamp
      source := some ((Ip.ofCarried record.source).address record.sourcePort)
      destination := some ((Ip.ofCarried record.destination).address record.destinationPort) }

def ofFile (record : FileRecord) : Except DecodeError Event :=
  match EventType.ofTag? record.tag with
  | none => .error (.unknownEventType record.tag .file)
  | some kind => .ok { ofKind kind record.pid with fd := record.fd }

/-- The part of a payload that is kept: no more than declared, than the limit, than there is. -/
def keptPayload (header : RequestHeader) (body : Bytes) : Bytes :=
  body.take (min header.payloadSize.toNat payloadLimit)

/-- A request with its payload, unless it is one that is not reported. -/
def ofRequest (header : RequestHeader) (body : Bytes) : Option Event :=
  let payload := keptPayload header body
  if Text.occursIn suppressedSignature payload then none
  else some { ofKind .l7Request header.pid with
    fd := header.fd
    timestamp := header.connection
    request := some {
      protocol := Protocol.ofCode header.protocol
      status := header.status
      duration := header.duration
      method := header.method
      statement := header.statement
      payload := payload } }

/-- Reads a record; bytes behind its fields matter only as a payload. No event means that the
record is not reported. -/
def decode (kind : RecordKind) (data : Bytes) : Except DecodeError (Option Event) :=
  if data.length < kind.width then .error (.tooShort kind data.length)
  else
    match kind with
    | .proc => (ofProc (ProcRecord.read data)).map some
    | .tcp => (ofTcp (TcpRecord.read data)).map some
    | .file => (ofFile (FileRecord.read data)).map some
    | .l7 => .ok (ofRequest (RequestHeader.read data) (data.drop kind.width))

end Event

end Attribution
