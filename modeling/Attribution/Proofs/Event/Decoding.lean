import Attribution.Proofs.Event.Layout
import Attribution.Proofs.Text.Search
import Mathlib.Tactic.SplitIfs

/-!
What records tell.

The kernel names kinds, reasons and protocols by numbers and carries every address in sixteen bytes.
Main statement: an event holds exactly what the record holds that it is decoded from, so decoding can
be undone, and what follows the fields matters only as the beginning of a request's payload.
-/

namespace Attribution

/-! ### Numbers and what they name -/

namespace EventType

@[simp] theorem ofTag?_tag (kind : EventType) : ofTag? kind.tag = some kind := by
  cases kind <;> rfl

theorem ofTag?_eq_some_iff {tag : UInt32} {kind : EventType} :
    ofTag? tag = some kind ↔ kind.tag = tag := by
  constructor
  · intro known
    simpa using List.find?_some known
  · rintro rfl
    exact ofTag?_tag kind

theorem ofTag?_eq_none_iff {tag : UInt32} : ofTag? tag = none ↔ ∀ kind : EventType, kind.tag ≠ tag := by
  simp [Option.eq_none_iff_forall_ne_some, ofTag?_eq_some_iff]

end EventType

namespace Reason

def code : Reason → UInt32
  | none => 0
  | oomKill => 1
  | other code => code

/-- A reason that has a name goes by it. -/
def isPlain : Reason → Bool
  | other code => 1 < code
  | _ => true

theorem code_ofCode (number : UInt32) : (ofCode number).code = number := by
  unfold ofCode
  split_ifs with zero one
  · exact zero.symm
  · exact one.symm
  · rfl

theorem isPlain_ofCode (number : UInt32) : (ofCode number).isPlain = true := by
  unfold ofCode
  split_ifs with zero one
  · rfl
  · rfl
  · simp only [isPlain, decide_eq_true_eq]
    grind

theorem ofCode_code {reason : Reason} (plain : reason.isPlain = true) : ofCode reason.code = reason := by
  cases reason with
  | other number =>
    simp only [isPlain, decide_eq_true_eq] at plain
    have zero : number ≠ 0 := by grind
    have one : number ≠ 1 := by grind
    rw [code, ofCode, if_neg zero, if_neg one]
  | _ => rfl

end Reason

namespace Protocol

def code : Protocol → UInt8
  | http => 1
  | postgres => 2
  | redis => 3
  | memcached => 4
  | mysql => 5
  | mongo => 6
  | kafka => 7
  | cassandra => 8
  | rabbitMq => 9
  | nats => 10
  | http2 => 11
  | dns => 12
  | other code => code

/-- A protocol that has a name goes by it. -/
def isPlain : Protocol → Bool
  | other code => code = 0 || 12 < code
  | _ => true

theorem code_known :
    ∀ index, ∀ inside : index < known.length,
      known[index].code.toNat = index + 1 ∧ known[index].isPlain = true := by
  decide

theorem ofCode_cases (number : UInt8) :
    (∃ inside : number.toNat - 1 < known.length, number ≠ 0 ∧ ofCode number = known[number.toNat - 1]) ∨
      (other number).isPlain = true ∧ ofCode number = other number := by
  by_cases zero : number = 0
  · exact .inr ⟨by simp [isPlain, zero], by simp [ofCode, zero]⟩
  · by_cases inside : number.toNat - 1 < known.length
    · exact .inl ⟨inside, zero, by simp [ofCode, zero, inside]⟩
    · refine .inr ⟨?_, ?_⟩
      · have beyond : 12 ≤ number.toNat - 1 := by simpa [known] using inside
        simp only [isPlain, zero, decide_false, Bool.false_or, decide_eq_true_eq, UInt8.lt_iff_toNat_lt]
        exact Nat.lt_of_le_pred (by omega) beyond
      · rw [ofCode, if_neg zero, List.getD_eq_getElem?_getD, List.getElem?_eq_none (by omega), Option.getD_none]

theorem code_ofCode (number : UInt8) : (ofCode number).code = number := by
  obtain ⟨inside, positive, named⟩ | ⟨-, unnamed⟩ := ofCode_cases number
  · rw [named]
    apply UInt8.toNat_inj.1
    rw [(code_known _ inside).1]
    have : number.toNat ≠ 0 := fun zero => positive (UInt8.toNat_inj.1 zero)
    omega
  · rw [unnamed, code]

theorem isPlain_ofCode (number : UInt8) : (ofCode number).isPlain = true := by
  obtain ⟨inside, -, named⟩ | ⟨plain, unnamed⟩ := ofCode_cases number
  · rw [named]
    exact (code_known _ inside).2
  · rwa [unnamed]

theorem ofCode_code {protocol : Protocol} (plain : protocol.isPlain = true) :
    ofCode protocol.code = protocol := by
  cases protocol with
  | other number =>
    obtain ⟨inside, positive, -⟩ | ⟨-, unnamed⟩ := ofCode_cases number
    · simp only [isPlain, positive, decide_false, Bool.false_or, decide_eq_true_eq,
        UInt8.lt_iff_toNat_lt] at plain
      have near : number.toNat - 1 < 12 := inside
      have beyond : 12 < number.toNat := plain
      omega
    · exact unnamed
  | _ => rfl

end Protocol

/-! ### Addresses as they are carried -/

namespace Ip

/-- The sixteen bytes of an address; those of version 4 have the form `::ffff:a.b.c.d`. -/
def carried : Ip → BitVec 128
  | v4 bits => (0xFFFF : BitVec 96) ++ bits
  | v6 bits => bits

theorem mapped?_eq_some_iff {bits : BitVec 128} {ip : BitVec 32} :
    mapped? bits = some ip ↔ (v4 ip).carried = bits := by
  simp only [mapped?, Option.ite_none_right_eq_some, Option.some.injEq, carried]
  constructor
  · rintro ⟨high, rfl⟩
    rw [← high]
    exact (BitVec.extractLsb'_append_extractLsb'_eq_extractLsb' (by decide)).trans (by simp)
  · rintro rfl
    exact ⟨BitVec.extractLsb'_append_eq_left, BitVec.extractLsb'_append_eq_right⟩

theorem carried_ofCarried (bits : BitVec 128) : (ofCarried bits).carried = bits := by
  unfold ofCarried
  split
  next ip mapped => exact mapped?_eq_some_iff.1 mapped
  next => rfl

end Ip

namespace Address

def carried (address : Address) : BitVec 128 :=
  address.ip.carried

/-- A version 4 address is not carried in version 6 form, and nothing but number and port is known. -/
def isPlain : Address → Bool
  | v4 _ _ => true
  | v6 bits _ flow scope => Ip.mapped? bits = none && flow = 0 && scope = 0

variable (bits : BitVec 128) (port : UInt16)

theorem carried_ofCarried : ((Ip.ofCarried bits).address port).carried = bits := by
  have whole := Ip.carried_ofCarried bits
  cases found : Ip.ofCarried bits with
  | v4 ip => rwa [found] at whole
  | v6 ip => rwa [found] at whole

theorem port_ofCarried : ((Ip.ofCarried bits).address port).port = port := by
  cases Ip.ofCarried bits <;> rfl

theorem isPlain_ofCarried : ((Ip.ofCarried bits).address port).isPlain = true := by
  unfold Ip.ofCarried
  split
  next => rfl
  next unmapped => simp [Ip.address, isPlain, unmapped]

theorem ofCarried_carried {address : Address} (plain : address.isPlain = true) :
    (Ip.ofCarried address.carried).address address.port = address := by
  cases address with
  | v4 ip port =>
    have mapped : Ip.mapped? (v4 ip port).carried = some ip := Ip.mapped?_eq_some_iff.2 rfl
    rw [Ip.ofCarried, mapped]
    rfl
  | v6 ip port flow scope =>
    simp only [isPlain, Bool.and_eq_true, decide_eq_true_eq] at plain
    obtain ⟨⟨unmapped, rfl⟩, rfl⟩ := plain
    have carried : (v6 ip port 0 0).carried = ip := rfl
    rw [carried, Ip.ofCarried, unmapped]
    rfl

end Address

/-! ### What a record tells -/

/-- The part of what follows a header that belongs to the request, as far as it is kept. -/
def RequestHeader.payload (header : RequestHeader) (tail : Bytes) : Bytes :=
  tail.take (min (min header.payloadSize.toNat 1024) tail.length)

namespace Record

/-- The number of the kind of event; requests are told by the layout. -/
def tag? : Record → Option UInt32
  | proc fields => some fields.tag
  | tcp fields => some fields.tag
  | file fields => some fields.tag
  | l7 _ => none

/-- What there is to be learnt from a record and the bytes that follow it. -/
inductive Tells (tail : Bytes) : Record → Except DecodeError (Option Event) → Prop
  | unknown {record : Record} {tag : UInt32} (tagged : record.tag? = some tag)
      (strange : ∀ kind : EventType, kind.tag ≠ tag) :
      Tells tail record (.error (.unknownEventType tag record.kind))
  | proc {fields : ProcRecord} {kind : EventType} {reason : Reason} (tagged : kind.tag = fields.tag)
      (caused : reason.code = fields.reason) (plain : reason.isPlain = true) :
      Tells tail (.proc fields) (.ok (some ⟨kind, reason, fields.pid, 0, 0, none, none, none⟩))
  | tcp {fields : TcpRecord} {kind : EventType} {source destination : Address}
      (tagged : kind.tag = fields.tag)
      (comes : source.carried = fields.source ∧ source.port = fields.sourcePort)
      (goes : destination.carried = fields.destination ∧ destination.port = fields.destinationPort)
      (plain : source.isPlain = true ∧ destination.isPlain = true) :
      Tells tail (.tcp fields)
        (.ok (some ⟨kind, .none, fields.pid, fields.fd, fields.timestamp, source, destination, none⟩))
  | file {fields : FileRecord} {kind : EventType} (tagged : kind.tag = fields.tag) :
      Tells tail (.file fields) (.ok (some ⟨kind, .none, fields.pid, fields.fd, 0, none, none, none⟩))
  | suppressed {header : RequestHeader} (signed : suppressedSignature <:+: header.payload tail) :
      Tells tail (.l7 header) (.ok none)
  | l7 {header : RequestHeader} {protocol : Protocol} (unsigned : ¬suppressedSignature <:+: header.payload tail)
      (spoken : protocol.code = header.protocol) (plain : protocol.isPlain = true) :
      Tells tail (.l7 header)
        (.ok (some ⟨.l7Request, .none, header.pid, header.fd, header.connection, none, none,
          some ⟨protocol, header.status, header.duration, header.method, header.statement,
            header.payload tail⟩⟩))

end Record

/-- The record of a layout that holds what an event holds.  Of requests too little is kept for that. -/
def Event.record? (event : Event) : RecordKind → Option Record
  | .proc => some (.proc ⟨event.kind.tag, event.pid, event.reason.code⟩)
  | .tcp => do
    let source ← event.source
    let destination ← event.destination
    return .tcp ⟨event.fd, event.timestamp, event.kind.tag, event.pid, source.port, destination.port,
      source.carried, destination.carried⟩
  | .file => some (.file ⟨event.kind.tag, event.pid, event.fd⟩)
  | .l7 => none

theorem Record.Tells.record? {record : Record} {tail : Bytes} {event : Event}
    (tells : record.Tells tail (.ok (some event))) (kept : record.kind ≠ .l7) :
    event.record? record.kind = some record := by
  cases tells with
  | proc tagged caused _ => simp [kind, Event.record?, tagged, caused]
  | tcp tagged comes goes _ => simp [kind, Event.record?, tagged, comes, goes]
  | file tagged => simp [kind, Event.record?, tagged]
  | l7 _ _ _ => exact absurd rfl kept

/-! ### Decoding -/

theorem keptPayload_eq (header : RequestHeader) (tail : Bytes) :
    Event.keptPayload header tail = header.payload tail :=
  List.take_eq_take_min

theorem payload_take (header : RequestHeader) (tail : Bytes) :
    header.payload (tail.take payloadLimit) = header.payload tail := by
  rw [← keptPayload_eq, ← keptPayload_eq, Event.keptPayload, Event.keptPayload, List.take_take]
  congr 1
  omega

/-- What is told of a record and the bytes that follow it. -/
def Record.answer : Record → Bytes → Except DecodeError (Option Event)
  | proc fields, _ => (Event.ofProc fields).map some
  | tcp fields, _ => (Event.ofTcp fields).map some
  | file fields, _ => (Event.ofFile fields).map some
  | l7 header, tail => .ok (Event.ofRequest header tail)

theorem decode_encode (record : Record) (tail : Bytes) :
    Event.decode record.kind (record.encode ++ tail) = record.answer tail := by
  have long : ¬(record.encode ++ tail).length < record.kind.width := by
    rw [List.length_append, record.encode_length]
    omega
  unfold Event.decode
  rw [if_neg long]
  cases record with
  | proc fields => simp only [Record.kind, Record.encode, Record.answer, fields.read_encode]
  | tcp fields => simp only [Record.kind, Record.encode, Record.answer, fields.read_encode]
  | file fields => simp only [Record.kind, Record.encode, Record.answer, fields.read_encode]
  | l7 header =>
    have rest : (header.encode ++ tail).drop RecordKind.l7.width = tail :=
      List.drop_left' (Record.l7 header).encode_length
    simp only [Record.kind, Record.encode, Record.answer, header.read_encode, rest]

theorem Record.tells_answer (record : Record) (tail : Bytes) : record.Tells tail (record.answer tail) := by
  cases record with
  | proc fields =>
    simp only [answer, Event.ofProc]
    split
    next strange => exact .unknown rfl (EventType.ofTag?_eq_none_iff.1 strange)
    next kind known =>
      exact .proc (EventType.ofTag?_eq_some_iff.1 known) (Reason.code_ofCode _) (Reason.isPlain_ofCode _)
  | tcp fields =>
    simp only [answer, Event.ofTcp]
    split
    next strange => exact .unknown rfl (EventType.ofTag?_eq_none_iff.1 strange)
    next kind known =>
      exact .tcp (EventType.ofTag?_eq_some_iff.1 known)
        ⟨Address.carried_ofCarried _ _, Address.port_ofCarried _ _⟩
        ⟨Address.carried_ofCarried _ _, Address.port_ofCarried _ _⟩
        ⟨Address.isPlain_ofCarried _ _, Address.isPlain_ofCarried _ _⟩
  | file fields =>
    simp only [answer, Event.ofFile]
    split
    next strange => exact .unknown rfl (EventType.ofTag?_eq_none_iff.1 strange)
    next kind known => exact .file (EventType.ofTag?_eq_some_iff.1 known)
  | l7 header =>
    simp only [answer, Event.ofRequest, keptPayload_eq, Text.occursIn_iff]
    split_ifs with signed
    · exact .suppressed signed
    · exact .l7 signed (Protocol.code_ofCode _) (Protocol.isPlain_ofCode _)

theorem Record.Tells.eq_answer {record : Record} {tail : Bytes} {answer : Except DecodeError (Option Event)}
    (tells : record.Tells tail answer) : record.answer tail = answer := by
  cases tells with
  | unknown tagged strange =>
    have unnamed := EventType.ofTag?_eq_none_iff.2 strange
    cases record with
    | l7 header => cases tagged
    | _ =>
      cases tagged
      simp only [Record.answer, Event.ofProc, Event.ofTcp, Event.ofFile, unnamed]
      rfl
  | proc tagged caused plain =>
    simp [Record.answer, Event.ofProc, ← tagged, ← caused, Reason.ofCode_code plain, Event.ofKind, Except.map]
  | tcp tagged comes goes plain =>
    simp [Record.answer, Event.ofTcp, ← tagged, ← comes.1, ← comes.2, ← goes.1, ← goes.2,
      Address.ofCarried_carried plain.1, Address.ofCarried_carried plain.2, Event.ofKind, Except.map]
  | file tagged => simp [Record.answer, Event.ofFile, ← tagged, Event.ofKind, Except.map]
  | suppressed signed =>
    rw [Record.answer, Event.ofRequest, keptPayload_eq, if_pos (Text.occursIn_iff.2 signed)]
  | l7 unsigned spoken plain =>
    simp [Record.answer, Event.ofRequest, keptPayload_eq, Text.occursIn_iff, unsigned, ← spoken,
      Protocol.ofCode_code plain, Event.ofKind]

theorem Record.tells_iff {record : Record} {tail : Bytes} {answer : Except DecodeError (Option Event)} :
    record.Tells tail answer ↔ record.answer tail = answer :=
  ⟨Tells.eq_answer, fun same => same ▸ record.tells_answer tail⟩

theorem decode_eq_answer {kind : RecordKind} {data : Bytes} (long : kind.width ≤ data.length) :
    Event.decode kind data = (Record.read kind data).answer (data.drop kind.width) := by
  obtain ⟨record, rfl, whole⟩ := Record.exists_encode long
  have read : Record.read record.kind data = record := by
    rw [whole, record.read_encode]
  rw [read]
  conv_lhs => rw [whole]
  rw [decode_encode]

theorem decode_eq_tooShort_iff {kind claimed : RecordKind} {data : Bytes} {length : Nat} :
    Event.decode kind data = .error (.tooShort claimed length) ↔
      data.length < kind.width ∧ claimed = kind ∧ length = data.length := by
  by_cases short : data.length < kind.width
  · have answer : Event.decode kind data = .error (.tooShort kind data.length) := by
      unfold Event.decode
      rw [if_pos short]
    simp [answer, short, eq_comm]
  · simp only [short, false_and, iff_false]
    rw [decode_eq_answer (Nat.le_of_not_lt short), ← Record.tells_iff]
    generalize Record.read kind data = record
    intro tells
    cases tells

theorem Event.tells_of_decode {kind : RecordKind} {data : Bytes} {event : Option Event}
    (decoded : Event.decode kind data = .ok event) :
    kind.width ≤ data.length ∧ (Record.read kind data).Tells (data.drop kind.width) (.ok event) := by
  have long : kind.width ≤ data.length := by
    by_contra short
    rw [decode_eq_tooShort_iff.2 ⟨Nat.lt_of_not_le short, rfl, rfl⟩] at decoded
    cases decoded
  exact ⟨long, Record.tells_iff.2 ((decode_eq_answer long).symm.trans decoded)⟩

theorem decode_request (header : RequestHeader) (tail : Bytes) :
    Event.decode .l7 (header.encode ++ tail) = (Record.l7 header).answer tail :=
  decode_encode (.l7 header) tail

theorem decode_request_take (data : Bytes) :
    Event.decode .l7 (data.take 1072) = Event.decode .l7 data := by
  by_cases short : data.length < RecordKind.l7.width
  · have short' : data.length < 48 := short
    rw [List.take_of_length_le (by omega)]
  · obtain ⟨record, same, whole⟩ := Record.exists_encode (Nat.le_of_not_lt short)
    cases record with
    | l7 header =>
      generalize data.drop RecordKind.l7.width = tail at whole
      have front : header.encode.length = 48 := (Record.l7 header).encode_length
      have cut : data.take 1072 = header.encode ++ tail.take payloadLimit := by
        rw [whole, Record.encode, List.take_append, List.take_of_length_le (by omega), front]
        rfl
      rw [cut, whole, Record.encode, decode_request, decode_request]
      simp only [Record.answer, Event.ofRequest, keptPayload_eq, payload_take]
    | _ => cases same

/-- The answer to a record followed by any bytes is what the record tells, and no other: kind, reason,
protocol and addresses are the ones with the record's numbers and bytes, and all else is the record's own.
What an event of a process, a connection or a file is written as is what it was decoded from.  A request
is not reported exactly if its kept payload holds the signature, and bytes behind the greatest payload
change nothing.  Exactly what is shorter than the fields of its layout is too short. -/
theorem decode_inverts_encode :
    (∀ (record : Record) (tail : Bytes) (answer : Except DecodeError (Option Event)),
        Event.decode record.kind (record.encode ++ tail) = answer ↔ record.Tells tail answer) ∧
      (∀ (kind : RecordKind) (data : Bytes) (event : Event), kind ≠ .l7 →
        Event.decode kind data = .ok (some event) →
        (event.record? kind).map Record.encode = some (data.take kind.width)) ∧
      (∀ (header : RequestHeader) (tail : Bytes),
        Event.decode .l7 (header.encode ++ tail) = .ok none ↔
          suppressedSignature <:+: header.payload tail) ∧
      (∀ data : Bytes, Event.decode .l7 (data.take 1072) = Event.decode .l7 data) ∧
      ∀ (kind claimed : RecordKind) (data : Bytes) (length : Nat),
        Event.decode kind data = .error (.tooShort claimed length) ↔
          data.length < kind.width ∧ claimed = kind ∧ length = data.length := by
  refine ⟨fun record tail answer => ?_, fun kind data event kept decoded => ?_, fun header tail => ?_,
    decode_request_take, fun _ _ _ _ => decode_eq_tooShort_iff⟩
  · rw [decode_encode, Record.tells_iff]
  · obtain ⟨long, tells⟩ := Event.tells_of_decode decoded
    have again := tells.record? (by rwa [Record.kind_read])
    rw [Record.kind_read] at again
    rw [again, Option.map_some, Record.encode_read long]
  · rw [decode_request, ← Record.tells_iff]
    constructor
    · intro tells
      cases tells with
      | suppressed signed => exact signed
    · exact .suppressed

end Attribution
