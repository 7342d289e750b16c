import Attribution.Proofs.Event.Decoding

/-!
The shape of decoded events.

The kind of an event is a number in the record, and which fields are filled in is a matter of the
layout, that is of where the record came from.  Nothing compares the two.  Main statement: a decoded
event has the shape of its kind exactly if the record's layout is that of the kind, or if it fills in
none of the fields that the kind does not have and the kind needs no others.
-/

namespace Attribution

/-- The layout with the fields that a kind of event has. -/
def EventType.layout : EventType → RecordKind
  | processStart | processExit => .proc
  | connectionOpen | connectionClose | connectionError | listenOpen | listenClose | tcpRetransmit => .tcp
  | fileOpen => .file
  | l7Request => .l7

/-- What the kind of an event needs is there, and what does not apply to it is zero or absent. -/
@[mk_iff]
structure Event.Shaped (event : Event) : Prop where
  source : event.source.isSome = true ↔ event.kind.layout = .tcp
  destination : event.destination.isSome = true ↔ event.kind.layout = .tcp
  request : event.request.isSome = true ↔ event.kind = .l7Request
  reason : event.kind.layout ≠ .proc → event.reason = .none
  unnumbered : event.kind.layout = .proc → event.fd = 0 ∧ event.timestamp = 0

/-- A record of the layout of a kind, or of one that has no more than zeros beside what the kind has. -/
def Record.Suits : Record → EventType → Prop
  | proc fields, kind => kind.layout = .proc ∨ kind = .fileOpen ∧ fields.reason = 0
  | tcp _, kind => kind.layout = .tcp
  | file fields, kind => kind = .fileOpen ∨ kind.layout = .proc ∧ fields.fd = 0
  | l7 _, kind => kind = .l7Request

theorem Reason.code_eq_zero_iff {reason : Reason} (plain : reason.isPlain = true) :
    reason.code = 0 ↔ reason = .none := by
  constructor
  · intro zero
    rw [← ofCode_code plain, zero]
    rfl
  · rintro rfl
    rfl

theorem Record.Tells.shaped_iff {record : Record} {tail : Bytes} {event : Event}
    (tells : record.Tells tail (.ok (some event))) : event.Shaped ↔ record.Suits event.kind := by
  rw [Event.shaped_iff]
  cases tells with
  | @proc fields kind reason _ caused plain =>
    rw [Suits, ← caused, Reason.code_eq_zero_iff plain]
    cases kind <;> simp [EventType.layout]
  | @tcp _ kind => cases kind <;> simp [Suits, EventType.layout]
  | @file _ kind => cases kind <;> simp [Suits, EventType.layout]
  | l7 => simp [Suits, EventType.layout]

/-- Of whatever bytes an event is decoded, it has the shape of its kind exactly if the record in front
suits the kind. -/
theorem shaped_iff_suits (kind : RecordKind) (data : Bytes) (event : Event)
    (decoded : Event.decode kind data = .ok (some event)) :
    event.Shaped ↔ (Record.read kind data).Suits event.kind :=
  (Event.tells_of_decode decoded).2.shaped_iff

/-- The end of a process, told among the connections. -/
def misplacedExit : TcpRecord :=
  ⟨3, 99, EventType.processExit.tag, 100, 40000, 443, 0xFFFF0A000001, 1⟩

theorem decode_misplacedExit :
    Event.decode .tcp misplacedExit.encode =
      .ok (some ⟨.processExit, .none, 100, 3, 99, some (.v4 0x0A000001 40000),
        some (.v6 1 443 0 0), none⟩) := by
  decide

theorem misplaced_exit_misshaped :
    ∃ event, Event.decode .tcp misplacedExit.encode = .ok (some event) ∧ ¬event.Shaped := by
  refine ⟨_, decode_misplacedExit, ?_⟩
  rw [shaped_iff_suits .tcp misplacedExit.encode _ decode_misplacedExit]
  change ¬EventType.processExit.layout = .tcp
  decide

/-- The end of a process can come with two addresses. -/
theorem not_always_shaped :
    ¬∀ (kind : RecordKind) (data : Bytes) (event : Event),
      Event.decode kind data = .ok (some event) → event.Shaped := by
  intro always
  have shaped := always .tcp misplacedExit.encode _ decode_misplacedExit
  cases shaped.source.1 rfl

end Attribution
