import Attribution.Event.Record
import Mathlib.Data.List.Basic

/-!
Records as they are laid out.

The fields of a record follow each other without gaps, each at its offset.  Main statements: what is
written as a record reads as that record, whatever follows it, and what is long enough to read is what
the record read from it is written as.
-/

namespace Attribution

/-! ### Single fields -/

theorem littleEndian_wordOf_of_length {bytes : Bytes} {width : Nat} (whole : bytes.length = width) :
    littleEndian width (wordOf bytes) = bytes := by
  subst whole
  exact littleEndian_wordOf bytes

theorem fieldAt_lt (offset width : Nat) (data : Bytes) : fieldAt offset width data < Nat.pow 256 width :=
  Nat.lt_of_lt_of_le (wordOf_lt _) (Nat.pow_le_pow_right (by decide) (List.length_take_le _ _))

theorem fieldAt_append {offset width : Nat} {front : Bytes} (before : front.length ≤ offset) (data : Bytes) :
    fieldAt offset width (front ++ data) = fieldAt (offset - front.length) width data := by
  simp [fieldAt, List.drop_append, List.drop_eq_nil_of_le before]

theorem fieldAt_littleEndian (width value : Nat) (data : Bytes) :
    fieldAt 0 width (littleEndian width value ++ data) = value % Nat.pow 256 width := by
  rw [fieldAt, List.drop_zero, List.take_left' (littleEndian_length width value), wordOf_littleEndian]

theorem littleEndian_fieldAt {offset width : Nat} {data : Bytes} (fits : offset + width ≤ data.length) :
    littleEndian width (fieldAt offset width data) = (data.drop offset).take width := by
  apply littleEndian_wordOf_of_length
  rw [List.length_take, List.length_drop]
  omega

@[simp] theorem networkOrder_length (bits : BitVec 128) : (networkOrder bits).length = 16 := by
  simp [networkOrder]

theorem addressAt_append {offset : Nat} {front : Bytes} (before : front.length ≤ offset) (data : Bytes) :
    addressAt offset (front ++ data) = addressAt (offset - front.length) data := by
  simp [addressAt, List.drop_append, List.drop_eq_nil_of_le before]

theorem addressAt_networkOrder (bits : BitVec 128) (data : Bytes) :
    addressAt 0 (networkOrder bits ++ data) = bits := by
  have small : bits.toNat < Nat.pow 256 16 := bits.isLt
  rw [addressAt, List.drop_zero, List.take_left' (networkOrder_length bits), networkOrder,
    List.reverse_reverse, wordOf_littleEndian, Nat.mod_eq_of_lt small, BitVec.ofNat_toNat,
    BitVec.setWidth_eq]

theorem networkOrder_addressAt {offset : Nat} {data : Bytes} (fits : offset + 16 ≤ data.length) :
    networkOrder (addressAt offset data) = (data.drop offset).take 16 := by
  have whole : ((data.drop offset).take 16).reverse.length = 16 := by
    rw [List.length_reverse, List.length_take, List.length_drop]
    omega
  have small := wordOf_lt ((data.drop offset).take 16).reverse
  rw [whole] at small
  rw [networkOrder, addressAt, BitVec.toNat_ofNat, Nat.mod_eq_of_lt small,
    littleEndian_wordOf_of_length whole, List.reverse_reverse]

/-! ### Whole records -/

/-- A record of any layout.  Of a request this is what stands before its payload. -/
inductive Record where
  | proc (fields : ProcRecord)
  | tcp (fields : TcpRecord)
  | file (fields : FileRecord)
  | l7 (header : RequestHeader)
  deriving DecidableEq, Repr

namespace Record

def kind : Record → RecordKind
  | proc _ => .proc
  | tcp _ => .tcp
  | file _ => .file
  | l7 _ => .l7

def encode : Record → Bytes
  | proc fields => fields.encode
  | tcp fields => fields.encode
  | file fields => fields.encode
  | l7 header => header.encode

def read : RecordKind → Bytes → Record
  | .proc, data => .proc (.read data)
  | .tcp, data => .tcp (.read data)
  | .file, data => .file (.read data)
  | .l7, data => .l7 (.read data)

@[simp] theorem kind_read (kind : RecordKind) (data : Bytes) : (read kind data).kind = kind := by
  cases kind <;> rfl

theorem encode_length (record : Record) : record.encode.length = record.kind.width := by
  cases record <;>
    simp [encode, ProcRecord.encode, TcpRecord.encode, FileRecord.encode, RequestHeader.encode, kind,
      RecordKind.width]

end Record

/-! ### What is written is read -/

theorem ProcRecord.read_encode (fields : ProcRecord) (tail : Bytes) :
    ProcRecord.read (fields.encode ++ tail) = fields := by
  simp [ProcRecord.read, ProcRecord.encode, fieldAt_append, fieldAt_littleEndian]

theorem TcpRecord.read_encode (fields : TcpRecord) (tail : Bytes) :
    TcpRecord.read (fields.encode ++ tail) = fields := by
  simp [TcpRecord.read, TcpRecord.encode, fieldAt_append, fieldAt_littleEndian, addressAt_append,
    addressAt_networkOrder]

theorem FileRecord.read_encode (fields : FileRecord) (tail : Bytes) :
    FileRecord.read (fields.encode ++ tail) = fields := by
  simp [FileRecord.read, FileRecord.encode, fieldAt_append, fieldAt_littleEndian]

theorem RequestHeader.read_encode (header : RequestHeader) (tail : Bytes) :
    RequestHeader.read (header.encode ++ tail) = header := by
  simp [RequestHeader.read, RequestHeader.encode, fieldAt_append, fieldAt_littleEndian]

theorem Record.read_encode (record : Record) (tail : Bytes) :
    Record.read record.kind (record.encode ++ tail) = record := by
  cases record with
  | proc fields => exact congrArg proc (fields.read_encode tail)
  | tcp fields => exact congrArg tcp (fields.read_encode tail)
  | file fields => exact congrArg file (fields.read_encode tail)
  | l7 header => exact congrArg l7 (header.read_encode tail)

/-! ### What is read is written -/

theorem take_append_field {data : Bytes} {offset width : Nat} (fits : offset + width ≤ data.length) :
    data.take offset ++ littleEndian width (fieldAt offset width data) = data.take (offset + width) := by
  rw [littleEndian_fieldAt fits, ← List.take_add]

theorem take_append_address {data : Bytes} {offset : Nat} (fits : offset + 16 ≤ data.length) :
    data.take offset ++ networkOrder (addressAt offset data) = data.take (offset + 16) := by
  rw [networkOrder_addressAt fits, ← List.take_add]

theorem first_field {data : Bytes} {width : Nat} (fits : width ≤ data.length) :
    littleEndian width (fieldAt 0 width data) = data.take width := by
  rw [littleEndian_fieldAt (by omega), List.drop_zero]

theorem toNat_field64 (offset : Nat) (data : Bytes) :
    (UInt64.ofNat (fieldAt offset 8 data)).toNat = fieldAt offset 8 data :=
  UInt64.toNat_ofNat_of_lt' (fieldAt_lt offset 8 data)

theorem toNat_field32 (offset : Nat) (data : Bytes) :
    (UInt32.ofNat (fieldAt offset 4 data)).toNat = fieldAt offset 4 data :=
  UInt32.toNat_ofNat_of_lt' (fieldAt_lt offset 4 data)

theorem toNat_field16 (offset : Nat) (data : Bytes) :
    (UInt16.ofNat (fieldAt offset 2 data)).toNat = fieldAt offset 2 data :=
  UInt16.toNat_ofNat_of_lt' (fieldAt_lt offset 2 data)

theorem toNat_field8 (offset : Nat) (data : Bytes) :
    (UInt8.ofNat (fieldAt offset 1 data)).toNat = fieldAt offset 1 data :=
  UInt8.toNat_ofNat_of_lt' (fieldAt_lt offset 1 data)

theorem Record.encode_read {kind : RecordKind} {data : Bytes} (fits : kind.width ≤ data.length) :
    (Record.read kind data).encode = data.take kind.width := by
  cases kind with
  | proc =>
    have long : 12 ≤ data.length := fits
    simp (disch := omega) only [Record.read, Record.encode, ProcRecord.read, ProcRecord.encode,
      toNat_field32, first_field, take_append_field, Nat.reduceAdd, RecordKind.width]
  | tcp =>
    have long : 60 ≤ data.length := fits
    simp (disch := omega) only [Record.read, Record.encode, TcpRecord.read, TcpRecord.encode,
      toNat_field64, toNat_field32, toNat_field16, first_field, take_append_field,
      take_append_address, Nat.reduceAdd, RecordKind.width]
  | file =>
    have long : 16 ≤ data.length := fits
    simp (disch := omega) only [Record.read, Record.encode, FileRecord.read, FileRecord.encode,
      toNat_field64, toNat_field32, first_field, take_append_field, Nat.reduceAdd, RecordKind.width]
  | l7 =>
    have long : 48 ≤ data.length := fits
    simp (disch := omega) only [Record.read, Record.encode, RequestHeader.read, RequestHeader.encode,
      toNat_field64, toNat_field32, toNat_field16, toNat_field8, first_field, take_append_field,
      Nat.reduceAdd, RecordKind.width]

/-- The records are all there is: what is long enough for a layout is one of its records, and more. -/
theorem Record.exists_encode {kind : RecordKind} {data : Bytes} (fits : kind.width ≤ data.length) :
    ∃ record : Record, record.kind = kind ∧ data = record.encode ++ data.drop kind.width :=
  ⟨read kind data, kind_read kind data, by rw [encode_read fits, List.take_append_drop]⟩

end Attribution
