import Attribution.Text.Utf8

/-!
Reading protocol buffer messages.

A message is a sequence of fields, each with a key that gives its number and how its value is laid
out. Unknown fields are skipped. Messages and groups may be nested only so deep.
-/

namespace Attribution.Wire

/-- How the value of a field is laid out. -/
inductive Layout where
  | varint
  | fixed64
  | delimited
  | startGroup
  | endGroup
  | fixed32
  deriving DecidableEq, Repr

def Layout.ofCode? : Nat → Option Layout
  | 0 => some .varint
  | 1 => some .fixed64
  | 2 => some .delimited
  | 3 => some .startGroup
  | 4 => some .endGroup
  | 5 => some .fixed32
  | _ => none

/-- Reads groups of seven bits, the lowest first; no more than `room` bytes, and the last of ten
bytes holds a single bit. -/
def varintWithin : (room : Nat) → Bytes → Option (Nat × Bytes)
  | 0, _ => none
  | _, [] => none
  | room + 1, byte :: rest =>
    if byte < 0x80 then
      if room = 0 ∧ 1 < byte then none else some (byte.toNat, rest)
    else (varintWithin room rest).map fun (value, rest) => (byte.toNat - 0x80 + 0x80 * value, rest)

def varint (bytes : Bytes) : Option (Nat × Bytes) :=
  varintWithin 10 bytes

/-- The number and layout of the field that follows. -/
def key (bytes : Bytes) : Option ((Nat × Layout) × Bytes) := do
  let (value, rest) ← varint bytes
  if 0xFFFFFFFF < value ∨ value < 8 then none
  else
    let layout ← Layout.ofCode? (value % 8)
    return ((value / 8, layout), rest)

/-- Splits off so many bytes. -/
def takeBytes (count : Nat) (bytes : Bytes) : Option (Bytes × Bytes) :=
  if count ≤ bytes.length then some (bytes.take count, bytes.drop count) else none

/-- A length and so many bytes. -/
def delimited (bytes : Bytes) : Option (Bytes × Bytes) := do
  let (count, rest) ← varint bytes
  takeBytes count rest

mutual

/-- Skips the value of a field. -/
def skip (number : Nat) (layout : Layout) : (depth fuel : Nat) → Bytes → Option Bytes
  | 0, _, _ => none
  | _, 0, _ => none
  | depth + 1, fuel + 1, bytes =>
    match layout with
    | .varint => (varint bytes).map (·.2)
    | .fixed64 => (takeBytes 8 bytes).map (·.2)
    | .fixed32 => (takeBytes 4 bytes).map (·.2)
    | .delimited => (delimited bytes).map (·.2)
    | .startGroup => skipGroup number depth fuel bytes
    | .endGroup => none

/-- Skips fields up to the end of a group. -/
def skipGroup (number : Nat) : (depth fuel : Nat) → Bytes → Option Bytes
  | _, 0, _ => none
  | depth, fuel + 1, bytes =>
    match key bytes with
    | none => none
    | some ((inner, .endGroup), rest) => if inner = number then some rest else none
    | some ((inner, layout), rest) =>
      match skip inner layout depth fuel rest with
      | none => none
      | some rest => skipGroup number depth fuel rest

end

/-- Skips a field that is not known. -/
def skipField (depth number : Nat) (layout : Layout) (bytes : Bytes) : Option Bytes :=
  skip number layout depth (2 * bytes.length + 2) bytes

/-- Takes the value of one field, at the front of some bytes, into a message. -/
abbrev Merge (α : Type) := (depth : Nat) → α → (number : Nat) → Layout → Bytes → Option (α × Bytes)

/-- Takes in field after field until the bytes are used up. -/
def mergeFields {α : Type} (merge : Merge α) (depth : Nat) : (fuel : Nat) → α → Bytes → Option α
  | _, message, [] => some message
  | 0, _, _ => none
  | fuel + 1, message, bytes =>
    match key bytes with
    | none => none
    | some ((number, layout), rest) =>
      match merge depth message number layout rest with
      | none => none
      | some (message, rest) => mergeFields merge depth fuel message rest

/-- How deep messages may be nested. -/
def depthLimit : Nat := 100

/-- Reads a whole message. -/
def read? {α : Type} (merge : Merge α) (start : α) (bytes : Bytes) : Option α :=
  mergeFields merge depthLimit bytes.length start bytes

/-! ### Values of fields -/

/-- A text. -/
def text (layout : Layout) (bytes : Bytes) : Option (String × Bytes) := do
  if layout ≠ .delimited then none
  else
    let (content, rest) ← delimited bytes
    return (← Text.ofUtf8? content, rest)

def raw (layout : Layout) (bytes : Bytes) : Option (Bytes × Bytes) :=
  if layout = .delimited then delimited bytes else none

def word (layout : Layout) (bytes : Bytes) : Option (Nat × Bytes) :=
  if layout = .varint then varint bytes else none

/-- The content of a delimited message, taken into one that is there already. -/
def nested {α : Type} (merge : Merge α) (depth : Nat) (start : α) (bytes : Bytes) :
    Option (α × Bytes) :=
  match depth with
  | 0 => none
  | depth + 1 => do
    let (content, rest) ← delimited bytes
    return (← mergeFields merge depth content.length start content, rest)

/-- A message within a message. -/
def message {α : Type} (merge : Merge α) (depth : Nat) (start : α) (layout : Layout) (bytes : Bytes) :
    Option (α × Bytes) :=
  if layout = .delimited then nested merge depth start bytes else none

/-- Takes in the key (field 1) or the value (field 2) of an entry of a map. -/
def mergeEntry {α : Type} (value : (depth : Nat) → α → Layout → Bytes → Option (α × Bytes)) :
    Merge (String × α) := fun depth (name, stored) number layout bytes =>
  match number with
  | 1 => (text layout bytes).map fun (name, rest) => ((name, stored), rest)
  | 2 => (value depth stored layout bytes).map fun (stored, rest) => ((name, stored), rest)
  | _ => (skipField depth number layout bytes).map fun rest => ((name, stored), rest)

/-! ### Writing -/

def encodeVarint (value : Nat) : Bytes :=
  if value < 0x80 then [UInt8.ofNat value]
  else UInt8.ofNat (0x80 + value % 0x80) :: encodeVarint (value / 0x80)
termination_by value

/-- A text field; the empty text is not written. -/
def encodeText (number : Nat) (value : String) : Bytes :=
  if value = "" then []
  else
    let content := Text.utf8 value
    encodeVarint (8 * number + 2) ++ encodeVarint content.length ++ content

end Attribution.Wire
