import Attribution.Text.Utf8

/-! Numbers as little-endian bytes of a fixed width. -/

namespace Attribution

/-- The number that bytes spell, the least byte first. -/
def wordOf : Bytes → Nat
  | [] => 0
  | byte :: rest => byte.toNat + 256 * wordOf rest

/-- The bytes of a number, the least first; what does not fit is dropped. -/
def littleEndian : Nat → Nat → Bytes
  | 0, _ => []
  | width + 1, value => UInt8.ofNat (value % 256) :: littleEndian width (value / 256)

@[simp] theorem littleEndian_length (width value : Nat) : (littleEndian width value).length = width := by
  induction width generalizing value with
  | zero => rfl
  | succ width ih => simp [littleEndian, ih]

theorem wordOf_lt (bytes : Bytes) : wordOf bytes < Nat.pow 256 bytes.length := by
  induction bytes with
  | nil => simp [wordOf]
  | cons byte rest ih =>
    have small := byte.toNat_lt
    simp only [wordOf, List.length_cons, Nat.pow, Nat.mul_eq]
    omega

theorem wordOf_littleEndian (width value : Nat) :
    wordOf (littleEndian width value) = value % Nat.pow 256 width := by
  induction width generalizing value with
  | zero => simp [littleEndian, wordOf, Nat.mod_one]
  | succ width ih =>
    have least : (UInt8.ofNat (value % 256)).toNat = value % 256 := by
      rw [UInt8.toNat_ofNat']
      omega
    rw [littleEndian, wordOf, ih, least, Nat.pow, Nat.mul_eq, Nat.mul_comm (Nat.pow 256 width), Nat.mod_mul]

theorem littleEndian_wordOf (bytes : Bytes) : littleEndian bytes.length (wordOf bytes) = bytes := by
  induction bytes with
  | nil => rfl
  | cons byte rest ih =>
    have small := byte.toNat_lt
    simp only [List.length_cons, littleEndian, wordOf]
    congr 1
    · apply UInt8.toNat_inj.1
      rw [UInt8.toNat_ofNat']
      omega
    · have : (byte.toNat + 256 * wordOf rest) / 256 = wordOf rest := by omega
      rw [this, ih]

end Attribution
