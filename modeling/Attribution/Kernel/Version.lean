import Attribution.Text.Blank
import Attribution.Text.Number
import Attribution.Text.Split

/-! Kernel versions as releases and image names spell them. -/

namespace Attribution.Kernel

/-- Major and minor version of a kernel. -/
structure Version where
  major : UInt32
  minor : UInt32
  deriving DecidableEq, Repr

/-- A release in which no version can be read. -/
structure InvalidVersion where
  release : String
  deriving DecidableEq, Repr

def InvalidVersion.message (failure : InvalidVersion) : String :=
  "invalid kernel version `" ++ failure.release ++ "`"

namespace Version

/-- Versions in one number, the major version in front. -/
def rank (version : Version) : Nat :=
  version.major.toNat * 0x100000000 + version.minor.toNat

instance : LE Version := ⟨fun a b => a.rank ≤ b.rank⟩

instance (a b : Version) : Decidable (a ≤ b) :=
  inferInstanceAs (Decidable (a.rank ≤ b.rank))

/-- The number that the leading digits of a text spell, if there are any and they fit. -/
def leadingNumber? (text : List Char) : Option UInt32 :=
  Text.readUInt32? (text.takeWhile Text.isDigit)

/-- Drops one `v` in front. -/
def dropMark : List Char → List Char
  | 'v' :: rest => rest
  | text => text

/-- Reads `MAJOR.MINOR` at the front; blanks around it, a `v` before it and whatever follows the
digits are let pass. -/
def read? (text : List Char) : Option Version := do
  let (major, rest) ← Text.cut '.' (dropMark (Text.trim text))
  let minor := ((Text.cut '.' rest).map Prod.fst).getD rest
  return ⟨← leadingNumber? major, ← leadingNumber? minor⟩

def parse (release : String) : Except InvalidVersion Version :=
  match read? release.toList with
  | some version => .ok version
  | none => .error ⟨release⟩

def render (version : Version) : String :=
  String.ofList ('v' :: (Text.decimal version.major.toNat ++ '.' :: Text.decimal version.minor.toNat))

theorem rank_injective {a b : Version} (same : a.rank = b.rank) : a = b := by
  obtain ⟨amajor, aminor⟩ := a
  obtain ⟨bmajor, bminor⟩ := b
  have aminorBound := aminor.toNat_lt
  have bminorBound := bminor.toNat_lt
  simp only [rank] at same
  have majors : amajor.toNat = bmajor.toNat := by omega
  have minors : aminor.toNat = bminor.toNat := by omega
  rw [UInt32.toNat_inj.1 majors, UInt32.toNat_inj.1 minors]

end Version

end Attribution.Kernel
