/-!
Internet addresses and socket addresses, with the order in which reports list them.
-/

namespace Attribution

/-- An internet address as the number its octets spell. -/
inductive Ip where
  | v4 (bits : BitVec 32)
  | v6 (bits : BitVec 128)
  deriving DecidableEq, Repr

/-- A socket address. Flow label and scope exist only for version 6 and are part of equality. -/
inductive Address where
  | v4 (ip : BitVec 32) (port : UInt16)
  | v6 (ip : BitVec 128) (port : UInt16) (flow scope : UInt32)
  deriving DecidableEq, Repr

namespace Ip

/-- The version 4 address that a version 6 address of the form `::ffff:a.b.c.d` stands for. -/
def mapped? (bits : BitVec 128) : Option (BitVec 32) :=
  if bits.extractLsb' 32 96 = 0xFFFF then some (bits.extractLsb' 0 32) else none

/-- Version 4 addresses carried in version 6 form become what they stand for. -/
def ofCarried (bits : BitVec 128) : Ip :=
  match mapped? bits with
  | some ip => v4 ip
  | none => v6 bits

def address (port : UInt16) : Ip → Address
  | v4 bits => .v4 bits port
  | v6 bits => .v6 bits port 0 0

/-- The addresses `127.0.0.0/8` and `::1`. -/
def isLoopback : Ip → Bool
  | v4 bits => bits.extractLsb' 24 8 = 127
  | v6 bits => bits.toNat = 1

end Ip

namespace Address

def ip : Address → Ip
  | v4 bits _ => .v4 bits
  | v6 bits _ _ _ => .v6 bits

def port : Address → UInt16
  | v4 _ port => port
  | v6 _ port _ _ => port

def isLoopback (address : Address) : Bool :=
  address.ip.isLoopback

/-- The parts that order addresses: version, number, port, flow label, scope. -/
def sortKey : Address → List Nat
  | v4 bits port => [0, bits.toNat, port.toNat, 0, 0]
  | v6 bits port flow scope => [1, bits.toNat, port.toNat, flow.toNat, scope.toNat]

theorem sortKey_injective {a b : Address} (same : a.sortKey = b.sortKey) : a = b := by
  cases a <;> cases b <;>
    simp_all [sortKey, BitVec.toNat_inj, UInt16.toNat_inj, UInt32.toNat_inj]

theorem sortKey_length (a : Address) : a.sortKey.length = 5 := by
  cases a <;> rfl

end Address

end Attribution
