import Attribution.Net.Address
import Attribution.Text.Number
import Attribution.Text.Split

/-!
The written form of addresses: `10.0.0.1:80`, `[fd00::1]:80`, `[fe80::1%3]:80`.

Reading takes the longest run of digits at each place and then either fits or fails. Writing
shortens the longest run of two or more zero groups, the first one if there are several.
-/

namespace Attribution.Net

open Text

/-- A reader takes something from the front of a text and returns the rest. -/
abbrev Reader (α : Type) := List Char → Option (α × List Char)

/-- The value of a digit in a radix up to sixteen. -/
def digitIn (radix : Nat) (c : Char) : Option Nat :=
  let value :=
    if '0' ≤ c ∧ c ≤ '9' then some (c.toNat - '0'.toNat)
    else if 'a' ≤ c ∧ c ≤ 'f' then some (c.toNat - 'a'.toNat + 10)
    else if 'A' ≤ c ∧ c ≤ 'F' then some (c.toNat - 'A'.toNat + 10)
    else none
  value.filter (· < radix)

/-- How a number inside an address may be written. -/
structure NumberForm where
  radix : Nat
  /-- The greatest number of digits, if there is one. -/
  mostDigits : Option Nat
  leadingZeros : Bool
  limit : Nat

def octetForm : NumberForm := ⟨10, some 3, false, 255⟩
def groupForm : NumberForm := ⟨16, some 4, true, 0xFFFF⟩
def portForm : NumberForm := ⟨10, none, true, 0xFFFF⟩
def scopeForm : NumberForm := ⟨10, none, true, 0xFFFFFFFF⟩

/-- Reads every digit that follows; too many digits or too large a value is no number. -/
def number (form : NumberForm) : Reader Nat := fun text =>
  let digits := text.takeWhile fun c => (digitIn form.radix c).isSome
  let rest := text.drop digits.length
  let value := digits.foldl (fun value c => form.radix * value + (digitIn form.radix c).getD 0) 0
  let fits := form.mostDigits.all (digits.length ≤ ·)
  let zeros := form.leadingZeros || digits.length ≤ 1 || digits.head? != some '0'
  if digits.isEmpty || !fits || !zeros || form.limit < value then none else some (value, rest)

def literal (expected : Char) : Reader Unit
  | c :: rest => if c = expected then some ((), rest) else none
  | [] => none

/-- Reads a separator first, except in front of the first item. -/
def separated {α : Type} (separator : Char) (first : Bool) (item : Reader α) : Reader α := fun text =>
  if first then item text
  else (literal separator text).bind fun (_, rest) => item rest

def ipv4 : Reader (BitVec 32) := fun text => do
  let (a, text) ← number octetForm text
  let (_, text) ← literal '.' text
  let (b, text) ← number octetForm text
  let (_, text) ← literal '.' text
  let (c, text) ← number octetForm text
  let (_, text) ← literal '.' text
  let (d, text) ← number octetForm text
  return (BitVec.ofNat 32 (((a * 256 + b) * 256 + c) * 256 + d), text)

/-- What a run of colon-separated groups holds. -/
structure Groups where
  values : List Nat
  /-- Whether the last two groups were written as a version 4 address. -/
  dotted : Bool
  rest : List Char

/-- Reads at most `room` groups; two of them may be written as a version 4 address, which ends
the run. -/
def groups : Nat → Bool → List Char → Groups
  | 0, _, text => ⟨[], false, text⟩
  | room + 1, first, text =>
    match if room = 0 then none else separated ':' first ipv4 text with
    | some (bits, rest) => ⟨[bits.toNat / 0x10000, bits.toNat % 0x10000], true, rest⟩
    | none =>
      match separated ':' first (number groupForm) text with
      | none => ⟨[], false, text⟩
      | some (value, rest) =>
        let following := groups room false rest
        { following with values := value :: following.values }

def ofGroups (values : List Nat) : BitVec 128 :=
  BitVec.ofNat 128 (values.foldl (fun total value => 0x10000 * total + value) 0)

/-- Eight groups, or fewer with one `::` that stands for the missing zeros. -/
def ipv6 : Reader (BitVec 128) := fun text =>
  let head := groups 8 true text
  if head.values.length = 8 then some (ofGroups head.values, head.rest)
  else if head.dotted then none
  else do
    let (_, text) ← literal ':' head.rest
    let (_, text) ← literal ':' text
    let tail := groups (7 - head.values.length) true text
    let zeros := List.replicate (8 - head.values.length - tail.values.length) 0
    return (ofGroups (head.values ++ zeros ++ tail.values), tail.rest)

def port : Reader UInt16 := fun text => do
  let (_, text) ← literal ':' text
  let (value, text) ← number portForm text
  return (UInt16.ofNat value, text)

def scope : Reader UInt32 := fun text => do
  let (_, text) ← literal '%' text
  let (value, text) ← number scopeForm text
  return (UInt32.ofNat value, text)

def address4 : Reader Address := fun text => do
  let (bits, text) ← ipv4 text
  let (port, text) ← port text
  return (.v4 bits port, text)

def address6 : Reader Address := fun text => do
  let (_, text) ← literal '[' text
  let (bits, text) ← ipv6 text
  let (scope, text) := (scope text).getD (0, text)
  let (_, text) ← literal ']' text
  let (port, text) ← port text
  return (.v6 bits port 0 scope, text)

/-- Accepts only what a reader uses up. -/
def complete {α : Type} (reader : Reader α) (text : List Char) : Option α :=
  match reader text with
  | some (value, []) => some value
  | _ => none

end Net

namespace Ip

/-- The address a text spells, in either version. -/
def parse? (text : List Char) : Option Ip :=
  Net.complete (fun text =>
    ((Net.ipv4 text).map fun (bits, rest) => (v4 bits, rest)).orElse fun _ =>
      (Net.ipv6 text).map fun (bits, rest) => (v6 bits, rest)) text

/-- The four octets with points between them. -/
def dotted (value : Nat) : List Char :=
  Text.joinWith '.' [Text.decimal (value >>> 24 % 256), Text.decimal (value >>> 16 % 256),
    Text.decimal (value >>> 8 % 256), Text.decimal (value % 256)]

/-- The eight groups of a version 6 address. -/
def groups (bits : BitVec 128) : List Nat :=
  (List.range 8).map fun index => bits.toNat >>> (16 * (7 - index)) % 0x10000

/-- Start and length of the longest run of zeros, the first one on ties. -/
def longestZeros (values : List Nat) : Nat × Nat :=
  (List.range values.length).foldl (fun (start, length) index =>
    let run := ((values.drop index).takeWhile (· == 0)).length
    if length < run then (index, run) else (start, length)) (0, 0)

def hexadecimal (values : List Nat) : List Char :=
  Text.joinWith ':' (values.map (Nat.toDigits 16))

def colons (bits : BitVec 128) : List Char :=
  match mapped? bits with
  | some ip => "::ffff:".toList ++ dotted ip.toNat
  | none =>
    let values := groups bits
    let (start, length) := longestZeros values
    if length ≤ 1 then hexadecimal values
    else hexadecimal (values.take start) ++ "::".toList ++ hexadecimal (values.drop (start + length))

end Ip

namespace Address

/-- The socket address a text spells. -/
def parse? (text : String) : Option Address :=
  Net.complete (fun text => (Net.address4 text).orElse fun _ => Net.address6 text) text.toList

/-- The written form; a scope is shown only if there is one. -/
def render : Address → String
  | v4 bits port => String.ofList (Ip.dotted bits.toNat ++ ':' :: Text.decimal port.toNat)
  | v6 bits port _ scope =>
    let shown := if scope = 0 then [] else '%' :: Text.decimal scope.toNat
    String.ofList ('[' :: (Ip.colons bits ++ shown ++ "]:".toList ++ Text.decimal port.toNat))

end Address

end Attribution
