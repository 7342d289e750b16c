/-! Unsigned decimal numbers: reading them within a limit, and writing them. -/

namespace Attribution.Text

/-- Why a text is no number within the limit. -/
inductive NumberError where
  | empty
  | invalidDigit
  | tooLarge
  deriving DecidableEq, Repr

namespace NumberError

def message : NumberError → String
  | empty => "cannot parse integer from empty string"
  | invalidDigit => "invalid digit found in string"
  | tooLarge => "number too large to fit in target type"

end NumberError

/-- The value of an ASCII digit. -/
def digit? (c : Char) : Option Nat :=
  if '0' ≤ c ∧ c ≤ '9' then some (c.toNat - '0'.toNat) else none

/-- Whether the character is an ASCII digit. -/
def isDigit (c : Char) : Bool :=
  (digit? c).isSome

/-- Reads digits onto `value`; the first fault from the left is reported. -/
def readDigits (limit : Nat) : Nat → List Char → Except NumberError Nat
  | value, [] => .ok value
  | value, c :: rest =>
    match digit? c with
    | none => .error .invalidDigit
    | some digit =>
      if 10 * value + digit ≤ limit then readDigits limit (10 * value + digit) rest
      else .error .tooLarge

/-- A decimal number up to `limit`, with an optional plus sign and any leading zeros. -/
def readNumber (limit : Nat) : List Char → Except NumberError Nat
  | [] => .error .empty
  | '+' :: [] => .error .invalidDigit
  | '+' :: c :: rest => readDigits limit 0 (c :: rest)
  | c :: rest => readDigits limit 0 (c :: rest)

def readUInt16? (text : List Char) : Option UInt16 :=
  (readNumber (UInt16.size - 1) text).toOption.map UInt16.ofNat

def readUInt32? (text : List Char) : Option UInt32 :=
  (readNumber (UInt32.size - 1) text).toOption.map UInt32.ofNat

/-- The largest value of a 64-bit word. -/
def wordLimit : Nat :=
  UInt64.size - 1

/-- The decimal digits of a number, without leading zeros. -/
def decimal (value : Nat) : List Char :=
  if value < 10 then [Char.ofNat ('0'.toNat + value)]
  else decimal (value / 10) ++ [Char.ofNat ('0'.toNat + value % 10)]
termination_by value

/-- The decimal digits of a number as a string. -/
def decimalString (value : Nat) : String :=
  String.ofList (decimal value)

/-- Pads with zeros on the left up to a width. -/
def padZeros (width : Nat) (text : List Char) : List Char :=
  List.replicate (width - text.length) '0' ++ text

end Attribution.Text
