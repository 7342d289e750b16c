import Attribution.Text.Number

/-!
The decimal with the fewest digits that reads back as a given binary floating-point number.

A number `m · 2^q` is what a decimal reads as if the decimal lies between the midpoints to the
neighbouring numbers; the midpoints themselves read as `m · 2^q` exactly when `m` is even.
-/

namespace Attribution

/-- The number `digits · 10^exponent`, with its sign. -/
structure Decimal where
  negative : Bool
  digits : Nat
  exponent : Int
  deriving DecidableEq, Repr

namespace Decimal

/-- A nonnegative fraction. -/
structure Fraction where
  top : Nat
  bottom : Nat

/-- The number `factor · base^exponent`. -/
def Fraction.power (factor base : Nat) (exponent : Int) : Fraction :=
  if 0 ≤ exponent then ⟨factor * base.pow exponent.toNat, 1⟩
  else ⟨factor, base.pow (-exponent).toNat⟩

def Fraction.le (a b : Fraction) : Bool :=
  a.top * b.bottom ≤ b.top * a.bottom

def Fraction.lt (a b : Fraction) : Bool :=
  a.top * b.bottom < b.top * a.bottom

/-- A finite binary number `mantissa · 2^exponent`. -/
structure Binary where
  mantissa : Nat
  exponent : Int
  deriving DecidableEq, Repr

/-- The leading bit of a normal mantissa, which is not stored. -/
def Binary.leadingBit : Nat := 0x10000000000000

/-- Mantissa and exponent of a finite positive double. -/
def Binary.ofBits (bits : UInt64) : Binary :=
  let field : Nat := bits.toNat / leadingBit % 0x800
  let fraction : Nat := bits.toNat % leadingBit
  if field = 0 then ⟨fraction, -1074⟩ else ⟨leadingBit + fraction, (field : Int) - 1075⟩

namespace Binary

def value (number : Binary) : Fraction :=
  .power number.mantissa 2 number.exponent

/-- The midpoint to the next number below. Below a power of two the numbers lie twice as close. -/
def lower (number : Binary) : Fraction :=
  if number.mantissa = leadingBit ∧ number.exponent ≠ -1074 then
    .power (4 * number.mantissa - 1) 2 (number.exponent - 2)
  else .power (2 * number.mantissa - 1) 2 (number.exponent - 1)

/-- The midpoint to the next number above. -/
def upper (number : Binary) : Fraction :=
  .power (2 * number.mantissa + 1) 2 (number.exponent - 1)

/-- Whether a decimal reads as this number. -/
def reads (number : Binary) (candidate : Fraction) : Bool :=
  if number.mantissa % 2 = 0 then number.lower.le candidate && candidate.le number.upper
  else number.lower.lt candidate && candidate.lt number.upper

/-- How many digits the number has before the point; not positive for numbers below one tenth. -/
def wholeDigits (number : Binary) : Int :=
  let guess := (number.exponent + number.mantissa.log2) * 30103 / 100000
  ([guess - 1, guess, guess + 1].find? fun digits => number.value.lt (.power 1 10 digits)).getD
    (guess + 2)

/-- The grid point with so many digits that reads as the number, the nearer one of two, and of two
that are equally near the even one. -/
def onGrid (number : Binary) (digits : Nat) : Option Decimal :=
  let exponent := number.wholeDigits - digits
  let value := number.value
  let unit := Fraction.power 1 10 exponent
  let below := value.top * unit.bottom / (value.bottom * unit.top)
  let point (count : Nat) := Fraction.power count 10 exponent
  let doubled : Fraction := ⟨2 * value.top, value.bottom⟩
  let middle := point (2 * below + 1)
  let preferAbove := middle.lt doubled || (middle.le doubled && below % 2 = 1)
  let order := if preferAbove then [below + 1, below] else [below, below + 1]
  (order.find? fun count => number.reads (point count)).map fun count =>
    if count = Nat.pow 10 digits then ⟨false, 1, exponent + digits⟩ else ⟨false, count, exponent⟩

/-- The fewest digits, never more than seventeen. -/
def shortest (number : Binary) : Decimal :=
  (((List.range 17).map (· + 1)).findSome? number.onGrid).getD ⟨false, 0, 0⟩

end Binary

/-- The shortest decimal of a finite double that is not negative. -/
def ofFloat (value : Float) : Decimal :=
  let number := Binary.ofBits value.toBits
  if number.mantissa = 0 then ⟨false, 0, 0⟩ else number.shortest

/-- How decimals are written. -/
structure Form where
  /-- Positional up to so many digits before the point. -/
  mostWhole : Int
  /-- Positional down to so many zeros behind the point. -/
  mostZeros : Int

/-- A point or an exponent always shows that a decimal is meant. -/
def render (form : Form) (decimal : Decimal) : List Char :=
  let sign := if decimal.negative then ['-'] else []
  let digits := Text.decimal decimal.digits
  let whole := digits.length + decimal.exponent
  if decimal.digits = 0 then sign ++ "0.0".toList
  else if 0 ≤ decimal.exponent ∧ whole ≤ form.mostWhole then
    sign ++ digits ++ List.replicate decimal.exponent.toNat '0' ++ ".0".toList
  else if 0 < whole ∧ whole ≤ form.mostWhole then
    sign ++ digits.take whole.toNat ++ '.' :: digits.drop whole.toNat
  else if -form.mostZeros ≤ whole ∧ whole ≤ 0 then
    sign ++ "0.".toList ++ List.replicate (-whole).toNat '0' ++ digits
  else
    let fraction := digits.drop 1
    let power := whole - 1
    let exponent := (if power < 0 then ['-'] else []) ++ Text.decimal power.natAbs
    sign ++ digits.take 1 ++ (if fraction = [] then [] else '.' :: fraction) ++ 'e' :: exponent

end Decimal

end Attribution
