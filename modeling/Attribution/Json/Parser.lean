import Attribution.Json.Basic
import Attribution.Text.Split
import Attribution.Text.Utf8

/-!
Strict reading of JSON from bytes.

Nothing but blanks may follow a document. Strings must not hold control characters. A string that
spells no text is read all the same; using it is for the reader of the document to refuse.
-/

namespace Attribution.Json

def skipBlanks (bytes : Bytes) : Bytes :=
  bytes.dropWhile fun byte => byte == 0x20 || byte == 0x09 || byte == 0x0A || byte == 0x0D

def isDigitByte (byte : UInt8) : Bool :=
  0x30 ≤ byte && byte ≤ 0x39

def hexDigit? (byte : UInt8) : Option Nat :=
  if isDigitByte byte then some (byte.toNat - 0x30)
  else if 0x61 ≤ byte && byte ≤ 0x66 then some (byte.toNat - 0x57)
  else if 0x41 ≤ byte && byte ≤ 0x46 then some (byte.toNat - 0x37)
  else none

/-- The number that four hexadecimal digits spell. -/
def hex4? (a b c d : UInt8) : Option Nat := do
  return 4096 * (← hexDigit? a) + 256 * (← hexDigit? b) + 16 * (← hexDigit? c) + (← hexDigit? d)

/-- The character behind a one-letter escape. -/
def shortEscape? (letter : UInt8) : Option UInt8 :=
  if letter = 0x22 ∨ letter = 0x5C ∨ letter = 0x2F then some letter
  else if letter = 0x62 then some 0x08
  else if letter = 0x66 then some 0x0C
  else if letter = 0x6E then some 0x0A
  else if letter = 0x72 then some 0x0D
  else if letter = 0x74 then some 0x09
  else none

def isHighSurrogate (code : Nat) : Bool := 0xD800 ≤ code && code < 0xDC00
def isLowSurrogate (code : Nat) : Bool := 0xDC00 ≤ code && code < 0xE000

/-- The low half of a surrogate pair, written as an escape in front of the bytes. -/
def lowHalf? : Bytes → Option Nat
  | 0x5C :: 0x75 :: a :: b :: c :: d :: _ => (hex4? a b c d).filter isLowSurrogate
  | _ => none

/-- The bytes of a character, put in front of a reversed sequence. -/
def pushChar (code : Nat) (reversed : Bytes) : Bytes :=
  (Text.utf8 (String.singleton (Char.ofNat code))).reverse ++ reversed

/-- Reads a string from behind its opening quote. `spelled` holds its bytes in reverse, `sound`
says whether all surrogates so far were paired, and `skip` counts bytes that belong to an escape
already read. -/
def readString (spelled : Bytes) (sound : Bool) : (skip : Nat) → Bytes → Option (Spelling × Bytes)
  | _, [] => none
  | skip + 1, _ :: rest => readString spelled sound skip rest
  | 0, byte :: rest =>
    if byte = 0x22 then
      some (if sound then Text.ofUtf8? spelled.reverse else none, rest)
    else if byte < 0x20 then none
    else if byte ≠ 0x5C then readString (byte :: spelled) sound 0 rest
    else
      match rest with
      | 0x75 :: a :: b :: c :: d :: after =>
        match hex4? a b c d with
        | none => none
        | some code =>
          if isHighSurrogate code then
            match lowHalf? after with
            | some low =>
              readString (pushChar (0x10000 + 1024 * (code - 0xD800) + (low - 0xDC00)) spelled) sound 11 rest
            | none => readString spelled false 5 rest
          else if isLowSurrogate code then readString spelled false 5 rest
          else readString (pushChar code spelled) sound 5 rest
      | letter :: _ =>
        match shortEscape? letter with
        | some meant => readString (meant :: spelled) sound 1 rest
        | none => none
      | [] => none

def digitsValue (digits : Bytes) : Nat :=
  digits.foldl (fun value byte => 10 * value + (byte.toNat - 0x30)) 0

/-- The digits behind a point, at least one. -/
def readFraction : Bytes → Option (Bytes × Bytes)
  | 0x2E :: rest =>
    let digits := rest.takeWhile isDigitByte
    if digits = [] then none else some (digits, rest.drop digits.length)
  | rest => some ([], rest)

/-- The exponent, with at least one digit if it is announced. -/
def readExponent : Bytes → Option (Option Int × Bytes)
  | byte :: rest =>
    if byte ≠ 0x65 ∧ byte ≠ 0x45 then some (none, byte :: rest)
    else
      let (sign, rest) : Int × Bytes :=
        match rest with
        | 0x2B :: rest => (1, rest)
        | 0x2D :: rest => (-1, rest)
        | rest => (1, rest)
      let digits := rest.takeWhile isDigitByte
      if digits = [] then none
      else some (some (sign * digitsValue digits), rest.drop digits.length)
  | [] => some (none, [])

/-- A number without needless zeros in front. -/
def readNumber (bytes : Bytes) : Option (Number × Bytes) := do
  let (negative, bytes) :=
    match bytes with
    | 0x2D :: rest => (true, rest)
    | rest => (false, rest)
  let whole := bytes.takeWhile isDigitByte
  if whole = [] ∨ 1 < whole.length ∧ whole.head? = some 0x30 then none
  else
    let (fraction, rest) ← readFraction (bytes.drop whole.length)
    let (exponent, rest) ← readExponent rest
    let value := digitsValue (whole ++ fraction)
    if fraction = [] ∧ exponent = none ∧ ¬(negative ∧ value = 0) then
      return (.integer (if negative then -value else value), rest)
    else
      return (.decimal ⟨negative, value, exponent.getD 0 - fraction.length⟩, rest)

mutual

/-- Reads a value from bytes that start with it. -/
def readValue : Nat → Bytes → Option (Json × Bytes)
  | 0, _ => none
  | fuel + 1, bytes =>
    match bytes with
    | [] => none
    | byte :: rest =>
      if byte = 0x22 then (readString [] true 0 rest).map fun (text, rest) => (string text, rest)
      else if byte = 0x5B then
        match skipBlanks rest with
        | 0x5D :: rest => some (array [], rest)
        | rest => (readItems fuel rest).map fun (items, rest) => (array items, rest)
      else if byte = 0x7B then
        match skipBlanks rest with
        | 0x7D :: rest => some (object [], rest)
        | rest => (readMembers fuel rest).map fun (members, rest) => (object members, rest)
      else if byte = 0x2D ∨ isDigitByte byte then
        (readNumber (byte :: rest)).map fun (value, rest) => (number value, rest)
      else
        ((Text.strip (Text.utf8 "null") (byte :: rest)).map (null, ·)).orElse fun _ =>
          ((Text.strip (Text.utf8 "true") (byte :: rest)).map (bool true, ·)).orElse fun _ =>
            (Text.strip (Text.utf8 "false") (byte :: rest)).map (bool false, ·)

/-- Reads the items of an array up to its bracket; there is at least one. -/
def readItems : Nat → Bytes → Option (List Json × Bytes)
  | 0, _ => none
  | fuel + 1, bytes =>
    match readValue fuel (skipBlanks bytes) with
    | none => none
    | some (item, rest) =>
      match skipBlanks rest with
      | 0x2C :: rest => (readItems fuel rest).map fun (items, rest) => (item :: items, rest)
      | 0x5D :: rest => some ([item], rest)
      | _ => none

/-- Reads the members of an object up to its brace; there is at least one. -/
def readMembers : Nat → Bytes → Option (List (Spelling × Json) × Bytes)
  | 0, _ => none
  | fuel + 1, bytes =>
    match skipBlanks bytes with
    | 0x22 :: rest =>
      match readString [] true 0 rest with
      | none => none
      | some (name, rest) =>
        match skipBlanks rest with
        | 0x3A :: rest =>
          match readValue fuel (skipBlanks rest) with
          | none => none
          | some (value, rest) =>
            match skipBlanks rest with
            | 0x2C :: rest =>
              (readMembers fuel rest).map fun (members, rest) => ((name, value) :: members, rest)
            | 0x7D :: rest => some ([(name, value)], rest)
            | _ => none
        | _ => none
    | _ => none

end

/-- The document that bytes spell. -/
def parse? (bytes : Bytes) : Option Json :=
  match readValue (2 * bytes.length + 2) (skipBlanks bytes) with
  | some (value, rest) => if skipBlanks rest = [] then some value else none
  | none => none

end Attribution.Json
