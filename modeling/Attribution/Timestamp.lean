import Attribution.Text.Number

/-! Points in time as seconds and nanoseconds, and their calendar form. -/

namespace Attribution

/-- A time as it is transmitted: the nanoseconds may be negative or exceed a second. -/
structure Timestamp where
  seconds : Int
  nanos : Int
  deriving DecidableEq, Repr

namespace Timestamp

def nanosPerSecond : Int := 1000000000
def leastSecond : Int := -0x8000000000000000
def greatestSecond : Int := 0x7FFFFFFFFFFFFFFF

/-- Moves whole seconds out of the nanoseconds. A time outside the range of seconds becomes the
earliest or the latest one. -/
def normalize (time : Timestamp) : Timestamp :=
  let seconds := time.seconds + time.nanos / nanosPerSecond
  let nanos := time.nanos % nanosPerSecond
  if seconds < leastSecond then ⟨leastSecond, 0⟩
  else if greatestSecond < seconds then ⟨greatestSecond, nanosPerSecond - 1⟩
  else ⟨seconds, nanos⟩

/-- A day of the calendar. -/
structure Day where
  year : Int
  month : Nat
  day : Nat
  deriving DecidableEq, Repr

/-- The day that lies so many days after the first of March of the year zero. Years are counted
from March on, so that a leap day is the last day of its year. -/
def dayOf (days : Int) : Day :=
  let era := days / 146097
  let dayOfEra := days % 146097
  let yearOfEra := (dayOfEra - dayOfEra / 1460 + dayOfEra / 36524 - dayOfEra / 146096) / 365
  let dayOfYear := dayOfEra - (365 * yearOfEra + yearOfEra / 4 - yearOfEra / 100)
  let month := (5 * dayOfYear + 2) / 153
  let day := dayOfYear - (153 * month + 2) / 5 + 1
  let year := 400 * era + yearOfEra + (if month < 10 then 0 else 1)
  ⟨year, (if month < 10 then month + 3 else month - 9).toNat, day.toNat⟩

/-- Days from the first of March of the year zero to the first of January 1970. -/
def epochDay : Int := 719468

def padded (width : Nat) (value : Nat) : List Char :=
  Text.padZeros width (Text.decimal value)

/-- Years have at least four digits; those beyond four digits show a plus sign. -/
def yearText (year : Int) : List Char :=
  if year < 0 then '-' :: padded 4 year.natAbs
  else if 9999 < year then '+' :: padded 4 year.natAbs
  else padded 4 year.natAbs

/-- As many digits as needed, in groups of three. -/
def fractionText (nanos : Nat) : List Char :=
  if nanos = 0 then []
  else if nanos % 1000000 = 0 then '.' :: padded 3 (nanos / 1000000)
  else if nanos % 1000 = 0 then '.' :: padded 6 (nanos / 1000)
  else '.' :: padded 9 nanos

/-- Date and time of day in universal time, for instance `2023-11-14T22:13:20.000005Z`. -/
def render (time : Timestamp) : String :=
  let time := time.normalize
  let date := dayOf (time.seconds / 86400 + epochDay)
  let second := (time.seconds % 86400).toNat
  String.ofList (yearText date.year ++ '-' :: padded 2 date.month ++ '-' :: padded 2 date.day ++
    'T' :: padded 2 (second / 3600) ++ ':' :: padded 2 (second / 60 % 60) ++
    ':' :: padded 2 (second % 60) ++ fractionText time.nanos.toNat ++ ['Z'])

end Timestamp

end Attribution
