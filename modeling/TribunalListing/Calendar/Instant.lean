-- SUMMARY: Instants with a UTC offset, and their RFC 3339 text.
import TribunalListing.Calendar.Date

/-!
# Instants

An instant is a date and a time of day in some offset from UTC. Messages carry instants as
RFC 3339 text. Not every instant has such a text: its year has no sign, and its offset is written
in whole minutes.
-/

namespace TribunalListing

/-- A point in time, as the date and time of day in its own offset from UTC. -/
structure Instant where
  date : Date
  secondOfDay : Nat
  nanosecond : Nat
  /-- Seconds east of UTC. -/
  offset : Int
  deriving DecidableEq

namespace Instant

/-- Offsets from UTC stay below twenty-six hours. -/
def maxOffset : Int := 93599

/-- Whole seconds since the start of 1970 in UTC; a fraction of a second is dropped. -/
def unixSeconds (t : Instant) : Int :=
  t.date.toEpochDay * 86400 + t.secondOfDay - t.offset

/-- The instant a number of seconds after the start of 1970 in UTC, seen in the given offset. -/
def ofUnixSeconds? (seconds : Int) (nanosecond : Nat) (offset : Int) : Option Instant := do
  let here := seconds + offset
  let date ← Date.ofEpochDay? (here / 86400)
  return ⟨date, (here % 86400).toNat, nanosecond, offset⟩

/-! ## Reading -/

/-- Reads the digits of a fraction of a second; digits after the ninth count for nothing. -/
def readFraction : Nat → List Char → Nat × List Char
  | scale, c :: cs =>
    match Text.digitValue? c with
    | some d =>
      let (rest, cs) := readFraction (scale / 10) cs
      (d * scale + rest, cs)
    | none => (0, c :: cs)
  | _, [] => (0, [])

/-- Reads an optional fraction, which has at least one digit after its point. -/
def takeFraction : List Char → Option (Nat × List Char)
  | '.' :: c :: cs => if (Text.digitValue? c).isSome then some (readFraction 100000000 (c :: cs)) else none
  | ['.'] => none
  | cs => some (0, cs)

/-- Reads the offset at the end of the text: a letter `Z` of either case, or a sign with hours and
minutes. -/
def readOffset? : List Char → Option Int
  | ['Z'] | ['z'] => some 0
  | sign :: cs => do
    let factor ← if sign = '+' then some 1 else if sign = '-' then some (-1) else none
    let (hours, cs) ← Text.takeDigits 2 cs
    let (':' :: cs) := cs | none
    let (minutes, cs) ← Text.takeDigits 2 cs
    guard (cs.isEmpty && hours ≤ 25 && minutes ≤ 59)
    return factor * (hours * 3600 + minutes * 60)
  | [] => none

/-- A leap second can only be the last second of a month in UTC; it stands for the nanosecond
before its end. -/
def leapSecond? (t : Instant) : Option Instant := do
  let utc ← ofUnixSeconds? t.unixSeconds 0 0
  guard (utc.secondOfDay = 86399 && utc.date.day = daysInMonth utc.date.year utc.date.month)
  return { t with nanosecond := 999999999 }

/-- Reads an RFC 3339 date and time. A space or a small letter may stand between the two. -/
def ofText? (s : String) : Option Instant := do
  let (date, cs) ← Date.takeUnsigned false s.toList
  let separator :: cs := cs | none
  guard (separator = 'T' || separator = 't' || separator = ' ')
  let (hour, cs) ← Text.takeDigits 2 cs
  let (':' :: cs) := cs | none
  let (minute, cs) ← Text.takeDigits 2 cs
  let (':' :: cs) := cs | none
  let (second, cs) ← Text.takeDigits 2 cs
  let (nanosecond, cs) ← takeFraction cs
  let offset ← readOffset? cs
  guard (hour ≤ 23 && minute ≤ 59 && second ≤ 60)
  let moment (second : Nat) : Instant := ⟨date, hour * 3600 + minute * 60 + second, nanosecond, offset⟩
  if second = 60 then leapSecond? (moment 59) else return moment second

/-! ## Writing -/

/-- Why an instant has no RFC 3339 text. -/
inductive Unwritable where
  | year
  | offsetHour
  | offsetSecond
  deriving DecidableEq

def Unwritable.part : Unwritable → String
  | .year => "year"
  | .offsetHour => "offset_hour"
  | .offsetSecond => "offset_second"

def Unwritable.message (u : Unwritable) : String :=
  s!"The {u.part} component cannot be formatted into the requested format."

/-- The digits of a fraction of a second without trailing zeros. -/
def fractionChars (nanosecond : Nat) : List Char :=
  if nanosecond = 0 then []
  else '.' :: ((Text.fixedDigits 9 nanosecond).reverse.dropWhile (· = '0')).reverse

/-- The text of an offset: `Z` for none, otherwise sign, hours and minutes. -/
def offsetChars (offset : Int) : List Char :=
  if offset = 0 then ['Z']
  else
    (if offset < 0 then '-' else '+') :: Text.fixedDigits 2 (offset.natAbs / 3600) ++ ':' ::
      Text.fixedDigits 2 (offset.natAbs / 60 % 60)

def text (t : Instant) : Except Unwritable String :=
  if t.date.year < 0 then .error .year
  else if t.offset.natAbs / 3600 > 23 then .error .offsetHour
  else if t.offset % 60 ≠ 0 then .error .offsetSecond
  else
    .ok (String.ofList (t.date.chars ++ 'T' :: Text.fixedDigits 2 (t.secondOfDay / 3600) ++ ':' ::
      Text.fixedDigits 2 (t.secondOfDay / 60 % 60) ++ ':' ::
      Text.fixedDigits 2 (t.secondOfDay % 60) ++ fractionChars t.nanosecond ++
      offsetChars t.offset))

end Instant

end TribunalListing
