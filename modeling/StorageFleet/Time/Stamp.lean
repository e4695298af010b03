import StorageFleet.Number.Digits
import StorageFleet.Text.Basic
import StorageFleet.Time.Instant

/-!
# Time stamps as text

`Instant.read` reads a date, a `T` or a space, a time of day and an offset, in the forms that
RFC 3339 allows and a few relaxed ones: blanks around the parts, fields of fewer digits, a signed
year of any length, `UTC` for `Z`, and an offset with or without a colon.  Digits of the fraction
after the ninth are dropped.  `Instant.render` writes universal time with a `Z` and the shortest of
0, 3, 6 or 9 digits of fraction that is exact.
-/

namespace StorageFleet

namespace Instant

/-- Drops white space in front. -/
def skipBlank (cs : List Char) : List Char :=
  cs.dropWhile Text.isBlank

/-- Reads a number of one to `width` digits. -/
def readNumber (width : Nat) (cs : List Char) : Option (Nat × List Char) :=
  let digits := (cs.take width).takeWhile Char.isDigit
  if digits.isEmpty then none
  else some ((Number.readDigits 10 0 digits).getD 0, cs.drop digits.length)

/-- Reads a field of the date or time: blanks, then a number. -/
def readField (width : Nat) (cs : List Char) : Option (Nat × List Char) :=
  readNumber width (skipBlank cs)

/-- Reads blanks and then the character `mark`. -/
def readMark (mark : Char) (cs : List Char) : Option (List Char) :=
  match skipBlank cs with
  | c :: rest => if c = mark then some rest else none
  | [] => none

/-- Reads a year: four digits at most, or a sign and any number of digits. -/
def readYear (cs : List Char) : Option (Int × List Char) :=
  match skipBlank cs with
  | '-' :: rest => (readNumber rest.length rest).map fun (n, rest) => (-(n : Int), rest)
  | '+' :: rest => (readNumber rest.length rest).map fun (n, rest) => ((n : Int), rest)
  | rest => (readNumber 4 rest).map fun (n, rest) => ((n : Int), rest)

/-- Reads the fraction of a second, if there is one, in nanoseconds. -/
def readFraction (cs : List Char) : Option (Nat × List Char) :=
  match cs with
  | '.' :: rest =>
    (readNumber 9 rest).map fun (n, after) =>
      (n * Number.powerOfTen (9 - (rest.length - after.length)), after.dropWhile Char.isDigit)
  | rest => some (0, rest)

/-- An offset from universal time: whether it is to the west, and its minutes. -/
structure Offset where
  west : Bool
  minutes : Nat
  deriving Repr, DecidableEq, Inhabited

/-- Reads the two digits of an hour or minute. -/
def readTwo (cs : List Char) : Option (Nat × List Char) :=
  match cs with
  | a :: b :: rest => do
    let a ← Number.digit? a
    let b ← Number.digit? b
    return (a * 10 + b, rest)
  | _ => none

/-- Reads hours and minutes of an offset; only colons and blanks may stand between them. -/
def readOffsetDigits (west : Bool) (cs : List Char) : Option (Offset × List Char) := do
  let (hours, rest) ← readTwo cs
  let (minutes, rest) ← readTwo (rest.dropWhile fun c => c == ':' || Text.isBlank c)
  if minutes ≤ 59 ∧ hours < 24 then some (⟨west, hours * 60 + minutes⟩, rest) else none

/-- Reads an offset. -/
def readOffset (cs : List Char) : Option (Offset × List Char) :=
  match cs with
  | '+' :: rest => readOffsetDigits false rest
  | '-' :: rest => readOffsetDigits true rest
  | '−' :: rest => readOffsetDigits true rest
  | 'Z' :: rest => some (⟨false, 0⟩, rest)
  | 'z' :: rest => some (⟨false, 0⟩, rest)
  | u :: t :: c :: rest =>
    if u.toUpper = 'U' ∧ t.toUpper = 'T' ∧ c.toUpper = 'C' then some (⟨false, 0⟩, rest) else none
  | _ => none

/-- The earliest and the latest year that dates are kept for. -/
def yearInRange (year : Int) : Bool :=
  -262143 ≤ year && year ≤ 262142

/-- The moment of a local date and time at an offset. -/
def atOffset (i : Instant) (offset : Offset) : Instant :=
  if offset.west then i.minutesLater offset.minutes else i.minutesEarlier offset.minutes

/-- Reads a time stamp that is all of the text but for blanks at the end. -/
def readChars (cs : List Char) : Option Instant := do
  let (year, cs) ← readYear cs
  let cs ← readMark '-' cs
  let (month, cs) ← readField 2 cs
  let cs ← readMark '-' cs
  let (day, cs) ← readField 2 cs
  let cs ← match cs with
    | 'T' :: rest => some rest
    | 't' :: rest => some rest
    | ' ' :: rest => some rest
    | _ => none
  let (hour, cs) ← readField 2 cs
  let cs ← readMark ':' cs
  let (minute, cs) ← readField 2 cs
  let cs ← readMark ':' cs
  let (second, cs) ← readField 2 cs
  let (nano, cs) ← readFraction cs
  let (offset, cs) ← readOffset (skipBlank cs)
  let shown : Instant := ⟨year, month, day, hour, minute, second, nano⟩
  let moment := shown.atOffset offset
  if (skipBlank cs).isEmpty ∧ yearInRange year ∧ shown.isValid ∧ yearInRange moment.year then
    some moment
  else none

/-- Reads a time stamp. -/
def read (text : String) : Option Instant :=
  readChars text.toList

/-- The year in four digits; outside that range with a sign. -/
def renderYear (year : Int) : String :=
  if 0 ≤ year ∧ year ≤ 9999 then Number.padded 4 year.toNat
  else (if year < 0 then "-" else "+") ++ Number.padded 4 year.natAbs

/-- The fraction of a second. -/
def renderFraction (nano : Nat) : String :=
  if nano = 0 then ""
  else if nano % 1000000 = 0 then "." ++ Number.padded 3 (nano / 1000000)
  else if nano % 1000 = 0 then "." ++ Number.padded 6 (nano / 1000)
  else "." ++ Number.padded 9 nano

/-- Writes the moment in universal time. -/
def render (i : Instant) : String :=
  let two := Number.padded 2
  renderYear i.year ++ "-" ++ two i.month ++ "-" ++ two i.day ++ "T" ++ two i.hour ++ ":" ++
    two i.minute ++ ":" ++ two i.second ++ renderFraction i.nano ++ "Z"

end Instant
end StorageFleet
