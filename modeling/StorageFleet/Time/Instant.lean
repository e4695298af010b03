/-!
# Moments in time

An `Instant` is a date and a time of day in universal time.  The second may be 60, for a leap
second.  Moving by whole seconds goes through `nextDay` and `previousDay`, so no day count is
involved.
-/

namespace StorageFleet

/-- A date and time of day in universal time, down to the nanosecond. -/
structure Instant where
  year : Int
  month : Nat
  day : Nat
  hour : Nat
  minute : Nat
  second : Nat
  nano : Nat
  deriving Repr, DecidableEq, Inhabited

namespace Instant

/-- Whether the year has a 29 February. -/
def isLeapYear (year : Int) : Bool :=
  year % 4 == 0 && (year % 100 != 0 || year % 400 == 0)

/-- The number of days of a month. -/
def daysInMonth (year : Int) (month : Nat) : Nat :=
  if month = 2 then if isLeapYear year then 29 else 28
  else if month = 4 ∨ month = 6 ∨ month = 9 ∨ month = 11 then 30
  else 31

/-- Whether the fields name a moment. -/
def isValid (i : Instant) : Bool :=
  (1 ≤ i.month && i.month ≤ 12) && (1 ≤ i.day && i.day ≤ daysInMonth i.year i.month) &&
    (i.hour ≤ 23 && i.minute ≤ 59 && i.second ≤ 60 && i.nano < 1000000000)

/-- The same time of day one day later. -/
def nextDay (i : Instant) : Instant :=
  if i.day < daysInMonth i.year i.month then { i with day := i.day + 1 }
  else if i.month < 12 then { i with month := i.month + 1, day := 1 }
  else { i with year := i.year + 1, month := 1, day := 1 }

/-- The same time of day one day earlier. -/
def previousDay (i : Instant) : Instant :=
  if 1 < i.day then { i with day := i.day - 1 }
  else if 1 < i.month then
    { i with month := i.month - 1, day := daysInMonth i.year (i.month - 1) }
  else { i with year := i.year - 1, month := 12, day := 31 }

/-- The same time of day `count` days later. -/
def addDays : Nat → Instant → Instant
  | 0, i => i
  | count + 1, i => addDays count i.nextDay

/-- The minute of the day. -/
def minuteOfDay (i : Instant) : Nat :=
  i.hour * 60 + i.minute

/-- The same date at another minute of the day. -/
def atMinute (i : Instant) (minute : Nat) : Instant :=
  { i with hour := minute / 60, minute := minute % 60 }

/-- The moment `count` minutes earlier, for less than a day. -/
def minutesEarlier (i : Instant) (count : Nat) : Instant :=
  if count ≤ i.minuteOfDay then i.atMinute (i.minuteOfDay - count)
  else (i.atMinute (i.minuteOfDay + 1440 - count)).previousDay

/-- The moment `count` minutes later, for less than a day. -/
def minutesLater (i : Instant) (count : Nat) : Instant :=
  if i.minuteOfDay + count < 1440 then i.atMinute (i.minuteOfDay + count)
  else (i.atMinute (i.minuteOfDay + count - 1440)).nextDay

/-- The moment `count` seconds later; not for leap seconds. -/
def addSeconds (i : Instant) (count : Nat) : Instant :=
  let total := i.minuteOfDay * 60 + i.second + count
  let inDay := total % 86400
  let moved := { i.atMinute (inDay / 60) with second := inDay % 60 }
  moved.addDays (total / 86400)

end Instant
end StorageFleet
