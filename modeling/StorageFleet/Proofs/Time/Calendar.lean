import Mathlib.Order.Monotone.Basic
import Mathlib.Tactic.SplitIfs
import StorageFleet.Time.Stamp

/-!
# Days and minutes in one row

Instants move from day to day.  Here they are numbered: `Instant.dayNumber` counts the days of the
proleptic Gregorian calendar and `Instant.minuteNumber` the minutes.  Going to the next day or the
one before is a step in this count (`dayNumber_nextDay`, `dayNumber_previousDay`), and no two dates
have one number (`eq_of_dayNumber_eq`).  So a time of day that is shown at an offset is the moment
that its own minute and the offset give, and two that give the same are one instant
(`atOffset_eq_of_same`).
-/

namespace StorageFleet.Instant

variable {i j : Instant} {year : Int} {month : Nat}

/-! ## The count of days -/

/-- The days before the first of January of a year. -/
def daysBeforeYear (year : Int) : Int :=
  365 * year + (year - 1) / 4 - (year - 1) / 100 + (year - 1) / 400

/-- The days of the first months of a year. -/
def daysUpTo (year : Int) : Nat → Nat
  | 0 => 0
  | month + 1 => daysUpTo year month + daysInMonth year (month + 1)

/-- The number of the day. -/
def dayNumber (i : Instant) : Int :=
  daysBeforeYear i.year + daysUpTo i.year (i.month - 1) + i.day

/-- The number of the minute. -/
def minuteNumber (i : Instant) : Int :=
  1440 * i.dayNumber + i.minuteOfDay

lemma daysUpTo_twelve (year : Int) : daysUpTo year 12 = if isLeapYear year then 366 else 365 := by
  cases h : isLeapYear year <;> simp [daysUpTo, daysInMonth, h]

lemma daysBeforeYear_succ (year : Int) :
    daysBeforeYear (year + 1) = daysBeforeYear year + daysUpTo year 12 := by
  rw [daysUpTo_twelve]
  unfold daysBeforeYear isLeapYear
  split_ifs with h <;> simp at h <;> omega

lemma daysBeforeYear_mono {later : Int} (h : year ≤ later) :
    daysBeforeYear year ≤ daysBeforeYear later := by
  unfold daysBeforeYear
  omega

lemma daysUpTo_mono (year : Int) : Monotone (daysUpTo year) :=
  monotone_nat_of_le_succ fun _ => Nat.le_add_right ..

/-! ## Dates -/

/-- The date is one of the calendar. -/
structure Dated (i : Instant) : Prop where
  month_pos : 1 ≤ i.month
  month_le : i.month ≤ 12
  day_pos : 1 ≤ i.day
  day_le : i.day ≤ daysInMonth i.year i.month

lemma daysInMonth_pos (year : Int) (month : Nat) : 1 ≤ daysInMonth year month := by
  unfold daysInMonth
  split_ifs <;> omega

namespace Dated

/-- The day lies within its month, counted from the beginning of the year. -/
lemma le_daysUpTo (h : i.Dated) :
    daysUpTo i.year (i.month - 1) + i.day ≤ daysUpTo i.year i.month := by
  obtain ⟨month, hmonth⟩ := Nat.exists_eq_add_of_le' h.month_pos
  have hday := h.day_le
  rw [hmonth] at hday ⊢
  exact Nat.add_le_add_left hday _

lemma dayNumber_le (h : i.Dated) :
    i.dayNumber ≤ daysBeforeYear i.year + daysUpTo i.year i.month := by
  have hmonth := h.le_daysUpTo
  unfold dayNumber
  omega

lemma lt_dayNumber (h : i.Dated) :
    daysBeforeYear i.year + daysUpTo i.year (i.month - 1) < i.dayNumber := by
  have hday := h.day_pos
  unfold dayNumber
  omega

lemma dayNumber_lt_of_year_lt (hi : i.Dated) (hj : j.Dated) (h : i.year < j.year) :
    i.dayNumber < j.dayNumber :=
  calc i.dayNumber
      ≤ daysBeforeYear i.year + daysUpTo i.year i.month := hi.dayNumber_le
    _ ≤ daysBeforeYear i.year + daysUpTo i.year 12 :=
        Int.add_le_add_left (Int.ofNat_le.2 (daysUpTo_mono _ hi.month_le)) _
    _ = daysBeforeYear (i.year + 1) := (daysBeforeYear_succ _).symm
    _ ≤ daysBeforeYear j.year := daysBeforeYear_mono h
    _ ≤ daysBeforeYear j.year + daysUpTo j.year (j.month - 1) :=
        Int.le_add_of_nonneg_right (by omega)
    _ < j.dayNumber := hj.lt_dayNumber

lemma dayNumber_lt_of_month_lt (hi : i.Dated) (hj : j.Dated) (hyear : i.year = j.year)
    (h : i.month < j.month) : i.dayNumber < j.dayNumber :=
  calc i.dayNumber
      ≤ daysBeforeYear i.year + daysUpTo i.year i.month := hi.dayNumber_le
    _ ≤ daysBeforeYear j.year + daysUpTo j.year (j.month - 1) := by
        rw [hyear]
        exact Int.add_le_add_left (Int.ofNat_le.2 (daysUpTo_mono _ (by omega))) _
    _ < j.dayNumber := hj.lt_dayNumber

/-- No two dates have one number. -/
theorem eq_of_dayNumber_eq (hi : i.Dated) (hj : j.Dated) (h : i.dayNumber = j.dayNumber) :
    i.year = j.year ∧ i.month = j.month ∧ i.day = j.day := by
  have hyear : i.year = j.year := by
    rcases Int.lt_trichotomy i.year j.year with hlt | heq | hlt
    · exact absurd h (hi.dayNumber_lt_of_year_lt hj hlt).ne
    · exact heq
    · exact absurd h (hj.dayNumber_lt_of_year_lt hi hlt).ne'
  have hmonth : i.month = j.month := by
    rcases Nat.lt_trichotomy i.month j.month with hlt | heq | hlt
    · exact absurd h (hi.dayNumber_lt_of_month_lt hj hyear hlt).ne
    · exact heq
    · exact absurd h (hj.dayNumber_lt_of_month_lt hi hyear.symm hlt).ne'
  refine ⟨hyear, hmonth, ?_⟩
  unfold dayNumber at h
  rw [hyear, hmonth] at h
  omega

lemma nextDay (h : i.Dated) : i.nextDay.Dated := by
  obtain ⟨hmonth, hmonth', hday, hday'⟩ := h
  unfold Instant.nextDay
  split_ifs with hin hwithin
  · exact ⟨hmonth, hmonth', by simp, hin⟩
  · exact ⟨by simp, hwithin, le_rfl, daysInMonth_pos _ _⟩
  · exact ⟨by simp, by simp, by simp, daysInMonth_pos _ _⟩

lemma dayNumber_nextDay (h : i.Dated) : i.nextDay.dayNumber = i.dayNumber + 1 := by
  obtain ⟨month, hmonth⟩ := Nat.exists_eq_add_of_le' h.month_pos
  have hday := h.day_le
  have hpast := h.month_le
  unfold Instant.nextDay dayNumber
  split_ifs with hin hwithin
  · simp only [Int.natCast_add, Int.natCast_one]
    omega
  · rw [hmonth] at hin hday ⊢
    simp only [Nat.add_sub_cancel, daysUpTo]
    omega
  · obtain rfl : month = 11 := by omega
    rw [hmonth] at hin hday ⊢
    have hyear := daysBeforeYear_succ i.year
    simp only [Nat.sub_self, Nat.add_sub_cancel, daysUpTo] at hyear ⊢
    omega

lemma previousDay (h : i.Dated) : i.previousDay.Dated := by
  obtain ⟨hmonth, hmonth', hday, hday'⟩ := h
  unfold Instant.previousDay
  split_ifs with hin hwithin
  · exact ⟨hmonth, hmonth', by simp; omega, by simp; omega⟩
  · exact ⟨by simp; omega, by simp; omega, daysInMonth_pos _ _, le_rfl⟩
  · exact ⟨by simp, by simp, by simp, by simp [daysInMonth]⟩

lemma nextDay_previousDay (h : i.Dated) : i.previousDay.nextDay = i := by
  obtain ⟨hmonth, hmonth', hday, hday'⟩ := h
  obtain ⟨year, month, day, hour, minute, second, nano⟩ := i
  dsimp only at hmonth hmonth' hday hday'
  unfold Instant.previousDay
  dsimp only
  split_ifs with hin hwithin
  · unfold Instant.nextDay
    dsimp only
    rw [if_pos (by omega), Nat.sub_add_cancel hday]
  · obtain rfl : day = 1 := by omega
    unfold Instant.nextDay
    dsimp only
    rw [if_neg (lt_irrefl _), if_pos (by omega), Nat.sub_add_cancel hmonth]
  · obtain rfl : day = 1 := by omega
    obtain rfl : month = 1 := by omega
    simp [Instant.nextDay, daysInMonth]

lemma dayNumber_previousDay (h : i.Dated) : i.previousDay.dayNumber = i.dayNumber - 1 := by
  have hnext := h.previousDay.dayNumber_nextDay
  rw [h.nextDay_previousDay] at hnext
  omega

end Dated

/-! ## Times of day -/

/-- The fields name a moment. -/
structure Proper (i : Instant) : Prop extends i.Dated where
  hour_le : i.hour ≤ 23
  minute_le : i.minute ≤ 59
  second_le : i.second ≤ 60
  nano_lt : i.nano < 1000000000

lemma isValid_iff : i.isValid = true ↔ i.Proper := by
  unfold isValid
  simp only [Bool.and_eq_true, decide_eq_true_eq]
  constructor
  · rintro ⟨⟨⟨hmonth, hmonth'⟩, hday, hday'⟩, ⟨⟨hhour, hminute⟩, hsecond⟩, hnano⟩
    exact ⟨⟨hmonth, hmonth', hday, hday'⟩, hhour, hminute, hsecond, hnano⟩
  · rintro ⟨⟨hmonth, hmonth', hday, hday'⟩, hhour, hminute, hsecond, hnano⟩
    exact ⟨⟨⟨hmonth, hmonth'⟩, hday, hday'⟩, ⟨⟨hhour, hminute⟩, hsecond⟩, hnano⟩

/-- The moment so many minutes later, or earlier if negative; seconds stay what they are. -/
structure Moved (i : Instant) (minutes : Int) (j : Instant) : Prop where
  proper : j.Proper
  minuteNumber_eq : j.minuteNumber = i.minuteNumber + minutes
  second_eq : j.second = i.second
  nano_eq : j.nano = i.nano
  year_ge : i.year - 1 ≤ j.year
  year_le : j.year ≤ i.year + 1

namespace Proper

variable {count : Nat} {minutes : Int}

lemma minuteOfDay_lt (h : i.Proper) : i.minuteOfDay < 1440 := by
  have hhour := h.hour_le
  have hminute := h.minute_le
  unfold minuteOfDay
  omega

lemma atMinute (h : i.Proper) (hcount : count < 1440) :
    i.Moved (count - i.minuteOfDay) (i.atMinute count) where
  proper := ⟨⟨h.month_pos, h.month_le, h.day_pos, h.day_le⟩, by simp only [Instant.atMinute]; omega,
    by simp only [Instant.atMinute]; omega, h.second_le, h.nano_lt⟩
  minuteNumber_eq := by
    simp only [minuteNumber, dayNumber, minuteOfDay, Instant.atMinute]
    omega
  second_eq := rfl
  nano_eq := rfl
  year_ge := by simp only [Instant.atMinute]; omega
  year_le := by simp only [Instant.atMinute]; omega

lemma nextDay (h : i.Proper) : i.Moved 1440 i.nextDay := by
  have hsame : i.nextDay.hour = i.hour ∧ i.nextDay.minute = i.minute ∧
      i.nextDay.second = i.second ∧ i.nextDay.nano = i.nano ∧
      i.year ≤ i.nextDay.year ∧ i.nextDay.year ≤ i.year + 1 := by
    unfold Instant.nextDay
    split_ifs <;> refine ⟨rfl, rfl, rfl, rfl, ?_, ?_⟩ <;> dsimp only <;> omega
  obtain ⟨hhour, hminute, hsecond, hnano, hyear, hyear'⟩ := hsame
  refine ⟨⟨h.toDated.nextDay, hhour ▸ h.hour_le, hminute ▸ h.minute_le, hsecond ▸ h.second_le,
    hnano ▸ h.nano_lt⟩, ?_, hsecond, hnano, by omega, hyear'⟩
  rw [minuteNumber, minuteNumber, h.toDated.dayNumber_nextDay, minuteOfDay, minuteOfDay, hhour,
    hminute]
  omega

lemma previousDay (h : i.Proper) : i.Moved (-1440) i.previousDay := by
  have hsame : i.previousDay.hour = i.hour ∧ i.previousDay.minute = i.minute ∧
      i.previousDay.second = i.second ∧ i.previousDay.nano = i.nano ∧
      i.year - 1 ≤ i.previousDay.year ∧ i.previousDay.year ≤ i.year := by
    unfold Instant.previousDay
    split_ifs <;> refine ⟨rfl, rfl, rfl, rfl, ?_, ?_⟩ <;> dsimp only <;> omega
  obtain ⟨hhour, hminute, hsecond, hnano, hyear, hyear'⟩ := hsame
  refine ⟨⟨h.toDated.previousDay, hhour ▸ h.hour_le, hminute ▸ h.minute_le, hsecond ▸ h.second_le,
    hnano ▸ h.nano_lt⟩, ?_, hsecond, hnano, hyear, by omega⟩
  rw [minuteNumber, minuteNumber, h.toDated.dayNumber_previousDay, minuteOfDay, minuteOfDay, hhour,
    hminute]
  omega

end Proper

/-- Moving within the day first, and then to another. -/
lemma Moved.trans {k : Instant} {first second total : Int} (h : i.Moved first j)
    (hyear : j.year = i.year) (hnext : j.Moved second k) (htotal : first + second = total) :
    i.Moved total k := by
  obtain ⟨-, hfirst, hsecond, hnano, -, -⟩ := h
  obtain ⟨proper, hlast, hsecond', hnano', hge, hle⟩ := hnext
  exact ⟨proper, by omega, hsecond'.trans hsecond, hnano'.trans hnano, by omega, by omega⟩

namespace Proper

variable {count : Nat}

lemma minutesLater (h : i.Proper) (hcount : count < 1440) :
    i.Moved count (i.minutesLater count) := by
  have hday := h.minuteOfDay_lt
  unfold Instant.minutesLater
  split_ifs with hin
  · have hmoved := h.atMinute hin
    rwa [show ((i.minuteOfDay + count : Nat) : Int) - i.minuteOfDay = count by omega] at hmoved
  · have hearly : i.minuteOfDay + count - 1440 < 1440 := by omega
    have hmoved := h.atMinute hearly
    exact hmoved.trans rfl hmoved.proper.nextDay (by omega)

lemma minutesEarlier (h : i.Proper) (hcount : count < 1440) :
    i.Moved (-count) (i.minutesEarlier count) := by
  have hday := h.minuteOfDay_lt
  unfold Instant.minutesEarlier
  split_ifs with hin
  · have hearly : i.minuteOfDay - count < 1440 := by omega
    have hmoved := h.atMinute hearly
    rwa [show ((i.minuteOfDay - count : Nat) : Int) - i.minuteOfDay = -count by omega] at hmoved
  · have hlate : i.minuteOfDay + 1440 - count < 1440 := by omega
    have hmoved := h.atMinute hlate
    exact hmoved.trans rfl hmoved.proper.previousDay (by omega)

end Proper

/-! ## Offsets -/

/-- The minutes by which the offset is ahead of universal time. -/
def Offset.ahead (offset : Offset) : Int :=
  if offset.west then -offset.minutes else offset.minutes

theorem Proper.atOffset (h : i.Proper) {offset : Offset} (hoffset : offset.minutes < 1440) :
    i.Moved (-offset.ahead) (i.atOffset offset) := by
  unfold Instant.atOffset Offset.ahead
  split_ifs
  · rw [Int.neg_neg]
    exact h.minutesLater hoffset
  · exact h.minutesEarlier hoffset

/-- Moments are told apart by their minute and what is behind it. -/
theorem Proper.eq_of_same (hi : i.Proper) (hj : j.Proper)
    (hminute : i.minuteNumber = j.minuteNumber) (hsecond : i.second = j.second)
    (hnano : i.nano = j.nano) : i = j := by
  have hiDay := hi.minuteOfDay_lt
  have hjDay := hj.minuteOfDay_lt
  have hhour := hi.minute_le
  have hhour' := hj.minute_le
  unfold minuteNumber at hminute
  obtain ⟨hyear, hmonth, hday⟩ := hi.toDated.eq_of_dayNumber_eq hj.toDated (by omega)
  have htime : i.minuteOfDay = j.minuteOfDay := by omega
  unfold minuteOfDay at htime
  obtain ⟨year, month, day, hour, minute, second, nano⟩ := i
  obtain ⟨year', month', day', hour', minute', second', nano'⟩ := j
  simp only [mk.injEq]
  simp only at hyear hmonth hday htime hhour hhour' hsecond hnano
  exact ⟨hyear, hmonth, hday, by omega, by omega, hsecond, hnano⟩

/-- What is shown at two offsets is one moment if the minutes agree. -/
theorem atOffset_eq_of_same (hi : i.Proper) (hj : j.Proper) {here there : Offset}
    (hhere : here.minutes < 1440) (hthere : there.minutes < 1440)
    (hminute : i.minuteNumber - here.ahead = j.minuteNumber - there.ahead)
    (hsecond : i.second = j.second) (hnano : i.nano = j.nano) :
    i.atOffset here = j.atOffset there := by
  have hmoved := hi.atOffset hhere
  have hmoved' := hj.atOffset hthere
  refine hmoved.proper.eq_of_same hmoved'.proper ?_ ?_ ?_
  · rw [hmoved.minuteNumber_eq, hmoved'.minuteNumber_eq]
    omega
  · rw [hmoved.second_eq, hmoved'.second_eq, hsecond]
  · rw [hmoved.nano_eq, hmoved'.nano_eq, hnano]

end StorageFleet.Instant
