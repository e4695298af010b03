import Mathlib.Algebra.Group.Nat.Defs
import StorageFleet.Proofs.Json.Reading
import StorageFleet.Proofs.Time.Calendar

/-!
# Time stamps that are read back

A time stamp is read field by field: a numeral of bounded width ends where its width or its digits
end (`readNumber_append`), and a mark or an offset where it stands.  So the stamps that
`Instant.render` writes are read back (`read_render`).  What is read is always a proper moment
(`proper_of_read`), also where an offset moved it to another day.

`TimeStamp` is a stamp in the strict form, with up to nine digits of fraction and an offset or a
`Z`.  All of them are read, and two that show one moment at different offsets are read alike
(`TimeStamp.read_text_of_same`).
-/

namespace StorageFleet

namespace Number

lemma length_toList_padded {width n : Nat} (hwidth : 0 < width) (h : n < 10 ^ width) :
    (padded width n).toList.length = width := by
  have hdigits : (toString n).length ≤ width := by
    rw [← String.length_toList, Nat.toString_eq_repr, Nat.toList_repr]
    exact (Nat.length_toDigits_le_iff (by decide) hwidth).2 h
  have hlength : (Nat.toDigits 10 n).length = (toString n).length := by
    rw [← String.length_toList, Nat.toString_eq_repr, Nat.toList_repr]
  rw [toList_padded, List.length_append, List.length_replicate, hlength]
  omega

end Number

namespace Instant

variable {rest cs : List Char}

/-- What follows a numeral does not begin with a digit. -/
def Ends (rest : List Char) : Prop :=
  ∀ c tail, rest = c :: tail → c.isDigit = false

lemma takeWhile_isDigit_of_ends (h : Ends rest) (count : Nat) :
    (rest.take count).takeWhile Char.isDigit = [] := by
  cases rest with
  | nil => simp
  | cons c tail => cases count <;> simp [h c tail rfl]

/-- A numeral ends where its width or its digits end. -/
lemma readNumber_append {width : Nat} (hdigits : ∀ c ∈ cs, c.isDigit) (hne : cs ≠ [])
    (hwidth : cs.length ≤ width) (hrest : cs.length = width ∨ Ends rest) :
    readNumber width (cs ++ rest) = some (Nat.ofDigitChars 10 cs 0, rest) := by
  have htaken : ((cs ++ rest).take width).takeWhile Char.isDigit = cs := by
    rw [List.take_append, List.take_of_length_le hwidth, List.takeWhile_append_of_pos hdigits]
    have hnone : (rest.take (width - cs.length)).takeWhile Char.isDigit = [] := by
      rcases hrest with hexact | hends
      · rw [hexact, Nat.sub_self, List.take_zero, List.takeWhile_nil]
      · exact takeWhile_isDigit_of_ends hends _
    rw [hnone, List.append_nil]
  simp [readNumber, htaken, hne, Number.readDigits_eq_ofDigitChars hdigits]

lemma skipBlank_of_not_blank {c : Char} (h : Text.isBlank c = false) (rest : List Char) :
    skipBlank (c :: rest) = c :: rest := by
  simp [skipBlank, h]

lemma not_blank_of_isDigit {c : Char} (h : c.isDigit) : Text.isBlank c = false := by
  simp only [Char.isDigit, Bool.and_eq_true, decide_eq_true_eq, ge_iff_le,
    UInt32.le_iff_toNat_le] at h
  have hlow : 48 ≤ c.toNat := h.1
  have hhigh : c.toNat ≤ 57 := h.2
  simp [Text.isBlank]
  omega

lemma skipBlank_append (hdigits : ∀ c ∈ cs, c.isDigit) (hne : cs ≠ []) :
    skipBlank (cs ++ rest) = cs ++ rest := by
  cases cs with
  | nil => exact absurd rfl hne
  | cons c tail =>
    exact skipBlank_of_not_blank (not_blank_of_isDigit (hdigits c List.mem_cons_self)) _

/-! ## Fields -/

/-- The digits of a number of two digits. -/
def two (n : Nat) : List Char :=
  (Number.padded 2 n).toList

lemma readField_two {n : Nat} (h : n < 100) (rest : List Char) :
    readField 2 (two n ++ rest) = some (n, rest) := by
  have hdigits : ∀ c ∈ two n, c.isDigit := fun c hc => Number.isDigit_of_mem_padded hc
  have hne : two n ≠ [] := Number.toList_padded_ne_nil 2 n
  have hlength : (two n).length = 2 := Number.length_toList_padded (by decide) h
  rw [readField, skipBlank_append hdigits hne,
    readNumber_append hdigits hne hlength.le (.inl hlength), two, Number.ofDigitChars_padded]

lemma readMark_cons {mark : Char} (h : Text.isBlank mark = false) (rest : List Char) :
    readMark mark (mark :: rest) = some rest := by
  rw [readMark, skipBlank_of_not_blank h]
  exact if_pos rfl

lemma readYear_plain (hdigits : ∀ c ∈ cs, c.isDigit) (hne : cs ≠ []) (rest : List Char) :
    readYear (cs ++ rest) = (readNumber 4 (cs ++ rest)).map fun (n, rest) => ((n : Int), rest) := by
  unfold readYear
  rw [skipBlank_append hdigits hne]
  obtain ⟨c, tail, rfl⟩ := List.exists_cons_of_ne_nil hne
  have hdigit := hdigits c List.mem_cons_self
  split
  · next heq =>
    cases heq
    exact absurd hdigit (by decide)
  · next heq =>
    cases heq
    exact absurd hdigit (by decide)
  · rfl

lemma readYear_minus (hdigits : ∀ c ∈ cs, c.isDigit) (hne : cs ≠ []) (hends : Ends rest) :
    readYear ('-' :: (cs ++ rest)) = some (-(Nat.ofDigitChars 10 cs 0 : Int), rest) := by
  have hread :
      readNumber (cs ++ rest).length (cs ++ rest) = some (Nat.ofDigitChars 10 cs 0, rest) :=
    readNumber_append hdigits hne (by simp) (.inr hends)
  unfold readYear
  rw [skipBlank_of_not_blank (by decide)]
  change (readNumber (cs ++ rest).length (cs ++ rest)).map _ = _
  rw [hread]
  rfl

lemma readYear_plus (hdigits : ∀ c ∈ cs, c.isDigit) (hne : cs ≠ []) (hends : Ends rest) :
    readYear ('+' :: (cs ++ rest)) = some ((Nat.ofDigitChars 10 cs 0 : Int), rest) := by
  have hread :
      readNumber (cs ++ rest).length (cs ++ rest) = some (Nat.ofDigitChars 10 cs 0, rest) :=
    readNumber_append hdigits hne (by simp) (.inr hends)
  unfold readYear
  rw [skipBlank_of_not_blank (by decide)]
  change (readNumber (cs ++ rest).length (cs ++ rest)).map _ = _
  rw [hread]
  rfl

/-- A year is read up to its hyphen. -/
lemma readYear_render (year : Int) (rest : List Char) :
    readYear ((renderYear year).toList ++ '-' :: rest) = some (year, '-' :: rest) := by
  have hends : Ends ('-' :: rest) := by
    intro c tail h
    cases h
    rfl
  have hdigits (n : Nat) : ∀ c ∈ (Number.padded 4 n).toList, c.isDigit :=
    fun c hc => Number.isDigit_of_mem_padded hc
  have hne := Number.toList_padded_ne_nil 4
  unfold renderYear
  split_ifs with hplain hnegative
  · have hlength : (Number.padded 4 year.toNat).toList.length = 4 :=
      Number.length_toList_padded (by decide) (by omega)
    rw [readYear_plain (hdigits _) (hne _),
      readNumber_append (hdigits _) (hne _) hlength.le (.inr hends), Number.ofDigitChars_padded]
    simp only [Option.map_some, Int.toNat_of_nonneg hplain.1]
  · have hread := readYear_minus (hdigits year.natAbs) (hne _) hends
    rw [Number.ofDigitChars_padded, Int.ofNat_natAbs_of_nonpos hnegative.le, Int.neg_neg] at hread
    rw [String.toList_append]
    exact hread
  · have hread := readYear_plus (hdigits year.natAbs) (hne _) hends
    rw [Number.ofDigitChars_padded, Int.natAbs_of_nonneg (by omega)] at hread
    rw [String.toList_append]
    exact hread

/-! ## Fractions -/

/-- The nanoseconds that up to nine digits after the point stand for. -/
def nanoOfDigits (digits : List Char) : Nat :=
  Nat.ofDigitChars 10 digits 0 * Number.powerOfTen (9 - digits.length)

lemma readFraction_none (h : ∀ tail, rest ≠ '.' :: tail) : readFraction rest = some (0, rest) := by
  unfold readFraction
  split
  · next tail => exact absurd rfl (h tail)
  · rfl

lemma readFraction_some (hdigits : ∀ c ∈ cs, c.isDigit) (hne : cs ≠ []) (hlength : cs.length ≤ 9)
    (hends : Ends rest) : readFraction ('.' :: (cs ++ rest)) = some (nanoOfDigits cs, rest) := by
  have hstays : rest.dropWhile Char.isDigit = rest := by
    cases rest with
    | nil => rfl
    | cons c tail => simp [hends c tail rfl]
  change (readNumber 9 (cs ++ rest)).map _ = _
  rw [readNumber_append hdigits hne hlength (.inr hends), Option.map_some]
  simp [hstays, nanoOfDigits]

/-! ## Offsets -/

lemma readTwo_two {n : Nat} (h : n < 100) (rest : List Char) :
    readTwo (two n ++ rest) = some (n, rest) := by
  have hdigits : ∀ c ∈ two n, c.isDigit := fun c hc => Number.isDigit_of_mem_padded hc
  have hlength : (two n).length = 2 := Number.length_toList_padded (by decide) h
  have hvalue : Nat.ofDigitChars 10 (two n) 0 = n := Number.ofDigitChars_padded 2 n
  obtain ⟨a, b, hab⟩ := List.length_eq_two.1 hlength
  rw [hab] at hdigits hvalue ⊢
  simp only [Nat.ofDigitChars_cons, Nat.ofDigitChars_nil] at hvalue
  simp only [readTwo, List.cons_append, List.nil_append,
    Number.digit?_of_isDigit (hdigits a (by simp)), Number.digit?_of_isDigit (hdigits b (by simp)),
    Option.bind_eq_bind, Option.bind_some, Option.pure_def, Option.some.injEq, Prod.mk.injEq,
    and_true]
  omega

lemma readOffsetDigits_two {hours minutes : Nat} (hhours : hours < 24) (hminutes : minutes < 60)
    (west : Bool) (rest : List Char) :
    readOffsetDigits west (two hours ++ ':' :: (two minutes ++ rest)) =
      some (⟨west, hours * 60 + minutes⟩, rest) := by
  have hdrop : (':' :: (two minutes ++ rest)).dropWhile (fun c => c == ':' || Text.isBlank c) =
      two minutes ++ rest := by
    obtain ⟨c, tail, hc⟩ := List.exists_cons_of_ne_nil (Number.toList_padded_ne_nil 2 minutes)
    have hdigit : c.isDigit := Number.isDigit_of_mem_padded (hc ▸ List.mem_cons_self)
    have hcolon : c ≠ ':' := by
      rintro rfl
      exact absurd hdigit (by decide)
    simp [two, hc, not_blank_of_isDigit hdigit, hcolon]
  unfold readOffsetDigits
  simp only [readTwo_two (show hours < 100 by omega), Option.bind_eq_bind, Option.bind_some, hdrop,
    readTwo_two (show minutes < 100 by omega)]
  exact if_pos ⟨by omega, hhours⟩

end Instant

/-- How a time stamp gives its offset: with a letter for universal time, or in hours and minutes. -/
inductive Zone where
  | universal (small : Bool)
  | offset (west : Bool) (hours minutes : Nat)
  deriving Repr, DecidableEq

namespace Zone

def chars : Zone → List Char
  | .universal small => [if small then 'z' else 'Z']
  | .offset west hours minutes =>
    (if west then '-' else '+') :: (Instant.two hours ++ ':' :: Instant.two minutes)

def toOffset : Zone → Instant.Offset
  | .universal _ => ⟨false, 0⟩
  | .offset west hours minutes => ⟨west, hours * 60 + minutes⟩

/-- The hours and minutes are those of a clock. -/
def Correct : Zone → Prop
  | .universal _ => True
  | .offset _ hours minutes => hours < 24 ∧ minutes < 60

variable {zone : Zone}

lemma Correct.minutes_lt (h : zone.Correct) : zone.toOffset.minutes < 1440 := by
  cases zone with
  | universal small => exact Nat.zero_lt_succ _
  | offset west hours minutes =>
    obtain ⟨hhours, hminutes⟩ := h
    simp only [toOffset]
    omega

/-- The offset is set off from what stands before it. -/
lemma exists_chars (zone : Zone) : ∃ c tail, zone.chars = c :: tail ∧ Text.isBlank c = false ∧
    c.isDigit = false ∧ c ≠ '.' := by
  cases zone with
  | universal small => exact ⟨_, _, rfl, by cases small <;> decide⟩
  | offset west hours minutes => exact ⟨_, _, rfl, by cases west <;> decide⟩

lemma chars_ne_point (zone : Zone) (rest : List Char) : zone.chars ≠ '.' :: rest := by
  obtain ⟨c, tail, h, -, -, hpoint⟩ := zone.exists_chars
  rw [h]
  rintro ⟨⟩
  exact hpoint rfl

lemma ends_chars (zone : Zone) : Instant.Ends zone.chars := by
  intro c tail h
  obtain ⟨c', tail', h', -, hdigit, -⟩ := zone.exists_chars
  cases h.symm.trans h'
  exact hdigit

lemma skipBlank_chars (zone : Zone) : Instant.skipBlank zone.chars = zone.chars := by
  obtain ⟨c, tail, h, hblank, -⟩ := zone.exists_chars
  rw [h, Instant.skipBlank_of_not_blank hblank]

lemma readOffset_chars (h : zone.Correct) :
    Instant.readOffset zone.chars = some (zone.toOffset, []) := by
  cases zone with
  | universal small => cases small <;> rfl
  | offset west hours minutes =>
    have hread := Instant.readOffsetDigits_two h.1 h.2 west []
    rw [List.append_nil] at hread
    cases west <;> exact hread

end Zone

namespace Instant

/-! ## Whole stamps -/

variable {i : Instant} {zone : Zone}

lemma daysInMonth_le (year : Int) (month : Nat) : daysInMonth year month ≤ 31 := by
  unfold daysInMonth
  split_ifs <;> omega

/-- Reads the time of day and the offset that follow a date. -/
def readTime (year : Int) (month day : Nat) (cs : List Char) : Option Instant := do
  let (hour, cs) ← readField 2 cs
  let cs ← readMark ':' cs
  let (minute, cs) ← readField 2 cs
  let cs ← readMark ':' cs
  let (second, cs) ← readField 2 cs
  let (nano, cs) ← readFraction cs
  let (offset, cs) ← readOffset (skipBlank cs)
  let shown : Instant := ⟨year, month, day, hour, minute, second, nano⟩
  let moment := shown.atOffset offset
  if (skipBlank cs).isEmpty ∧ yearInRange year ∧ shown.isValid ∧ yearInRange moment.year then
    some moment
  else none

/-- A stamp is a date and a time of day with one of three marks between them. -/
lemma readChars_eq (cs : List Char) : readChars cs = (do
    let (year, cs) ← readYear cs
    let cs ← readMark '-' cs
    let (month, cs) ← readField 2 cs
    let cs ← readMark '-' cs
    let (day, cs) ← readField 2 cs
    match cs with
    | 'T' :: rest => readTime year month day rest
    | 't' :: rest => readTime year month day rest
    | ' ' :: rest => readTime year month day rest
    | _ => none) :=
  rfl

lemma readTime_of_parts (proper : i.Proper) (correct : zone.Correct)
    (hyear : yearInRange i.year = true)
    (hmoment : yearInRange (i.atOffset zone.toOffset).year = true) {fraction : List Char}
    (readsFraction : readFraction (fraction ++ zone.chars) = some (i.nano, zone.chars)) :
    readTime i.year i.month i.day (two i.hour ++ ':' :: (two i.minute ++ ':' :: (two i.second ++
      (fraction ++ zone.chars)))) = some (i.atOffset zone.toOffset) := by
  have hhour := proper.hour_le
  have hminute := proper.minute_le
  have hsecond := proper.second_le
  have hvalid : (⟨i.year, i.month, i.day, i.hour, i.minute, i.second, i.nano⟩ : Instant).isValid =
      true := isValid_iff.2 proper
  unfold readTime
  simp only [readMark_cons (show Text.isBlank ':' = false by decide),
    readField_two (show i.hour < 100 by omega), readField_two (show i.minute < 100 by omega),
    readField_two (show i.second < 100 by omega), Option.bind_eq_bind, Option.bind_some,
    readsFraction, zone.skipBlank_chars, Zone.readOffset_chars correct]
  exact if_pos ⟨rfl, hyear, hvalid, hmoment⟩

/-- A date and time with an offset is read as the moment that it shows. -/
theorem readChars_of_parts (proper : i.Proper) (correct : zone.Correct)
    (hyear : yearInRange i.year = true)
    (hmoment : yearInRange (i.atOffset zone.toOffset).year = true)
    {year fraction : List Char} {mark : Char} (hmark : mark ∈ ['T', 't', ' '])
    (readsYear : ∀ rest, readYear (year ++ '-' :: rest) = some (i.year, '-' :: rest))
    (readsFraction : readFraction (fraction ++ zone.chars) = some (i.nano, zone.chars)) :
    readChars (year ++ '-' :: (two i.month ++ '-' :: (two i.day ++ mark :: (two i.hour ++
      ':' :: (two i.minute ++ ':' :: (two i.second ++ (fraction ++ zone.chars))))))) =
      some (i.atOffset zone.toOffset) := by
  have hmonth := proper.month_le
  have hday := proper.day_le.trans (daysInMonth_le _ _)
  have htime := readTime_of_parts proper correct hyear hmoment readsFraction
  rw [readChars_eq]
  simp only [readsYear, readMark_cons (show Text.isBlank '-' = false by decide),
    readField_two (show i.month < 100 by omega), readField_two (show i.day < 100 by omega),
    Option.bind_eq_bind, Option.bind_some]
  simp only [List.mem_cons, List.not_mem_nil, or_false] at hmark
  rcases hmark with rfl | rfl | rfl
  · exact htime
  · exact htime
  · exact htime

/-! ## What is written is read -/

lemma Proper.atOffset_universal (h : i.Proper) (small : Bool) :
    i.atOffset (Zone.universal small).toOffset = i := by
  have hminutes : (Zone.universal small).toOffset.minutes < 1440 := Nat.zero_lt_succ _
  have hmoved := h.atOffset hminutes
  refine hmoved.proper.eq_of_same h ?_ hmoved.second_eq hmoved.nano_eq
  rw [hmoved.minuteNumber_eq]
  exact Int.add_zero _

/-- The digits of a fraction stand for the nanoseconds that they were made from. -/
lemma readFraction_padded {width value : Nat} (hwidth : 0 < width) (hnine : width ≤ 9)
    (hvalue : value < 10 ^ width) (zone : Zone) :
    readFraction (("." ++ Number.padded width value).toList ++ zone.chars) =
      some (value * Number.powerOfTen (9 - width), zone.chars) := by
  have hlength := Number.length_toList_padded hwidth hvalue
  have hdigits : ∀ c ∈ (Number.padded width value).toList, c.isDigit :=
    fun c hc => Number.isDigit_of_mem_padded hc
  have hread := readFraction_some hdigits (Number.toList_padded_ne_nil _ _)
    (hlength.le.trans hnine) zone.ends_chars
  rw [nanoOfDigits, Number.ofDigitChars_padded, hlength] at hread
  rw [String.toList_append]
  exact hread

lemma readFraction_render {nano : Nat} (h : nano < 1000000000) (zone : Zone) :
    readFraction ((renderFraction nano).toList ++ zone.chars) = some (nano, zone.chars) := by
  unfold renderFraction
  split_ifs with hzero hmilli hmicro
  · subst hzero
    exact readFraction_none zone.chars_ne_point
  · rw [readFraction_padded (by decide) (by decide) (by omega)]
    congr 2
    change nano / 1000000 * 1000000 = nano
    omega
  · rw [readFraction_padded (by decide) (by decide) (by omega)]
    congr 2
    change nano / 1000 * 1000 = nano
    omega
  · rw [readFraction_padded (by decide) (by decide) (by omega)]
    congr 2
    exact Nat.mul_one nano

/-- A moment is read back from its stamp. -/
theorem read_render (proper : i.Proper) (hyear : yearInRange i.year = true) :
    read (render i) = some i := by
  have hsame := proper.atOffset_universal false
  have hmoment : yearInRange (i.atOffset (Zone.universal false).toOffset).year = true := by
    rw [hsame]
    exact hyear
  have hmark : 'T' ∈ ['T', 't', ' '] := List.mem_cons_self
  have hcorrect : (Zone.universal false).Correct := trivial
  have hread := readChars_of_parts proper hcorrect hyear hmoment hmark (readYear_render i.year)
    (readFraction_render proper.nano_lt _)
  rw [hsame] at hread
  have htext : (render i).toList = (renderYear i.year).toList ++ '-' :: (two i.month ++
      '-' :: (two i.day ++ 'T' :: (two i.hour ++ ':' :: (two i.minute ++ ':' :: (two i.second ++
      ((renderFraction i.nano).toList ++ (Zone.universal false).chars)))))) := by
    simp [render, two, Zone.chars]
  rw [read, htext]
  exact hread

/-! ## What is read is proper -/

lemma minutes_lt_of_readOffsetDigits {west : Bool} {cs rest : List Char} {offset : Offset}
    (h : readOffsetDigits west cs = some (offset, rest)) : offset.minutes < 1440 := by
  simp only [readOffsetDigits, Option.bind_eq_bind, Option.bind_eq_some_iff] at h
  obtain ⟨⟨hours, _⟩, -, ⟨minutes, _⟩, -, h⟩ := h
  split_ifs at h with hclock
  cases h
  dsimp only at hclock ⊢
  omega

lemma minutes_lt_of_readOffset {cs rest : List Char} {offset : Offset}
    (h : readOffset cs = some (offset, rest)) : offset.minutes < 1440 := by
  unfold readOffset at h
  split at h
  · exact minutes_lt_of_readOffsetDigits h
  · exact minutes_lt_of_readOffsetDigits h
  · exact minutes_lt_of_readOffsetDigits h
  · cases h
    exact Nat.zero_lt_succ _
  · cases h
    exact Nat.zero_lt_succ _
  · split_ifs at h
    cases h
    exact Nat.zero_lt_succ _
  · cases h

lemma proper_of_readTime {year : Int} {month day : Nat}
    (h : readTime year month day cs = some i) : i.Proper ∧ yearInRange i.year = true := by
  unfold readTime at h
  simp only [Option.bind_eq_bind, Option.bind_eq_some_iff] at h
  obtain ⟨⟨hour, _⟩, -, _, -, ⟨minute, _⟩, -, _, -, ⟨second, _⟩, -, ⟨nano, _⟩, -, ⟨offset, _⟩,
    hoffset, h⟩ := h
  split_ifs at h with hchecks
  obtain ⟨-, -, hvalid, hyear⟩ := hchecks
  cases h
  exact ⟨((isValid_iff.1 hvalid).atOffset (minutes_lt_of_readOffset hoffset)).proper, hyear⟩

theorem proper_of_read {text : String} (h : read text = some i) :
    i.Proper ∧ yearInRange i.year = true := by
  rw [read, readChars_eq] at h
  simp only [Option.bind_eq_bind, Option.bind_eq_some_iff] at h
  obtain ⟨⟨year, _⟩, -, _, -, ⟨month, _⟩, -, _, -, ⟨day, _⟩, -, h⟩ := h
  split at h
  · exact proper_of_readTime h
  · exact proper_of_readTime h
  · exact proper_of_readTime h
  · cases h

end Instant

/-! ## Stamps with offsets -/

/-- A time stamp: date and time as they are shown, a mark between them, the digits of the fraction
of the second, and the offset. -/
structure TimeStamp where
  year : Nat
  month : Nat
  day : Nat
  mark : Char
  hour : Nat
  minute : Nat
  second : Nat
  fraction : List Char
  zone : Zone
  deriving Repr, DecidableEq

lemma Instant.yearInRange_of_le {year : Int} (hge : -1 ≤ year) (hle : year ≤ 10000) :
    yearInRange year = true := by
  have h : -262143 ≤ year ∧ year ≤ 262142 := by omega
  simp [yearInRange, h]

namespace TimeStamp

open Instant (two)

/-- The text. -/
def text (stamp : TimeStamp) : String :=
  String.ofList ((Number.padded 4 stamp.year).toList ++ '-' :: (two stamp.month ++
    '-' :: (two stamp.day ++ stamp.mark :: (two stamp.hour ++ ':' :: (two stamp.minute ++
    ':' :: (two stamp.second ++ ((if stamp.fraction = [] then [] else '.' :: stamp.fraction) ++
    stamp.zone.chars)))))))

/-- The date and time that are shown. -/
def shown (stamp : TimeStamp) : Instant where
  year := stamp.year
  month := stamp.month
  day := stamp.day
  hour := stamp.hour
  minute := stamp.minute
  second := stamp.second
  nano := Instant.nanoOfDigits stamp.fraction

/-- The year has four digits, the fraction at most nine, and what is shown is a date and a time of
day. -/
structure Correct (stamp : TimeStamp) : Prop where
  year_le : stamp.year ≤ 9999
  proper : stamp.shown.Proper
  mark_mem : stamp.mark ∈ ['T', 't', ' ']
  digits : ∀ c ∈ stamp.fraction, c.isDigit
  length_le : stamp.fraction.length ≤ 9
  zone : stamp.zone.Correct

/-- Two stamps denote the same moment: their minutes agree once the offsets are taken off, and so do
the seconds and fractions, which no offset changes. -/
structure Same (stamp other : TimeStamp) : Prop where
  minute : stamp.shown.minuteNumber - stamp.zone.toOffset.ahead =
    other.shown.minuteNumber - other.zone.toOffset.ahead
  second : stamp.second = other.second
  nano : stamp.shown.nano = other.shown.nano

variable {stamp other : TimeStamp}

/-- A correct stamp is read as the moment that it shows. -/
theorem read_text (h : stamp.Correct) :
    Instant.read stamp.text = some (stamp.shown.atOffset stamp.zone.toOffset) := by
  have hmoved := h.proper.atOffset h.zone.minutes_lt
  have hyear := h.year_le
  have hge : (stamp.year : Int) - 1 ≤ (stamp.shown.atOffset stamp.zone.toOffset).year :=
    hmoved.year_ge
  have hle : (stamp.shown.atOffset stamp.zone.toOffset).year ≤ (stamp.year : Int) + 1 :=
    hmoved.year_le
  have hrange : Instant.yearInRange stamp.shown.year = true :=
    Instant.yearInRange_of_le (by simp only [shown]; omega) (by simp only [shown]; omega)
  have hrange' : Instant.yearInRange (stamp.shown.atOffset stamp.zone.toOffset).year = true :=
    Instant.yearInRange_of_le (by omega) (by omega)
  have hplain : Instant.renderYear stamp.year = Number.padded 4 stamp.year := by
    rw [Instant.renderYear, if_pos (by omega), Int.toNat_natCast]
  have readsYear := Instant.readYear_render stamp.year
  rw [hplain] at readsYear
  have readsFraction : Instant.readFraction
      ((if stamp.fraction = [] then [] else '.' :: stamp.fraction) ++ stamp.zone.chars) =
        some (stamp.shown.nano, stamp.zone.chars) := by
    split_ifs with hnone
    · rw [shown, hnone]
      exact Instant.readFraction_none stamp.zone.chars_ne_point
    · exact Instant.readFraction_some h.digits hnone h.length_le stamp.zone.ends_chars
  rw [Instant.read, text, String.toList_ofList]
  exact Instant.readChars_of_parts h.proper h.zone hrange hrange' h.mark_mem readsYear readsFraction

/-- Stamps that denote the same moment are read alike, whatever their offsets. -/
theorem read_text_of_same (h : stamp.Correct) (hother : other.Correct) (hsame : stamp.Same other) :
    ∃ i, Instant.read stamp.text = some i ∧ Instant.read other.text = some i := by
  refine ⟨_, read_text h, ?_⟩
  rw [read_text hother, Instant.atOffset_eq_of_same h.proper hother.proper h.zone.minutes_lt
    hother.zone.minutes_lt hsame.minute hsame.second hsame.nano]

/-- New Year's Eve in universal time is New Year's Day two hours to the east. -/
example : Instant.read "2024-01-01T01:30:00.500+02:00" = Instant.read "2023-12-31 23:30:00.5z" := by
  decide

end TimeStamp
end StorageFleet
