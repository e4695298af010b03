import Mathlib.Tactic.Common
import StorageFleet.Text.Utf8

/-!
# Reading UTF-8 undoes writing it

`decodeUtf8?_eq_some_iff` says which bytes are read as a text, and as which: those that the text is
written with, and no others.  So a text has one spelling, and two files that are read as the same
text are the same file.

The reader goes character by character.  `nextUtf8_eq_some_iff` is what one step does: it takes off
the bytes of a character just if they stand in front.  The whole follows by induction over the
steps; each of them takes off at least one byte, so that as many steps as there are bytes suffice.

## What a leading byte says

A leading byte tells how many bytes follow and holds the highest bits of the character.  The bounds
on the first byte behind it shut out what could be written shorter, the halves of pairs, and what
lies above the last character.  In the other direction these bounds are no loss: a character that is
written with so many bytes keeps them (`utf8Lead_of_lt`).
-/

namespace StorageFleet.Text

/-! ## The bytes of a character -/

/-- The byte that carries the lowest six bits of `n` behind a leading byte. -/
def tailByte (n : Nat) : UInt8 :=
  UInt8.ofNat (0x80 + n % 64)

lemma toNat_tailByte (n : Nat) : (tailByte n).toNat = 0x80 + n % 64 := by
  have hlt : 0x80 + n % 64 < 256 := by omega
  simp [tailByte, Nat.mod_eq_of_lt hlt]

/-- A byte that may follow a leading byte is the one that carries its own bits. -/
lemma eq_tailByte {b : UInt8} {n : Nat} (hlow : 0x80 ≤ b.toNat) (hhigh : b.toNat ≤ 0xBF)
    (hn : n % 64 = b.toNat - 0x80) : b = tailByte n := by
  apply UInt8.toNat_inj.1
  rw [toNat_tailByte]
  omega

/-- A byte is given by its number. -/
lemma eq_ofNat {b : UInt8} {n : Nat} (h : b.toNat = n) : b = UInt8.ofNat n := by
  rw [← h]
  exact (UInt8.ofNat_toNat).symm

lemma toNat_ofNat_of_lt {n : Nat} (h : n < 256) : (UInt8.ofNat n).toNat = n :=
  UInt8.toNat_ofNat_of_lt' h

variable {c : Char} {n : Nat}

lemma utf8Bytes_one (h : c.toNat < 0x80) : utf8Bytes c = [UInt8.ofNat c.toNat] := by
  simp [utf8Bytes, h]

lemma utf8Bytes_two (hlow : 0x80 ≤ c.toNat) (hhigh : c.toNat < 0x800) :
    utf8Bytes c = [UInt8.ofNat (0xC0 + c.toNat / 64), tailByte c.toNat] := by
  simp [utf8Bytes, tailByte, hhigh, Nat.not_lt.2 hlow]

lemma utf8Bytes_three (hlow : 0x800 ≤ c.toNat) (hhigh : c.toNat < 0x10000) :
    utf8Bytes c = [UInt8.ofNat (0xE0 + c.toNat / 4096), tailByte (c.toNat / 64),
      tailByte c.toNat] := by
  have hone : ¬ c.toNat < 0x80 := by omega
  simp [utf8Bytes, tailByte, hhigh, hone, Nat.not_lt.2 hlow]

lemma utf8Bytes_four (hlow : 0x10000 ≤ c.toNat) :
    utf8Bytes c = [UInt8.ofNat (0xF0 + c.toNat / 262144), tailByte (c.toNat / 4096),
      tailByte (c.toNat / 64), tailByte c.toNat] := by
  have hone : ¬ c.toNat < 0x80 := by omega
  have htwo : ¬ c.toNat < 0x800 := by omega
  simp [utf8Bytes, tailByte, hone, htwo, Nat.not_lt.2 hlow]

/-- The number of a character is below the halves of pairs or above them. -/
lemma toNat_valid (c : Char) : c.toNat < 0xD800 ∨ 0xDFFF < c.toNat ∧ c.toNat < 0x110000 :=
  c.valid

lemma toNat_ofNat (h : n < 0xD800 ∨ 0xDFFF < n ∧ n < 0x110000) : (Char.ofNat n).toNat = n := by
  have hvalid : n.isValidChar := h
  rw [Char.ofNat, dif_pos hvalid]
  rfl

lemma utf8Bytes_ne_nil (c : Char) : utf8Bytes c ≠ [] := by
  unfold utf8Bytes
  dsimp only
  split_ifs <;> exact List.cons_ne_nil _ _

/-! ## The bytes that follow -/

variable {count value low high v : Nat} {b : UInt8} {bytes rest : List UInt8}

/-- All the bytes that are due can be taken just if the first of them can and then all others. -/
lemma takeTail_succ_eq_iff : takeTail (count + 1) value low high bytes = (0, v, rest) ↔
    ∃ b more, bytes = b :: more ∧ low ≤ b.toNat ∧ b.toNat ≤ high ∧
      takeTail count (value * 64 + (b.toNat - 0x80)) 0x80 0xBF more = (0, v, rest) := by
  cases bytes with
  | nil => simp [takeTail]
  | cons b more =>
    by_cases hb : low ≤ b.toNat ∧ b.toNat ≤ high
    · simp [takeTail, hb]
    · have hnot : ¬ (low ≤ b.toNat ∧ b.toNat ≤ high ∧
          takeTail count (value * 64 + (b.toNat - 0x80)) 0x80 0xBF more = (0, v, rest)) :=
        fun h => hb ⟨h.1, h.2.1⟩
      simp [takeTail, hb, hnot]

lemma takeTail_zero_eq_iff :
    takeTail 0 value low high bytes = (0, v, rest) ↔ value = v ∧ bytes = rest := by
  simp [takeTail]

/-! ## What a leading byte announces -/

/-- What a leading byte says, and what its bounds on the next byte amount to: with the six bits of
that byte the number cannot be written shorter, is not the half of a pair and is not too large. -/
lemma of_utf8Lead (h : utf8Lead b = some (count, value, low, high)) :
    (count = 1 ∧ b.toNat = 0xC0 + value ∧ 2 ≤ value ∧ value < 32 ∧ low = 0x80 ∧ high = 0xBF) ∨
    (count = 2 ∧ b.toNat = 0xE0 + value ∧ value < 16 ∧ 0x80 ≤ low ∧ high ≤ 0xBF ∧
      ∀ m, low ≤ m → m ≤ high → 0x20 ≤ value * 64 + (m - 0x80) ∧
        (value * 64 + (m - 0x80) < 0x360 ∨ 0x37F < value * 64 + (m - 0x80))) ∨
    (count = 3 ∧ b.toNat = 0xF0 + value ∧ value < 5 ∧ 0x80 ≤ low ∧ high ≤ 0xBF ∧
      ∀ m, low ≤ m → m ≤ high → 0x10 ≤ value * 64 + (m - 0x80) ∧
        value * 64 + (m - 0x80) < 0x110) := by
  unfold utf8Lead at h
  dsimp only at h
  split_ifs at h <;> simp only [Option.some.injEq, Prod.mk.injEq] at h <;>
    obtain ⟨rfl, rfl, rfl, rfl⟩ := h
  · exact .inl ⟨rfl, by omega, by omega, by omega, rfl, rfl⟩
  · exact .inr (.inl ⟨rfl, by omega, by omega, by omega, by omega, fun m _ _ => by omega⟩)
  · exact .inr (.inl ⟨rfl, by omega, by omega, by omega, by omega, fun m _ _ => by omega⟩)
  · exact .inr (.inl ⟨rfl, by omega, by omega, by omega, by omega, fun m _ _ => by omega⟩)
  · exact .inr (.inr ⟨rfl, by omega, by omega, by omega, by omega, fun m _ _ => by omega⟩)
  · exact .inr (.inr ⟨rfl, by omega, by omega, by omega, by omega, fun m _ _ => by omega⟩)
  · exact .inr (.inr ⟨rfl, by omega, by omega, by omega, by omega, fun m _ _ => by omega⟩)

lemma utf8Lead_two (hb : b.toNat = 0xC0 + value) (hlow : 2 ≤ value) (hhigh : value < 32) :
    utf8Lead b = some (1, value, 0x80, 0xBF) := by
  unfold utf8Lead
  dsimp only
  rw [if_pos ⟨by omega, by omega⟩, hb]
  simp

/-- The next byte of a character that is written with three bytes is within its bounds. -/
lemma utf8Lead_three {m : Nat} (hb : b.toNat = 0xE0 + value) (hvalue : value < 16)
    (hlow : 0x80 ≤ m) (hhigh : m ≤ 0xBF) (hlong : 0x20 ≤ value * 64 + (m - 0x80))
    (hwhole : value * 64 + (m - 0x80) < 0x360 ∨ 0x37F < value * 64 + (m - 0x80)) :
    ∃ low high, utf8Lead b = some (2, value, low, high) ∧ low ≤ m ∧ m ≤ high := by
  unfold utf8Lead
  dsimp only
  rw [if_neg (by omega)]
  split_ifs with hfirst hpairs hmid
  · exact ⟨0xA0, 0xBF, by simp; omega, by omega, by omega⟩
  · exact ⟨0x80, 0x9F, by simp; omega, by omega, by omega⟩
  · exact ⟨0x80, 0xBF, by simp; omega, by omega, by omega⟩
  all_goals omega

/-- The next byte of a character that is written with four bytes is within its bounds. -/
lemma utf8Lead_four {m : Nat} (hb : b.toNat = 0xF0 + value) (hvalue : value < 5)
    (hlow : 0x80 ≤ m) (hhigh : m ≤ 0xBF) (hlong : 0x10 ≤ value * 64 + (m - 0x80))
    (hsmall : value * 64 + (m - 0x80) < 0x110) :
    ∃ low high, utf8Lead b = some (3, value, low, high) ∧ low ≤ m ∧ m ≤ high := by
  unfold utf8Lead
  dsimp only
  rw [if_neg (by omega), if_neg (by omega), if_neg (by omega), if_neg (by omega)]
  split_ifs with hfirst hmid hlast
  · exact ⟨0x90, 0xBF, by simp; omega, by omega, by omega⟩
  · exact ⟨0x80, 0xBF, by simp; omega, by omega, by omega⟩
  · exact ⟨0x80, 0x8F, by simp; omega, by omega, by omega⟩
  · omega

/-! ## One step -/

/-- A step takes off a character if the first byte is one, or leads one that is all there. -/
lemma nextUtf8_cons_eq_some_iff : nextUtf8 (b :: bytes) = some (some c, rest) ↔
    (b.toNat < 0x80 ∧ Char.ofNat b.toNat = c ∧ bytes = rest) ∨
      0x80 ≤ b.toNat ∧ ∃ count value low high v, utf8Lead b = some (count, value, low, high) ∧
        takeTail count value low high bytes = (0, v, rest) ∧ Char.ofNat v = c := by
  by_cases hb : b.toNat < 0x80
  · simp [nextUtf8, hb, Nat.not_le.2 hb]
  · have hhigh : 0x80 ≤ b.toNat := Nat.not_lt.1 hb
    rw [nextUtf8, if_neg hb]
    cases hlead : utf8Lead b with
    | none => simp [hb]
    | some lead =>
      obtain ⟨count, value, low, high⟩ := lead
      simp only [hb, hhigh, false_and, false_or, true_and, Option.some.injEq, Prod.mk.injEq]
      constructor
      · intro h
        split at h
        · next v more htail =>
          cases h
          exact ⟨count, value, low, high, v, ⟨rfl, rfl, rfl, rfl⟩, htail, rfl⟩
        · cases h
      · rintro ⟨_, _, _, _, v, ⟨rfl, rfl, rfl, rfl⟩, htail, rfl⟩
        rw [htail]

/-- What a step takes off is how the character is written. -/
lemma eq_append_of_nextUtf8 (h : nextUtf8 bytes = some (some c, rest)) :
    bytes = utf8Bytes c ++ rest := by
  cases bytes with
  | nil => simp [nextUtf8] at h
  | cons b bytes =>
    obtain ⟨hb, rfl, rfl⟩ | ⟨hb, count, value, low, high, v, hlead, htail, rfl⟩ :=
      nextUtf8_cons_eq_some_iff.1 h
    · have hc : (Char.ofNat b.toNat).toNat = b.toNat := toNat_ofNat (by omega)
      rw [utf8Bytes_one (by omega), hc, UInt8.ofNat_toNat]
      rfl
    obtain ⟨rfl, hlead, hlow, hhigh, rfl, rfl⟩ | ⟨rfl, hlead, hvalue, hlow, hhigh, hbits⟩ |
      ⟨rfl, hlead, hvalue, hlow, hhigh, hbits⟩ := of_utf8Lead hlead
    · obtain ⟨b1, _, rfl, h1, h1', htail⟩ := takeTail_succ_eq_iff.1 htail
      obtain ⟨rfl, rfl⟩ := takeTail_zero_eq_iff.1 htail
      have hc := toNat_ofNat (n := value * 64 + (b1.toNat - 0x80)) (by omega)
      rw [utf8Bytes_two (by omega) (by omega), hc, ← eq_ofNat (b := b) (by omega),
        ← eq_tailByte h1 h1' (by omega)]
      rfl
    · obtain ⟨b1, _, rfl, h1, h1', htail⟩ := takeTail_succ_eq_iff.1 htail
      obtain ⟨b2, _, rfl, h2, h2', htail⟩ := takeTail_succ_eq_iff.1 htail
      obtain ⟨rfl, rfl⟩ := takeTail_zero_eq_iff.1 htail
      obtain ⟨hlong, hwhole⟩ := hbits _ h1 h1'
      have hc := toNat_ofNat
        (n := (value * 64 + (b1.toNat - 0x80)) * 64 + (b2.toNat - 0x80)) (by omega)
      rw [utf8Bytes_three (by omega) (by omega), hc, ← eq_ofNat (b := b) (by omega),
        ← eq_tailByte (b := b1) (by omega) (by omega) (by omega),
        ← eq_tailByte h2 h2' (by omega)]
      rfl
    · obtain ⟨b1, _, rfl, h1, h1', htail⟩ := takeTail_succ_eq_iff.1 htail
      obtain ⟨b2, _, rfl, h2, h2', htail⟩ := takeTail_succ_eq_iff.1 htail
      obtain ⟨b3, _, rfl, h3, h3', htail⟩ := takeTail_succ_eq_iff.1 htail
      obtain ⟨rfl, rfl⟩ := takeTail_zero_eq_iff.1 htail
      obtain ⟨hlong, hlast⟩ := hbits _ h1 h1'
      have hc := toNat_ofNat (n := ((value * 64 + (b1.toNat - 0x80)) * 64 +
        (b2.toNat - 0x80)) * 64 + (b3.toNat - 0x80)) (by omega)
      rw [utf8Bytes_four (by omega), hc, ← eq_ofNat (b := b) (by omega),
        ← eq_tailByte (b := b1) (by omega) (by omega) (by omega),
        ← eq_tailByte h2 h2' (by omega), ← eq_tailByte h3 h3' (by omega)]
      rfl

/-- A character that is written in front is what a step takes off. -/
lemma nextUtf8_append (c : Char) (rest : List UInt8) :
    nextUtf8 (utf8Bytes c ++ rest) = some (some c, rest) := by
  have hvalid := toNat_valid c
  have htail (n : Nat) : 0x80 ≤ (tailByte n).toNat ∧ (tailByte n).toNat ≤ 0xBF := by
    rw [toNat_tailByte]
    omega
  by_cases h1 : c.toNat < 0x80
  · have hb := toNat_ofNat_of_lt (n := c.toNat) (by omega)
    rw [utf8Bytes_one h1]
    apply nextUtf8_cons_eq_some_iff.2
    rw [hb]
    exact .inl ⟨h1, Char.ofNat_toNat c, rfl⟩
  by_cases h2 : c.toNat < 0x800
  · have hb := toNat_ofNat_of_lt (n := 0xC0 + c.toNat / 64) (by omega)
    rw [utf8Bytes_two (by omega) h2]
    apply nextUtf8_cons_eq_some_iff.2
    refine .inr ⟨by omega, 1, c.toNat / 64, 0x80, 0xBF, c.toNat,
      utf8Lead_two hb (by omega) (by omega), ?_, Char.ofNat_toNat c⟩
    refine takeTail_succ_eq_iff.2 ⟨_, rest, rfl, (htail _).1, (htail _).2, ?_⟩
    refine takeTail_zero_eq_iff.2 ⟨?_, rfl⟩
    rw [toNat_tailByte]
    omega
  by_cases h3 : c.toNat < 0x10000
  · have hb := toNat_ofNat_of_lt (n := 0xE0 + c.toNat / 4096) (by omega)
    rw [utf8Bytes_three (by omega) h3]
    apply nextUtf8_cons_eq_some_iff.2
    have hnext := toNat_tailByte (c.toNat / 64)
    obtain ⟨low, high, hlead, hlow, hhigh⟩ := utf8Lead_three hb (by omega)
      (htail (c.toNat / 64)).1 (htail _).2 (by omega) (by omega)
    refine .inr ⟨by omega, 2, c.toNat / 4096, low, high, c.toNat, hlead, ?_, Char.ofNat_toNat c⟩
    refine takeTail_succ_eq_iff.2 ⟨_, _, rfl, hlow, hhigh, ?_⟩
    refine takeTail_succ_eq_iff.2 ⟨_, rest, rfl, (htail _).1, (htail _).2, ?_⟩
    refine takeTail_zero_eq_iff.2 ⟨?_, rfl⟩
    rw [toNat_tailByte, toNat_tailByte]
    omega
  · have hb := toNat_ofNat_of_lt (n := 0xF0 + c.toNat / 262144) (by omega)
    rw [utf8Bytes_four (by omega)]
    apply nextUtf8_cons_eq_some_iff.2
    have hnext := toNat_tailByte (c.toNat / 4096)
    obtain ⟨low, high, hlead, hlow, hhigh⟩ := utf8Lead_four hb (by omega)
      (htail (c.toNat / 4096)).1 (htail _).2 (by omega) (by omega)
    refine .inr ⟨by omega, 3, c.toNat / 262144, low, high, c.toNat, hlead, ?_,
      Char.ofNat_toNat c⟩
    refine takeTail_succ_eq_iff.2 ⟨_, _, rfl, hlow, hhigh, ?_⟩
    refine takeTail_succ_eq_iff.2 ⟨_, _, rfl, (htail _).1, (htail _).2, ?_⟩
    refine takeTail_succ_eq_iff.2 ⟨_, rest, rfl, (htail _).1, (htail _).2, ?_⟩
    refine takeTail_zero_eq_iff.2 ⟨?_, rfl⟩
    rw [toNat_tailByte, toNat_tailByte, toNat_tailByte]
    omega

/-- A step takes off a character just if it is written in front. -/
theorem nextUtf8_eq_some_iff :
    nextUtf8 bytes = some (some c, rest) ↔ bytes = utf8Bytes c ++ rest := by
  constructor
  · exact eq_append_of_nextUtf8
  · rintro rfl
    exact nextUtf8_append c rest

lemma nextUtf8_eq_none_iff : nextUtf8 bytes = none ↔ bytes = [] := by
  cases bytes with
  | nil => simp [nextUtf8]
  | cons b bytes =>
    simp only [reduceCtorEq, iff_false]
    unfold nextUtf8
    dsimp only
    repeat' split
    all_goals exact Option.some_ne_none _

/-! ## All steps -/

lemma encodeUtf8_cons (c : Char) (cs : List Char) :
    encodeUtf8 (c :: cs) = utf8Bytes c ++ encodeUtf8 cs := by
  rfl

lemma length_lt_of_append (c : Char) (rest : List UInt8) :
    rest.length < (utf8Bytes c ++ rest).length := by
  have hpos := List.length_pos_iff.2 (utf8Bytes_ne_nil c)
  rw [List.length_append]
  omega

/-- With as many steps as there are bytes the characters are read that the bytes are written with;
no step finds a broken piece then. -/
theorem utf8Steps_eq_iff {fuel : Nat} {cs : List Char} (hfuel : bytes.length ≤ fuel) :
    utf8Steps fuel bytes = cs.map some ↔ bytes = encodeUtf8 cs := by
  -- On the steps that are left: each of them takes off at least one byte.
  induction fuel generalizing bytes cs with
  | zero =>
    obtain rfl : bytes = [] := List.length_eq_zero_iff.1 (Nat.le_zero.1 hfuel)
    cases cs with
    | nil => simp [utf8Steps, encodeUtf8]
    | cons c cs => simp [utf8Steps, encodeUtf8_cons, utf8Bytes_ne_nil]
  | succ fuel ih =>
    constructor
    · intro h
      cases hnext : nextUtf8 bytes with
      | none =>
        obtain rfl := nextUtf8_eq_none_iff.1 hnext
        cases cs with
        | nil => rfl
        | cons c cs => simp [utf8Steps, hnext] at h
      | some next =>
        obtain ⟨step, rest⟩ := next
        cases cs with
        | nil => simp [utf8Steps, hnext] at h
        | cons c cs =>
          simp only [utf8Steps, hnext, List.map_cons, List.cons.injEq] at h
          obtain ⟨rfl, hrest⟩ := h
          obtain rfl := nextUtf8_eq_some_iff.1 hnext
          have hshort := length_lt_of_append c rest
          rw [(ih (by omega)).1 hrest, encodeUtf8_cons]
    · rintro rfl
      cases cs with
      | nil => rfl
      | cons c cs =>
        have hshort := length_lt_of_append c (encodeUtf8 cs)
        rw [encodeUtf8_cons] at hfuel ⊢
        have hrest : utf8Steps fuel (encodeUtf8 cs) = cs.map some := (ih (by omega)).2 rfl
        simp only [utf8Steps, nextUtf8_append, List.map_cons, hrest]

/-- What is read is a text just if every step has given a character. -/
lemma mapM_id_eq_some_iff {steps : List (Option Char)} {cs : List Char} :
    steps.mapM id = some cs ↔ steps = cs.map some := by
  induction steps generalizing cs with
  | nil => cases cs <;> simp
  | cons step steps ih =>
    rw [List.mapM_cons]
    cases step <;> cases cs <;> simp [Option.bind_eq_some_iff, ih, and_comm]

/-- Bytes are read as a text just if it is written with them. -/
theorem decodeUtf8?_eq_some_iff {text : String} :
    decodeUtf8? bytes = some text ↔ bytes = encodeUtf8 text.toList := by
  unfold decodeUtf8?
  rw [← utf8Steps_eq_iff (Nat.le_refl bytes.length), ← mapM_id_eq_some_iff, Option.map_eq_some_iff]
  constructor
  · rintro ⟨cs, hcs, rfl⟩
    rw [hcs, String.toList_ofList]
  · intro h
    exact ⟨text.toList, h, String.ofList_toList⟩

/-- No two texts are written with the same bytes. -/
theorem encodeUtf8_injective {cs ds : List Char} (h : encodeUtf8 cs = encodeUtf8 ds) : cs = ds := by
  have hcs : decodeUtf8? (encodeUtf8 cs) = some (String.ofList cs) :=
    decodeUtf8?_eq_some_iff.2 (by rw [String.toList_ofList])
  have hds : decodeUtf8? (encodeUtf8 ds) = some (String.ofList ds) :=
    decodeUtf8?_eq_some_iff.2 (by rw [String.toList_ofList])
  rw [h, hds] at hcs
  exact (String.ofList_inj.1 (Option.some.inj hcs)).symm

end StorageFleet.Text
