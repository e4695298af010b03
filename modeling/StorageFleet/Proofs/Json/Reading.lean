import Mathlib.Data.List.Forall2
import StorageFleet.Appliance.Request

/-!
# Reading what is written

What a reader makes of numbers and lists that are written in the forms an appliance uses.  A number
may stand as a JSON number or in decimal, with zeros in front or without (`Counts.decode`), and
a list is the content of the one field of a body: its items are read one by one, and all of them
must be readable (`decode_dataList_eq_ok_iff`).
-/

namespace StorageFleet

/-! ## Decimal text -/

namespace Number

lemma digit?_of_isDigit {c : Char} (h : c.isDigit) : digit? c = some (c.toNat - '0'.toNat) := by
  simp only [Char.isDigit, Bool.and_eq_true, decide_eq_true_eq] at h
  exact if_pos h

lemma readDigits_eq_ofDigitChars {cs : List Char} (h : ∀ c ∈ cs, c.isDigit) (value : Nat) :
    readDigits 10 value cs = some (Nat.ofDigitChars 10 cs value) := by
  induction cs generalizing value with
  | nil => rfl
  | cons c rest ih =>
    have hdigit := h c List.mem_cons_self
    have hsmall : c.toNat - '0'.toNat < 10 := by
      simp only [Char.isDigit, Bool.and_eq_true, decide_eq_true_eq, ge_iff_le,
        UInt32.le_iff_toNat_le] at hdigit
      have : c.toNat ≤ '9'.toNat := hdigit.2
      simp at this ⊢
      omega
    rw [readDigits, digit?_of_isDigit hdigit]
    simp only [if_pos hsmall]
    rw [ih (fun d hd => h d (List.mem_cons_of_mem _ hd)), Nat.ofDigitChars_cons, Nat.mul_comm]

lemma ofDigitChars_zeros (count : Nat) (cs : List Char) :
    Nat.ofDigitChars 10 (List.replicate count '0' ++ cs) 0 = Nat.ofDigitChars 10 cs 0 := by
  induction count with
  | zero => rfl
  | succ count ih => rw [List.replicate_succ, List.cons_append, Nat.ofDigitChars_cons]; exact ih

lemma toList_padded (width n : Nat) :
    (padded width n).toList =
      List.replicate (width - (toString n).length) '0' ++ Nat.toDigits 10 n := by
  simp [padded]

lemma isDigit_of_mem_padded {width n : Nat} {c : Char} (h : c ∈ (padded width n).toList) :
    c.isDigit := by
  rw [toList_padded, List.mem_append] at h
  rcases h with h | h
  · rw [List.eq_of_mem_replicate h]
    rfl
  · exact Nat.isDigit_of_mem_toDigits (by decide) (by decide) h

lemma toList_padded_ne_nil (width n : Nat) : (padded width n).toList ≠ [] := by
  rw [toList_padded]
  simp [Nat.toDigits_ne_nil]

lemma ofDigitChars_padded (width n : Nat) :
    Nat.ofDigitChars 10 (padded width n).toList 0 = n := by
  rw [toList_padded, ofDigitChars_zeros, Nat.ofDigitChars_ten_toDigits]

/-- A numeral is read back, with zeros in front or without, unless it is too large. -/
lemma readUnsigned_padded_eq (width n limit : Nat) :
    readUnsigned 10 limit (padded width n).toList = if n ≤ limit then some n else none := by
  have hdigits : ∀ c ∈ (padded width n).toList, c.isDigit := fun c hc => isDigit_of_mem_padded hc
  have hne := toList_padded_ne_nil width n
  have hvalue := ofDigitChars_padded width n
  generalize (padded width n).toList = cs at *
  have hsign : ∀ rest, cs ≠ '+' :: rest := by
    rintro rest rfl
    exact absurd (hdigits '+' List.mem_cons_self) (by decide)
  unfold readUnsigned
  split
  · exact absurd rfl (hsign _)
  · simp [hne, readDigits_eq_ofDigitChars hdigits, hvalue, Option.filter_some]

theorem readUnsigned_padded (width : Nat) {n limit : Nat} (h : n ≤ limit) :
    readUnsigned 10 limit (padded width n).toList = some n := by
  rw [readUnsigned_padded_eq, if_pos h]

lemma le_of_readUnsigned {base limit n : Nat} {cs : List Char}
    (h : readUnsigned base limit cs = some n) : n ≤ limit := by
  unfold readUnsigned at h
  dsimp only at h
  split_ifs at h
  simpa using (Option.filter_eq_some_iff.1 h).2

end Number

/-! ## Objects -/

lemma insertSorted_nil (key : String) (value : α) :
    insertSorted key value [] = [(key, value)] := rfl

lemma insertSorted_of_lt {key k : String} (h : key < k) (value other : α)
    (rest : List (String × α)) :
    insertSorted key value ((k, other) :: rest) = (key, value) :: (k, other) :: rest :=
  if_pos h

lemma insertSorted_of_gt {key k : String} (h : k < key) (value other : α)
    (rest : List (String × α)) :
    insertSorted key value ((k, other) :: rest) = (k, other) :: insertSorted key value rest := by
  rw [insertSorted, if_neg (String.lt_asymm h), if_neg]
  rintro rfl
  exact String.lt_irrefl key h

/-! ## Numbers and lists -/

lemma except_bind_eq_ok_iff {outcome : Except ε α} {next : α → Except ε β} {result : β} :
    outcome >>= next = .ok result ↔ ∃ value, outcome = .ok value ∧ next value = .ok result := by
  cases outcome with
  | error fault => exact ⟨nofun, nofun⟩
  | ok value => exact ⟨fun h => ⟨value, rfl, h⟩, fun ⟨_, rfl, h⟩ => h⟩

namespace Json

variable {reader : Reader α} {items : List Json} {values : List α}

/-- The two forms in which an appliance gives a number. -/
inductive Counts (n : Nat) : Json → Prop where
  | number : Counts n (.nat n)
  | text (width : Nat) : Counts n (.string (Number.padded width n))

/-- Both forms of a number are read alike. -/
lemma Counts.decode {n : Nat} {value : Json} (h : Counts n value) (hn : n ≤ Number.max64) :
    value.decode Reader.countOrText = .ok n := by
  cases h with
  | number => simp [Json.decode, nat, Draft.ofJson, Reader.countOrText, Reader.count, hn]
  | text width =>
    simp only [Json.decode, Draft.ofJson, Reader.countOrText, Number.readUnsigned_padded width hn]

lemma decode_list_eq_ok_iff :
    (Json.array items).decode (Reader.list reader) = .ok values ↔
      List.Forall₂ (fun value item => item.decode reader = .ok value) values items := by
  show Reader.items reader .closed (Draft.ofItems items) = .ok values ↔ _
  induction items generalizing values with
  | nil => cases values <;> simp [Draft.ofItems, Reader.items]
  | cons item rest ih =>
    simp only [Draft.ofItems, Reader.items, except_bind_eq_ok_iff, ih, pure, Except.pure,
      Except.ok.injEq, List.forall₂_cons_right_iff]
    constructor
    · rintro ⟨value, hvalue, others, hothers, rfl⟩
      exact ⟨value, others, hvalue, hothers, rfl⟩
    · rintro ⟨value, others, hvalue, hothers, rfl⟩
      exact ⟨value, hvalue, others, hothers, rfl⟩

lemma decode_dataList (reader : Reader α) (value : Json) :
    (Json.object [("data", value)]).decode (Reader.dataList reader) =
      value.decode (Reader.list reader) := by
  simp only [Json.decode, object, List.foldl, insertSorted, Draft.ofJson, Draft.ofEntries,
    Reader.dataList, Record.defaulted, Record.withField, Record.of, Record.read, Record.collect,
    Record.content]
  cases h : Reader.list reader (Draft.ofJson value) <;>
    simp [h, Except.map, bind, Except.bind, pure, Except.pure]

/-- A list in a body is read item by item. -/
theorem decode_dataList_eq_ok_iff :
    (Json.object [("data", .array items)]).decode (Reader.dataList reader) = .ok values ↔
      List.Forall₂ (fun value item => item.decode reader = .ok value) values items := by
  rw [decode_dataList, decode_list_eq_ok_iff]

end Json
end StorageFleet
