import StorageFleet.Proofs.Text.Utf8
import StorageFleet.Text.Percent

/-!
# Percent encoding read back

An encoded text is read back byte by byte: `percentBytes_flatMap` says that the bytes come back, and
`percentDecode_percentEncode` that the text does, so no two texts have one encoding.  A character
that is neither unreserved nor a percent sign does not occur in an encoded text
(`not_mem_percentEncode`).  A text that is put together from such pieces with a separator between
them is therefore cut into the same pieces again (`splitAll_intercalate`).
-/

namespace StorageFleet.Text

/-! ## One byte -/

lemma hexValue?_upperHexDigit : ∀ n < 16, hexValue? (upperHexDigit n) = some n := by
  decide

lemma isUnreserved_upperHexDigit :
    ∀ n < 16, isUnreserved (UInt8.ofNat (upperHexDigit n).toNat) = true := by
  decide

/-- An unreserved byte is that of an ASCII character other than the percent sign. -/
lemma lt_of_isUnreserved {b : UInt8} (h : isUnreserved b = true) :
    b.toNat < 0x80 ∧ b.toNat ≠ 0x25 := by
  simp only [isUnreserved, Bool.or_eq_true, Bool.and_eq_true, decide_eq_true_eq, beq_iff_eq] at h
  omega

lemma toNat_ofNat_of_isUnreserved {b : UInt8} (h : isUnreserved b = true) :
    (Char.ofNat b.toNat).toNat = b.toNat := by
  have := lt_of_isUnreserved h
  exact toNat_ofNat (by omega)

lemma percentBytes_cons {c : Char} (h : c ≠ '%') (rest : List Char) :
    percentBytes (c :: rest) = utf8Bytes c ++ percentBytes rest := by
  rw [percentBytes]
  exact fun _ _ _ hc => absurd hc h

/-- A byte that is written in front is what is read first. -/
lemma percentBytes_percentByte (b : UInt8) (rest : List Char) :
    percentBytes (percentByte b ++ rest) = b :: percentBytes rest := by
  unfold percentByte
  split
  · next hplain =>
    have hbyte := toNat_ofNat_of_isUnreserved hplain
    have hrange := lt_of_isUnreserved hplain
    have hne : Char.ofNat b.toNat ≠ '%' := by
      intro hc
      rw [hc] at hbyte
      exact hrange.2 hbyte.symm
    rw [List.singleton_append, percentBytes_cons hne, utf8Bytes_one (by omega), hbyte,
      UInt8.ofNat_toNat, List.singleton_append]
  · have hlt := b.toNat_lt
    have hhigh := hexValue?_upperHexDigit (b.toNat / 16) (by omega)
    have hlow := hexValue?_upperHexDigit (b.toNat % 16) (by omega)
    have hvalue : b.toNat / 16 * 16 + b.toNat % 16 = b.toNat := by omega
    simp only [List.cons_append, List.nil_append, percentBytes, hhigh, hlow, hvalue,
      UInt8.ofNat_toNat]

/-- Every character of an encoded byte is unreserved, or the percent sign. -/
lemma isUnreserved_of_mem_percentByte {b : UInt8} {c : Char} (h : c ∈ percentByte b) :
    c = '%' ∨ isUnreserved (UInt8.ofNat c.toNat) = true := by
  unfold percentByte at h
  split at h
  · next hplain =>
    obtain rfl := List.mem_singleton.1 h
    rw [toNat_ofNat_of_isUnreserved hplain, UInt8.ofNat_toNat]
    exact .inr hplain
  · have hlt := b.toNat_lt
    simp only [List.mem_cons, List.not_mem_nil, or_false] at h
    rcases h with rfl | rfl | rfl
    · exact .inl rfl
    · exact .inr (isUnreserved_upperHexDigit _ (by omega))
    · exact .inr (isUnreserved_upperHexDigit _ (by omega))

/-! ## Texts -/

theorem percentBytes_flatMap (bytes : List UInt8) :
    percentBytes (bytes.flatMap percentByte) = bytes := by
  induction bytes with
  | nil => rfl
  | cons b bytes ih => rw [List.flatMap_cons, percentBytes_percentByte, ih]

lemma decodeUtf8Lossy_encodeUtf8 (text : String) :
    decodeUtf8Lossy (encodeUtf8 text.toList) = text := by
  rw [decodeUtf8Lossy, (utf8Steps_eq_iff (Nat.le_refl _)).2 rfl, List.map_map]
  simp [Function.comp_def]

/-- An encoded text is read back. -/
theorem percentDecode_percentEncode (text : String) :
    percentDecode (percentEncode text).toList = text := by
  rw [percentDecode, percentEncode, String.toList_ofList, percentBytes_flatMap,
    decodeUtf8Lossy_encodeUtf8]

theorem percentEncode_injective : Function.Injective percentEncode := by
  intro text other h
  rw [← percentDecode_percentEncode text, h, percentDecode_percentEncode]

/-- A character that is written as several ones does not occur in an encoded text. -/
lemma not_mem_percentEncode {c : Char} (hpercent : c ≠ '%')
    (h : isUnreserved (UInt8.ofNat c.toNat) = false) (text : String) :
    c ∉ (percentEncode text).toList := by
  intro hmem
  rw [percentEncode, String.toList_ofList, List.mem_flatMap] at hmem
  obtain ⟨b, -, hmem⟩ := hmem
  rcases isUnreserved_of_mem_percentByte hmem with hc | hplain
  · exact hpercent hc
  · rw [h] at hplain
    exact Bool.false_ne_true hplain

/-! ## Pieces -/

lemma splitAll_eq_splitOn (sep : Char) (cs : List Char) : splitAll sep cs = cs.splitOn sep := by
  induction cs with
  | nil => rfl
  | cons c rest ih =>
    rw [List.splitOn_eq_splitOnP, List.splitOnP_cons_eq_if_modifyHead, ← List.splitOn_eq_splitOnP,
      ← ih, splitAll]
    by_cases h : c = sep
    · simp [h]
    · cases hrest : splitAll sep rest with
      | nil => exact absurd (ih.symm.trans hrest) (List.splitOn_ne_nil sep rest)
      | cons piece pieces => simp [h]

lemma not_mem_intercalate {c sep : Char} {pieces : List (List Char)} (hsep : c ≠ sep)
    (h : ∀ piece ∈ pieces, c ∉ piece) : c ∉ [sep].intercalate pieces := by
  induction pieces with
  | nil => simp
  | cons piece pieces ih =>
    obtain ⟨hpiece, hpieces⟩ := List.forall_mem_cons.1 h
    cases pieces with
    | nil => simpa using hpiece
    | cons next rest =>
      rw [List.intercalate_cons_cons, List.mem_append, List.mem_append, List.mem_singleton]
      rintro ((hmem | hmem) | hmem)
      · exact hpiece hmem
      · exact hsep hmem
      · exact ih hpieces hmem

/-- What is put together with a separator is cut into its pieces again. -/
lemma splitAll_intercalate {sep : Char} {pieces : List (List Char)}
    (h : ∀ piece ∈ pieces, sep ∉ piece) (hne : pieces ≠ []) :
    splitAll sep ([sep].intercalate pieces) = pieces := by
  rw [splitAll_eq_splitOn, List.splitOn_intercalate sep h hne]

end StorageFleet.Text
