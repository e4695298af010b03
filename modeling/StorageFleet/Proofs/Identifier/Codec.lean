import Mathlib.Tactic.Common
import StorageFleet.Identifier

/-!
# Identifiers and their texts

An identifier and its text determine each other.  `decode_eq_ok_iff` says it for a single pair: a
text reads as an identifier just if it is the text of that identifier and the identifier is
`Legible`, so that the marks in its text can only be taken for what they are.  Everything else about
reading and writing follows from this.

Which texts can be read at all is said about the text alone (`Legal`): the text is cut at its first
colon, what follows is cut at its first at sign, and none of the pieces is empty.
-/

namespace StorageFleet

namespace Text

/-- What stands before the first `mark`, or all if there is none. -/
def before (mark : Char) (cs : List Char) : List Char :=
  cs.takeWhile (· ≠ mark)

/-- What stands behind the first `mark`. -/
def behind (mark : Char) (cs : List Char) : List Char :=
  (cs.dropWhile (· ≠ mark)).tail

lemma before_of_not_mem {mark : Char} {cs : List Char} (h : mark ∉ cs) : before mark cs = cs := by
  unfold before
  induction cs with
  | nil => rfl
  | cons c rest ih =>
    obtain ⟨hc, hrest⟩ := List.ne_and_not_mem_of_not_mem_cons h
    rw [List.takeWhile_cons_of_pos (by simpa using Ne.symm hc), ih hrest]

lemma splitOnce_of_mem {mark : Char} {cs : List Char} (h : mark ∈ cs) :
    splitOnce mark cs = some (before mark cs, behind mark cs) := by
  induction cs with
  | nil => cases h
  | cons c rest ih =>
    by_cases hc : c = mark
    · simp [splitOnce, before, behind, hc]
    · have hrest : mark ∈ rest := (List.mem_cons.1 h).resolve_left (Ne.symm hc)
      simp [splitOnce, hc, ih hrest, before, behind]

end Text

open Text (before behind)

namespace Identifier

/-- What a text says behind the name of the backend, if it names one. -/
def body (id : List Char) : List Char :=
  if backendMark ∈ id then behind backendMark id else id

/-- A text that has all the pieces that its marks announce. -/
structure Legal (id : String) : Prop where
  backend : backendMark ∈ id.toList → before backendMark id.toList ≠ []
  path : before snapshotMark (body id.toList) ≠ []
  snapshot : snapshotMark ∈ body id.toList → behind snapshotMark (body id.toList) ≠ []

/-- A path and a snapshot that can be told apart when they are written together. -/
structure Divisible (path : String) (snapshot : Option String) : Prop where
  path_ne : path ≠ ""
  unmarked : snapshotMark ∉ path.toList
  snapshot_ne : ∀ name, snapshot = some name → name ≠ ""

/-- An identifier that can be read off its text. -/
structure Legible (identifier : Identifier) : Prop where
  divisible : Divisible identifier.path identifier.snapshot
  named : ∀ backend, identifier.backend = some backend →
    backend ≠ "" ∧ backendMark ∉ backend.toList
  /-- Where no backend is named, nothing may look like the name of one. -/
  bare : identifier.backend = none → backendMark ∉ identifier.path.toList ∧
    ∀ snapshot, identifier.snapshot = some snapshot → backendMark ∉ snapshot.toList

variable {id : String} {identifier : Identifier}

/-! ## The written form -/

lemma fullPath_of_none (h : identifier.snapshot = none) :
    identifier.fullPath = identifier.path := by
  rw [fullPath, h]

lemma toList_fullPath {snapshot : String} (h : identifier.snapshot = some snapshot) :
    identifier.fullPath.toList =
      identifier.path.toList ++ snapshotMark :: snapshot.toList := by
  rw [fullPath, h]
  simp [snapshotMark]

lemma encode_of_none (h : identifier.backend = none) :
    identifier.encode = identifier.fullPath := by
  rw [encode, h]

lemma toList_encode {backend : String} (h : identifier.backend = some backend) :
    identifier.encode.toList = backend.toList ++ backendMark :: identifier.fullPath.toList := by
  rw [encode, h]
  simp [backendMark]

/-- The mark of a backend is in the path or in the snapshot if it is in both together. -/
lemma mem_fullPath_iff : backendMark ∈ identifier.fullPath.toList ↔
    backendMark ∈ identifier.path.toList ∨
      ∃ snapshot, identifier.snapshot = some snapshot ∧ backendMark ∈ snapshot.toList := by
  cases h : identifier.snapshot with
  | none => simp [fullPath_of_none h]
  | some snapshot =>
    have hmarks : backendMark ≠ snapshotMark := by decide
    simp [toList_fullPath h, hmarks]

/-! ## Reading -/

lemma decodeRest_eq_ok_iff {backend : Option String} {rest : List Char} :
    decodeRest backend rest = .ok identifier ↔
      identifier.backend = backend ∧ Divisible identifier.path identifier.snapshot ∧
        rest = identifier.fullPath.toList := by
  unfold decodeRest
  constructor
  · intro h
    split at h
    · next before after hsplit =>
      obtain ⟨hrest, hunmarked⟩ := Text.splitOnce_eq_some_iff.1 hsplit
      split_ifs at h with hsnapshot hpath
      cases h
      refine ⟨rfl, ⟨by simpa using hpath, by simpa using hunmarked, ?_⟩, ?_⟩
      · rintro _ ⟨⟩
        simpa using hsnapshot
      · rw [hrest, toList_fullPath rfl, String.toList_ofList, String.toList_ofList]
    · next hsplit =>
      split_ifs at h with hpath
      cases h
      refine ⟨rfl, ⟨by simpa using hpath, ?_, fun _ h => nomatch h⟩, ?_⟩
      · simpa using Text.splitOnce_eq_none_iff.1 hsplit
      · rw [fullPath_of_none rfl, String.toList_ofList]
  · rintro ⟨rfl, hdivisible, rfl⟩
    have hpath : identifier.path.toList ≠ [] := by simpa using hdivisible.path_ne
    cases hsnapshot : identifier.snapshot with
    | none =>
      rw [fullPath_of_none hsnapshot, Text.splitOnce_eq_none_iff.2 hdivisible.unmarked]
      simp [hpath, ← hsnapshot]
    | some snapshot =>
      have hne : snapshot.toList ≠ [] := by simpa using hdivisible.snapshot_ne snapshot hsnapshot
      rw [toList_fullPath hsnapshot,
        Text.splitOnce_eq_some_iff.2 ⟨rfl, hdivisible.unmarked⟩]
      simp [hpath, hne, ← hsnapshot]

/-- Where the name of the backend can be told, reading goes on with what follows it. -/
lemma decode_encode_named {backend : String} (h : identifier.backend = some backend)
    (hne : backend ≠ "") (hunmarked : backendMark ∉ backend.toList) :
    decode identifier.encode = decodeRest (some backend) identifier.fullPath.toList := by
  have hempty : backend.toList ≠ [] := by simpa using hne
  unfold decode
  rw [toList_encode h, Text.splitOnce_eq_some_iff.2 ⟨rfl, hunmarked⟩]
  simp only [List.isEmpty_iff, hempty, if_false, String.ofList_toList]

/-- A text reads as an identifier just if it is the text of that identifier and can be read. -/
theorem decode_eq_ok_iff :
    decode id = .ok identifier ↔ identifier.Legible ∧ identifier.encode = id := by
  constructor
  · intro h
    unfold decode at h
    split at h
    · next backend rest hsplit =>
      obtain ⟨hid, hunmarked⟩ := Text.splitOnce_eq_some_iff.1 hsplit
      split_ifs at h with hbackend
      obtain ⟨hname, hdivisible, hrest⟩ := decodeRest_eq_ok_iff.1 h
      refine ⟨⟨hdivisible, ?_, fun hnone => ?_⟩, ?_⟩
      · rw [hname]
        rintro _ ⟨⟩
        exact ⟨by simpa using hbackend, by simpa using hunmarked⟩
      · rw [hname] at hnone
        cases hnone
      · rw [← String.toList_inj, toList_encode hname, String.toList_ofList, hid, hrest]
    · next hsplit =>
      obtain ⟨hname, hdivisible, hid⟩ := decodeRest_eq_ok_iff.1 h
      have hunmarked := Text.splitOnce_eq_none_iff.1 hsplit
      rw [hid, mem_fullPath_iff] at hunmarked
      refine ⟨⟨hdivisible, fun _ hsome => ?_, fun _ => ?_⟩, ?_⟩
      · rw [hname] at hsome
        cases hsome
      · exact ⟨fun hpath => hunmarked (.inl hpath),
          fun snapshot hsnapshot hmark => hunmarked (.inr ⟨snapshot, hsnapshot, hmark⟩)⟩
      · rw [← String.toList_inj, encode_of_none hname, hid]
  · rintro ⟨hlegible, rfl⟩
    cases hname : identifier.backend with
    | none =>
      have hunmarked : backendMark ∉ identifier.encode.toList := by
        obtain ⟨hpath, hsnapshot⟩ := hlegible.bare hname
        rw [encode_of_none hname, mem_fullPath_iff]
        rintro (hmark | ⟨snapshot, hsome, hmark⟩)
        · exact hpath hmark
        · exact hsnapshot snapshot hsome hmark
      unfold decode
      rw [Text.splitOnce_eq_none_iff.2 hunmarked, encode_of_none hname]
      exact decodeRest_eq_ok_iff.2 ⟨hname, hlegible.divisible, rfl⟩
    | some backend =>
      obtain ⟨hne, hunmarked⟩ := hlegible.named backend hname
      rw [decode_encode_named hname hne hunmarked]
      exact decodeRest_eq_ok_iff.2 ⟨hname, hlegible.divisible, rfl⟩

lemma decodeVolume_eq_ok_iff :
    decodeVolume id = .ok identifier ↔ decode id = .ok identifier ∧ identifier.snapshot = none := by
  unfold decodeVolume
  cases decode id with
  | error defect => simp
  | ok found =>
    cases hsnapshot : found.snapshot with
    | none =>
      refine ⟨fun h => ?_, fun h => by simpa [hsnapshot] using h.1⟩
      obtain rfl : found = identifier := by simpa [hsnapshot] using h
      exact ⟨rfl, hsnapshot⟩
    | some snapshot =>
      simp only [hsnapshot, Option.isSome_some, if_true, reduceCtorEq, false_iff]
      rintro ⟨⟨⟩, hnone⟩
      simp [hsnapshot] at hnone

lemma decodeSnapshot_eq_ok_iff : decodeSnapshot id = .ok identifier ↔
    decode id = .ok identifier ∧ identifier.snapshot.isSome = true := by
  unfold decodeSnapshot
  cases decode id with
  | error defect => simp
  | ok found =>
    cases hsnapshot : found.snapshot with
    | some snapshot =>
      refine ⟨fun h => ?_, fun h => by simpa [hsnapshot] using h.1⟩
      obtain rfl : found = identifier := by simpa [hsnapshot] using h
      exact ⟨rfl, by simp [hsnapshot]⟩
    | none =>
      simp only [hsnapshot, Option.isNone_none, if_true, reduceCtorEq, false_iff]
      rintro ⟨⟨⟩, hsome⟩
      simp [hsnapshot] at hsome

/-! ## Which texts can be read -/

lemma exists_decodeRest_iff (backend : Option String) {rest : List Char} :
    (∃ identifier, decodeRest backend rest = .ok identifier) ↔
      before snapshotMark rest ≠ [] ∧
        (snapshotMark ∈ rest → behind snapshotMark rest ≠ []) := by
  unfold decodeRest
  by_cases hmark : snapshotMark ∈ rest
  · rw [Text.splitOnce_of_mem hmark]
    by_cases hbehind : behind snapshotMark rest = [] <;>
      by_cases hbefore : before snapshotMark rest = [] <;> simp [hmark, hbehind, hbefore]
  · rw [Text.splitOnce_eq_none_iff.2 hmark, Text.before_of_not_mem hmark]
    by_cases hrest : rest = [] <;> simp [hrest, hmark]

/-- The texts that can be read. -/
theorem exists_decode_iff : (∃ identifier, decode id = .ok identifier) ↔ Legal id := by
  unfold decode
  by_cases hmark : backendMark ∈ id.toList
  · rw [Text.splitOnce_of_mem hmark]
    by_cases hbackend : before backendMark id.toList = []
    · simp only [hbackend, List.isEmpty_nil, if_true, reduceCtorEq, exists_false, false_iff]
      exact fun h => h.backend hmark hbackend
    · have hbody : body id.toList = behind backendMark id.toList := if_pos hmark
      simp only [List.isEmpty_iff, hbackend, if_false, exists_decodeRest_iff, ← hbody]
      exact ⟨fun h => ⟨fun _ => hbackend, h.1, h.2⟩, fun h => ⟨h.path, h.snapshot⟩⟩
  · rw [Text.splitOnce_eq_none_iff.2 hmark]
    have hbody : body id.toList = id.toList := if_neg hmark
    dsimp only
    rw [exists_decodeRest_iff, ← hbody]
    exact ⟨fun h => ⟨fun hmem => absurd hmem hmark, h.1, h.2⟩, fun h => ⟨h.path, h.snapshot⟩⟩

lemma of_checkBackendName {name : String} (h : checkBackendName name = .ok ()) :
    name ≠ "" ∧ backendMark ∉ name.toList := by
  unfold checkBackendName at h
  split_ifs at h with hempty hmarks
  simp only [Bool.or_eq_true, List.contains_iff_mem, not_or] at hmarks
  exact ⟨by simpa using hempty, hmarks.1⟩

/-- A name that a backend may have makes an identifier legible. -/
lemma legible_of_checkBackendName {name path : String} {snapshot : Option String}
    (hname : checkBackendName name = .ok ()) (hdivisible : Divisible path snapshot) :
    Legible ⟨some name, path, snapshot⟩ := by
  refine ⟨hdivisible, ?_, fun hnone => nomatch hnone⟩
  rintro _ ⟨⟩
  exact of_checkBackendName hname

/-- The text of a volume on a backend that may have its name is read as that of no volume if there
is an at sign in the path. -/
lemma unmarked_of_decodeVolume {name path : String} (hname : checkBackendName name = .ok ())
    (h : decodeVolume (ofVolume name path).encode = .ok identifier) :
    snapshotMark ∉ path.toList := by
  obtain ⟨hdecode, hnone⟩ := decodeVolume_eq_ok_iff.1 h
  obtain ⟨hne, hunmarked⟩ := of_checkBackendName hname
  rw [decode_encode_named rfl hne hunmarked] at hdecode
  obtain ⟨-, hdivisible, htext⟩ := decodeRest_eq_ok_iff.1 hdecode
  obtain rfl : path = identifier.path := by
    rw [← String.toList_inj, ← fullPath_of_none hnone]
    exact htext
  exact hdivisible.unmarked

/-- Otherwise it is read as what it is. -/
lemma decodeVolume_ofVolume_iff {name path : String} (hname : checkBackendName name = .ok ())
    (hpath : path ≠ "") : decodeVolume (ofVolume name path).encode = .ok (ofVolume name path) ↔
      snapshotMark ∉ path.toList := by
  refine ⟨unmarked_of_decodeVolume hname, fun hunmarked => ?_⟩
  have hlegible := legible_of_checkBackendName hname
    (⟨hpath, hunmarked, fun _ h => nomatch h⟩ : Divisible path none)
  exact decodeVolume_eq_ok_iff.2 ⟨decode_eq_ok_iff.2 ⟨hlegible, rfl⟩, rfl⟩

/-- Likewise a snapshot is read as what it is just if it has a name. -/
lemma decodeSnapshot_ofSnapshot_iff {name path snapshot : String}
    (hname : checkBackendName name = .ok ()) (hpath : path ≠ "")
    (hunmarked : snapshotMark ∉ path.toList) :
    decodeSnapshot (ofSnapshot name path snapshot).encode = .ok (ofSnapshot name path snapshot) ↔
      snapshot ≠ "" := by
  constructor
  · intro h
    obtain ⟨hdecode, -⟩ := decodeSnapshot_eq_ok_iff.1 h
    exact (decode_eq_ok_iff.1 hdecode).1.divisible.snapshot_ne snapshot rfl
  · intro hsnapshot
    have hlegible := legible_of_checkBackendName hname
      (⟨hpath, hunmarked, by rintro _ ⟨⟩; exact hsnapshot⟩ : Divisible path (some snapshot))
    exact decodeSnapshot_eq_ok_iff.2 ⟨decode_eq_ok_iff.2 ⟨hlegible, rfl⟩, rfl⟩

/-! ## The result -/

/-- Reading and writing of identifiers: which texts can be read; a text that was read is what is
written for it; which identifiers are read back as they were; no two of those have one text; names
that backends may have are always read back; and a text that can be read names a volume or a
snapshot, but not both. -/
theorem identifier_codec :
    (∀ id, (∃ identifier, decode id = .ok identifier) ↔ Legal id) ∧
    (∀ id identifier, decode id = .ok identifier → identifier.encode = id) ∧
    (∀ identifier, decode identifier.encode = .ok identifier ↔ identifier.Legible) ∧
    (∀ one other : Identifier, one.Legible → other.Legible → one.encode = other.encode →
      one = other) ∧
    (∀ name path snapshot, checkBackendName name = .ok () → Divisible path snapshot →
      decode (encode ⟨some name, path, snapshot⟩) = .ok ⟨some name, path, snapshot⟩) ∧
    ∀ id,
      ((∃ identifier, decode id = .ok identifier) ↔
        (∃ volume, decodeVolume id = .ok volume) ∨ ∃ snapshot, decodeSnapshot id = .ok snapshot) ∧
      ¬((∃ volume, decodeVolume id = .ok volume) ∧ ∃ snapshot, decodeSnapshot id = .ok snapshot) := by
  have hread : ∀ {identifier : Identifier}, identifier.Legible →
      decode identifier.encode = .ok identifier := fun h => decode_eq_ok_iff.2 ⟨h, rfl⟩
  refine ⟨fun id => exists_decode_iff, fun id identifier h => (decode_eq_ok_iff.1 h).2,
    fun identifier => ⟨fun h => (decode_eq_ok_iff.1 h).1, hread⟩, ?_, ?_, fun id => ⟨?_, ?_⟩⟩
  · intro one other hone hother hsame
    have htext := hread hone
    rw [hsame, hread hother] at htext
    exact (Except.ok.inj htext).symm
  · exact fun name path snapshot hname hdivisible =>
      hread (legible_of_checkBackendName hname hdivisible)
  · simp only [decodeVolume_eq_ok_iff, decodeSnapshot_eq_ok_iff]
    constructor
    · rintro ⟨identifier, h⟩
      cases hsnapshot : identifier.snapshot with
      | none => exact .inl ⟨identifier, h, hsnapshot⟩
      | some name => exact .inr ⟨identifier, h, by simp [hsnapshot]⟩
    · rintro (⟨identifier, h, -⟩ | ⟨identifier, h, -⟩) <;> exact ⟨identifier, h⟩
  · simp only [decodeVolume_eq_ok_iff, decodeSnapshot_eq_ok_iff]
    rintro ⟨⟨volume, hvolume, hnone⟩, snapshot, hsnapshot, hsome⟩
    obtain rfl : volume = snapshot := Except.ok.inj (hvolume.symm.trans hsnapshot)
    simp [hnone] at hsome

end Identifier
end StorageFleet
