/-!
# Cutting and trimming text

Identifiers, queries, endpoint lists and dataset paths are all cut at single separator
characters.  `splitOnce` cuts at the first occurrence, `splitAll` at every one.  `trim` drops the
characters of `isBlank`, the white space of the Unicode standard, at both ends.

The main facts are `splitOnce_eq_some_iff`, which says that a cut loses nothing and is made at the
first occurrence, and `splitOnce_eq_none_iff`.
-/

namespace StorageFleet.Text

/-- The text before and after the first `sep`, if there is one. -/
def splitOnce (sep : Char) : List Char → Option (List Char × List Char)
  | [] => none
  | c :: rest =>
    if c = sep then some ([], rest)
    else (splitOnce sep rest).map fun parts => (c :: parts.1, parts.2)

/-- The pieces between the occurrences of `sep`; there is always at least one. -/
def splitAll (sep : Char) : List Char → List (List Char)
  | [] => [[]]
  | c :: rest =>
    if c = sep then [] :: splitAll sep rest
    else match splitAll sep rest with
      | [] => [[c]]
      | piece :: pieces => (c :: piece) :: pieces

/-- White space: the characters with the Unicode property `White_Space`. -/
def isBlank (c : Char) : Bool :=
  let n := c.toNat
  (9 ≤ n && n ≤ 13) || n == 0x20 || n == 0x85 || n == 0xA0 || n == 0x1680 ||
    (0x2000 ≤ n && n ≤ 0x200A) || n == 0x2028 || n == 0x2029 || n == 0x202F || n == 0x205F ||
    n == 0x3000

/-- Drops the leading and trailing characters that satisfy `p`. -/
def trimWhere (p : Char → Bool) (cs : List Char) : List Char :=
  ((cs.dropWhile p).reverse.dropWhile p).reverse

/-- Drops leading and trailing white space. -/
def trim (cs : List Char) : List Char :=
  trimWhere isBlank cs

/-- Whether `text` begins with `start`. -/
def startsWith (start text : String) : Bool :=
  start.toList.isPrefixOf text.toList

/-- What follows `start` in `text`, if `text` begins with it. -/
def dropStart? (start text : List Char) : Option (List Char) :=
  match start, text with
  | [], rest => some rest
  | _ :: _, [] => none
  | s :: start, c :: text => if s = c then dropStart? start text else none

/-- Whether `part` occurs in `text`. -/
def containsPart (part text : List Char) : Bool :=
  match text with
  | [] => part.isEmpty
  | _ :: rest => part.isPrefixOf text || containsPart part rest

/-- Writes `new` for every `old`. -/
def replaceChar (old new : Char) (text : String) : String :=
  String.ofList (text.toList.map fun c => if c = old then new else c)

theorem splitOnce_eq_none_iff {sep : Char} {cs : List Char} :
    splitOnce sep cs = none ↔ sep ∉ cs := by
  induction cs with
  | nil => simp [splitOnce]
  | cons c rest ih =>
    by_cases h : c = sep
    · simp [splitOnce, h]
    · have h' : ¬ sep = c := fun e => h e.symm
      simp [splitOnce, h, h', ih]

theorem splitOnce_eq_some_iff {sep : Char} {cs before after : List Char} :
    splitOnce sep cs = some (before, after) ↔ cs = before ++ sep :: after ∧ sep ∉ before := by
  induction cs generalizing before with
  | nil => simp [splitOnce]
  | cons c rest ih =>
    by_cases h : c = sep
    · subst h
      cases before with
      | nil => simp [splitOnce, eq_comm]
      | cons b before =>
        simp [splitOnce]
        intro hb _ hne
        exact absurd hb hne
    · have h' : ¬ sep = c := fun e => h e.symm
      cases before with
      | nil => simp [splitOnce, h]
      | cons b before =>
        simp only [splitOnce, h, if_false, Option.map_eq_some_iff, Prod.exists, Prod.mk.injEq,
          List.cons.injEq, List.cons_append, List.mem_cons, not_or]
        constructor
        · rintro ⟨x, y, hxy, ⟨rfl, rfl⟩, rfl⟩
          obtain ⟨h1, h2⟩ := ih.1 hxy
          exact ⟨⟨rfl, h1⟩, h', h2⟩
        · rintro ⟨⟨rfl, h1⟩, _, h2⟩
          exact ⟨before, after, ih.2 ⟨h1, h2⟩, ⟨rfl, rfl⟩, rfl⟩

theorem dropStart?_eq_some_iff {start text rest : List Char} :
    dropStart? start text = some rest ↔ text = start ++ rest := by
  induction start generalizing text with
  | nil => simp [dropStart?]
  | cons s start ih =>
    cases text with
    | nil => simp [dropStart?]
    | cons c text =>
      by_cases h : s = c
      · simp [dropStart?, h, ih]
      · have h' : ¬ c = s := fun e => h e.symm
        simp [dropStart?, h, h']

end StorageFleet.Text
