/-!
# Tables in ascending order of their keys

`insertSorted` puts a pair into a list of pairs with ascending keys.  A `Catalog` is such a list
together with the proof that its keys ascend, so a key stands in it at most once and two catalogs
with the same entries are equal.

`find?_insert`, `find?_erase` and `find?_adjust` say what each change does to the look-up of any
key, and `find?_eq_some_iff` ties the look-up to the entries.
-/

namespace StorageFleet

/-- Inserts a pair into a list of pairs with ascending keys, replacing a pair of the same key. -/
def insertSorted (key : String) (value : α) : List (String × α) → List (String × α)
  | [] => [(key, value)]
  | (k, v) :: rest =>
    if key < k then (key, value) :: (k, v) :: rest
    else if key = k then (key, value) :: rest
    else (k, v) :: insertSorted key value rest

/-- The keys of a list of pairs ascend. -/
def Ascending (entries : List (String × α)) : Prop :=
  entries.Pairwise fun a b => a.1 < b.1

theorem lt_of_not_lt_of_ne {a b : String} (h : ¬ a < b) (hne : a ≠ b) : b < a := by
  rcases Std.lt_trichotomy a b with h' | h' | h'
  · exact absurd h' h
  · exact absurd h' hne
  · exact h'

theorem mem_insertSorted {key : String} {value : α} {entry : String × α}
    {entries : List (String × α)} (h : entry ∈ insertSorted key value entries) :
    entry = (key, value) ∨ entry ∈ entries := by
  induction entries with
  | nil => simpa [insertSorted] using h
  | cons head rest ih =>
    obtain ⟨k, v⟩ := head
    simp only [insertSorted] at h
    split at h
    · simpa using h
    · split at h
      · simp only [List.mem_cons] at h ⊢
        exact h.imp id Or.inr
      · simp only [List.mem_cons] at h ⊢
        rcases h with h | h
        · exact .inr (.inl h)
        · exact (ih h).imp id Or.inr

theorem ascending_insertSorted (key : String) (value : α) {entries : List (String × α)}
    (h : Ascending entries) : Ascending (insertSorted key value entries) := by
  induction entries with
  | nil => simp [insertSorted, Ascending]
  | cons head rest ih =>
    obtain ⟨k, v⟩ := head
    obtain ⟨hk, hrest⟩ := List.pairwise_cons.1 h
    simp only [insertSorted]
    split
    · next hlt =>
      refine List.pairwise_cons.2 ⟨fun entry he => ?_, h⟩
      rcases List.mem_cons.1 he with rfl | he
      · exact hlt
      · exact String.lt_trans hlt (hk entry he)
    · split
      · next heq =>
        subst heq
        exact List.pairwise_cons.2 ⟨hk, hrest⟩
      · next hnlt hne =>
        refine List.pairwise_cons.2 ⟨fun entry he => ?_, ih hrest⟩
        rcases mem_insertSorted he with rfl | he
        · exact lt_of_not_lt_of_ne hnlt hne
        · exact hk entry he

/-- A table in ascending order of its keys. -/
structure Catalog (α : Type) where
  entries : List (String × α)
  ascending : Ascending entries
  deriving DecidableEq

namespace Catalog

/-- The empty table. -/
def empty : Catalog α :=
  ⟨[], .nil⟩

instance : Inhabited (Catalog α) := ⟨empty⟩

/-- The value under `key`. -/
def find? (catalog : Catalog α) (key : String) : Option α :=
  catalog.entries.lookup key

/-- Whether there is a value under `key`. -/
def contains (catalog : Catalog α) (key : String) : Bool :=
  (catalog.find? key).isSome

/-- Puts a value under `key`, in place of one that is there already. -/
def insert (catalog : Catalog α) (key : String) (value : α) : Catalog α :=
  ⟨insertSorted key value catalog.entries, ascending_insertSorted key value catalog.ascending⟩

/-- The table of the given pairs; of two pairs with one key the later one counts. -/
def ofList (entries : List (String × α)) : Catalog α :=
  entries.foldl (fun catalog entry => catalog.insert entry.1 entry.2) empty

/-- Removes what satisfies `p`. -/
def eraseWhere (catalog : Catalog α) (p : String → Bool) : Catalog α :=
  ⟨catalog.entries.filter fun entry => !p entry.1, catalog.ascending.filter _⟩

/-- Removes what is under `key`. -/
def erase (catalog : Catalog α) (key : String) : Catalog α :=
  catalog.eraseWhere (· == key)

/-- Changes the value under `key`, if there is one. -/
def adjust (catalog : Catalog α) (key : String) (change : α → α) : Catalog α :=
  match catalog.find? key with
  | some value => catalog.insert key (change value)
  | none => catalog

/-- The keys, ascending. -/
def keys (catalog : Catalog α) : List String :=
  catalog.entries.map Prod.fst

/-- The values in ascending order of their keys. -/
def values (catalog : Catalog α) : List α :=
  catalog.entries.map Prod.snd

theorem lookup_cons_eq_ite (k k' : String) (v : α) (rest : List (String × α)) :
    ((k', v) :: rest).lookup k = if k = k' then some v else rest.lookup k := by
  by_cases h : k = k'
  · simp [h]
  · have hb : (k == k') = false := by simpa using h
    simp [List.lookup_cons, hb, h]

theorem lookup_insertSorted (key k : String) (value : α) (entries : List (String × α)) :
    (insertSorted key value entries).lookup k =
      if k = key then some value else entries.lookup k := by
  induction entries with
  | nil => simp only [insertSorted, lookup_cons_eq_ite]
  | cons head rest ih =>
    obtain ⟨k', v⟩ := head
    simp only [insertSorted]
    split
    · simp only [lookup_cons_eq_ite]
    · split
      · next heq => subst heq; by_cases h : k = key <;> simp [lookup_cons_eq_ite, h]
      · next hne =>
        simp only [lookup_cons_eq_ite, ih]
        by_cases h : k = key
        · subst h; simp [hne]
        · simp [h]

theorem find?_insert (catalog : Catalog α) (key k : String) (value : α) :
    (catalog.insert key value).find? k = if k = key then some value else catalog.find? k :=
  lookup_insertSorted key k value catalog.entries

theorem lookup_filter (p : String → Bool) (k : String) (entries : List (String × α)) :
    (entries.filter fun entry => !p entry.1).lookup k =
      if p k then none else entries.lookup k := by
  induction entries with
  | nil => simp
  | cons head rest ih =>
    obtain ⟨k', v⟩ := head
    by_cases hk : k = k'
    · subst hk
      cases hp : p k <;> simp [ih, hp]
    · cases hp : p k' <;> simp [lookup_cons_eq_ite, ih, hp, hk]

theorem find?_eraseWhere (catalog : Catalog α) (p : String → Bool) (k : String) :
    (catalog.eraseWhere p).find? k = if p k then none else catalog.find? k :=
  lookup_filter p k catalog.entries

theorem find?_erase (catalog : Catalog α) (key k : String) :
    (catalog.erase key).find? k = if k = key then none else catalog.find? k := by
  simp [erase, find?_eraseWhere]

theorem find?_adjust (catalog : Catalog α) (key k : String) (change : α → α) :
    (catalog.adjust key change).find? k =
      if k = key then (catalog.find? k).map change else catalog.find? k := by
  unfold adjust
  cases h : catalog.find? key with
  | none => by_cases hk : k = key <;> simp [hk, h]
  | some value => by_cases hk : k = key <;> simp [find?_insert, hk, h]

theorem lookup_eq_some_iff {entries : List (String × α)} (h : Ascending entries) {key : String}
    {value : α} : entries.lookup key = some value ↔ (key, value) ∈ entries := by
  induction entries with
  | nil => simp
  | cons head rest ih =>
    obtain ⟨k, v⟩ := head
    obtain ⟨hk, hrest⟩ := List.pairwise_cons.1 h
    rw [lookup_cons_eq_ite]
    by_cases heq : key = k
    · subst heq
      simp only [if_true, Option.some.injEq, List.mem_cons, Prod.mk.injEq, true_and]
      constructor
      · exact fun e => .inl e.symm
      · rintro (e | e)
        · exact e.symm
        · exact absurd (hk _ e) (String.lt_irrefl _)
    · simp [heq, ih hrest]

theorem find?_eq_some_iff (catalog : Catalog α) {key : String} {value : α} :
    catalog.find? key = some value ↔ (key, value) ∈ catalog.entries :=
  lookup_eq_some_iff catalog.ascending

end Catalog
end StorageFleet
