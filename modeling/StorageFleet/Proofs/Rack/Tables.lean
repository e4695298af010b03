import Mathlib.Data.List.Sort
import StorageFleet.Catalog

/-!
# Equal tables

A table is its look-ups: two tables in which every look-up finds the same are equal
(`Catalog.ext_find?`).  So an entry that was added and removed again has left no trace, and neither
has one that was removed or added for nothing.
-/

namespace StorageFleet.Catalog

variable {table other : Catalog α} {key : String} {value : α}

theorem ext_find? (h : ∀ key, table.find? key = other.find? key) : table = other := by
  have hmem : ∀ entry, entry ∈ table.entries ↔ entry ∈ other.entries := by
    rintro ⟨key, value⟩
    rw [← find?_eq_some_iff, ← find?_eq_some_iff, h]
  have : Std.Irrefl fun a b : String × α => a.1 < b.1 := ⟨fun a => String.lt_irrefl a.1⟩
  have : Std.Antisymm fun a b : String × α => a.1 < b.1 :=
    ⟨fun a b hab hba => absurd (String.lt_trans hab hba) (String.lt_irrefl a.1)⟩
  obtain ⟨entries, ascending⟩ := table
  obtain ⟨entries', ascending'⟩ := other
  obtain rfl : entries = entries' := List.Pairwise.eq_of_mem_iff ascending ascending' hmem
  rfl

lemma insert_of_some (h : table.find? key = some value) : table.insert key value = table := by
  refine ext_find? fun k => ?_
  rw [find?_insert]
  split_ifs with hk
  · rw [hk, h]
  · rfl

lemma insert_insert (table : Catalog α) (key : String) (value : α) :
    (table.insert key value).insert key value = table.insert key value :=
  insert_of_some (by rw [find?_insert, if_pos rfl])

lemma erase_of_none (h : table.find? key = none) : table.erase key = table := by
  refine ext_find? fun k => ?_
  rw [find?_erase]
  split_ifs with hk
  · rw [hk, h]
  · rfl

lemma erase_insert (h : table.find? key = none) : (table.insert key value).erase key = table := by
  refine ext_find? fun k => ?_
  rw [find?_erase, find?_insert]
  split_ifs with hk
  · rw [hk, h]
  · rfl

end StorageFleet.Catalog
