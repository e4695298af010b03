import StorageFleet.Proofs.Volume.Listing

/-!
# The order of a listing

An identifier that names a backend is cut at its first colon into the name and the path: its
`address`.  Identifiers are ordered by the place of the backend in the configured order, and then by
the path (`Fleet.Precedes`).  This order knows nothing of what is on the appliances, and whatever is
there, it is listed in this order (`listed_ascending`).  Hence nothing is listed twice.
-/

namespace StorageFleet

namespace Identifier

/-- The name of the backend and the path that an identifier puts together. -/
def address (id : String) : String × String :=
  (String.ofList (Text.before backendMark id.toList),
    String.ofList (Text.behind backendMark id.toList))

lemma address_encode {name : String} (h : backendMark ∉ name.toList) (path : String) :
    address (ofVolume name path).encode = (name, path) := by
  have htext : (ofVolume name path).encode.toList =
      name.toList ++ backendMark :: path.toList := toList_encode rfl
  have hcut := Text.splitOnce_eq_some_iff.2 ⟨htext, h⟩
  have hmem : backendMark ∈ (ofVolume name path).encode.toList := by
    rw [htext]
    simp
  rw [Text.splitOnce_of_mem hmem] at hcut
  obtain ⟨hbefore, hbehind⟩ := Prod.mk.inj (Option.some.inj hcut)
  rw [address, hbefore, hbehind, String.ofList_toList, String.ofList_toList]

end Identifier

namespace Fleet

/-- The backends can be told apart by what stands before the first colon of an identifier. -/
structure Distinct (fleet : Fleet) : Prop where
  nodup : (fleet.backends.map Backend.name).Nodup
  unmarked : ∀ backend ∈ fleet.backends, Identifier.backendMark ∉ backend.name.toList

/-- The place of an identifier: that of its backend, and its path. -/
def rank (fleet : Fleet) (id : String) : Nat × String :=
  ((fleet.backends.map Backend.name).idxOf (Identifier.address id).1, (Identifier.address id).2)

/-- The order of identifiers. -/
def Precedes (fleet : Fleet) (one other : String) : Prop :=
  (fleet.rank one).1 < (fleet.rank other).1 ∨
    (fleet.rank one).1 = (fleet.rank other).1 ∧ (fleet.rank one).2 < (fleet.rank other).2

variable {fleet : Fleet} {rack : Rack} {one other third : String}

lemma Precedes.trans (h : fleet.Precedes one other) (h' : fleet.Precedes other third) :
    fleet.Precedes one third := by
  rcases h with hlt | ⟨heq, hlt⟩
  · rcases h' with hlt' | ⟨heq', -⟩
    · exact .inl (Nat.lt_trans hlt hlt')
    · exact .inl (heq' ▸ hlt)
  · rcases h' with hlt' | ⟨heq', hlt'⟩
    · exact .inl (heq ▸ hlt')
    · exact .inr ⟨heq.trans heq', String.lt_trans hlt hlt'⟩

lemma Precedes.irrefl (fleet : Fleet) (id : String) : ¬fleet.Precedes id id := by
  rintro (hlt | ⟨-, hlt⟩)
  · exact Nat.lt_irrefl _ hlt
  · exact String.lt_irrefl _ hlt

lemma Precedes.ne (h : fleet.Precedes one other) : one ≠ other := by
  rintro rfl
  exact irrefl fleet one h

lemma Distinct.find?_of_mem (distinct : fleet.Distinct) {backend : Backend}
    (h : backend ∈ fleet.backends) : fleet.find? backend.name = some backend := by
  cases hfound : fleet.find? backend.name with
  | none =>
    have hnone := List.find?_eq_none.1 hfound backend h
    simp at hnone
  | some found =>
    have hname : found.name = backend.name := by simpa using List.find?_some hfound
    have hmem : found ∈ fleet.backends := List.mem_of_find?_eq_some hfound
    rw [List.inj_on_of_nodup_map distinct.nodup hmem h hname]

/-- The backends come in the order of their places. -/
lemma Distinct.backends_ascending (distinct : fleet.Distinct) :
    fleet.backends.Pairwise fun one other =>
      (fleet.backends.map Backend.name).idxOf one.name <
        (fleet.backends.map Backend.name).idxOf other.name := by
  rw [List.pairwise_iff_getElem]
  intro i j hi hj hij
  have hplace : ∀ k (hk : k < fleet.backends.length),
      (fleet.backends.map Backend.name).idxOf fleet.backends[k].name = k := by
    intro k hk
    have hname := distinct.nodup.idxOf_getElem k (by simpa using hk)
    simpa using hname
  rwa [hplace i hi, hplace j hj]

lemma Distinct.rank_encode (distinct : fleet.Distinct) {backend : Backend}
    (h : backend ∈ fleet.backends) (path : String) :
    fleet.rank (Identifier.ofVolume backend.name path).encode =
      ((fleet.backends.map Backend.name).idxOf backend.name, path) := by
  rw [rank, Identifier.address_encode (distinct.unmarked backend h)]

/-- A listing over the default datasets is in the order of the identifiers if the identifiers of
each part are those of its backend, in this order. -/
lemma Distinct.flatMap_ascending (distinct : fleet.Distinct) {key : α → String}
    {list : Backend → String → List α}
    (hrank : ∀ place ∈ fleet.datasets, ∀ item ∈ list place.1 place.2,
      (fleet.rank (key item)).1 = (fleet.backends.map Backend.name).idxOf place.1.name)
    (hlist : ∀ place ∈ fleet.datasets,
      ((list place.1 place.2).map key).Pairwise fleet.Precedes) :
    ((fleet.datasets.flatMap fun place => list place.1 place.2).map key).Pairwise
      fleet.Precedes := by
  rw [List.pairwise_map, List.pairwise_flatMap]
  refine ⟨fun place hplace => List.pairwise_map.1 (hlist place hplace), ?_⟩
  have hplaces : fleet.datasets.Pairwise fun one other =>
      (fleet.backends.map Backend.name).idxOf one.1.name <
        (fleet.backends.map Backend.name).idxOf other.1.name := by
    refine distinct.backends_ascending.filterMap _
      fun one other hlt place hplace place' hplace' => ?_
    obtain ⟨_, -, rfl⟩ := Option.map_eq_some_iff.1 hplace
    obtain ⟨_, -, rfl⟩ := Option.map_eq_some_iff.1 hplace'
    exact hlt
  refine hplaces.imp_of_mem
    fun {place place'} hplace hplace' hlt item hitem item' hitem' => .inl ?_
  rwa [hrank place hplace item hitem, hrank place' hplace' item' hitem']

/-- Whatever is on the appliances, it is listed in the order of the identifiers. -/
theorem listed_ascending (distinct : fleet.Distinct) (staffed : fleet.Staffed rack) :
    ((fleet.listed rack).map Volume.id).Pairwise fleet.Precedes := by
  refine distinct.flatMap_ascending ?_ ?_
  · rintro place hplace volume hvolume
    obtain ⟨_, -, _, -, rfl⟩ := Rack.mem_volumesBelow_iff.1 hvolume
    rw [Volume.of, distinct.rank_encode (mem_datasets_iff.1 hplace).1]
  · intro place hplace
    obtain ⟨hmem, -⟩ := mem_datasets_iff.1 hplace
    unfold Rack.volumesBelow
    cases hserver : rack.server? place.1 place.2 with
    | none => exact .nil
    | some a =>
      obtain ⟨appliance, happliance, ha, -⟩ := Rack.of_server? hserver
      have filed := ((staffed place.1 hmem).staffedBy happliance ha).filed
      rw [List.map_map, List.pairwise_map]
      refine (filed.children_ascending place.2).imp fun {one other} hlt => .inr ?_
      rw [Function.comp_apply, Function.comp_apply, Volume.of, Volume.of,
        distinct.rank_encode hmem, distinct.rank_encode hmem]
      exact ⟨rfl, hlt⟩

/-- Nothing is listed twice. -/
lemma nodup_listed (distinct : fleet.Distinct) (staffed : fleet.Staffed rack) :
    ((fleet.listed rack).map Volume.id).Nodup :=
  (listed_ascending distinct staffed).imp Precedes.ne

end Fleet
end StorageFleet
