import StorageFleet.Proofs.Volume.Order

/-!
# The fleet as a store of volumes

A `Store` has a size under the name of a backend and a path.  What the fleet keeps is such a store
(`Fleet.stored`), and `Store.after` says what becomes of a store by an operation that has ended in
some way, without a look at any appliance.  `stored_exec` is the step lemma: the two agree.  So they
agree after a whole run (`play_eq`), and what the fleet reports at any time of the run can be read
off the store: `refines_store`.

Each backend has one appliance, of its own.  A default dataset may not be empty:
`refines_store_emptyDataset` is a store with the empty path in it, which is never listed.
-/

namespace StorageFleet

/-! ## The store -/

/-- The size of each volume, under the name of its backend and its path. -/
abbrev Store : Type := String × String → Option Nat

namespace Store

/-- Puts a volume where there is none. -/
def add (store : Store) (key : String × String) (size : Nat) : Store :=
  match store key with
  | some _ => store
  | none => Function.update store key (some size)

/-- Sets what there is under the identifier of a volume that names its backend. -/
def assign (store : Store) (id : String) (size : Option Nat) : Store :=
  match Identifier.decodeVolume id with
  | .ok ⟨some name, path, _⟩ => Function.update store (name, path) size
  | _ => store

/-- The store after an operation that has ended like this. -/
def after (store : Store) : (operation : Operation) → operation.Outcome → Store
  | .createVolume request, .ok volume =>
    store.add (Identifier.address volume.id) (request.capacityBytes.getD 0)
  | .expandVolume id capacity, .ok _ => store.assign id (some capacity)
  | .deleteVolume id, .ok _ => store.assign id none
  | _, _ => store

variable {store : Store} {name path id : String}

lemma assign_ofVolume (hid : Identifier.decodeVolume id = .ok (.ofVolume name path))
    (size : Option Nat) : store.assign id size = Function.update store (name, path) size := by
  rw [assign, hid]
  rfl

lemma assign_of_error {defect : Identifier.Defect}
    (hid : Identifier.decodeVolume id = .error defect) (size : Option Nat) :
    store.assign id size = store := by
  rw [assign, hid]

lemma isSome_update (h : (store (name, path)).isSome = true) {key : String × String}
    {size : Option Nat} (hkept : (name, path) = key → size.isSome = true) :
    (Function.update store key size (name, path)).isSome = true := by
  rw [Function.update_apply]
  split_ifs with hkey
  · exact hkept hkey
  · exact h

lemma isSome_add (h : (store (name, path)).isSome = true) (key : String × String) (size : Nat) :
    (store.add key size (name, path)).isSome = true := by
  unfold add
  cases store key with
  | some _ => exact h
  | none => exact isSome_update h fun _ => rfl

lemma isSome_assign (h : (store (name, path)).isSome = true) {size : Option Nat}
    (hkept : Identifier.decodeVolume id = .ok (.ofVolume name path) → size.isSome = true) :
    (store.assign id size (name, path)).isSome = true := by
  cases hid : Identifier.decodeVolume id with
  | error defect => rwa [assign_of_error hid]
  | ok identifier =>
    obtain ⟨backend, target, snapshot⟩ := identifier
    obtain rfl : snapshot = none := (Identifier.decodeVolume_eq_ok_iff.1 hid).2
    cases backend with
    | none => rwa [assign, hid]
    | some found =>
      rw [assign_ofVolume hid]
      refine isSome_update h fun hkey => hkept ?_
      rw [hid, (Prod.mk.inj hkey).1, (Prod.mk.inj hkey).2]
      rfl

/-- What is in a store stays there until it is deleted. -/
lemma isSome_after (h : (store (name, path)).isSome = true) {operation : Operation}
    (hother : ∀ id, operation = .deleteVolume id →
      Identifier.decodeVolume id ≠ .ok (.ofVolume name path)) (outcome : operation.Outcome) :
    (store.after operation outcome (name, path)).isSome = true := by
  cases outcome with
  | error fault => cases operation <;> exact h
  | ok answer =>
    cases operation with
    | createVolume request => exact isSome_add h _ _
    | expandVolume id capacity => exact isSome_assign h fun _ => rfl
    | deleteVolume id => exact isSome_assign h fun hid => absurd hid (hother id rfl)
    | _ => exact h

end Store

/-! ## What the fleet keeps -/

/-- The size of the filesystem at a path on a backend. -/
def Backend.size? (backend : Backend) (rack : Rack) (path : String) : Option Nat :=
  backend.appliances.findSome? fun appliance =>
    ((rack.filesystems? appliance.id).bind fun table => table.find? path).map Filesystem.quota

/-- All filesystems of the fleet. -/
def Fleet.stored (fleet : Fleet) (rack : Rack) : Store := fun key =>
  (fleet.find? key.1).bind fun backend => backend.size? rack key.2

/-- Backends with distinct names that may be theirs, and with appliances of their own. -/
structure Fleet.Proper (fleet : Fleet) : Prop where
  named : ∀ backend ∈ fleet.backends, Identifier.checkBackendName backend.name = .ok ()
  nodup : (fleet.backends.map Backend.name).Nodup
  apart : fleet.Apart

section

variable {fleet : Fleet} {rack later : Rack} {backend : Backend} {appliance : ApplianceRef}
  {a : Simulated} {path name : String} {size : Option Nat} {table : Catalog Filesystem}

lemma Fleet.Proper.distinct (proper : fleet.Proper) : fleet.Distinct where
  nodup := proper.nodup
  unmarked backend hmem := (Identifier.of_checkBackendName (proper.named backend hmem)).2

lemma Backend.size?_single (h : backend.appliances = [appliance]) (rack : Rack) (path : String) :
    backend.size? rack path =
      ((rack.filesystems? appliance.id).bind fun table => table.find? path).map
        Filesystem.quota := by
  rw [size?, h, List.findSome?_singleton]

lemma Backend.StaffedBy.size?_eq (h : backend.StaffedBy rack appliance a) (path : String) :
    backend.size? rack path = (a.filesystems.find? path).map Filesystem.quota := by
  rw [size?_single h.single, Rack.filesystems?_of_some h.here, Option.bind_some]

/-- Whether the path is there decides whether somebody holds it. -/
lemma Backend.StaffedBy.holder?_eq (h : backend.StaffedBy rack appliance a) (hpath : path ≠ "") :
    rack.holder? path backend =
      if a.filesystems.contains path = true then some appliance else none := by
  have hhas : rack.has path appliance = true ↔ a.filesystems.contains path = true := by
    rw [Rack.has_iff, h.here]
    simp [h.online]
  rw [Rack.holder?, if_neg (by simpa using hpath), h.single, List.find?_singleton]
  exact if_congr hhas rfl rfl

lemma Fleet.Proper.stored_of_mem (proper : fleet.Proper) (hmem : backend ∈ fleet.backends)
    (rack : Rack) (path : String) :
    fleet.stored rack (backend.name, path) = backend.size? rack path := by
  rw [stored, proper.distinct.find?_of_mem hmem, Option.bind_some]

lemma Fleet.stored_of_same (same : later.filesystems? = rack.filesystems?) :
    fleet.stored later = fleet.stored rack := by
  unfold stored Backend.size?
  rw [same]

/-- What changes at one path of one appliance changes in the store under that path and the name of
the backend that the appliance belongs to. -/
lemma Fleet.Proper.stored_of_change (proper : fleet.Proper) (staffed : fleet.Staffed rack)
    (hmem : backend ∈ fleet.backends) (happliance : appliance ∈ backend.appliances)
    (ha : rack appliance.id = some a)
    (hlater : later.filesystems? =
      Function.update rack.filesystems? appliance.id (some table))
    (htable : ∀ other, (table.find? other).map Filesystem.quota =
      if other = path then size else (a.filesystems.find? other).map Filesystem.quota) :
    fleet.stored later = Function.update (fleet.stored rack) (backend.name, path) size := by
  have hstaffed := (staffed backend hmem).staffedBy happliance ha
  funext ⟨name, other⟩
  by_cases hname : name = backend.name
  · subst hname
    rw [proper.stored_of_mem hmem, Backend.size?_single hstaffed.single, hlater,
      Function.update_self, Option.bind_some, htable]
    split_ifs with hother
    · rw [hother, Function.update_self]
    · rw [Function.update_of_ne (by simpa using hother), proper.stored_of_mem hmem,
        hstaffed.size?_eq]
  · rw [Function.update_of_ne (by simp [hname]), stored, stored]
    cases hfound : fleet.find? name with
    | none => rfl
    | some found =>
      have hfoundName : found.name = name := by simpa using List.find?_some hfound
      have hfoundMem : found ∈ fleet.backends := List.mem_of_find?_eq_some hfound
      obtain ⟨single, _, hfoundSingle, -⟩ := staffed found hfoundMem
      have hne : single.id ≠ appliance.id := by
        intro hid
        have heq := proper.apart.eq_of_id_eq hfoundMem hmem (by simp [hfoundSingle]) happliance hid
        exact hname (by rw [← hfoundName, heq])
      rw [Option.bind_some, Option.bind_some, Backend.size?_single hfoundSingle,
        Backend.size?_single hfoundSingle, hlater, Function.update_of_ne hne]

/-- Putting a filesystem in place changes the size there. -/
lemma map_quota_insert (table : Catalog Filesystem) (fs : Filesystem) (path other : String) :
    ((table.insert path fs).find? other).map Filesystem.quota =
      if other = path then some fs.quota else (table.find? other).map Filesystem.quota := by
  rw [Catalog.find?_insert]
  split_ifs <;> rfl

lemma map_quota_erase (table : Catalog Filesystem) (path other : String) :
    ((table.erase path).find? other).map Filesystem.quota =
      if other = path then none else (table.find? other).map Filesystem.quota := by
  rw [Catalog.find?_erase]
  split_ifs <;> rfl

/-! ## One operation -/

/-- The operations that a store of volumes is about.  Whose identifier is resized or deleted has to
name its backend. -/
def Operation.OnStore : Operation → Prop
  | .createVolume _ | .createSnapshot .. | .deleteSnapshot _ => True
  | .expandVolume id _ | .deleteVolume id =>
    ∀ identifier, Identifier.decode id = .ok identifier → identifier.backend.isSome = true
  | _ => False

/-- Such an identifier is that of a path on the backend that it names. -/
lemma Identifier.eq_ofVolume_of_decode {id : String} {identifier : Identifier}
    (hnamed : ∀ identifier, decode id = .ok identifier → identifier.backend.isSome = true)
    (hid : Fleet.volumeId id = .ok identifier) : ∃ name path, identifier = .ofVolume name path ∧
      decodeVolume id = .ok (.ofVolume name path) ∧ name ≠ "" ∧ path ≠ "" := by
  have hdecode := Fleet.volumeId_eq_ok_iff.1 hid
  obtain ⟨hread, hnone⟩ := decodeVolume_eq_ok_iff.1 hdecode
  obtain ⟨name, hname⟩ := Option.isSome_iff_exists.1 (hnamed identifier hread)
  have hlegible := (decode_eq_ok_iff.1 hread).1
  have heq : identifier = .ofVolume name identifier.path := by
    rw [ofVolume, ← hname, ← hnone]
  exact ⟨name, identifier.path, heq, heq ▸ hdecode, (hlegible.named name hname).1,
    hlegible.divisible.path_ne⟩

lemma CreateVolumeRequest.getD_capacity (request : CreateVolumeRequest) :
    request.capacity.getD 0 = request.capacityBytes.getD 0 := by
  unfold capacity
  cases request.capacityBytes with
  | none => rfl
  | some size => cases size <;> rfl

lemma Fleet.Proper.stored_createVolume (proper : fleet.Proper) (staffed : fleet.Staffed rack)
    (request : CreateVolumeRequest) :
    fleet.stored ((Operation.createVolume request).exec fleet rack).2 =
      (fleet.stored rack).after (.createVolume request)
        ((Operation.createVolume request).exec fleet rack).1 := by
  rcases fleet.createVolume_cases request rack with
    ⟨fault, later, hexec, hsame⟩ | ⟨volume, later, hexec, ⟨creation⟩⟩
  · rw [show (Operation.createVolume request).exec fleet rack = _ from hexec]
    exact stored_of_same hsame
  rw [show (Operation.createVolume request).exec fleet rack = _ from hexec]
  have hbackend := creation.backend_mem
  have hstaffed := (staffed _ hbackend).staffedBy creation.appliance_mem creation.here
  have hkey : Identifier.address volume.id = (creation.backend.name, creation.path) := by
    rw [show volume.id = _ from congrArg Volume.id creation.volume_eq]
    exact Identifier.address_encode (proper.distinct.unmarked _ hbackend) _
  have hbefore : fleet.stored rack (creation.backend.name, creation.path) =
      (creation.found.filesystems.find? creation.path).map Filesystem.quota := by
    rw [proper.stored_of_mem hbackend, hstaffed.size?_eq]
  have hlater : later.filesystems? = Function.update rack.filesystems? creation.appliance.id
      (some creation.left.filesystems) :=
    (congrArg Rack.filesystems? creation.later_eq).trans (Rack.filesystems?_set ..)
  simp only [Store.after, Store.add, hkey]
  rcases creation.filesystems with ⟨⟨fs, hfs, -⟩, hsame⟩ | ⟨hfree, hsize, hinsert⟩
  · rw [hbefore, hfs]
    refine stored_of_same ?_
    rw [hlater, hsame, ← Rack.filesystems?_of_some creation.here, Function.update_eq_self]
  · rw [hbefore, hfree, ← request.getD_capacity, ← hsize]
    refine proper.stored_of_change staffed hbackend creation.appliance_mem creation.here hlater
      fun other => ?_
    rw [hinsert]
    exact map_quota_insert ..

lemma Fleet.Proper.stored_expandVolume (proper : fleet.Proper) (staffed : fleet.Staffed rack)
    {id : String} (capacity : Nat)
    (hnamed : ∀ identifier, Identifier.decode id = .ok identifier →
      identifier.backend.isSome = true) :
    fleet.stored ((Operation.expandVolume id capacity).exec fleet rack).2 =
      (fleet.stored rack).after (.expandVolume id capacity)
        ((Operation.expandVolume id capacity).exec fleet rack).1 := by
  rcases fleet.expandVolume_cases id capacity rack with
    ⟨fault, hexec⟩ | ⟨identifier, resolution, a, fs, hid, hplace, ha, hfound, hexec⟩
  · rw [show (Operation.expandVolume id capacity).exec fleet rack = _ from hexec]
    rfl
  rw [show (Operation.expandVolume id capacity).exec fleet rack = _ from hexec]
  obtain ⟨name, path, rfl, hdecode, hname, hpath⟩ := Identifier.eq_ofVolume_of_decode hnamed hid
  have stands := stands_of_place? hplace
  rw [placeOf?_named hname hpath] at hplace
  obtain ⟨backend, hbackend, hplace⟩ := Option.bind_eq_some_iff.1 hplace
  obtain ⟨appliance, -, rfl⟩ := Option.map_eq_some_iff.1 hplace
  obtain rfl : backend.name = name := by simpa using List.find?_some hbackend
  simp only [Store.after, Store.assign_ofVolume hdecode]
  exact proper.stored_of_change staffed stands.backend_mem stands.appliance_mem ha
    (Rack.filesystems?_set ..) fun other => map_quota_insert ..

/-- Without the path on the first appliance that has it, the backend is without it. -/
lemma Fleet.Proper.stored_withoutFirst (proper : fleet.Proper) (staffed : fleet.Staffed rack)
    (hmem : backend ∈ fleet.backends) (path : String) :
    fleet.stored (rack.withoutFirst path backend.appliances) =
      Function.update (fleet.stored rack) (backend.name, path) none := by
  obtain ⟨appliance, a, hstaffed⟩ := staffed backend hmem
  unfold Rack.withoutFirst
  rw [hstaffed.single]
  by_cases hhas : rack.has path appliance = true
  · rw [List.find?_singleton, if_pos hhas]
    exact proper.stored_of_change staffed hmem (by simp [hstaffed.single]) hstaffed.here
      (Rack.filesystems?_without hhas hstaffed.here) fun other => map_quota_erase ..
  · rw [List.find?_singleton, if_neg hhas]
    have hmissing : a.filesystems.find? path = none := by
      rw [Rack.has_iff] at hhas
      by_contra hfound
      exact hhas ⟨a, hstaffed.here, hstaffed.online, Option.isSome_iff_ne_none.2 hfound⟩
    refine (Function.update_eq_self_iff.2 ?_).symm
    rw [proper.stored_of_mem hmem, hstaffed.size?_eq, hmissing]
    rfl

lemma Fleet.Proper.stored_deleteVolume (proper : fleet.Proper) (staffed : fleet.Staffed rack)
    {id : String}
    (hnamed : ∀ identifier, Identifier.decode id = .ok identifier →
      identifier.backend.isSome = true) :
    fleet.stored ((Operation.deleteVolume id).exec fleet rack).2 =
      (fleet.stored rack).after (.deleteVolume id)
        ((Operation.deleteVolume id).exec fleet rack).1 := by
  cases hid : volumeId id with
  | error fault =>
    rw [show (Operation.deleteVolume id).exec fleet rack = _ from deleteVolume_of_error hid rack]
    cases hdecode : Identifier.decodeVolume id with
    | error defect => exact (Store.assign_of_error hdecode none).symm
    | ok identifier => cases hid.symm.trans (volumeId_eq_ok_iff.2 hdecode)
  | ok identifier =>
    obtain ⟨name, path, rfl, hdecode, hname, -⟩ := Identifier.eq_ofVolume_of_decode hnamed hid
    have hasked : ¬(given (some name) = none ∧ fleet.backends = []) := by
      rintro ⟨hnone, -⟩
      simp [given, hname] at hnone
    rw [show (Operation.deleteVolume id).exec fleet rack = _ from
      deleteVolume_exec_of_asked hid hasked rack]
    simp only [Store.after, Store.assign_ofVolume hdecode]
    cases hbackend : fleet.find? name with
    | none =>
      have hnobody : fleet.addressed (.ofVolume name path) = [] := by
        simp [addressed, Identifier.ofVolume, candidates_named hname, hbackend]
      rw [hnobody]
      refine (Function.update_eq_self_iff.2 ?_).symm
      rw [stored, hbackend]
      rfl
    | some backend =>
      obtain rfl : backend.name = name := by simpa using List.find?_some hbackend
      rw [addressed_named hname hbackend path]
      exact proper.stored_withoutFirst staffed (List.mem_of_find?_eq_some hbackend) path

/-- What an operation does to the fleet it does to the store. -/
theorem Fleet.Proper.stored_exec (proper : fleet.Proper) (staffed : fleet.Staffed rack)
    {operation : Operation} (h : operation.OnStore) :
    fleet.stored (operation.exec fleet rack).2 =
      (fleet.stored rack).after operation (operation.exec fleet rack).1 := by
  cases operation with
  | createVolume request => exact proper.stored_createVolume staffed request
  | expandVolume id capacity => exact proper.stored_expandVolume staffed capacity h
  | deleteVolume id => exact proper.stored_deleteVolume staffed h
  | createSnapshot id name => exact stored_of_same (fleet.createSnapshot_keeps id name rack)
  | deleteSnapshot id => exact stored_of_same (fleet.deleteSnapshot_keeps id rack)
  | _ => exact h.elim

/-! ## Whole runs -/

/-- Runs operations one after the other on the fleet, and keeps the books in a store. -/
def Fleet.play (fleet : Fleet) : List Operation → Store × Rack → Store × Rack
  | [], state => state
  | operation :: rest, (store, rack) =>
    fleet.play rest (store.after operation (operation.exec fleet rack).1,
      (operation.exec fleet rack).2)

/-- The books are always right. -/
theorem Fleet.Proper.play_eq (proper : fleet.Proper) (staffed : fleet.Staffed rack)
    {operations : List Operation} (h : ∀ operation ∈ operations, operation.OnStore) :
    fleet.play operations (fleet.stored rack, rack) =
      (fleet.stored (fleet.play operations (fleet.stored rack, rack)).2,
        (fleet.play operations (fleet.stored rack, rack)).2) ∧
    fleet.Staffed (fleet.play operations (fleet.stored rack, rack)).2 := by
  induction operations generalizing rack with
  | nil => exact ⟨rfl, staffed⟩
  | cons operation rest ih =>
    rw [play, ← proper.stored_exec staffed (h operation (by simp))]
    exact ih (staffed.exec operation) fun other hmem => h other (List.mem_cons_of_mem _ hmem)

/-! ## What the fleet reports -/

/-- Every default dataset is in the store. -/
def Store.HasDatasets (store : Store) (fleet : Fleet) : Prop :=
  ∀ backend ∈ fleet.backends, ∀ dataset, backend.config.defaultDataset = some dataset →
    (store (backend.name, dataset)).isSome = true

/-- A listing without a limit has one entry for each path in the store that lies directly below the
default dataset of its backend, and no others. -/
def Fleet.Lists (fleet : Fleet) (rack : Rack) (store : Store) : Prop :=
  ∃ entries, (Operation.listVolumes 0 none).exec fleet rack = (.ok ⟨entries, none⟩, rack) ∧
    (entries.map Volume.id).Nodup ∧
    ∀ id size, (∃ volume ∈ entries, volume.id = id ∧ volume.capacityBytes = size) ↔
      ∃ backend ∈ fleet.backends, ∃ dataset leaf,
        backend.config.defaultDataset = some dataset ∧ '/' ∉ leaf.toList ∧
        id = (Identifier.ofVolume backend.name (dataset ++ "/" ++ leaf)).encode ∧
        store (backend.name, dataset ++ "/" ++ leaf) = some size

/-- The fleet reports what is in the store. -/
structure Fleet.Reports (fleet : Fleet) (rack : Rack) (store : Store) : Prop where
  found : ∀ name path size, Identifier.checkBackendName name = .ok () → path ≠ "" →
    '@' ∉ path.toList → store (name, path) = some size →
    ∃ volume, (Operation.validateVolume (Identifier.ofVolume name path).encode).exec fleet rack =
      (.ok volume, rack) ∧ volume.id = (Identifier.ofVolume name path).encode ∧
        volume.capacityBytes = size
  missing : ∀ name path, Identifier.checkBackendName name = .ok () → path ≠ "" →
    '@' ∉ path.toList → store (name, path) = none →
    ∃ fault, (Operation.validateVolume (Identifier.ofVolume name path).encode).exec fleet rack =
      (.error fault, rack)
  listed : store.HasDatasets fleet → fleet.Lists rack store

/-- An appliance that has a path is the place of the path. -/
lemma Backend.StaffedBy.placeOf?_eq (h : backend.StaffedBy rack appliance a)
    (hbackend : fleet.find? backend.name = some backend) (hname : backend.name ≠ "")
    (hpath : path ≠ "") : fleet.placeOf? rack (.ofVolume backend.name path) =
      if a.filesystems.contains path = true then some ⟨backend, appliance, path⟩ else none := by
  rw [Fleet.placeOf?_named hname hpath, hbackend, Option.bind_some, h.holder?_eq hpath]
  split_ifs <;> rfl

lemma Fleet.reports_found (staffed : fleet.Staffed rack)
    (hname : Identifier.checkBackendName name = .ok ()) (hpath : path ≠ "")
    (hunmarked : '@' ∉ path.toList) {stored : Nat}
    (hstored : fleet.stored rack (name, path) = some stored) :
    ∃ volume, (Operation.validateVolume (Identifier.ofVolume name path).encode).exec fleet rack =
      (.ok volume, rack) ∧ volume.id = (Identifier.ofVolume name path).encode ∧
        volume.capacityBytes = stored := by
  have hid := volumeId_eq_ok_iff.2 ((Identifier.decodeVolume_ofVolume_iff hname hpath).2 hunmarked)
  obtain ⟨backend, hbackend, hsize⟩ := Option.bind_eq_some_iff.1 hstored
  obtain rfl : backend.name = name := by simpa using List.find?_some hbackend
  obtain ⟨appliance, a, hstaffed⟩ := staffed backend (List.mem_of_find?_eq_some hbackend)
  rw [hstaffed.size?_eq] at hsize
  obtain ⟨fs, hfound, rfl⟩ := Option.map_eq_some_iff.1 hsize
  have hplace := hstaffed.placeOf?_eq hbackend (Identifier.of_checkBackendName hname).1 hpath
  rw [if_pos (by rw [Catalog.contains, hfound]; rfl)] at hplace
  obtain ⟨other, hother, hexec⟩ := validateVolume_of_some hid hplace
  have hprobe : rack.probe path appliance = .ok fs :=
    Rack.probe_eq_ok_iff.2 ⟨a, hstaffed.here, hstaffed.online, hfound⟩
  obtain rfl : fs = other := Except.ok.inj (hprobe.symm.trans hother)
  exact ⟨_, hexec, rfl, rfl⟩

lemma Fleet.reports_missing (staffed : fleet.Staffed rack)
    (hname : Identifier.checkBackendName name = .ok ()) (hpath : path ≠ "")
    (hunmarked : '@' ∉ path.toList) (hstored : fleet.stored rack (name, path) = none) :
    ∃ fault, (Operation.validateVolume (Identifier.ofVolume name path).encode).exec fleet rack =
      (.error fault, rack) := by
  have hid := volumeId_eq_ok_iff.2 ((Identifier.decodeVolume_ofVolume_iff hname hpath).2 hunmarked)
  have hne := (Identifier.of_checkBackendName hname).1
  refine validateVolume_of_none hid ?_
  cases hbackend : fleet.find? name with
  | none => rw [placeOf?_named hne hpath, hbackend, Option.bind_none]
  | some backend =>
    obtain rfl : backend.name = name := by simpa using List.find?_some hbackend
    obtain ⟨appliance, a, hstaffed⟩ := staffed backend (List.mem_of_find?_eq_some hbackend)
    rw [stored, hbackend, Option.bind_some, hstaffed.size?_eq, Option.map_eq_none_iff] at hstored
    rw [hstaffed.placeOf?_eq hbackend hne hpath, if_neg (by simp [Catalog.contains, hstored])]

/-- A path is held on a backend just if it is in the store. -/
lemma Fleet.Proper.isSome_holder?_iff (proper : fleet.Proper) (staffed : fleet.Staffed rack)
    (hmem : backend ∈ fleet.backends) : (rack.holder? path backend).isSome = true ↔
      path ≠ "" ∧ (fleet.stored rack (backend.name, path)).isSome = true := by
  obtain ⟨appliance, a, hstaffed⟩ := staffed backend hmem
  rw [proper.stored_of_mem hmem, hstaffed.size?_eq, Option.isSome_map]
  by_cases hpath : path = ""
  · simp [Rack.holder?, hpath]
  · rw [hstaffed.holder?_eq hpath]
    change _ ↔ path ≠ "" ∧ a.filesystems.contains path = true
    split_ifs with hthere <;> simp [hthere, hpath]

/-- Datasets that are in the store are held. -/
lemma Fleet.Proper.held (proper : fleet.Proper) (staffed : fleet.Staffed rack)
    (given : ∀ backend ∈ fleet.backends, backend.config.defaultDataset ≠ some "")
    (kept : (fleet.stored rack).HasDatasets fleet) : fleet.Held rack := by
  rintro ⟨backend, dataset⟩ hplace
  obtain ⟨hmem, hdataset⟩ := mem_datasets_iff.1 hplace
  refine (proper.isSome_holder?_iff staffed hmem).2 ⟨?_, kept backend hmem dataset hdataset⟩
  rintro rfl
  exact given backend hmem hdataset

lemma Fleet.Proper.stored_eq_some_iff (proper : fleet.Proper) (staffed : fleet.Staffed rack)
    (hmem : backend ∈ fleet.backends) {stored : Nat} :
    fleet.stored rack (backend.name, path) = some stored ↔
      ∃ fs, backend.Has rack path fs ∧ fs.quota = stored := by
  obtain ⟨appliance, a, hstaffed⟩ := staffed backend hmem
  rw [proper.stored_of_mem hmem, hstaffed.size?_eq, Option.map_eq_some_iff]
  simp [Backend.Has, hstaffed.single, hstaffed.here]

lemma Fleet.Proper.reports_listed (proper : fleet.Proper) (staffed : fleet.Staffed rack)
    (given : ∀ backend ∈ fleet.backends, backend.config.defaultDataset ≠ some "")
    (kept : (fleet.stored rack).HasDatasets fleet) : fleet.Lists rack (fleet.stored rack) := by
  have held := proper.held staffed given kept
  refine ⟨fleet.listed rack, exec_listVolumes held 0 none,
    nodup_listed proper.distinct staffed, fun id size => ?_⟩
  constructor
  · rintro ⟨volume, hvolume, rfl, rfl⟩
    obtain ⟨backend, hmem, dataset, leaf, fs, hdataset, hleaf, hhas, rfl⟩ :=
      (mem_listed_iff_of_held staffed held).1 hvolume
    exact ⟨backend, hmem, dataset, leaf, hdataset, hleaf, rfl,
      (proper.stored_eq_some_iff staffed hmem).2 ⟨fs, hhas, rfl⟩⟩
  · rintro ⟨backend, hmem, dataset, leaf, hdataset, hleaf, rfl, hstored⟩
    obtain ⟨fs, hhas, rfl⟩ := (proper.stored_eq_some_iff staffed hmem).1 hstored
    exact ⟨_, (mem_listed_iff_of_held staffed held).2
      ⟨backend, hmem, dataset, leaf, fs, hdataset, hleaf, hhas, rfl⟩, rfl, rfl⟩

/-- The fleet reports what it keeps. -/
theorem Fleet.Proper.reports (proper : fleet.Proper) (staffed : fleet.Staffed rack)
    (given : ∀ backend ∈ fleet.backends, backend.config.defaultDataset ≠ some "") :
    fleet.Reports rack (fleet.stored rack) where
  found _ _ _ hname hpath hunmarked hstored :=
    reports_found staffed hname hpath hunmarked hstored
  missing _ _ hname hpath hunmarked hstored :=
    reports_missing staffed hname hpath hunmarked hstored
  listed kept := proper.reports_listed staffed given kept

end

/-! ## The result -/

/-- At any time of a run, the fleet reports what is in a store that only knows how the operations
have ended so far. -/
theorem refines_store (fleet : Fleet) (rack : Rack) (proper : fleet.Proper)
    (staffed : fleet.Staffed rack)
    (given : ∀ backend ∈ fleet.backends, backend.config.defaultDataset ≠ some "")
    (operations : List Operation) (h : ∀ operation ∈ operations, operation.OnStore) :
    ∀ early, early <+: operations →
      let state := fleet.play early (fleet.stored rack, rack)
      fleet.Reports state.2 state.1 := by
  intro early hearly state
  obtain ⟨hbooks, hstaffed⟩ := proper.play_eq staffed
    fun operation hmem => h operation (hearly.subset hmem)
  have hstore : state.1 = fleet.stored state.2 := congrArg Prod.fst hbooks
  rw [hstore]
  exact proper.reports hstaffed given

lemma Pools.proper : fleet.Proper :=
  ⟨by decide, by decide, by unfold Fleet.Apart; decide⟩

/-- A volume is resized and then deleted, on one of two backends. -/
theorem refines_store_twoPools :
    let operations : List Operation := [.expandVolume "one:pool/v" 7, .deleteVolume "one:pool/v"]
    Pools.fleet.Proper ∧ Pools.fleet.Staffed Pools.rack ∧
    ∀ early, early <+: operations →
      let state := Pools.fleet.play early (Pools.fleet.stored Pools.rack, Pools.rack)
      Pools.fleet.Reports state.2 state.1 := by
  intro operations
  have hgiven : ∀ backend ∈ Pools.fleet.backends, backend.config.defaultDataset ≠ some "" := by
    decide
  have hnamed : ∀ operation ∈ operations, operation.OnStore := by
    have hid : ∀ identifier, Identifier.decode "one:pool/v" = .ok identifier →
        identifier.backend.isSome = true := by
      rintro _ ⟨⟩
      rfl
    simpa [operations, Operation.OnStore] using hid
  exact ⟨Pools.proper, Pools.staffed, refines_store Pools.fleet Pools.rack Pools.proper
    Pools.staffed hgiven operations hnamed⟩

/-- Where a default dataset is the empty path, it is in the store, and so is a volume below it, but
there is no listing. -/
theorem refines_store_emptyDataset :
    Pools.nameless.Proper ∧ Pools.nameless.Staffed Pools.namelessRack ∧
    (Pools.nameless.stored Pools.namelessRack).HasDatasets Pools.nameless ∧
    Pools.nameless.stored Pools.namelessRack ("one", "/v") = some 2 ∧
    ¬Pools.nameless.Lists Pools.namelessRack (Pools.nameless.stored Pools.namelessRack) := by
  have proper : Pools.nameless.Proper := ⟨by decide, by decide, by unfold Fleet.Apart; decide⟩
  refine ⟨proper, Pools.staffed_nameless, ?_, rfl, ?_⟩
  · intro backend hmem dataset hdataset
    obtain rfl := List.mem_singleton.1 hmem
    obtain rfl := Option.some.inj hdataset
    rfl
  · rintro ⟨entries, hlisted, -⟩
    have hfails : ((Operation.listVolumes 0 none).exec Pools.nameless Pools.namelessRack).1 =
        .error (.invalidArgument "backend 'one': cannot resolve an empty path") := rfl
    rw [hlisted] at hfails
    cases hfails

end StorageFleet
