import StorageFleet.Proofs.Volume.Listing

/-!
# Identifiers that are handed out

Every volume and every snapshot that an operation gives back carries an identifier, which is put
together from the name of its backend and its path.  What it is good for is a `Fleet.Handle`.  As
long as there is no at sign in the path, the identifier is read back as what it was made of,
deletion removes the path, and a look-up finds it again.

The names of volumes and the datasets below which they go are not checked for at signs.  The
identifier of a volume whose path has one reads as that of a snapshot, or not at all, so deletion is
reported as done while the volume stays: `handed_out_lost`.
-/

namespace StorageFleet

section

variable {fleet : Fleet} {rack : Rack} {backend : Backend} {path id : String}

/-- What the identifier of a path on a backend is good for, at the time of this rack. -/
structure Fleet.Handle (fleet : Fleet) (rack : Rack) (id : String) (backend : Backend)
    (path : String) : Prop where
  read : Identifier.decodeVolume id = .ok (.ofVolume backend.name path) ↔ '@' ∉ path.toList
  /-- Deletion removes the path from the first appliance that has it. -/
  deleted : '@' ∉ path.toList → fleet.find? backend.name = some backend →
    (Operation.deleteVolume id).exec fleet rack =
      (.ok (), rack.withoutFirst path backend.appliances)
  /-- A look-up finds the path, and gives the identifier again. -/
  found : '@' ∉ path.toList → fleet.find? backend.name = some backend →
    (∃ appliance ∈ backend.appliances, rack.has path appliance = true) →
      ∃ volume, (Operation.validateVolume id).exec fleet rack = (.ok volume, rack) ∧ volume.id = id
  /-- With an at sign in its path the volume cannot be addressed. -/
  lost : '@' ∈ path.toList → (∀ identifier, Identifier.decodeVolume id ≠ .ok identifier) ∧
    (Operation.deleteVolume id).exec fleet rack = (.ok (), rack) ∧
    ∃ fault, (Operation.validateVolume id).exec fleet rack = (.error fault, rack)

namespace Fleet

/-- A look-up by name finds what an appliance of the backend has. -/
lemma exists_validateVolume (hname : Identifier.checkBackendName backend.name = .ok ())
    (hpath : path ≠ "") (hunmarked : '@' ∉ path.toList)
    (hbackend : fleet.find? backend.name = some backend)
    (hhas : ∃ appliance ∈ backend.appliances, rack.has path appliance = true) :
    ∃ volume, (Operation.validateVolume (Identifier.ofVolume backend.name path).encode).exec fleet
      rack = (.ok volume, rack) ∧ volume.id = (Identifier.ofVolume backend.name path).encode := by
  have hid := volumeId_eq_ok_iff.2 ((Identifier.decodeVolume_ofVolume_iff hname hpath).2 hunmarked)
  obtain ⟨holder, hholder⟩ : ∃ holder, rack.holder? path backend = some holder := by
    rw [← Option.isSome_iff_exists, Rack.holder?, if_neg (by simpa using hpath),
      List.find?_isSome]
    exact hhas
  have hplace : fleet.placeOf? rack (.ofVolume backend.name path) =
      some ⟨backend, holder, path⟩ := by
    rw [placeOf?_named (Identifier.of_checkBackendName hname).1 hpath, hbackend,
      Option.bind_some, hholder]
    rfl
  obtain ⟨fs, -, hexec⟩ := validateVolume_of_some hid hplace
  exact ⟨_, hexec, rfl⟩

/-- The identifier of a path on a backend. -/
lemma handle (hname : Identifier.checkBackendName backend.name = .ok ()) (hpath : path ≠ "") :
    fleet.Handle rack (Identifier.ofVolume backend.name path).encode backend path where
  read := Identifier.decodeVolume_ofVolume_iff hname hpath
  deleted hunmarked hbackend := by
    have hne := (Identifier.of_checkBackendName hname).1
    have hid :=
      volumeId_eq_ok_iff.2 ((Identifier.decodeVolume_ofVolume_iff hname hpath).2 hunmarked)
    have hasked : ¬(given (some backend.name) = none ∧ fleet.backends = []) := by
      rintro ⟨-, hempty⟩
      rw [find?, hempty] at hbackend
      cases hbackend
    rw [← addressed_named hne hbackend path]
    exact deleteVolume_exec_of_asked hid hasked rack
  found := exists_validateVolume hname hpath
  lost hmarked := by
    have hnone : ∀ identifier, Identifier.decodeVolume
        (Identifier.ofVolume backend.name path).encode ≠ .ok identifier :=
      fun identifier h => Identifier.unmarked_of_decodeVolume hname h hmarked
    obtain ⟨fault, hid⟩ : ∃ fault,
        volumeId (Identifier.ofVolume backend.name path).encode = .error fault := by
      cases hid : volumeId (Identifier.ofVolume backend.name path).encode with
      | error fault => exact ⟨fault, rfl⟩
      | ok identifier => exact absurd (volumeId_eq_ok_iff.1 hid) (hnone identifier)
    exact ⟨hnone, deleteVolume_of_error hid rack, fault, validateVolume_of_error hid rack⟩

/-- Where no other appliance of the backend has the path, deletion removes it for good. -/
lemma Handle.has_of_deleted (h : fleet.Handle rack id backend path) (hunmarked : '@' ∉ path.toList)
    (hbackend : fleet.find? backend.name = some backend)
    (single : ∀ one ∈ backend.appliances, ∀ other ∈ backend.appliances,
      rack.has path one = true → rack.has path other = true → one.id = other.id)
    {appliance : ApplianceRef} (hmem : appliance ∈ backend.appliances) :
    ((Operation.deleteVolume id).exec fleet rack).2.has path appliance = false := by
  rw [h.deleted hunmarked hbackend]
  exact Rack.has_withoutFirst single hmem

/-- The place of a volume has no at sign in its path. -/
lemma unmarked_of_placeOf? {identifier : Identifier} {resolution : Resolution}
    (hid : volumeId id = .ok identifier)
    (hplace : fleet.placeOf? rack identifier = some resolution) :
    '@' ∉ resolution.path.toList := by
  obtain ⟨hdecode, -⟩ := Identifier.decodeVolume_eq_ok_iff.1 (volumeId_eq_ok_iff.1 hid)
  obtain ⟨hne, hunmarked, -⟩ := (Identifier.decode_eq_ok_iff.1 hdecode).1.divisible
  rw [path_of_placeOf? (by simpa using hne) hplace]
  exact hunmarked

lemma ne_empty_of_below {dataset leaf : String} : dataset ++ "/" ++ leaf ≠ "" := by
  intro h
  simpa using congrArg String.toList h

end Fleet

/-! ## The result -/

/-- What the identifiers address that operations on a rack hand out. -/
structure Fleet.HandsOut (fleet : Fleet) (rack : Rack) : Prop where
  /-- A new volume lies below a dataset, under its own name, on an appliance of its backend. -/
  created : ∀ request volume later,
    (Operation.createVolume request).exec fleet rack = (.ok volume, later) →
    ∃ backend ∈ fleet.backends, ∃ appliance ∈ backend.appliances, ∃ dataset path,
      path = dataset ++ "/" ++ request.name ∧ later.has path appliance = true ∧
      fleet.Handle later volume.id backend path ∧
      ('@' ∉ path.toList → fleet.find? backend.name = some backend →
        (∀ one ∈ backend.appliances, ∀ other ∈ backend.appliances,
          later.has path one = true → later.has path other = true → one.id = other.id) →
        ((Operation.deleteVolume volume.id).exec fleet later).2.has path appliance = false)
  listed : ∀ limit token page later,
    (Operation.listVolumes limit token).exec fleet rack = (.ok page, later) →
    ∀ volume ∈ page.entries, ∃ backend ∈ fleet.backends, ∃ appliance ∈ backend.appliances,
      ∃ path, rack.has path appliance = true ∧ fleet.Handle rack volume.id backend path
  validated : ∀ id volume later,
    (Operation.validateVolume id).exec fleet rack = (.ok volume, later) →
    ∃ backend ∈ fleet.backends, ∃ appliance ∈ backend.appliances, ∃ path,
      rack.has path appliance = true ∧ '@' ∉ path.toList ∧
      fleet.Handle rack volume.id backend path
  snapshotTaken : ∀ id name snapshot later,
    (Operation.createSnapshot id name).exec fleet rack = (.ok snapshot, later) →
    ∃ backend ∈ fleet.backends, ∃ appliance ∈ backend.appliances, ∃ path a,
      later appliance.id = some a ∧ a.snapshots.contains (path ++ "@" ++ name) = true ∧
      Identifier.decodeSnapshot snapshot.id = .ok (.ofSnapshot backend.name path name) ∧
      Identifier.decodeVolume snapshot.sourceVolumeId = .ok (.ofVolume backend.name path)
  /-- Only an appliance that was made to take a snapshot without a name could have one to list. -/
  snapshotsListed : ∀ snapshotId volumeId limit token page later,
    (Operation.listSnapshots snapshotId volumeId limit token).exec fleet rack = (.ok page, later) →
    ∀ entry ∈ page.entries, ∃ backend ∈ fleet.backends, ∃ appliance ∈ backend.appliances,
      ∃ a snapshot, rack appliance.id = some a ∧
        a.snapshots.find? snapshot.path = some snapshot ∧
        Identifier.decodeVolume entry.sourceVolumeId =
          .ok (.ofVolume backend.name snapshot.parent) ∧
        (Identifier.decodeSnapshot entry.id =
          .ok (.ofSnapshot backend.name snapshot.parent snapshot.name) ↔ snapshot.name ≠ "")

end

/-- Every identifier that is handed out addresses what it was made for, unless there is an at sign
in the path of the volume. -/
theorem handed_out (fleet : Fleet) (rack : Rack)
    (named : ∀ backend ∈ fleet.backends, Identifier.checkBackendName backend.name = .ok ())
    (filed : rack.Filed) : fleet.HandsOut rack where
  created request volume later h := by
    rcases fleet.createVolume_cases request rack with ⟨fault, _, hexec, -⟩ | ⟨_, _, hexec, hcreated⟩
    · cases h.symm.trans hexec
    cases h.symm.trans hexec
    obtain ⟨creation⟩ := hcreated
    obtain ⟨dataset, hpath⟩ := creation.below
    have hne : creation.path ≠ "" := by
      rw [hpath]
      exact Fleet.ne_empty_of_below
    have hid : volume.id = (Identifier.ofVolume creation.backend.name creation.path).encode :=
      congrArg Volume.id creation.volume_eq
    have hhandle : fleet.Handle later volume.id creation.backend creation.path :=
      hid ▸ Fleet.handle (named _ creation.backend_mem) hne
    exact ⟨creation.backend, creation.backend_mem, creation.appliance, creation.appliance_mem,
      dataset, creation.path, hpath, creation.has, hhandle, fun hunmarked hbackend single =>
        hhandle.has_of_deleted hunmarked hbackend single creation.appliance_mem⟩
  listed limit token page later h volume hmem := by
    obtain ⟨-, hcut, -⟩ := Fleet.cut_of_listVolumes h
    obtain ⟨backend, hbackend, dataset, -, a, hserver, fs, hchild, rfl⟩ :=
      Fleet.mem_listed_iff.1 (Page.mem_of_cut hcut hmem)
    obtain ⟨appliance, happliance, ha, honline⟩ := Rack.of_server? hserver
    obtain ⟨hfound, hbelow⟩ := (filed _ a ha).mem_children_iff.1 hchild
    obtain ⟨leaf, -, hpath⟩ := Simulated.isChild_iff.1 hbelow
    have hne : fs.path ≠ "" := by
      rw [hpath]
      exact Fleet.ne_empty_of_below
    refine ⟨backend, hbackend, appliance, happliance, fs.path,
      Rack.has_iff.2 ⟨a, ha, honline, ?_⟩, Fleet.handle (named _ hbackend) hne⟩
    rw [Catalog.contains, hfound]
    rfl
  validated id volume later h := by
    cases hid : Fleet.volumeId id with
    | error fault => cases h.symm.trans (Fleet.validateVolume_of_error hid rack)
    | ok identifier =>
      cases hplace : fleet.placeOf? rack identifier with
      | none =>
        obtain ⟨fault, hexec⟩ := Fleet.validateVolume_of_none hid hplace
        cases h.symm.trans hexec
      | some resolution =>
        obtain ⟨fs, -, hexec⟩ := Fleet.validateVolume_of_some hid hplace
        cases h.symm.trans hexec
        have stands := Fleet.stands_of_place? hplace
        exact ⟨resolution.backend, stands.backend_mem, resolution.appliance, stands.appliance_mem,
          resolution.path, stands.has, Fleet.unmarked_of_placeOf? hid hplace,
          Fleet.handle (named _ stands.backend_mem) stands.path_ne⟩
  snapshotTaken id name snapshot later h := by
    obtain ⟨hname, identifier, resolution, a, taken, hid, hplace, ha, hfound, rfl⟩ :=
      Fleet.of_createSnapshot h
    have stands := Fleet.stands_of_place? hplace
    have hunmarked := Fleet.unmarked_of_placeOf? hid hplace
    have hfiled : later.Filed := by
      have hkept := filed.exec fleet (.createSnapshot id name)
      rwa [h] at hkept
    have hsnapshot : (Identifier.ofSnapshot resolution.backend.name resolution.path name).snapshot =
        some name := rfl
    obtain ⟨-, hparent, hlast⟩ :=
      (hfiled _ a ha).of_find?_fullPath hsnapshot hunmarked hfound
    refine ⟨resolution.backend, stands.backend_mem, resolution.appliance, stands.appliance_mem,
      resolution.path, a, ha, by rw [Catalog.contains, hfound]; rfl, ?_, ?_⟩
    · rw [VolumeSnapshot.of, hparent, hlast]
      exact (Identifier.decodeSnapshot_ofSnapshot_iff (named _ stands.backend_mem) stands.path_ne
        hunmarked).2 hname
    · rw [VolumeSnapshot.of, hparent]
      exact (Identifier.decodeVolume_ofVolume_iff (named _ stands.backend_mem)
        stands.path_ne).2 hunmarked
  snapshotsListed snapshotId volumeId limit token page later h entry hmem := by
    obtain ⟨backend, snapshot, ⟨hbackend, ⟨appliance, happliance, a, ha, hfound⟩, hparent⟩, rfl⟩ :=
      Fleet.stores_of_listSnapshots filed (congrArg Prod.fst h) hmem
    obtain ⟨-, hcut⟩ := (filed _ a ha).snapshots _ snapshot hfound
    have hunmarked := (Text.splitOnce_eq_some_iff.1 hcut).2
    exact ⟨backend, hbackend, appliance, happliance, a, snapshot, ha, hfound,
      (Identifier.decodeVolume_ofVolume_iff (named _ hbackend) hparent).2 hunmarked,
      Identifier.decodeSnapshot_ofSnapshot_iff (named _ hbackend) hparent hunmarked⟩

namespace AtSign

def appliance : ApplianceRef := ⟨0, "https://appliance"⟩

def backend : Backend where
  name := "b"
  config := { restIp := appliance.endpoint, username := "admin", password := "secret" }
  appliances := [appliance]
  nonempty := by simp

def fleet : Fleet where
  backends := [backend]

def rack : Rack
  | 0 => some (.ofContents appliance.endpoint [("pool", 0)] [])
  | _ => none

/-- A volume below `pool`, with an at sign in its name. -/
def request : CreateVolumeRequest where
  name := "v@1"
  parameters := { dataset := some "pool" }

lemma filed : rack.Filed := by
  intro id a h
  match id, h with
  | 0, h =>
    obtain rfl := Option.some.inj h
    exact Simulated.filed_ofContents ..

end AtSign

/-- The name of the backend may be one, and the appliance is filed. -/
theorem handed_out_pool :
    (∀ backend ∈ AtSign.fleet.backends, Identifier.checkBackendName backend.name = .ok ()) ∧
    AtSign.rack.Filed ∧ AtSign.fleet.HandsOut AtSign.rack := by
  have hnamed : ∀ backend ∈ AtSign.fleet.backends,
      Identifier.checkBackendName backend.name = .ok () := by decide
  exact ⟨hnamed, AtSign.filed, handed_out AtSign.fleet AtSign.rack hnamed AtSign.filed⟩

/-- The volume is made, its identifier reads as that of a snapshot, and so it is deleted without
going away. -/
theorem handed_out_lost :
    let created := (Operation.createVolume AtSign.request).exec AtSign.fleet AtSign.rack
    let deleted := (Operation.deleteVolume "b:pool/v@1").exec AtSign.fleet created.2
    created.1.map Volume.id = .ok "b:pool/v@1" ∧
    Identifier.decodeVolume "b:pool/v@1" = .error .namesSnapshot ∧
    deleted.1 = .ok () ∧ deleted.2.has "pool/v@1" AtSign.appliance = true :=
  ⟨rfl, rfl, rfl, rfl⟩

end StorageFleet
