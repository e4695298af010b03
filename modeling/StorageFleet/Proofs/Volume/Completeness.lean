import StorageFleet.Proofs.Volume.Inventory

/-!
# Whether a listing is complete

A listing of everything has everything on it: it fails if an appliance that it covers cannot be
reached.  A listing by a snapshot or by a volume does not.  Looking for the volume, it takes an
appliance that cannot be reached for one that does not have it, so that the snapshots there are
missing from a listing that succeeds.

How much the listings show is `Fleet.Listings`, and it is so wherever each backend has one appliance
in good order (`listings`).
-/

namespace StorageFleet

section

variable {fleet : Fleet} {rack : Rack} {backend : Backend} {appliance : ApplianceRef}
  {a : Simulated} {dataset path id : String} {identifier : Identifier} {snapshot : Snapshot}

/-- An appliance of the backend can be reached. -/
def Backend.Online (backend : Backend) (rack : Rack) : Prop :=
  ∃ appliance ∈ backend.appliances, ∃ a, rack appliance.id = some a ∧ a.offline = false

/-- An appliance of the backend keeps this snapshot. -/
def Backend.Keeps (backend : Backend) (rack : Rack) (snapshot : Snapshot) : Prop :=
  ∃ appliance ∈ backend.appliances, ∃ a, rack appliance.id = some a ∧
    a.snapshots.find? snapshot.path = some snapshot

namespace Backend.HousedBy

/-- What there is on an appliance of the backend is on its only one. -/
lemma exists_iff (h : backend.HousedBy rack appliance a) {P : Simulated → Prop} :
    (∃ appliance ∈ backend.appliances, ∃ a, rack appliance.id = some a ∧ P a) ↔ P a := by
  simp [h.single, h.here]

lemma online_iff (h : backend.HousedBy rack appliance a) :
    backend.Online rack ↔ a.offline = false :=
  h.exists_iff

lemma keeps_iff (h : backend.HousedBy rack appliance a) :
    backend.Keeps rack snapshot ↔ a.snapshots.find? snapshot.path = some snapshot :=
  h.exists_iff

end Backend.HousedBy

/-! ## Everything -/

namespace Fleet

/-- A page of all volumes has those directly below each default dataset. -/
lemma Housed.volumes (housed : fleet.Housed rack) {page : Page Volume}
    (h : ((Operation.listVolumes 0 none).exec fleet rack).1 = .ok page)
    (hbackend : backend ∈ fleet.backends)
    (hdataset : backend.config.defaultDataset = some dataset) :
    backend.Online rack ∧ ∀ leaf fs, '/' ∉ leaf.toList →
      backend.Has rack (dataset ++ "/" ++ leaf) fs →
      Volume.of backend (dataset ++ "/" ++ leaf) fs.quota {} ∈ page.entries := by
  obtain ⟨held, hcut, -⟩ := cut_of_listVolumes (Prod.ext h rfl)
  obtain rfl : page = ⟨fleet.listed rack, none⟩ := (Except.ok.inj hcut).symm
  obtain ⟨appliance, a, hhoused⟩ := housed backend hbackend
  obtain ⟨hserver, online⟩ :=
    hhoused.server?_eq (held (backend, dataset) (mem_datasets_iff.2 ⟨hbackend, hdataset⟩))
  refine ⟨hhoused.online_iff.2 online, fun leaf fs hleaf hhas => ?_⟩
  have hfound : a.filesystems.find? (dataset ++ "/" ++ leaf) = some fs := hhoused.exists_iff.1 hhas
  have hpath : fs.path = dataset ++ "/" ++ leaf := hhoused.filed.filesystems _ fs hfound
  refine mem_listed_iff.2 ⟨backend, hbackend, dataset, hdataset, a, hserver, fs, ?_, by rw [hpath]⟩
  exact hhoused.filed.mem_children_iff.2
    ⟨by rwa [hpath], Simulated.isChild_iff.2 ⟨leaf, hleaf, hpath⟩⟩

/-- A page of all snapshots has those of whatever lies below a default dataset. -/
lemma Housed.snapshots (housed : fleet.Housed rack) {page : Page VolumeSnapshot}
    (h : ((Operation.listSnapshots none none 0 none).exec fleet rack).1 = .ok page)
    (hbackend : backend ∈ fleet.backends)
    (hdataset : backend.config.defaultDataset = some dataset) :
    backend.Online rack ∧ ∀ snapshot, Text.startsWith (dataset ++ "/") snapshot.parent = true →
      backend.Keeps rack snapshot → VolumeSnapshot.of backend snapshot ∈ page.entries := by
  obtain ⟨held, hcut⟩ := cut_of_listSnapshots h
  obtain rfl : page = ⟨fleet.listedSnapshots rack, none⟩ := (Except.ok.inj hcut).symm
  have hplace := mem_datasets_iff.2 ⟨hbackend, hdataset⟩
  obtain ⟨appliance, a, hhoused⟩ := housed backend hbackend
  obtain ⟨hserver, online⟩ := hhoused.server?_eq (held (backend, dataset) hplace)
  refine ⟨hhoused.online_iff.2 online, fun snapshot hbelow hkeeps => ?_⟩
  refine List.mem_flatMap.2 ⟨_, hplace, ?_⟩
  exact (Rack.mem_snapshotsBelow_iff hhoused.filed hserver).2
    ⟨snapshot, hhoused.keeps_iff.1 hkeeps, hbelow, rfl⟩

/-! ## By snapshot and by volume -/

/-- The snapshot of an identifier that reads as one is found, or it is found that there is none. -/
lemma findSnapshot_succeeds (hid : Identifier.decodeSnapshot id = .ok identifier)
    (hasked : fleet.candidates identifier.backend none ≠ []) :
    ∃ items, (fleet.findSnapshot id).run.exec rack = (.ok items, rack) := by
  cases hplace : fleet.placeOf? rack identifier.parent with
  | none => exact ⟨[], exec_findSnapshot_of_none hid hplace hasked⟩
  | some resolution =>
    obtain ⟨a, ha, online, -⟩ := Rack.has_iff.1 (stands_of_place? hplace).has
    exact ⟨_, exec_findSnapshot hid hplace hasked ha online⟩

/-- A listing by a snapshot succeeds.  The snapshot is on it if the first backend that has the
volume keeps it; nothing is on it if the backend that is named cannot be reached. -/
lemma Housed.bySnapshot (housed : fleet.Housed rack)
    (hid : Identifier.decodeSnapshot id = .ok identifier)
    (hfirst : fleet.AsksFirst rack identifier backend) (volumeId : Option String) :
    ∃ page, (Operation.listSnapshots (some id) volumeId 0 none).exec fleet rack = (.ok page, rack) ∧
      (backend.Online rack → ∀ snapshot, backend.Keeps rack snapshot →
        snapshot.path = identifier.fullPath → VolumeSnapshot.of backend snapshot ∈ page.entries) ∧
      (identifier.backend.isSome = true → ¬backend.Online rack → page.entries = []) := by
  obtain ⟨items, hitems⟩ := findSnapshot_succeeds hid hfirst.asked
  obtain ⟨appliance, a, hhoused⟩ := housed backend hfirst.mem
  obtain ⟨hdecode, hsome⟩ := Identifier.decodeSnapshot_eq_ok_iff.1 hid
  obtain ⟨title, htitle⟩ := Option.isSome_iff_exists.1 hsome
  obtain ⟨⟨hpath, hunmarked, -⟩, hnamed, -⟩ := (Identifier.decode_eq_ok_iff.1 hdecode).1
  refine ⟨⟨items, none⟩, exec_listSnapshots_bySnapshot hid hitems volumeId, ?_, ?_⟩
  · intro hreached snapshot hkeeps hfull
    have online := hhoused.online_iff.1 hreached
    have hfound := hhoused.keeps_iff.1 hkeeps
    rw [hfull] at hfound
    have hthere : a.filesystems.contains identifier.path = true := by
      by_contra hmissing
      rw [hhoused.rooted.find?_eq_none hhoused.filed htitle hunmarked (by simpa using hmissing)]
        at hfound
      cases hfound
    have hholder : rack.holder? identifier.path backend = some appliance := by
      rw [hhoused.holder?_eq hpath, if_pos ⟨online, hthere⟩]
    have hplace := hfirst.placeOf?_eq (by simpa using hpath) hholder
    have hexec := hitems.symm.trans
      (exec_findSnapshot hid hplace hfirst.asked hhoused.here online)
    obtain rfl := Except.ok.inj (congrArg Prod.fst hexec)
    rw [hfound]
    exact List.mem_singleton.2 rfl
  · intro hbackend hlost
    obtain ⟨name, hname⟩ := Option.isSome_iff_exists.1 hbackend
    have hoffline : a.offline = true := by simpa using mt hhoused.online_iff.2 hlost
    have hexec := hitems.symm.trans
      (hhoused.exec_findSnapshot hid hname (hfirst.find?_eq (hnamed name hname).1 hname))
    rw [if_pos hoffline] at hexec
    exact Except.ok.inj (congrArg Prod.fst hexec)

/-- A listing by a volume of a backend succeeds.  All snapshots of the volume are on it, or none at
all if the backend cannot be reached. -/
lemma Housed.byVolume (housed : fleet.Housed rack) {name : String}
    (hid : Identifier.decodeVolume id = .ok identifier) (hname : identifier.backend = some name)
    (hbackend : fleet.find? name = some backend) :
    ∃ page, (Operation.listSnapshots none (some id) 0 none).exec fleet rack = (.ok page, rack) ∧
      (backend.Online rack → ∀ snapshot, backend.Keeps rack snapshot →
        snapshot.parent = identifier.path → VolumeSnapshot.of backend snapshot ∈ page.entries) ∧
      (¬backend.Online rack → page.entries = []) := by
  obtain ⟨appliance, a, hhoused⟩ := housed backend (List.mem_of_find?_eq_some hbackend)
  have hitems := hhoused.exec_snapshotsOfVolume hid hname hbackend
  refine ⟨⟨_, none⟩, exec_listSnapshots_byVolume hid hitems, ?_, ?_⟩
  · intro hreached snapshot hkeeps hparent
    have online : ¬a.offline = true := by simp [hhoused.online_iff.1 hreached]
    rw [if_neg online]
    have hlisted : snapshot ∈ a.snapshotsOf identifier.path false :=
      hhoused.filed.mem_snapshotsOf_iff.2
        ⟨hhoused.keeps_iff.1 hkeeps, by simp [Simulated.isSnapshotOf, hparent]⟩
    exact List.mem_map_of_mem hlisted
  · intro hlost
    exact if_pos (by simpa using mt hhoused.online_iff.2 hlost)

end Fleet
end

/-! ## The result -/

/-- How much the listings of a fleet show, some of whose appliances may be out of reach. -/
structure Fleet.Listings (fleet : Fleet) (rack : Rack) : Prop where
  /-- All volumes: a page means that every appliance was reached. -/
  volumes : ∀ page, ((Operation.listVolumes 0 none).exec fleet rack).1 = .ok page →
    ∀ backend ∈ fleet.backends, ∀ dataset, backend.config.defaultDataset = some dataset →
      backend.Online rack ∧ ∀ leaf fs, '/' ∉ leaf.toList →
        backend.Has rack (dataset ++ "/" ++ leaf) fs →
        Volume.of backend (dataset ++ "/" ++ leaf) fs.quota {} ∈ page.entries
  /-- All snapshots: the same. -/
  snapshots : ∀ page, ((Operation.listSnapshots none none 0 none).exec fleet rack).1 = .ok page →
    ∀ backend ∈ fleet.backends, ∀ dataset, backend.config.defaultDataset = some dataset →
      backend.Online rack ∧ ∀ snapshot,
        Text.startsWith (dataset ++ "/") snapshot.parent = true →
        backend.Keeps rack snapshot → VolumeSnapshot.of backend snapshot ∈ page.entries
  /-- By a snapshot: there is a page in any case. -/
  bySnapshot : ∀ id identifier backend volumeId, Identifier.decodeSnapshot id = .ok identifier →
    fleet.AsksFirst rack identifier backend →
    ∃ page, (Operation.listSnapshots (some id) volumeId 0 none).exec fleet rack = (.ok page, rack) ∧
      (backend.Online rack → ∀ snapshot, backend.Keeps rack snapshot →
        snapshot.path = identifier.fullPath → VolumeSnapshot.of backend snapshot ∈ page.entries) ∧
      (identifier.backend.isSome = true → ¬backend.Online rack → page.entries = [])
  /-- By a volume of a backend: the same. -/
  byVolume : ∀ id identifier name backend, Identifier.decodeVolume id = .ok identifier →
    identifier.backend = some name → fleet.find? name = some backend →
    ∃ page, (Operation.listSnapshots none (some id) 0 none).exec fleet rack = (.ok page, rack) ∧
      (backend.Online rack → ∀ snapshot, backend.Keeps rack snapshot →
        snapshot.parent = identifier.path → VolumeSnapshot.of backend snapshot ∈ page.entries) ∧
      (¬backend.Online rack → page.entries = [])

/-- A listing of everything that succeeds is complete.  A listing by a snapshot or by a volume
always succeeds, and is complete just as far as the backend can be reached. -/
theorem listings (fleet : Fleet) (rack : Rack) (housed : fleet.Housed rack) :
    fleet.Listings rack where
  volumes _ h _ hbackend _ hdataset := housed.volumes h hbackend hdataset
  snapshots _ h _ hbackend _ hdataset := housed.snapshots h hbackend hdataset
  bySnapshot _ _ _ volumeId hid hfirst := housed.bySnapshot hid hfirst volumeId
  byVolume _ _ _ _ hid hname hbackend := housed.byVolume hid hname hbackend

namespace Pools

/-- A volume in the pool, with a snapshot. -/
def recorded (id : Nat) : Simulated :=
  ((holding id [("pool", 0), ("pool/v", 5)]).step (.createSnapshot "pool/v@s")).2

def kept : Snapshot where
  path := "pool/v@s"
  name := "s"
  parent := "pool/v"
  clones := []
  transaction := 1
  created := Simulated.epoch.addSeconds 1

/-- The second appliance cannot be reached. -/
def deserted : Rack
  | 0 => some (recorded 0)
  | 1 => some { recorded 1 with offline := true }
  | _ => none

lemma housed_deserted : fleet.Housed deserted := by
  have filed : ∀ id, (recorded id).Filed := fun id => (Simulated.filed_ofContents ..).step _
  have rooted : ∀ id, (recorded id).Rooted := fun id =>
    (Simulated.rooted_of_empty rfl).step (Simulated.filed_ofContents ..) _
  intro backend hmem
  rcases List.mem_cons.1 hmem with rfl | hmem
  · exact ⟨appliance 0, _, rfl, rfl, filed 0, rooted 0⟩
  · obtain rfl := List.mem_singleton.1 hmem
    exact ⟨appliance 1, _, rfl, rfl, ⟨(filed 1).filesystems, (filed 1).snapshots⟩, rooted 1⟩

/-- One appliance can be reached and the other cannot. -/
theorem listings_deserted :
    fleet.Housed deserted ∧ (backend "one" "pool" 0).Online deserted ∧ fleet.Listings deserted :=
  ⟨housed_deserted, ⟨appliance 0, by simp [backend], _, rfl, rfl⟩,
    listings fleet deserted housed_deserted⟩

/-- A snapshot that the appliance out of reach keeps is listed neither by its identifier nor by its
volume, and both listings succeed.  Only the listing of everything fails. -/
theorem listings_hidden :
    let entry := VolumeSnapshot.of (backend "other" "pool" 1) kept
    (backend "other" "pool" 1).Keeps deserted kept ∧
    ((Operation.listSnapshots (some entry.id) none 0 none).exec fleet deserted).1 =
      .ok ⟨[], none⟩ ∧
    ((Operation.listSnapshots none (some entry.sourceVolumeId) 0 none).exec fleet deserted).1 =
      .ok ⟨[], none⟩ ∧
    ∃ fault, ((Operation.listSnapshots none none 0 none).exec fleet deserted).1 = .error fault :=
  ⟨⟨appliance 1, by simp [backend], _, rfl, rfl⟩, rfl, rfl, _, rfl⟩

end Pools
end StorageFleet
