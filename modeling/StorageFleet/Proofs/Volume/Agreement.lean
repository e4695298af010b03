import StorageFleet.Proofs.Volume.Completeness

/-!
# The listings of snapshots agree

A snapshot can be listed by its identifier, by that of its volume, and along with everything else.
The three listings ask different questions and meet only in the identifiers, which are put together
from what is stored.  What is stored comes apart again where each snapshot lies under its path, has
its filesystem, and has a name (`Backend.ServedBy`).  All racks are like this that operations reach
from one without snapshots, and there the listings agree (`listings_agree`).
-/

namespace StorageFleet

section

variable {fleet : Fleet} {start rack : Rack} {backend : Backend} {appliance : ApplianceRef}
  {a : Simulated} {dataset : String} {snapshot : Snapshot} {page : Page VolumeSnapshot}

/-! ## What is stored -/

namespace Simulated

/-- The path of a snapshot is put together from that of its filesystem and its name. -/
lemma Filed.path_eq (filed : a.Filed) (h : a.snapshots.find? snapshot.path = some snapshot) :
    snapshot.path = snapshot.parent ++ "@" ++ snapshot.name ∧ '@' ∉ snapshot.parent.toList := by
  obtain ⟨htext, hunmarked⟩ := Text.splitOnce_eq_some_iff.1 (filed.snapshots _ snapshot h).cut
  refine ⟨?_, hunmarked⟩
  rw [← String.toList_inj, htext]
  simp

/-- So its identifier is put together from the name of the backend and its path. -/
lemma Filed.id_eq (filed : a.Filed) (h : a.snapshots.find? snapshot.path = some snapshot)
    (backend : Backend) : (VolumeSnapshot.of backend snapshot).id =
      (Identifier.ofVolume backend.name snapshot.path).encode := by
  rw [(filed.path_eq h).1]
  rfl

end Simulated

/-- The only appliance of a backend, in good order; it can be reached, and each of its snapshots has
a name. -/
structure Backend.ServedBy (backend : Backend) (rack : Rack) (appliance : ApplianceRef)
    (a : Simulated) : Prop extends backend.HousedBy rack appliance a where
  online : a.offline = false
  titled : a.Titled

/-- Each backend is served by one appliance. -/
def Fleet.Served (fleet : Fleet) (rack : Rack) : Prop :=
  ∀ backend ∈ fleet.backends, ∃ appliance a, backend.ServedBy rack appliance a

namespace Fleet

/-- Wherever operations get from a rack without snapshots, the backends are served. -/
theorem served_of_reached (reached : start.Reached rack) (staffed : fleet.Staffed start)
    (fresh : ∀ id a, start id = some a → a.snapshots = .empty) : fleet.Served rack := by
  have hkeeps : ∀ (a : Simulated) (call : Call), call.Harmless ∨ call.Titled →
      a.offline = false ∧ a.Filed ∧ a.Rooted ∧ a.Titled →
      (a.step call).2.offline = false ∧ (a.step call).2.Filed ∧ (a.step call).2.Rooted ∧
        (a.step call).2.Titled := by
    rintro a call hcall ⟨online, filed, rooted, titled⟩
    exact ⟨(a.step_offline call).trans online, filed.step call, rooted.step filed call,
      titled.step hcall⟩
  intro backend hmem
  obtain ⟨appliance, a, single, here, online, filed⟩ := staffed backend hmem
  have hempty := fresh _ a here
  obtain ⟨b, hb, online', filed', rooted', titled'⟩ := reached.keeps hkeeps
    ⟨a, here, online, filed, Simulated.rooted_of_empty hempty, Simulated.titled_of_empty hempty⟩
  exact ⟨appliance, b, ⟨single, hb, filed', rooted'⟩, online', titled'⟩

lemma Served.housed (h : fleet.Served rack) : fleet.Housed rack := by
  intro backend hmem
  obtain ⟨appliance, a, hserved⟩ := h backend hmem
  exact ⟨appliance, a, hserved.toHousedBy⟩

lemma Served.filed (h : fleet.Served rack) : fleet.Filed rack := by
  intro backend hmem appliance happliance a ha
  obtain ⟨single, b, hserved⟩ := h backend hmem
  obtain rfl : appliance = single := by simpa [hserved.single] using happliance
  obtain rfl : a = b := Option.some.inj (ha.symm.trans hserved.here)
  exact hserved.filed

/-! ## What is listed -/

/-- Where an entry of the listing of everything comes from. -/
structure Source (fleet : Fleet) (rack : Rack) where
  backend : Backend
  dataset : String
  appliance : ApplianceRef
  a : Simulated
  snapshot : Snapshot
  backend_mem : backend ∈ fleet.backends
  dataset_eq : backend.config.defaultDataset = some dataset
  served : backend.ServedBy rack appliance a
  kept : a.snapshots.find? snapshot.path = some snapshot
  below : Text.startsWith (dataset ++ "/") snapshot.parent = true

/-- The entry of a snapshot that is stored. -/
def Source.entry (source : fleet.Source rack) : VolumeSnapshot :=
  VolumeSnapshot.of source.backend source.snapshot

/-- Who serves a dataset of a backend is its only appliance. -/
lemma Served.servedBy (h : fleet.Served rack) (hmem : backend ∈ fleet.backends)
    (hserver : rack.server? backend dataset = some a) :
    ∃ appliance, backend.ServedBy rack appliance a := by
  obtain ⟨appliance, b, hserved⟩ := h backend hmem
  obtain ⟨other, hother, hthere, -⟩ := Rack.of_server? hserver
  obtain rfl : other = appliance := by simpa [hserved.single] using hother
  obtain rfl : a = b := Option.some.inj (hthere.symm.trans hserved.here)
  exact ⟨other, hserved⟩

lemma Served.source (h : fleet.Served rack) {entry : VolumeSnapshot}
    (hmem : entry ∈ fleet.listedSnapshots rack) :
    ∃ source : fleet.Source rack, entry = source.entry := by
  obtain ⟨⟨backend, dataset⟩, hplace, hentry⟩ := List.mem_flatMap.1 hmem
  obtain ⟨hbackend, hdataset⟩ := mem_datasets_iff.1 hplace
  cases hserver : rack.server? backend dataset with
  | none =>
    rw [Rack.snapshotsBelow, hserver] at hentry
    cases hentry
  | some a =>
    obtain ⟨appliance, hserved⟩ := h.servedBy hbackend hserver
    obtain ⟨snapshot, kept, below, rfl⟩ :=
      (Rack.mem_snapshotsBelow_iff hserved.filed hserver).1 hentry
    exact ⟨⟨backend, dataset, appliance, a, snapshot, hbackend, hdataset, hserved, kept, below⟩,
      rfl⟩

namespace Source

variable (source : fleet.Source rack)

lemma parent_ne : source.snapshot.parent ≠ "" := by
  intro hparent
  have below := source.below
  rw [hparent, Text.startsWith, List.isPrefixOf_iff_prefix] at below
  simp at below

lemma unmarked : '@' ∉ source.snapshot.parent.toList :=
  (source.served.filed.path_eq source.kept).2

/-- The identifier of an entry reads as that of its snapshot. -/
lemma decode_id (hname : Identifier.checkBackendName source.backend.name = .ok ()) :
    Identifier.decodeSnapshot source.entry.id = .ok (.ofSnapshot source.backend.name
      source.snapshot.parent source.snapshot.name) :=
  (Identifier.decodeSnapshot_ofSnapshot_iff hname source.parent_ne source.unmarked).2
    (source.served.titled _ _ source.kept)

/-- And that of its volume reads as that of the volume. -/
lemma decode_sourceVolumeId (hname : Identifier.checkBackendName source.backend.name = .ok ()) :
    Identifier.decodeVolume source.entry.sourceVolumeId =
      .ok (.ofVolume source.backend.name source.snapshot.parent) :=
  (Identifier.decodeVolume_ofVolume_iff hname source.parent_ne).2 source.unmarked

end Source

/-- The snapshots are listed in the order of the identifiers. -/
theorem Served.listedSnapshots_ascending (served : fleet.Served rack) (distinct : fleet.Distinct) :
    ((fleet.listedSnapshots rack).map VolumeSnapshot.id).Pairwise fleet.Precedes := by
  refine distinct.flatMap_ascending ?_ ?_
  · rintro ⟨backend, dataset⟩ hplace entry hentry
    obtain ⟨hmem, -⟩ := mem_datasets_iff.1 hplace
    cases hserver : rack.server? backend dataset with
    | none =>
      rw [Rack.snapshotsBelow, hserver] at hentry
      cases hentry
    | some a =>
      obtain ⟨_, hserved⟩ := served.servedBy hmem hserver
      obtain ⟨snapshot, kept, -, rfl⟩ :=
        (Rack.mem_snapshotsBelow_iff hserved.filed hserver).1 hentry
      rw [hserved.filed.id_eq kept, distinct.rank_encode hmem]
  · rintro ⟨backend, dataset⟩ hplace
    obtain ⟨hmem, -⟩ := mem_datasets_iff.1 hplace
    unfold Rack.snapshotsBelow
    cases hserver : rack.server? backend dataset with
    | none => exact .nil
    | some a =>
      obtain ⟨_, hserved⟩ := served.servedBy hmem hserver
      have hkept : ∀ {snapshot}, snapshot ∈ a.snapshotsOf dataset true →
          a.snapshots.find? snapshot.path = some snapshot :=
        fun hlisted => (hserved.filed.mem_snapshotsOf_iff.1 hlisted).1
      rw [List.map_map, List.pairwise_map]
      refine List.Pairwise.filter _ ?_
      refine (hserved.filed.snapshotsOf_ascending dataset true).imp_of_mem
        fun {one other} hone hother hlt => .inr ?_
      rw [Function.comp_apply, Function.comp_apply, hserved.filed.id_eq (hkept hone),
        hserved.filed.id_eq (hkept hother), distinct.rank_encode hmem, distinct.rank_encode hmem]
      exact ⟨rfl, hlt⟩

/-! ## The listings -/

/-- An identifier of a backend and a path is that of no other backend and no other path. -/
lemma Distinct.eq_of_encode_eq (distinct : fleet.Distinct) {one other : Backend}
    (hone : one ∈ fleet.backends) (hother : other ∈ fleet.backends) {path path' : String}
    (h : (Identifier.ofVolume one.name path).encode =
      (Identifier.ofVolume other.name path').encode) : one = other ∧ path = path' := by
  have haddress := congrArg Identifier.address h
  rw [Identifier.address_encode (distinct.unmarked one hone),
    Identifier.address_encode (distinct.unmarked other hother)] at haddress
  obtain ⟨hname, hpath⟩ := Prod.mk.inj haddress
  exact ⟨List.inj_on_of_nodup_map distinct.nodup hone hother hname, hpath⟩

/-- How the listings of snapshots are related to a page of all snapshots. -/
structure Agreement (fleet : Fleet) (rack : Rack) (page : Page VolumeSnapshot) : Prop where
  /-- By its identifier, an entry is found and nothing else. -/
  bySnapshot : ∀ entry ∈ page.entries,
    (Operation.listSnapshots (some entry.id) none 0 none).exec fleet rack =
      (.ok ⟨[entry], none⟩, rack)
  /-- By the identifier of its volume, it is among what is found. -/
  byVolume : ∀ entry ∈ page.entries, ∃ found,
    (Operation.listSnapshots none (some entry.sourceVolumeId) 0 none).exec fleet rack =
      (.ok found, rack) ∧ entry ∈ found.entries
  /-- What is found by any volume below the default dataset of its backend is an entry. -/
  ofVolume : ∀ id found, ((Operation.listSnapshots none (some id) 0 none).exec fleet rack).1 =
    .ok found → ∀ entry ∈ found.entries, ∀ backend ∈ fleet.backends, ∀ dataset path,
    backend.config.defaultDataset = some dataset → Text.startsWith (dataset ++ "/") path = true →
    entry.sourceVolumeId = (Identifier.ofVolume backend.name path).encode → entry ∈ page.entries
  /-- Nothing is listed twice. -/
  nodup : (page.entries.map VolumeSnapshot.id).Nodup
  /-- Nor is any snapshot of a default dataset itself. -/
  proper : ∀ entry ∈ page.entries, ∀ backend ∈ fleet.backends, ∀ dataset,
    backend.config.defaultDataset = some dataset →
    entry.sourceVolumeId ≠ (Identifier.ofVolume backend.name dataset).encode

lemma Distinct.of_names
    (named : ∀ backend ∈ fleet.backends, Identifier.checkBackendName backend.name = .ok ())
    (nodup : (fleet.backends.map Backend.name).Nodup) : fleet.Distinct :=
  ⟨nodup, fun backend hmem => (Identifier.of_checkBackendName (named backend hmem)).2⟩

end Fleet

/-- Wherever operations get from a rack without snapshots, the listings of snapshots agree. -/
theorem listings_agree (reached : start.Reached rack) (staffed : fleet.Staffed start)
    (fresh : ∀ id a, start id = some a → a.snapshots = .empty)
    (named : ∀ backend ∈ fleet.backends, Identifier.checkBackendName backend.name = .ok ())
    (nodup : (fleet.backends.map Backend.name).Nodup)
    (h : ((Operation.listSnapshots none none 0 none).exec fleet rack).1 = .ok page) :
    fleet.Agreement rack page := by
  have distinct := Fleet.Distinct.of_names named nodup
  have served := Fleet.served_of_reached reached staffed fresh
  obtain ⟨held, hcut⟩ := Fleet.cut_of_listSnapshots h
  obtain rfl : page = ⟨fleet.listedSnapshots rack, none⟩ := (Except.ok.inj hcut).symm
  refine ⟨?_, ?_, ?_, ?_, ?_⟩
  · intro entry hmem
    obtain ⟨source, rfl⟩ := served.source hmem
    have hid := source.decode_id (named _ source.backend_mem)
    have hitems := source.served.exec_findSnapshot hid rfl
      (distinct.find?_of_mem source.backend_mem)
    have hpath : (Identifier.ofSnapshot source.backend.name source.snapshot.parent
        source.snapshot.name).fullPath = source.snapshot.path :=
      (source.served.filed.path_eq source.kept).1.symm
    have online : ¬source.a.offline = true := by simp [source.served.online]
    rw [if_neg online, hpath, source.kept] at hitems
    exact Fleet.exec_listSnapshots_bySnapshot hid hitems none
  · intro entry hmem
    obtain ⟨source, rfl⟩ := served.source hmem
    obtain ⟨found, hfound, hall, -⟩ := served.housed.byVolume
      (source.decode_sourceVolumeId (named _ source.backend_mem)) rfl
      (distinct.find?_of_mem source.backend_mem)
    exact ⟨found, hfound, hall (source.served.online_iff.2 source.served.online) source.snapshot
      (source.served.keeps_iff.2 source.kept) rfl⟩
  · intro id found hfound entry hmem backend hbackend dataset path hdataset hbelow hid
    obtain ⟨other, snapshot, ⟨hother, hkeeps, -⟩, rfl⟩ := served.filed.stores hfound hmem
    obtain ⟨rfl, rfl⟩ := distinct.eq_of_encode_eq hother hbackend hid
    exact (served.housed.snapshots h hother hdataset).2 snapshot hbelow hkeeps
  · exact (served.listedSnapshots_ascending distinct).imp Fleet.Precedes.ne
  · intro entry hmem backend hbackend dataset hdataset hid
    obtain ⟨source, rfl⟩ := served.source hmem
    obtain ⟨rfl, hparent⟩ := distinct.eq_of_encode_eq source.backend_mem hbackend hid
    obtain rfl : source.dataset = dataset := Option.some.inj (source.dataset_eq.symm.trans hdataset)
    have below := source.below
    rw [hparent, Text.startsWith, List.isPrefixOf_iff_prefix] at below
    have hlength := below.length_le
    have hslash : "/".toList.length = 1 := rfl
    rw [String.toList_append, List.length_append, hslash] at hlength
    omega

end

namespace Pools

/-- The snapshot of the volume in the first pool is taken. -/
def taking : Operation :=
  .createSnapshot "one:pool/v" "s"

/-- Nothing else is listed then. -/
def listing : Page VolumeSnapshot where
  entries := [VolumeSnapshot.of (backend "one" "pool" 0) kept]
  nextToken := none

lemma fresh : ∀ id a, rack id = some a → a.snapshots = .empty := by
  intro id a h
  match id, h with
  | 0, h | 1, h =>
    obtain rfl := Option.some.inj h
    rfl

/-- There is a rack as in the theorem, with an entry on the page. -/
theorem listings_agree_taking :
    rack.Reached (taking.exec fleet rack).2 ∧ fleet.Staffed rack ∧
    (∀ id a, rack id = some a → a.snapshots = .empty) ∧
    (∀ backend ∈ fleet.backends, Identifier.checkBackendName backend.name = .ok ()) ∧
    (fleet.backends.map Backend.name).Nodup ∧
    ((Operation.listSnapshots none none 0 none).exec fleet (taking.exec fleet rack).2).1 =
      .ok listing ∧
    fleet.Agreement (taking.exec fleet rack).2 listing := by
  have reached := taking.reached_exec fleet rack
  have named : ∀ backend ∈ fleet.backends, Identifier.checkBackendName backend.name = .ok () := by
    decide
  have nodup : (fleet.backends.map Backend.name).Nodup := by decide
  have hlisted : ((Operation.listSnapshots none none 0 none).exec fleet
      (taking.exec fleet rack).2).1 = .ok listing := rfl
  exact ⟨reached, staffed, fresh, named, nodup, hlisted,
    listings_agree reached staffed fresh named nodup hlisted⟩

end Pools
end StorageFleet
