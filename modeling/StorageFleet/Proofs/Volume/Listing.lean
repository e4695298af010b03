import StorageFleet.Proofs.Identifier.Codec
import StorageFleet.Proofs.Page.Pagination
import StorageFleet.Proofs.Rack.Filing
import StorageFleet.Proofs.Volume.Effects
import StorageFleet.Proofs.Volume.Isolation

/-!
# What is listed

A listing of volumes asks every backend for what lies directly below its default dataset.  It
succeeds just if all these datasets are held by somebody (`Fleet.Held`), and then it is cut from
`Fleet.listed`: the filesystems below each dataset in ascending order, the backends in configured
order.  A listing of snapshots has on it nothing that is not stored on a backend of the fleet
(`Fleet.stores_of_listSnapshots`).
-/

namespace StorageFleet

/-! ## Tables and children -/

namespace Catalog

variable {table : Catalog α} {value : α}

lemma mem_values_iff : value ∈ table.values ↔ ∃ key, table.find? key = some value := by
  simp [values, find?_eq_some_iff]

end Catalog

namespace Simulated

variable {a : Simulated} {parent path : String} {fs : Filesystem}

lemma isChild_iff : isChild parent path = true ↔
    ∃ leaf : String, '/' ∉ leaf.toList ∧ path = parent ++ "/" ++ leaf := by
  unfold isChild
  cases hdrop : Text.dropStart? (parent ++ "/").toList path.toList with
  | none =>
    simp only [Bool.false_eq_true, false_iff]
    rintro ⟨leaf, -, rfl⟩
    have htext := Text.dropStart?_eq_some_iff.2
      (show (parent ++ "/" ++ leaf).toList = (parent ++ "/").toList ++ leaf.toList by simp)
    rw [hdrop] at htext
    cases htext
  | some rest =>
    have hpath := Text.dropStart?_eq_some_iff.1 hdrop
    constructor
    · intro hrest
      refine ⟨String.ofList rest, by simpa using hrest, ?_⟩
      rw [← String.toList_inj, hpath]
      simp
    · rintro ⟨leaf, hleaf, rfl⟩
      obtain rfl : rest = leaf.toList := by
        rw [String.toList_append] at hpath
        exact (List.append_cancel_left hpath).symm
      simpa using hleaf

lemma Filed.mem_children_iff (h : a.Filed) : fs ∈ a.children parent ↔
    a.filesystems.find? fs.path = some fs ∧ isChild parent fs.path = true := by
  rw [children, List.mem_filter, Catalog.mem_values_iff]
  refine and_congr_left fun _ => ⟨?_, fun hfound => ⟨fs.path, hfound⟩⟩
  rintro ⟨path, hfound⟩
  rwa [h.filesystems path fs hfound]

/-- The filesystems below a dataset come in ascending order. -/
lemma Filed.children_ascending (h : a.Filed) (parent : String) :
    (a.children parent).Pairwise fun one other => one.path < other.path := by
  refine List.Pairwise.filter _ ?_
  rw [Catalog.values, List.pairwise_map]
  refine a.filesystems.ascending.imp_of_mem fun {one other} hone hother hlt => ?_
  rw [h.filesystems one.1 one.2 (a.filesystems.find?_eq_some_iff.2 hone),
    h.filesystems other.1 other.2 (a.filesystems.find?_eq_some_iff.2 hother)]
  exact hlt

lemma Filed.find?_of_mem_snapshotsOf (h : a.Filed) {recursive : Bool} {snapshot : Snapshot}
    (hmem : snapshot ∈ a.snapshotsOf parent recursive) :
    a.snapshots.find? snapshot.path = some snapshot ∧
      isSnapshotOf parent recursive snapshot = true := by
  obtain ⟨hvalue, hbelongs⟩ := List.mem_filter.1 hmem
  obtain ⟨path, hfound⟩ := Catalog.mem_values_iff.1 hvalue
  exact ⟨by rwa [(h.snapshots path snapshot hfound).path_eq], hbelongs⟩

/-- A snapshot that is found by its identifier belongs to the path of the identifier. -/
lemma Filed.of_find?_fullPath (h : a.Filed) {identifier : Identifier} {snapshot : Snapshot}
    {name : String} (hname : identifier.snapshot = some name)
    (hunmarked : '@' ∉ identifier.path.toList)
    (hfound : a.snapshots.find? identifier.fullPath = some snapshot) :
    snapshot.path = identifier.fullPath ∧ snapshot.parent = identifier.path ∧
      snapshot.name = name := by
  obtain ⟨hpath, hcut⟩ := h.snapshots _ snapshot hfound
  have hcut' := Text.splitOnce_eq_some_iff.2 ⟨Identifier.toList_fullPath hname, hunmarked⟩
  obtain ⟨hparent, hlast⟩ := Prod.mk.inj (Option.some.inj (hcut'.symm.trans hcut))
  exact ⟨hpath, (String.toList_inj.1 hparent).symm, (String.toList_inj.1 hlast).symm⟩

end Simulated

/-! ## Listings of volumes -/

variable {fleet : Fleet} {rack later : Rack} {backend : Backend} {dataset : String}
  {appliance : ApplianceRef} {a : Simulated} {volume : Volume}

/-- An appliance of the backend has this filesystem at this path. -/
def Backend.Has (backend : Backend) (rack : Rack) (path : String) (fs : Filesystem) : Prop :=
  ∃ appliance ∈ backend.appliances, ∃ a, rack appliance.id = some a ∧
    a.filesystems.find? path = some fs

namespace Rack

/-- The appliance that serves a dataset of a backend. -/
def server? (rack : Rack) (backend : Backend) (dataset : String) : Option Simulated :=
  (rack.holder? dataset backend).bind fun appliance => rack appliance.id

/-- The volumes directly below a dataset of a backend. -/
def volumesBelow (rack : Rack) (backend : Backend) (dataset : String) : List Volume :=
  match rack.server? backend dataset with
  | some a => (a.children dataset).map fun fs => Volume.of backend fs.path fs.quota {}
  | none => []

lemma of_server? (h : rack.server? backend dataset = some a) :
    ∃ appliance ∈ backend.appliances, rack appliance.id = some a ∧ a.offline = false := by
  obtain ⟨appliance, hholder, ha⟩ := Option.bind_eq_some_iff.1 h
  obtain ⟨hmem, hhas⟩ := of_holder? hholder
  obtain ⟨_, ha', honline, -⟩ := has_iff.1 hhas
  rw [ha] at ha'
  cases ha'
  exact ⟨appliance, hmem, ha, honline⟩

lemma mem_volumesBelow_iff : volume ∈ rack.volumesBelow backend dataset ↔
    ∃ a, rack.server? backend dataset = some a ∧
      ∃ fs ∈ a.children dataset, volume = Volume.of backend fs.path fs.quota {} := by
  unfold volumesBelow
  cases rack.server? backend dataset <;> simp [eq_comm]

end Rack

namespace Fleet

lemma exec_locate (backend : Backend) (dataset : String) (rack : Rack) :
    ∃ found, (backend.locate dataset).run.exec rack = (found, rack) ∧
      found.toOption = rack.holder? dataset backend := by
  have halike : ∀ other, other = rack → ∀ appliance ∈ backend.appliances,
      other.probe dataset appliance = rack.probe dataset appliance := by
    rintro _ rfl appliance -
    rfl
  obtain ⟨found, hleads, hfound, -⟩ := Backend.locate_leads halike
  exact ⟨found, hleads.exec_eq rfl, hfound⟩

/-- A listing of a dataset on a backend finds what is there, if anybody holds the dataset. -/
def Finds (rack : Rack) (list : Backend → String → Attempt (List α))
    (found : Backend → String → List α) : Prop :=
  ∀ backend dataset,
    (∃ fault, (list backend dataset).run.exec rack = (.error fault, rack)) ∧
      rack.holder? dataset backend = none ∨
    (list backend dataset).run.exec rack = (.ok (found backend dataset), rack) ∧
      (rack.holder? dataset backend).isSome = true

/-- A listing that locates the dataset and then asks whoever holds it. -/
lemma finds_of_locate {next : Backend → String → ApplianceRef → Attempt (List α)}
    {found : Backend → String → List α}
    (h : ∀ backend dataset appliance a, rack.holder? dataset backend = some appliance →
      rack appliance.id = some a → a.offline = false →
      (next backend dataset appliance).run.exec rack = (.ok (found backend dataset), rack)) :
    Finds rack (fun backend dataset => backend.locate dataset >>= next backend dataset) found := by
  intro backend dataset
  obtain ⟨located, hlocate, hlocated⟩ := exec_locate backend dataset rack
  cases located with
  | error fault => exact .inl ⟨⟨fault, Attempt.exec_bind_of_error hlocate⟩, hlocated.symm⟩
  | ok appliance =>
    have hholder : rack.holder? dataset backend = some appliance := hlocated.symm
    obtain ⟨a, ha, honline, -⟩ := Rack.has_iff.1 (Rack.of_holder? hholder).2
    exact .inr ⟨(Attempt.exec_bind_of_ok hlocate).trans
      (h backend dataset appliance a hholder ha honline), by rw [hholder]; rfl⟩

/-- The volumes of a backend are those below the dataset. -/
lemma finds_volumesOf (rack : Rack) : Finds rack volumesOf rack.volumesBelow := by
  refine finds_of_locate fun backend dataset appliance a hholder ha honline => ?_
  have hasked : (Attempt.ask appliance (.getFilesystems dataset)).run.exec rack =
      (.ok (a.children dataset), rack) := by
    rw [Attempt.exec_ask, Rack.answer_of_some ha]
    simp [Simulated.step, honline, Simulated.answer, Rack.set_eq_self ha]
  have hserver : rack.server? backend dataset = some a := by
    rw [Rack.server?, hholder]
    exact ha
  rw [Rack.volumesBelow, hserver]
  exact Attempt.exec_bind_of_ok hasked

/-- The backends that have a default dataset, each with its own. -/
def datasets (fleet : Fleet) : List (Backend × String) :=
  fleet.backends.filterMap fun backend =>
    backend.config.defaultDataset.map fun dataset => (backend, dataset)

lemma mem_datasets_iff : (backend, dataset) ∈ fleet.datasets ↔
    backend ∈ fleet.backends ∧ backend.config.defaultDataset = some dataset := by
  unfold datasets
  simp only [List.mem_filterMap, Option.map_eq_some_iff, Prod.mk.injEq]
  constructor
  · rintro ⟨_, hmem, _, hdataset, rfl, rfl⟩
    exact ⟨hmem, hdataset⟩
  · rintro ⟨hmem, hdataset⟩
    exact ⟨backend, hmem, dataset, hdataset, rfl, rfl⟩

lemma overDatasets_eq (fleet : Fleet) (list : Backend → String → Attempt α) :
    fleet.overDatasets list = fleet.datasets.map fun place => list place.1 place.2 := by
  unfold overDatasets datasets
  rw [List.map_filterMap]
  congr 1
  funext backend
  cases backend.config.defaultDataset <;> rfl

/-- Every default dataset is held by somebody. -/
def Held (fleet : Fleet) (rack : Rack) : Prop :=
  ∀ place ∈ fleet.datasets, (rack.holder? place.2 place.1).isSome = true

/-- All volumes, in the order in which they are listed. -/
def listed (fleet : Fleet) (rack : Rack) : List Volume :=
  fleet.datasets.flatMap fun place => rack.volumesBelow place.1 place.2

lemma mem_listed_iff : volume ∈ fleet.listed rack ↔
    ∃ backend ∈ fleet.backends, ∃ dataset, backend.config.defaultDataset = some dataset ∧
      ∃ a, rack.server? backend dataset = some a ∧
        ∃ fs ∈ a.children dataset, volume = Volume.of backend fs.path fs.quota {} := by
  simp only [listed, List.mem_flatMap, Rack.mem_volumesBelow_iff, Prod.exists, mem_datasets_iff,
    and_assoc, exists_and_left]

/-- Where every default dataset is held, what is listed is what lies directly below them. -/
lemma mem_listed_iff_of_held (staffed : fleet.Staffed rack) (held : fleet.Held rack) :
    volume ∈ fleet.listed rack ↔
      ∃ backend ∈ fleet.backends, ∃ dataset leaf fs,
        backend.config.defaultDataset = some dataset ∧ '/' ∉ leaf.toList ∧
        backend.Has rack (dataset ++ "/" ++ leaf) fs ∧
        volume = Volume.of backend (dataset ++ "/" ++ leaf) fs.quota {} := by
  rw [mem_listed_iff]
  constructor
  · rintro ⟨backend, hmem, dataset, hdataset, a, hserver, fs, hchild, rfl⟩
    obtain ⟨appliance, happliance, ha, -⟩ := Rack.of_server? hserver
    have filed := ((staffed backend hmem).staffedBy happliance ha).filed
    obtain ⟨hfound, hbelow⟩ := filed.mem_children_iff.1 hchild
    obtain ⟨leaf, hleaf, hpath⟩ := Simulated.isChild_iff.1 hbelow
    rw [hpath] at hfound ⊢
    exact ⟨backend, hmem, dataset, leaf, fs, hdataset, hleaf,
      ⟨appliance, happliance, a, ha, hfound⟩, rfl⟩
  · rintro ⟨backend, hmem, dataset, leaf, fs, hdataset, hleaf,
      ⟨appliance, happliance, a, ha, hfound⟩, rfl⟩
    have hstaffed := (staffed backend hmem).staffedBy happliance ha
    obtain ⟨holder, hholder⟩ := Option.isSome_iff_exists.1
      (held (backend, dataset) (mem_datasets_iff.2 ⟨hmem, hdataset⟩))
    obtain rfl : holder = appliance := by simpa [hstaffed.single] using (Rack.of_holder? hholder).1
    have hpath : fs.path = dataset ++ "/" ++ leaf := hstaffed.filed.filesystems _ fs hfound
    refine ⟨backend, hmem, dataset, hdataset, a, by rw [Rack.server?, hholder]; exact ha, fs,
      hstaffed.filed.mem_children_iff.2 ⟨by rwa [hpath], ?_⟩, by rw [hpath]⟩
    exact Simulated.isChild_iff.2 ⟨leaf, hleaf, hpath⟩

lemma joined_map_ok (parts : List (List α)) : joined (parts.map .ok) = .ok parts.flatten := by
  induction parts with
  | nil => rfl
  | cons part rest ih =>
    rw [List.map_cons, joined, ih]
    rfl

lemma joined_of_error {parts : List (Except Fault (List α))} {fault : Fault}
    (h : .error fault ∈ parts) : ∃ fault, joined parts = .error fault := by
  induction parts with
  | nil => cases h
  | cons part rest ih =>
    cases part with
    | error first => exact ⟨first, rfl⟩
    | ok part =>
      obtain ⟨last, hlast⟩ := ih (by simpa using h)
      exact ⟨last, by rw [joined, hlast]; rfl⟩

/-- Where every default dataset is held, a listing over all of them is made of what is there. -/
lemma joined_of_held {list : Backend → String → Attempt (List α)}
    {found : Backend → String → List α} (h : Finds rack list found) (held : fleet.Held rack) :
    joined (fleet.datasets.map fun place => ((list place.1 place.2).run.exec rack).1) =
      .ok (fleet.datasets.flatMap fun place => found place.1 place.2) := by
  have hparts : (fleet.datasets.map fun place => ((list place.1 place.2).run.exec rack).1) =
      (fleet.datasets.map fun place => found place.1 place.2).map .ok := by
    rw [List.map_map]
    refine List.map_congr_left fun place hmem => ?_
    rcases h place.1 place.2 with ⟨-, hnone⟩ | ⟨hexec, -⟩
    · have hsome := held place hmem
      rw [hnone] at hsome
      cases hsome
    · exact congrArg Prod.fst hexec
  rw [hparts, joined_map_ok, ← List.flatMap_def]

/-- Where one is held by nobody, there is nothing but a fault. -/
lemma joined_of_not_held {list : Backend → String → Attempt (List α)}
    {found : Backend → String → List α} (h : Finds rack list found) (lost : ¬fleet.Held rack) :
    ∃ fault, joined (fleet.datasets.map fun place =>
      ((list place.1 place.2).run.exec rack).1) = .error fault := by
  unfold Held at lost
  push Not at lost
  obtain ⟨place, hmem, hholder⟩ := lost
  obtain ⟨⟨fault, hexec⟩, -⟩ := (h place.1 place.2).resolve_right fun hheld => hholder hheld.2
  have hfault : .error fault ∈ fleet.datasets.map fun place =>
      ((list place.1 place.2).run.exec rack).1 :=
    List.mem_map.2 ⟨place, hmem, congrArg Prod.fst hexec⟩
  exact joined_of_error hfault

/-- A page of volumes is cut from what the backends list. -/
lemma exec_listVolumes_eq (fleet : Fleet) (rack : Rack) (limit : Nat) (token : Option String) :
    (Operation.listVolumes limit token).exec fleet rack =
      (joined (fleet.datasets.map fun place => ((volumesOf place.1 place.2).run.exec rack).1) >>=
        Page.cut Volume.id limit token, rack) := by
  rw [Operation.exec_of_isLook rfl, Operation.branches, overDatasets_eq, List.map_map,
    List.map_map]
  rfl

variable {limit : Nat} {token : Option String}

/-- Where every default dataset is held, a page is cut from all that is listed. -/
theorem exec_listVolumes (h : fleet.Held rack) (limit : Nat) (token : Option String) :
    (Operation.listVolumes limit token).exec fleet rack =
      (Page.cut Volume.id limit token (fleet.listed rack), rack) := by
  rw [exec_listVolumes_eq, joined_of_held (finds_volumesOf rack) h]
  rfl

/-- Where a default dataset is held by nobody, there is nothing but a fault. -/
theorem exec_listVolumes_of_not_held (h : ¬fleet.Held rack) (limit : Nat)
    (token : Option String) :
    ∃ fault, (Operation.listVolumes limit token).exec fleet rack = (.error fault, rack) := by
  obtain ⟨fault, hjoined⟩ := joined_of_not_held (finds_volumesOf rack) h
  refine ⟨fault, ?_⟩
  rw [exec_listVolumes_eq, hjoined]
  rfl

/-- A page of volumes was cut from all that is listed. -/
lemma cut_of_listVolumes {page : Page Volume}
    (h : (Operation.listVolumes limit token).exec fleet rack = (.ok page, later)) :
    fleet.Held rack ∧ Page.cut Volume.id limit token (fleet.listed rack) = .ok page ∧
      later = rack := by
  by_cases hheld : fleet.Held rack
  · rw [exec_listVolumes hheld] at h
    obtain ⟨hcut, hlater⟩ := Prod.mk.inj h
    exact ⟨hheld, hcut, hlater.symm⟩
  · obtain ⟨fault, hfault⟩ := exec_listVolumes_of_not_held hheld limit token
    rw [hfault] at h
    cases h

/-! ## Listings of snapshots -/

lemma mem_joined {parts : List (Except Fault (List α))} {items : List α} {item : α}
    (h : joined parts = .ok items) (hmem : item ∈ items) :
    ∃ part, .ok part ∈ parts ∧ item ∈ part := by
  induction parts generalizing items with
  | nil =>
    cases h
    cases hmem
  | cons first rest ih =>
    cases first with
    | error fault => cases h
    | ok part =>
      rw [joined] at h
      cases hrest : joined rest with
      | error fault => simp [hrest, Except.map] at h
      | ok others =>
        obtain rfl : part ++ others = items := by simpa [hrest, Except.map] using h
        rcases List.mem_append.1 hmem with hpart | hothers
        · exact ⟨part, by simp, hpart⟩
        · obtain ⟨found, hfound, hitem⟩ := ih hrest hothers
          exact ⟨found, by simp [hfound], hitem⟩

end Fleet

/-- A snapshot that an appliance of this backend has, of a filesystem that has a path. -/
structure Fleet.Stores (fleet : Fleet) (rack : Rack) (backend : Backend) (snapshot : Snapshot) :
    Prop where
  backend_mem : backend ∈ fleet.backends
  kept : ∃ appliance ∈ backend.appliances, ∃ a, rack appliance.id = some a ∧
    a.snapshots.find? snapshot.path = some snapshot
  parent_ne : snapshot.parent ≠ ""

/-- Whatever appliance of the fleet is there is filed. -/
def Fleet.Filed (fleet : Fleet) (rack : Rack) : Prop :=
  ∀ backend ∈ fleet.backends, ∀ appliance ∈ backend.appliances, ∀ a,
    rack appliance.id = some a → a.Filed

/-- An attempt at a listing of snapshots that are stored. -/
structure Fleet.Shows (fleet : Fleet) (rack : Rack) (attempt : Attempt (List VolumeSnapshot)) :
    Prop where
  same : (attempt.run.exec rack).2 = rack
  stored : ∀ items, (attempt.run.exec rack).1 = .ok items → ∀ entry ∈ items,
    ∃ backend snapshot, fleet.Stores rack backend snapshot ∧
      entry = VolumeSnapshot.of backend snapshot

namespace Rack

lemma answer_getSnapshots (rack : Rack) (appliance : ApplianceRef) (path : String)
    (recursive : Bool) :
    (rack.answer appliance (.getSnapshots path recursive)).2 = rack ∧
      ∀ list, (rack.answer appliance (.getSnapshots path recursive)).1 = .ok list →
        ∃ a, rack appliance.id = some a ∧ list = a.snapshotsOf path recursive := by
  have hsame : ∀ a : Simulated, (a.step (.getSnapshots path recursive)).2 = a := by
    intro a
    unfold Simulated.step
    split_ifs <;> rfl
  refine ⟨Attempt.keeps_all hsame rack, fun list hok => ?_⟩
  cases ha : rack appliance.id with
  | none =>
    rw [answer, ha] at hok
    cases hok
  | some a =>
    rw [answer_of_some ha, Simulated.step] at hok
    split_ifs at hok
    cases hok
    exact ⟨a, rfl, rfl⟩

end Rack

namespace Fleet

variable {identifier : Identifier} {resolution : Resolution} {items : List VolumeSnapshot}

lemma shows_throw (fault : Fault) : fleet.Shows rack (throw fault) :=
  ⟨rfl, fun _ h => nomatch h⟩

lemma shows_return (h : ∀ entry ∈ items, ∃ backend snapshot, fleet.Stores rack backend snapshot ∧
    entry = VolumeSnapshot.of backend snapshot) : fleet.Shows rack (return items) := by
  refine ⟨rfl, ?_⟩
  rintro _ ⟨⟩
  exact h

lemma shows_nothing : fleet.Shows rack (return []) :=
  shows_return fun _ h => nomatch h

lemma shows_bind {attempt : Attempt α} {next : α → Attempt (List VolumeSnapshot)}
    (same : (attempt.run.exec rack).2 = rack)
    (h : ∀ found, (attempt.run.exec rack).1 = .ok found → fleet.Shows rack (next found)) :
    fleet.Shows rack (attempt >>= next) := by
  cases hfirst : (attempt.run.exec rack).1 with
  | error fault =>
    have hexec : (attempt >>= next).run.exec rack = (.error fault, rack) :=
      Attempt.exec_bind_of_error (Prod.ext hfirst same)
    exact ⟨congrArg Prod.snd hexec, fun _ hok => by rw [hexec] at hok; cases hok⟩
  | ok found =>
    have hexec : (attempt >>= next).run.exec rack = (next found).run.exec rack :=
      Attempt.exec_bind_of_ok (Prod.ext hfirst same)
    obtain ⟨hsame, hstored⟩ := h found hfirst
    exact ⟨by rw [hexec, hsame], fun items hok => hstored items (by rw [← hexec, hok])⟩

lemma shows_outcome_bind {attempt : Attempt α}
    {next : Except Fault α → Attempt (List VolumeSnapshot)}
    (same : (attempt.run.exec rack).2 = rack)
    (h : fleet.Shows rack (next (attempt.run.exec rack).1)) :
    fleet.Shows rack (attempt.outcome >>= next) := by
  have hexec := Attempt.exec_outcome_bind attempt next rack
  rw [same] at hexec
  exact ⟨by rw [hexec, h.same], fun items hok => h.stored items (by rw [← hexec, hok])⟩

lemma stands_of_resolveExisting
    (h : ((fleet.resolveExisting identifier).run.exec rack).1 = .ok (some resolution)) :
    resolution.Stands fleet rack := by
  unfold resolveExisting at h
  rw [Attempt.exec_outcome_bind] at h
  rcases fleet.exec_select_cases rack identifier.backend none (some identifier.path) with
    ⟨fault, hselect, -⟩ | ⟨found, hselect, hplace⟩
  · rw [show (fleet.resolve identifier).run.exec rack = _ from hselect] at h
    dsimp only at h
    split_ifs at h <;> cases h
  · rw [show (fleet.resolve identifier).run.exec rack = _ from hselect] at h
    obtain rfl : found = resolution := Option.some.inj (Except.ok.inj h)
    exact stands_of_place? hplace

lemma shows_findSnapshot (filed : fleet.Filed rack) (id : String) :
    fleet.Shows rack (fleet.findSnapshot id) := by
  unfold findSnapshot
  split
  · exact shows_nothing
  · next identifier hid =>
    refine shows_bind (fleet.resolveExisting_keeps _ (fun rack => rack) rack) fun found hfound => ?_
    cases found with
    | none => exact shows_nothing
    | some resolution =>
      have stands := stands_of_resolveExisting hfound
      obtain ⟨hsame, hkept⟩ :=
        rack.answer_getSnapshot resolution.appliance identifier.fullPath
      refine shows_outcome_bind hsame ?_
      rw [Attempt.exec_ask]
      split
      · next snapshot hok =>
        obtain ⟨a, ha, hthere⟩ := hkept snapshot hok
        obtain ⟨hdecode, hsome⟩ := Identifier.decodeSnapshot_eq_ok_iff.1 hid
        obtain ⟨name, hname⟩ := Option.isSome_iff_exists.1 hsome
        obtain ⟨hdivisible, -, -⟩ := (Identifier.decode_eq_ok_iff.1 hdecode).1
        obtain ⟨hpath, hparent, -⟩ :=
          (filed _ stands.backend_mem _ stands.appliance_mem a ha).of_find?_fullPath hname
            hdivisible.unmarked hthere
        refine shows_return fun entry hmem => ⟨resolution.backend, snapshot,
          ⟨stands.backend_mem, ⟨_, stands.appliance_mem, a, ha, by rwa [hpath]⟩, ?_⟩,
          List.mem_singleton.1 hmem⟩
        rw [hparent]
        exact hdivisible.path_ne
      · split_ifs
        · exact shows_nothing
        · exact shows_throw _

lemma shows_snapshotsOfVolume (filed : fleet.Filed rack) (id : String) :
    fleet.Shows rack (fleet.snapshotsOfVolume id) := by
  unfold snapshotsOfVolume
  split
  · exact shows_nothing
  · refine shows_bind (fleet.resolveExisting_keeps _ (fun rack => rack) rack) fun found hfound => ?_
    cases found with
    | none => exact shows_nothing
    | some resolution =>
      have stands := stands_of_resolveExisting hfound
      obtain ⟨hsame, hkept⟩ :=
        rack.answer_getSnapshots resolution.appliance resolution.path false
      refine shows_bind hsame fun list hok => shows_return fun entry hmem => ?_
      obtain ⟨snapshot, hlisted, rfl⟩ := List.mem_map.1 hmem
      obtain ⟨a, ha, rfl⟩ := hkept list hok
      obtain ⟨hthere, hbelongs⟩ :=
        (filed _ stands.backend_mem _ stands.appliance_mem a ha).find?_of_mem_snapshotsOf hlisted
      have hparent : snapshot.parent = resolution.path := by
        simpa [Simulated.isSnapshotOf] using hbelongs
      exact ⟨resolution.backend, snapshot, ⟨stands.backend_mem,
        ⟨_, stands.appliance_mem, a, ha, hthere⟩, by rw [hparent]; exact stands.path_ne⟩, rfl⟩

lemma shows_snapshotsBelow (filed : fleet.Filed rack) (hmem : backend ∈ fleet.backends)
    (dataset : String) : fleet.Shows rack (snapshotsBelow backend dataset) := by
  obtain ⟨found, hlocate, hfound⟩ := exec_locate backend dataset rack
  refine shows_bind (congrArg Prod.snd hlocate) fun appliance hok => ?_
  rw [hlocate] at hok
  rw [show found = .ok appliance from hok] at hfound
  obtain ⟨happliance, -⟩ := Rack.of_holder? hfound.symm
  obtain ⟨hsame, hkept⟩ := rack.answer_getSnapshots appliance dataset true
  refine shows_bind hsame fun list hok => shows_return fun entry hentry => ?_
  obtain ⟨snapshot, hlisted, rfl⟩ := List.mem_map.1 hentry
  obtain ⟨hlisted, hbelow⟩ := List.mem_filter.1 hlisted
  obtain ⟨a, ha, rfl⟩ := hkept list hok
  have hthere := (filed _ hmem _ happliance a ha).find?_of_mem_snapshotsOf hlisted
  refine ⟨backend, snapshot, ⟨hmem, ⟨appliance, happliance, a, ha, hthere.1⟩, fun hparent => ?_⟩,
    rfl⟩
  rw [hparent, Text.startsWith, List.isPrefixOf_iff_prefix] at hbelow
  simp at hbelow

lemma shows_branch (filed : fleet.Filed rack) {snapshotId volumeId : Option String}
    {attempt : Attempt (List VolumeSnapshot)}
    (h : attempt ∈ Operation.snapshotBranches fleet snapshotId volumeId) :
    fleet.Shows rack attempt := by
  unfold Operation.snapshotBranches at h
  split at h
  · rw [List.mem_singleton.1 h]
    exact shows_findSnapshot filed _
  · rw [List.mem_singleton.1 h]
    exact shows_snapshotsOfVolume filed _
  · rw [overDatasets_eq] at h
    obtain ⟨⟨backend, dataset⟩, hplace, rfl⟩ := List.mem_map.1 h
    exact shows_snapshotsBelow filed (mem_datasets_iff.1 hplace).1 dataset

/-- A page of snapshots is cut from what the branches list. -/
lemma exec_listSnapshots_eq (fleet : Fleet) (rack : Rack) (snapshotId volumeId : Option String)
    (limit : Nat) (token : Option String) :
    (Operation.listSnapshots snapshotId volumeId limit token).exec fleet rack =
      (joined ((Operation.snapshotBranches fleet snapshotId volumeId).map
        fun attempt => (attempt.run.exec rack).1) >>= Page.cut VolumeSnapshot.id limit token,
        rack) := by
  rw [Operation.exec_of_isLook rfl, Operation.branches, List.map_map]
  rfl

/-- What is on a page of snapshots is stored on a backend of the fleet. -/
theorem Filed.stores (filed : fleet.Filed rack)
    {snapshotId volumeId token : Option String} {limit : Nat} {page : Page VolumeSnapshot}
    (h : ((Operation.listSnapshots snapshotId volumeId limit token).exec fleet rack).1 = .ok page)
    {entry : VolumeSnapshot} (hmem : entry ∈ page.entries) :
    ∃ backend snapshot, fleet.Stores rack backend snapshot ∧
      entry = VolumeSnapshot.of backend snapshot := by
  rw [exec_listSnapshots_eq] at h
  cases hjoined : joined ((Operation.snapshotBranches fleet snapshotId volumeId).map
      fun attempt => (attempt.run.exec rack).1) with
  | error fault =>
    rw [hjoined] at h
    cases h
  | ok items =>
    rw [hjoined] at h
    obtain ⟨part, hpart, hentry⟩ := mem_joined hjoined (Page.mem_of_cut h hmem)
    obtain ⟨attempt, hattempt, hok⟩ := List.mem_map.1 hpart
    exact (shows_branch filed hattempt).stored part hok entry hentry

theorem stores_of_listSnapshots (filed : rack.Filed)
    {snapshotId volumeId token : Option String} {limit : Nat} {page : Page VolumeSnapshot}
    (h : ((Operation.listSnapshots snapshotId volumeId limit token).exec fleet rack).1 = .ok page)
    {entry : VolumeSnapshot} (hmem : entry ∈ page.entries) :
    ∃ backend snapshot, fleet.Stores rack backend snapshot ∧
      entry = VolumeSnapshot.of backend snapshot :=
  Filed.stores (fun _ _ _ _ a ha => filed _ a ha) h hmem

end Fleet
end StorageFleet
