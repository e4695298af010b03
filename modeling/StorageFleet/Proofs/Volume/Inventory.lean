import StorageFleet.Proofs.Rack.Rooting
import StorageFleet.Proofs.Volume.Order

/-!
# Which snapshots are listed

The three listings of snapshots, each with exactly what it finds where every backend is housed.  The
listing of everything goes over the default datasets like that of the volumes, and its page is cut
from `Fleet.listedSnapshots`.  A listing by a snapshot or by a volume of a backend finds what the
appliance has, but nothing at all where the appliance cannot be reached
(`Backend.HousedBy.exec_findSnapshot`, `Backend.HousedBy.exec_snapshotsOfVolume`).
-/

namespace StorageFleet

variable {fleet : Fleet} {rack : Rack} {backend : Backend} {appliance : ApplianceRef}
  {a : Simulated} {dataset path name id : String} {identifier : Identifier} {snapshot : Snapshot}
  {entry : VolumeSnapshot} {limit : Nat} {token : Option String}

/-! ## What an appliance finds -/

namespace Simulated

lemma Filed.mem_snapshotsOf_iff (h : a.Filed) {recursive : Bool} :
    snapshot ∈ a.snapshotsOf path recursive ↔
      a.snapshots.find? snapshot.path = some snapshot ∧
        isSnapshotOf path recursive snapshot = true := by
  refine ⟨h.find?_of_mem_snapshotsOf, fun ⟨hfound, hbelongs⟩ => ?_⟩
  exact List.mem_filter.2 ⟨Catalog.mem_values_iff.2 ⟨_, hfound⟩, hbelongs⟩

/-- Snapshots come in ascending order. -/
lemma Filed.snapshotsOf_ascending (h : a.Filed) (path : String) (recursive : Bool) :
    (a.snapshotsOf path recursive).Pairwise fun one other => one.path < other.path := by
  refine List.Pairwise.filter _ ?_
  rw [Catalog.values, List.pairwise_map]
  refine a.snapshots.ascending.imp_of_mem fun {one other} hone hother hlt => ?_
  rw [(h.snapshots one.1 one.2 (a.snapshots.find?_eq_some_iff.2 hone)).path_eq,
    (h.snapshots other.1 other.2 (a.snapshots.find?_eq_some_iff.2 hother)).path_eq]
  exact hlt

/-- A filesystem that is not there has no snapshots. -/
lemma Rooted.snapshotsOf_eq_nil (h : a.Rooted) (filed : a.Filed)
    (hmissing : a.filesystems.contains path = false) : a.snapshotsOf path false = [] := by
  refine List.eq_nil_iff_forall_not_mem.2 fun snapshot hmem => ?_
  obtain ⟨hfound, hbelongs⟩ := filed.mem_snapshotsOf_iff.1 hmem
  obtain rfl : snapshot.parent = path := by simpa [isSnapshotOf] using hbelongs
  rw [h _ snapshot hfound] at hmissing
  cases hmissing

/-- Nor is a snapshot of it found. -/
lemma Rooted.find?_eq_none (h : a.Rooted) (filed : a.Filed) {title : String}
    (htitle : identifier.snapshot = some title) (hunmarked : '@' ∉ identifier.path.toList)
    (hmissing : a.filesystems.contains identifier.path = false) :
    a.snapshots.find? identifier.fullPath = none := by
  cases hfound : a.snapshots.find? identifier.fullPath with
  | none => rfl
  | some snapshot =>
    obtain ⟨-, hparent, -⟩ := filed.of_find?_fullPath htitle hunmarked hfound
    have hthere : a.filesystems.contains snapshot.parent = true := h _ snapshot hfound
    rw [hparent, hmissing] at hthere
    cases hthere

end Simulated

lemma Attempt.exec_getSnapshots (ha : rack appliance.id = some a) (online : a.offline = false)
    (path : String) (recursive : Bool) :
    (ask appliance (.getSnapshots path recursive)).run.exec rack =
      (.ok (a.snapshotsOf path recursive), rack) := by
  rw [exec_ask, Rack.answer_of_some ha]
  simp [Simulated.step, online, Simulated.answer, Rack.set_eq_self ha]

lemma Attempt.exec_getSnapshot (ha : rack appliance.id = some a) (online : a.offline = false)
    (path : String) :
    (ask appliance (.getSnapshot path)).run.exec rack = (a.snapshot path, rack) := by
  rw [exec_ask, Rack.answer_of_some ha]
  simp [Simulated.step, online, Simulated.answer, Rack.set_eq_self ha]

/-! ## Everything -/

/-- The snapshots of what lies below a dataset of a backend. -/
def Rack.snapshotsBelow (rack : Rack) (backend : Backend) (dataset : String) :
    List VolumeSnapshot :=
  match rack.server? backend dataset with
  | some a => ((a.snapshotsOf dataset true).filter fun snapshot =>
      Text.startsWith (dataset ++ "/") snapshot.parent).map (VolumeSnapshot.of backend)
  | none => []

lemma Rack.mem_snapshotsBelow_iff (filed : a.Filed)
    (hserver : rack.server? backend dataset = some a) :
    entry ∈ rack.snapshotsBelow backend dataset ↔ ∃ snapshot,
      a.snapshots.find? snapshot.path = some snapshot ∧
        Text.startsWith (dataset ++ "/") snapshot.parent = true ∧
        entry = VolumeSnapshot.of backend snapshot := by
  rw [snapshotsBelow, hserver]
  simp only [List.mem_map, List.mem_filter, filed.mem_snapshotsOf_iff]
  refine exists_congr fun snapshot => ?_
  constructor
  · rintro ⟨⟨⟨hfound, -⟩, hbelow⟩, rfl⟩
    exact ⟨hfound, hbelow, rfl⟩
  · rintro ⟨hfound, hbelow, rfl⟩
    exact ⟨⟨⟨hfound, by simp [Simulated.isSnapshotOf, hbelow]⟩, hbelow⟩, rfl⟩

/-- A dataset that is held is held by the only appliance. -/
lemma Backend.HousedBy.server?_eq (h : backend.HousedBy rack appliance a)
    (held : (rack.holder? dataset backend).isSome = true) :
    rack.server? backend dataset = some a ∧ a.offline = false := by
  obtain ⟨holder, hholder⟩ := Option.isSome_iff_exists.1 held
  obtain ⟨hmem, hhas⟩ := Rack.of_holder? hholder
  obtain rfl : holder = appliance := by simpa [h.single] using hmem
  obtain ⟨_, ha, online, -⟩ := Rack.has_iff.1 hhas
  rw [h.here] at ha
  cases ha
  exact ⟨by rw [Rack.server?, hholder]; exact h.here, online⟩

/-- All snapshots, in the order in which they are listed. -/
def Fleet.listedSnapshots (fleet : Fleet) (rack : Rack) : List VolumeSnapshot :=
  fleet.datasets.flatMap fun place => rack.snapshotsBelow place.1 place.2

namespace Fleet

lemma finds_snapshotsBelow (rack : Rack) : Finds rack snapshotsBelow rack.snapshotsBelow := by
  refine finds_of_locate fun backend dataset appliance a hholder ha online => ?_
  have hserver : rack.server? backend dataset = some a := by
    rw [Rack.server?, hholder]
    exact ha
  rw [Rack.snapshotsBelow, hserver]
  exact Attempt.exec_bind_of_ok (Attempt.exec_getSnapshots ha online dataset true)

lemma exec_listSnapshots_all (fleet : Fleet) (rack : Rack) (limit : Nat) (token : Option String) :
    (Operation.listSnapshots none none limit token).exec fleet rack =
      (joined (fleet.datasets.map fun place =>
        ((snapshotsBelow place.1 place.2).run.exec rack).1) >>=
          Page.cut VolumeSnapshot.id limit token, rack) := by
  have hbranches : Operation.snapshotBranches fleet none none =
      fleet.overDatasets snapshotsBelow := rfl
  rw [exec_listSnapshots_eq, hbranches, overDatasets_eq, List.map_map]
  rfl

/-- Where every default dataset is held, a page is cut from all that is listed. -/
theorem exec_listSnapshots (h : fleet.Held rack) (limit : Nat) (token : Option String) :
    (Operation.listSnapshots none none limit token).exec fleet rack =
      (Page.cut VolumeSnapshot.id limit token (fleet.listedSnapshots rack), rack) := by
  rw [exec_listSnapshots_all, joined_of_held (finds_snapshotsBelow rack) h]
  rfl

/-- A page of all snapshots was cut from all that is listed. -/
lemma cut_of_listSnapshots {page : Page VolumeSnapshot}
    (h : ((Operation.listSnapshots none none limit token).exec fleet rack).1 = .ok page) :
    fleet.Held rack ∧
      Page.cut VolumeSnapshot.id limit token (fleet.listedSnapshots rack) = .ok page := by
  by_cases hheld : fleet.Held rack
  · rw [exec_listSnapshots hheld] at h
    exact ⟨hheld, h⟩
  · obtain ⟨fault, hjoined⟩ := joined_of_not_held (finds_snapshotsBelow rack) hheld
    rw [exec_listSnapshots_all, hjoined] at h
    cases h

end Fleet

/-! ## By snapshot and by volume -/

namespace Fleet

/-- Looking for a path finds its place, or nothing; it does not fail where there is somebody to
ask. -/
lemma exec_resolveExisting (hpath : identifier.path.isEmpty = false)
    (hasked : fleet.candidates identifier.backend none ≠ []) :
    (fleet.resolveExisting identifier).run.exec rack =
      (.ok (fleet.placeOf? rack identifier), rack) := by
  have halike : ∀ backend ∈ fleet.candidates identifier.backend none,
      Rack.Alike (· = rack) rack (some identifier.path) backend :=
    fun backend _ => rack.alike_self _ backend
  obtain ⟨found, hleads, hfound, hstatus⟩ := select_leads halike
  have hselect : (fleet.resolve identifier).run.exec rack = (found, rack) := hleads.exec_eq rfl
  unfold resolveExisting
  rw [Attempt.exec_outcome_bind, hselect, placeOf?, place?, ← hfound]
  cases found with
  | ok resolution => rfl
  | error fault =>
    have hmissing : fault.status = .notFound := by
      have hhave : HavePath (some identifier.path) (fleet.candidates identifier.backend none) :=
        fun backend _ => ⟨_, backend.datasetOrDefault_of_nonempty hpath, hpath⟩
      rcases hstatus rfl hhave fault rfl with h | ⟨hnone, hnobody⟩
      · exact h
      · exact absurd (by rw [candidates, hnone, hnobody]; rfl) hasked
    dsimp only
    rw [if_pos hmissing]
    rfl

/-- Nobody that is asked for the path before this backend has it. -/
def AsksFirst (fleet : Fleet) (rack : Rack) (identifier : Identifier) (backend : Backend) : Prop :=
  ∃ before after, fleet.candidates identifier.backend none = before ++ backend :: after ∧
    ∀ earlier ∈ before, rack.holder? identifier.path earlier = none

lemma AsksFirst.asked (h : fleet.AsksFirst rack identifier backend) :
    fleet.candidates identifier.backend none ≠ [] := by
  obtain ⟨before, after, hcandidates, -⟩ := h
  rw [hcandidates]
  exact List.append_ne_nil_of_right_ne_nil _ (List.cons_ne_nil _ _)

lemma AsksFirst.mem (h : fleet.AsksFirst rack identifier backend) : backend ∈ fleet.backends := by
  obtain ⟨before, after, hcandidates, -⟩ := h
  exact candidates_subset (by rw [hcandidates]; simp)

/-- A backend that is named is the only one to be asked. -/
lemma asksFirst_of_named (hne : name ≠ "") (hname : identifier.backend = some name)
    (hbackend : fleet.find? name = some backend) (rack : Rack) :
    fleet.AsksFirst rack identifier backend :=
  ⟨[], [], by rw [hname, candidates_named hne, hbackend]; rfl, by simp⟩

lemma AsksFirst.find?_eq (h : fleet.AsksFirst rack identifier backend) (hne : name ≠ "")
    (hname : identifier.backend = some name) : fleet.find? name = some backend := by
  obtain ⟨before, after, hcandidates, -⟩ := h
  have hmem : backend ∈ (fleet.find? name).toList := by
    rw [← candidates_named hne, ← hname, hcandidates]
    simp
  exact Option.mem_toList.1 hmem

lemma AsksFirst.placeOf?_eq (h : fleet.AsksFirst rack identifier backend)
    (hpath : identifier.path.isEmpty = false)
    (hholder : rack.holder? identifier.path backend = some appliance) :
    fleet.placeOf? rack identifier = some ⟨backend, appliance, identifier.path⟩ := by
  obtain ⟨before, after, hcandidates, hearlier⟩ := h
  have hhome : ∀ backend, rack.home? (some identifier.path) backend =
      (rack.holder? identifier.path backend).map (⟨backend, ·, identifier.path⟩) :=
    fun backend => Rack.home?_of_ok (backend.datasetOrDefault_of_nonempty hpath)
  have hbefore : before.findSome? (rack.home? (some identifier.path)) = none := by
    refine List.findSome?_eq_none_iff.2 fun earlier hmem => ?_
    rw [hhome, hearlier earlier hmem]
    rfl
  rw [placeOf?, place?, hcandidates, List.findSome?_append, hbefore, Option.none_or,
    List.findSome?_cons, hhome, hholder]
  rfl

/-- Where the volume is found, so is its snapshot. -/
lemma exec_findSnapshot (hid : Identifier.decodeSnapshot id = .ok identifier)
    (hplace : fleet.placeOf? rack identifier.parent = some ⟨backend, appliance, path⟩)
    (hasked : fleet.candidates identifier.backend none ≠ [])
    (ha : rack appliance.id = some a) (online : a.offline = false) :
    (fleet.findSnapshot id).run.exec rack =
      (.ok ((a.snapshots.find? identifier.fullPath).toList.map (VolumeSnapshot.of backend)),
        rack) := by
  have hpath := Identifier.isEmpty_path_of_decode (Identifier.decodeSnapshot_eq_ok_iff.1 hid).1
  have hresolved : (fleet.resolveExisting identifier.parent).run.exec rack =
      (.ok (fleet.placeOf? rack identifier.parent), rack) := exec_resolveExisting hpath hasked
  unfold findSnapshot
  rw [hid]
  dsimp only
  rw [Attempt.exec_bind_of_ok hresolved, hplace]
  dsimp only
  rw [Attempt.exec_outcome_bind, Attempt.exec_getSnapshot ha online, Simulated.snapshot]
  cases a.snapshots.find? identifier.fullPath <;> rfl

/-- Where the volume is not found, there is no snapshot of it. -/
lemma exec_findSnapshot_of_none (hid : Identifier.decodeSnapshot id = .ok identifier)
    (hplace : fleet.placeOf? rack identifier.parent = none)
    (hasked : fleet.candidates identifier.backend none ≠ []) :
    (fleet.findSnapshot id).run.exec rack = (.ok [], rack) := by
  have hpath := Identifier.isEmpty_path_of_decode (Identifier.decodeSnapshot_eq_ok_iff.1 hid).1
  have hresolved : (fleet.resolveExisting identifier.parent).run.exec rack =
      (.ok (fleet.placeOf? rack identifier.parent), rack) := exec_resolveExisting hpath hasked
  unfold findSnapshot
  rw [hid]
  dsimp only
  rw [Attempt.exec_bind_of_ok hresolved, hplace]
  rfl

end Fleet

namespace Backend.HousedBy

/-- The place of a path on a named backend. -/
lemma placeOf?_eq (h : backend.HousedBy rack appliance a)
    (hbackend : fleet.find? name = some backend) (hname : name ≠ "") (hpath : path ≠ "") :
    fleet.placeOf? rack (.ofVolume name path) =
      if a.offline = false ∧ a.filesystems.contains path = true
      then some ⟨backend, appliance, path⟩ else none := by
  rw [Fleet.placeOf?_named hname hpath, hbackend, Option.bind_some, h.holder?_eq hpath]
  split_ifs <;> rfl

/-- A snapshot of a backend is found if the appliance has it and can be reached. -/
theorem exec_findSnapshot (h : backend.HousedBy rack appliance a)
    (hid : Identifier.decodeSnapshot id = .ok identifier) (hname : identifier.backend = some name)
    (hbackend : fleet.find? name = some backend) :
    (fleet.findSnapshot id).run.exec rack = (.ok (if a.offline = true then [] else
      (a.snapshots.find? identifier.fullPath).toList.map (VolumeSnapshot.of backend)), rack) := by
  obtain ⟨hdecode, hsome⟩ := Identifier.decodeSnapshot_eq_ok_iff.1 hid
  obtain ⟨title, htitle⟩ := Option.isSome_iff_exists.1 hsome
  obtain ⟨⟨hpath, hunmarked, -⟩, hnamed, -⟩ := (Identifier.decode_eq_ok_iff.1 hdecode).1
  obtain ⟨hne, -⟩ := hnamed name hname
  have hasked := (Fleet.asksFirst_of_named hne hname hbackend rack).asked
  have hplace : fleet.placeOf? rack identifier.parent =
      if a.offline = false ∧ a.filesystems.contains identifier.path = true
      then some ⟨backend, appliance, identifier.path⟩ else none := by
    rw [show identifier.parent = .ofVolume name identifier.path by
      rw [Identifier.parent, hname]; rfl]
    exact h.placeOf?_eq hbackend hne hpath
  cases honline : a.offline with
  | true =>
    rw [if_neg (by simp [honline])] at hplace
    exact Fleet.exec_findSnapshot_of_none hid hplace hasked
  | false =>
    cases hthere : a.filesystems.contains identifier.path with
    | false =>
      rw [if_neg (by simp [hthere])] at hplace
      rw [h.rooted.find?_eq_none h.filed htitle hunmarked hthere]
      exact Fleet.exec_findSnapshot_of_none hid hplace hasked
    | true =>
      rw [if_pos ⟨honline, hthere⟩] at hplace
      exact Fleet.exec_findSnapshot hid hplace hasked h.here honline

/-- The snapshots of a volume of a backend are found if the appliance can be reached. -/
theorem exec_snapshotsOfVolume (h : backend.HousedBy rack appliance a)
    (hid : Identifier.decodeVolume id = .ok identifier) (hname : identifier.backend = some name)
    (hbackend : fleet.find? name = some backend) :
    (fleet.snapshotsOfVolume id).run.exec rack = (.ok (if a.offline = true then [] else
      (a.snapshotsOf identifier.path false).map (VolumeSnapshot.of backend)), rack) := by
  obtain ⟨hdecode, hnone⟩ := Identifier.decodeVolume_eq_ok_iff.1 hid
  obtain ⟨⟨hpath, -, -⟩, hnamed, -⟩ := (Identifier.decode_eq_ok_iff.1 hdecode).1
  obtain ⟨hne, -⟩ := hnamed name hname
  have hplace : fleet.placeOf? rack identifier =
      if a.offline = false ∧ a.filesystems.contains identifier.path = true
      then some ⟨backend, appliance, identifier.path⟩ else none := by
    rw [show identifier = .ofVolume name identifier.path by
      rw [Identifier.ofVolume, ← hname, ← hnone]]
    exact h.placeOf?_eq hbackend hne hpath
  unfold Fleet.snapshotsOfVolume
  rw [hid]
  dsimp only
  rw [Attempt.exec_bind_of_ok (Fleet.exec_resolveExisting (by simpa using hpath)
    (Fleet.asksFirst_of_named hne hname hbackend rack).asked), hplace]
  cases honline : a.offline with
  | true => rfl
  | false =>
    cases hthere : a.filesystems.contains identifier.path with
    | false =>
      rw [h.rooted.snapshotsOf_eq_nil h.filed hthere]
      rfl
    | true =>
      simp only [and_self, if_true]
      exact Attempt.exec_bind_of_ok (Attempt.exec_getSnapshots h.here honline _ _)

end Backend.HousedBy

namespace Fleet

lemma given_of_decode (h : Identifier.decode id = .ok identifier) : given (some id) = some id := by
  have hne : id ≠ "" := by
    rintro rfl
    cases h
  exact Option.filter_some_pos (by simpa using hne)

/-- A listing by a snapshot is cut from what is found of it. -/
lemma exec_listSnapshots_bySnapshot {items : List VolumeSnapshot}
    (hid : Identifier.decodeSnapshot id = .ok identifier)
    (h : (fleet.findSnapshot id).run.exec rack = (.ok items, rack)) (volumeId : Option String) :
    (Operation.listSnapshots (some id) volumeId limit token).exec fleet rack =
      (Page.cut VolumeSnapshot.id limit token items, rack) := by
  have hgiven : given (some id) = some id :=
    given_of_decode (Identifier.decodeSnapshot_eq_ok_iff.1 hid).1
  have hbranches : Operation.snapshotBranches fleet (some id) volumeId =
      [fleet.findSnapshot id] := by
    rw [Operation.snapshotBranches, hgiven]
  have hjoined : joined [.ok items] = .ok items := by
    rw [← List.map_singleton, joined_map_ok, List.flatten_singleton]
  rw [exec_listSnapshots_eq, hbranches, List.map_singleton, h, hjoined]
  rfl

/-- A listing by a volume is cut from what is found of it. -/
lemma exec_listSnapshots_byVolume {items : List VolumeSnapshot}
    (hid : Identifier.decodeVolume id = .ok identifier)
    (h : (fleet.snapshotsOfVolume id).run.exec rack = (.ok items, rack)) :
    (Operation.listSnapshots none (some id) limit token).exec fleet rack =
      (Page.cut VolumeSnapshot.id limit token items, rack) := by
  have hgiven : given (some id) = some id :=
    given_of_decode (Identifier.decodeVolume_eq_ok_iff.1 hid).1
  have hbranches : Operation.snapshotBranches fleet none (some id) =
      [fleet.snapshotsOfVolume id] := by
    rw [Operation.snapshotBranches, hgiven]
    rfl
  have hjoined : joined [.ok items] = .ok items := by
    rw [← List.map_singleton, joined_map_ok, List.flatten_singleton]
  rw [exec_listSnapshots_eq, hbranches, List.map_singleton, h, hjoined]
  rfl

end Fleet
end StorageFleet
