import StorageFleet.Operation
import StorageFleet.Proofs.Secrecy.Rekeying

/-!
# Operations with other passwords

An operation asks the same calls and finds the same, whatever the passwords in the settings of its
fleet (`Operation.branches_rekey`).  On the way it selects backends, and so what a search finds is
rekeyed with the fleet (`Fleet.select_rekey`); but all that is read of a backend that was found is
settings other than the password.
-/

namespace StorageFleet

/-! ## Mapped attempts -/

/-- What an attempt comes to may be mapped before or after it is looked at. -/
lemma Attempt.outcome_map (attempt : Attempt α) (g : α → β) :
    (g <$> attempt).outcome = Except.map g <$> attempt.outcome := by
  refine (Plan.bind_assoc attempt.run _ _).trans ((Plan.bind_assoc attempt.run _ _).trans ?_).symm
  refine congrArg attempt.run.bind (funext fun result => ?_)
  cases result <;> rfl

variable (f : String → String)

namespace Fleet

variable (fleet : Fleet)

lemma find?_rekey (name : String) :
    (fleet.rekey f).find? name = (fleet.find? name).map (Backend.rekey f) := by
  rw [find?, rekey, List.find?_map]
  rfl

lemma selectOn_rekey (backend : Backend) (path : Option String) :
    selectOn (backend.rekey f) path = Resolution.rekey f <$> selectOn backend path := by
  simp only [selectOn, map_bind, map_pure]
  rfl

lemma selectNamed_rekey (name : String) (zone path : Option String) :
    (fleet.rekey f).selectNamed name zone path =
      Resolution.rekey f <$> fleet.selectNamed name zone path := by
  unfold selectNamed
  rw [find?_rekey]
  cases fleet.find? name with
  | none => rfl
  | some backend =>
    have hzone : (backend.rekey f).zone = backend.zone := rfl
    rw [Option.map_some]
    dsimp only
    rw [hzone]
    cases zone.filter fun zone => backend.zone ≠ some zone with
    | some zone => rfl
    | none => exact selectOn_rekey f backend path

lemma selectAmong_rekey (zone path : Option String) (last : Option Fault) (skipped : List String)
    (backends : List Backend) :
    selectAmong zone path last skipped (backends.map (Backend.rekey f)) =
      Resolution.rekey f <$> selectAmong zone path last skipped backends := by
  induction backends generalizing last skipped with
  | nil => rfl
  | cons backend rest ih =>
    have hzone : (backend.rekey f).zone = backend.zone := rfl
    -- The place that is searched for comes from the settings, but not from the password.
    have hdataset : (backend.rekey f).datasetOrDefault path = backend.datasetOrDefault path := rfl
    rw [List.map_cons, selectAmong, selectAmong, hzone, hdataset]
    split_ifs
    · exact ih last skipped
    · cases backend.datasetOrDefault path with
      | error fault => exact ih last _
      | ok dataset =>
        dsimp only
        rw [map_bind]
        refine congrArg _ (funext fun located => ?_)
        cases located with
        | ok appliance => rfl
        | error fault => exact ih _ skipped

/-- A search finds the same place, rekeyed. -/
theorem select_rekey (name zone path : Option String) :
    (fleet.rekey f).select name zone path = Resolution.rekey f <$> fleet.select name zone path := by
  unfold select
  cases given name with
  | none => exact selectAmong_rekey f _ path none [] fleet.backends
  | some name => exact fleet.selectNamed_rekey f name _ path

lemma resolve_rekey (id : Identifier) :
    (fleet.rekey f).resolve id = Resolution.rekey f <$> fleet.resolve id :=
  fleet.select_rekey f _ _ _

lemma resolveExisting_rekey (id : Identifier) :
    (fleet.rekey f).resolveExisting id =
      Option.map (Resolution.rekey f) <$> fleet.resolveExisting id := by
  unfold resolveExisting
  rw [resolve_rekey, Attempt.outcome_map, bind_map_left, map_bind]
  refine congrArg _ (funext fun outcome => ?_)
  cases outcome with
  | ok resolution => rfl
  | error fault =>
    simp only [Except.map]
    split_ifs <;> rfl

/-- What goes on with a place in the same way for all passwords is the same after a search. -/
lemma resolveExisting_bind_rekey (id : Identifier) {next next' : Option Resolution → Attempt α}
    (hnone : next none = next' none)
    (hsome : ∀ resolution, next (some (resolution.rekey f)) = next' (some resolution)) :
    (fleet.rekey f).resolveExisting id >>= next = fleet.resolveExisting id >>= next' := by
  rw [resolveExisting_rekey, bind_map_left]
  refine congrArg _ (funext fun found => ?_)
  cases found with
  | none => exact hnone
  | some resolution => exact hsome resolution

/-! ## Volumes -/

/-- Where a new filesystem was asked for, with another password. -/
def Placement.rekey (placement : Placement) : Placement :=
  { placement with resolution := placement.resolution.rekey f }

lemma place_rekey (request : CreateVolumeRequest) :
    (fleet.rekey f).place request = Placement.rekey f <$> fleet.place request := by
  unfold place
  cases request.source with
  | none =>
    simp only [placeEmpty, select_rekey, bind_map_left, map_bind, map_pure]
    rfl
  | some source =>
    cases source with
    | snapshot id =>
      simp only [placeFromSnapshot, placeClone, select_rekey, bind_map_left, map_bind, map_pure]
      rfl
    | volume id =>
      simp only [placeFromVolume, placeClone, select_rekey, bind_map_left, map_bind, map_pure]
      rfl

lemma createVolume_rekey (request : CreateVolumeRequest) :
    (fleet.rekey f).createVolume request = fleet.createVolume request := by
  simp only [createVolume, place_rekey, bind_map_left]
  rfl

lemma deleteVolume_rekey (id : String) :
    (fleet.rekey f).deleteVolume id = fleet.deleteVolume id := by
  unfold deleteVolume
  cases volumeId id with
  | error fault => rfl
  | ok identifier =>
    exact fleet.resolveExisting_bind_rekey f _ rfl fun _ => rfl

lemma expandVolume_rekey (id : String) (capacity : Nat) :
    (fleet.rekey f).expandVolume id capacity = fleet.expandVolume id capacity := by
  simp only [expandVolume, resolve_rekey, bind_map_left]
  rfl

lemma validateVolume_rekey (id : String) :
    (fleet.rekey f).validateVolume id = fleet.validateVolume id := by
  simp only [validateVolume, resolve_rekey, bind_map_left]
  rfl

lemma availableCapacity_rekey (name dataset zone : Option String) :
    (fleet.rekey f).availableCapacity name dataset zone =
      fleet.availableCapacity name dataset zone := by
  simp only [availableCapacity, select_rekey, bind_map_left]
  rfl

lemma prepareShare_rekey (id : String) (mount : Option MountType) (address : Option String) :
    (fleet.rekey f).prepareShare id mount address = fleet.prepareShare id mount address := by
  simp only [prepareShare, resolve_rekey, bind_map_left]
  rfl

/-! ## Snapshots and listings -/

lemma createSnapshot_rekey (id name : String) :
    (fleet.rekey f).createSnapshot id name = fleet.createSnapshot id name := by
  simp only [createSnapshot, resolve_rekey, bind_map_left]
  rfl

lemma deleteSnapshot_rekey (id : String) :
    (fleet.rekey f).deleteSnapshot id = fleet.deleteSnapshot id := by
  unfold deleteSnapshot
  cases snapshotId id with
  | error fault => rfl
  | ok identifier =>
    exact fleet.resolveExisting_bind_rekey f _ rfl fun _ => rfl

lemma findSnapshot_rekey (id : String) :
    (fleet.rekey f).findSnapshot id = fleet.findSnapshot id := by
  unfold findSnapshot
  cases Identifier.decodeSnapshot id with
  | error defect => rfl
  | ok identifier =>
    exact fleet.resolveExisting_bind_rekey f _ rfl fun _ => rfl

lemma snapshotsOfVolume_rekey (id : String) :
    (fleet.rekey f).snapshotsOfVolume id = fleet.snapshotsOfVolume id := by
  unfold snapshotsOfVolume
  cases Identifier.decodeVolume id with
  | error defect => rfl
  | ok identifier =>
    exact fleet.resolveExisting_bind_rekey f _ rfl fun _ => rfl

lemma overDatasets_rekey {list : Backend → String → Attempt α}
    (h : ∀ backend dataset, list (backend.rekey f) dataset = list backend dataset) :
    (fleet.rekey f).overDatasets list = fleet.overDatasets list := by
  unfold overDatasets
  rw [rekey, List.filterMap_map]
  refine congrArg (fleet.backends.filterMap ·) (funext fun backend => ?_)
  simp only [Function.comp_apply, h]
  rfl

end Fleet

/-- The branches of an operation do not depend on a password. -/
theorem Operation.branches_rekey (fleet : Fleet) (operation : Operation) :
    operation.branches (fleet.rekey f) = operation.branches fleet := by
  cases operation with
  | createVolume request => rw [branches, fleet.createVolume_rekey]; rfl
  | deleteVolume id => rw [branches, fleet.deleteVolume_rekey]; rfl
  | expandVolume id capacity => rw [branches, fleet.expandVolume_rekey]; rfl
  | validateVolume id => rw [branches, fleet.validateVolume_rekey]; rfl
  | listVolumes limit token =>
    rw [branches, fleet.overDatasets_rekey f fun _ _ => rfl]
    rfl
  | getCapacity backend dataset zone => rw [branches, fleet.availableCapacity_rekey]; rfl
  | prepareShare id mount address => rw [branches, fleet.prepareShare_rekey]; rfl
  | createSnapshot volumeId name => rw [branches, fleet.createSnapshot_rekey]; rfl
  | deleteSnapshot id => rw [branches, fleet.deleteSnapshot_rekey]; rfl
  | listSnapshots snapshotId volumeId limit token =>
    have hbranches : snapshotBranches (fleet.rekey f) snapshotId volumeId =
        snapshotBranches fleet snapshotId volumeId := by
      unfold snapshotBranches
      split
      · rw [fleet.findSnapshot_rekey]
      · rw [fleet.snapshotsOfVolume_rekey]
      · exact fleet.overDatasets_rekey f fun _ _ => rfl
    rw [branches, hbranches]
    rfl
  | checkBackends =>
    rw [branches, Fleet.rekey, List.map_map]
    rfl

end StorageFleet
