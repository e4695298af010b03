import StorageFleet.Page
import StorageFleet.Volume.Provision

/-!
# Snapshots and listings

Snapshots of volumes are made, removed and listed.  A listing of everything asks each backend that
has a default dataset; the branches run side by side and the first fault, in order of the backends,
fails the listing.
-/

namespace StorageFleet

/-- The snapshot as callers see it. -/
def VolumeSnapshot.of (backend : Backend) (snapshot : Snapshot) : VolumeSnapshot where
  id := (Identifier.ofSnapshot backend.name snapshot.parent snapshot.name).encode
  sourceVolumeId := (Identifier.ofVolume backend.name snapshot.parent).encode
  creationTime := snapshot.created
  readyToUse := true

namespace Fleet

/-- Takes a snapshot of a volume, or finds the one that an earlier attempt has taken. -/
def createSnapshot (fleet : Fleet) (id name : String) : Attempt VolumeSnapshot := do
  if name.isEmpty then throw (.invalidArgument "snapshot name is required")
  let identifier ← Attempt.ofExcept (volumeId id)
  let resolution ← fleet.resolve identifier
  let path := resolution.path ++ "@" ++ name
  let taken ← (Attempt.ask resolution.appliance (.createSnapshot path)).outcome
  Attempt.ofExcept (tolerateExisting taken)
  let snapshot ← Attempt.ask resolution.appliance (.getSnapshot path)
  return VolumeSnapshot.of resolution.backend snapshot

/-- The warning that there is no such snapshot to delete. -/
def warnNoSnapshot (id : String) : Attempt Unit :=
  Attempt.warn ("Snapshot " ++ id ++ " not found, nothing to delete")

/-- What the outcome of destroying a snapshot means. -/
def snapshotDestroyed (id path : String) : Except Fault Unit → Attempt Unit
  | .ok () => return ()
  | .error fault =>
    if fault.isNotFound then warnNoSnapshot id
    else if fault.isBusy || fault.isAlreadyExists then
      throw (.failedPrecondition ("snapshot " ++ path ++ " has dependent filesystems: " ++
        fault.message))
    else throw fault

/-- Deletes a snapshot; a text that names no snapshot, and a snapshot that nobody has, count as
deleted. -/
def deleteSnapshot (fleet : Fleet) (id : String) : Attempt Unit :=
  match snapshotId id with
  | .error fault =>
    Attempt.warn ("Delete of malformed snapshot id treated as done: " ++ fault.message)
  | .ok identifier => do
    match ← fleet.resolveExisting identifier.parent with
    | none => warnNoSnapshot id
    | some resolution =>
      let path := resolution.path ++ "@" ++ identifier.snapshot.getD ""
      let outcome ← (Attempt.ask resolution.appliance (.destroySnapshot path)).outcome
      snapshotDestroyed id path outcome

/-! ## Listings -/

/-- The snapshot of this identifier, if there is one. -/
def findSnapshot (fleet : Fleet) (id : String) : Attempt (List VolumeSnapshot) :=
  match Identifier.decodeSnapshot id with
  | .error _ => return []
  | .ok identifier => do
    match ← fleet.resolveExisting identifier.parent with
    | none => return []
    | some resolution =>
      match ← (Attempt.ask resolution.appliance (.getSnapshot identifier.fullPath)).outcome with
      | .ok snapshot => return [VolumeSnapshot.of resolution.backend snapshot]
      | .error fault => if fault.isNotFound then return [] else throw fault

/-- The snapshots of the volume of this identifier. -/
def snapshotsOfVolume (fleet : Fleet) (id : String) : Attempt (List VolumeSnapshot) :=
  match Identifier.decodeVolume id with
  | .error _ => return []
  | .ok identifier => do
    match ← fleet.resolveExisting identifier with
    | none => return []
    | some resolution =>
      let snapshots ← Attempt.ask resolution.appliance (.getSnapshots resolution.path false)
      return snapshots.map (VolumeSnapshot.of resolution.backend)

/-- The volumes below a dataset of a backend. -/
def volumesOf (backend : Backend) (dataset : String) : Attempt (List Volume) := do
  let appliance ← backend.locate dataset
  let list ← Attempt.ask appliance (.getFilesystems dataset)
  return list.map fun fs => Volume.of backend fs.path fs.quota {}

/-- The snapshots of everything below a dataset of a backend; not those of the dataset itself. -/
def snapshotsBelow (backend : Backend) (dataset : String) : Attempt (List VolumeSnapshot) := do
  let appliance ← backend.locate dataset
  let list ← Attempt.ask appliance (.getSnapshots dataset true)
  let below := list.filter fun snapshot => Text.startsWith (dataset ++ "/") snapshot.parent
  return below.map (VolumeSnapshot.of backend)

/-- One attempt for each backend with a default dataset. -/
def overDatasets (fleet : Fleet) (list : Backend → String → Attempt α) : List (Attempt α) :=
  fleet.backends.filterMap fun backend =>
    backend.config.defaultDataset.map fun dataset => list backend dataset

/-- The parts of a listing in order, or the first fault. -/
def joined : List (Except Fault (List α)) → Except Fault (List α)
  | [] => .ok []
  | .error fault :: _ => .error fault
  | .ok part :: rest => (joined rest).map fun items => part ++ items

/-! ## Health -/

/-- Whether a backend is licensed, with a warning if not. -/
def checkBackend (backend : Backend) : Plan BackendStatus := do
  match ← backend.license.run with
  | .ok (endpoint, license) =>
    if !license.valid then
      .warn ("Backend " ++ backend.name ++ ": license on " ++ endpoint ++ " is not valid")
        (.done ())
    return ⟨backend.name, some endpoint, license.valid, none⟩
  | .error fault =>
    .warn ("Backend " ++ backend.name ++ ": license check failed: " ++ fault.message) (.done ())
    return ⟨backend.name, none, false, some fault.message⟩

end Fleet
end StorageFleet
