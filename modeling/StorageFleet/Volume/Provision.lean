import StorageFleet.Fleet.Basic
import StorageFleet.Volume.Basic

/-!
# Making and removing volumes

A volume is a filesystem on the appliance that serves its dataset.  Every operation here may be
tried again after it was interrupted: a filesystem or a snapshot that exists already is used if it
fits, and one that is gone already counts as removed.
-/

namespace StorageFleet

/-- What the names of the snapshots that volumes are cloned from begin with. -/
def cloneSnapshotStart : String := "k8s-clone-snapshot-"

/-- What a worker needs to mount a volume of the backend. -/
def mountContext (backend : Backend) (parameters : VolumeParameters) : Catalog String :=
  let config := backend.config
  let entry (key : String) (value : Option String) : List (String × String) :=
    match value with
    | some text => [(key, text)]
    | none => []
  Catalog.ofList (
    entry "dataIp" (parameters.dataIp <|> config.defaultDataIp) ++
    entry "mountFsType" (some (parameters.mountFsType.getD config.defaultMountFsType).name) ++
    entry "mountOptions" (parameters.mountOptions <|> config.defaultMountOptions) ++
    entry "mountPointPermissions" config.mountPointPermissions ++
    entry "configName" (some backend.name))

/-- The volume that the filesystem at `path` holds. -/
def Volume.of (backend : Backend) (path : String) (capacity : Nat)
    (parameters : VolumeParameters) : Volume where
  id := (Identifier.ofVolume backend.name path).encode
  capacityBytes := capacity
  context := mountContext backend parameters
  zone := backend.zone

namespace Fleet

/-- An identifier, or its defect as a fault. -/
def readId (decode : String → Except Identifier.Defect Identifier) (id : String) :
    Except Fault Identifier :=
  match decode id with
  | .ok identifier => .ok identifier
  | .error defect => .error (.ofDefect id defect)

/-- The identifier of a volume. -/
def volumeId (id : String) : Except Fault Identifier :=
  readId Identifier.decodeVolume id

/-- The identifier of a snapshot. -/
def snapshotId (id : String) : Except Fault Identifier :=
  readId Identifier.decodeSnapshot id

/-- An outcome that does not mind what exists already. -/
def tolerateExisting : Except Fault Unit → Except Fault Unit
  | .error fault => if fault.isAlreadyExists then .ok () else .error fault
  | .ok () => .ok ()

/-! ## Creation -/

/-- Where a new filesystem was asked for, and what the appliance said. -/
structure Placement where
  resolution : Resolution
  path : String
  outcome : Except Fault Unit

/-- Makes an empty filesystem. -/
def placeEmpty (fleet : Fleet) (request : CreateVolumeRequest) : Attempt Placement := do
  let parameters := request.parameters
  let resolution ← fleet.select parameters.configName request.zone parameters.dataset
  let path := resolution.path ++ "/" ++ request.name
  let outcome ← (Attempt.ask resolution.appliance
    (.createFilesystem path request.capacity none)).outcome
  return ⟨resolution, path, outcome⟩

/-- Where a clone goes: below the dataset asked for, or the backend's default. -/
def cloneTarget (backend : Backend) (request : CreateVolumeRequest) : Except Fault String := do
  return (← backend.datasetOrDefault request.parameters.dataset) ++ "/" ++ request.name

/-- Clones a snapshot of the resolved filesystem. -/
def placeClone (resolution : Resolution) (snapshot path : String)
    (request : CreateVolumeRequest) : Attempt Placement := do
  let outcome ← (Attempt.ask resolution.appliance
    (.cloneSnapshot snapshot path request.capacity)).outcome
  return ⟨resolution, path, outcome⟩

/-- Makes a filesystem from a snapshot. -/
def placeFromSnapshot (fleet : Fleet) (request : CreateVolumeRequest) (id : String) :
    Attempt Placement := do
  let source ← Attempt.ofExcept (snapshotId id)
  let resolution ← fleet.select source.backend request.zone (some source.path)
  let path ← Attempt.ofExcept (cloneTarget resolution.backend request)
  placeClone resolution source.fullPath path request

/-- Makes a filesystem from another, through a snapshot named for the new volume. -/
def placeFromVolume (fleet : Fleet) (request : CreateVolumeRequest) (id : String) :
    Attempt Placement := do
  let source ← Attempt.ofExcept (volumeId id)
  let resolution ← fleet.select source.backend request.zone (some source.path)
  let path ← Attempt.ofExcept (cloneTarget resolution.backend request)
  let snapshot := resolution.path ++ "@" ++ cloneSnapshotStart ++ request.name
  let taken ← (Attempt.ask resolution.appliance (.createSnapshot snapshot)).outcome
  Attempt.ofExcept (tolerateExisting taken)
  placeClone resolution snapshot path request

/-- Makes the filesystem of a new volume. -/
def place (fleet : Fleet) (request : CreateVolumeRequest) : Attempt Placement :=
  match request.source with
  | none => fleet.placeEmpty request
  | some (.snapshot id) => fleet.placeFromSnapshot request id
  | some (.volume id) => fleet.placeFromVolume request id

/-- The size of a volume that exists already, which must be the size asked for. -/
def reuse (placement : Placement) (request : CreateVolumeRequest) : Attempt Nat := do
  let existing ← Attempt.ask placement.resolution.appliance (.getFilesystem placement.path)
  match request.capacity.filter fun size => existing.quota ≠ size with
  | some requested => throw (.sizeMismatch request.name existing.quota requested)
  | none => return existing.quota

/-- The size of the volume after its filesystem was asked for. -/
def placedSize (placement : Placement) (request : CreateVolumeRequest) : Attempt Nat :=
  match placement.outcome with
  | .ok () => return request.capacity.getD 0
  | .error fault =>
    if fault.isAlreadyExists then reuse placement request else throw fault

/-- Creates a volume, or finds the one that an earlier attempt has made. -/
def createVolume (fleet : Fleet) (request : CreateVolumeRequest) : Attempt Volume := do
  if request.name.isEmpty then throw (.invalidArgument "volume name is required")
  let placement ← fleet.place request
  let size ← placedSize placement request
  return Volume.of placement.resolution.backend placement.path size request.parameters

/-! ## Removal and growth -/

/-- What the outcome of destroying a volume's filesystem means. -/
def volumeDestroyed (id : String) : Except Fault Unit → Attempt Unit
  | .ok () => return ()
  | .error fault =>
    if fault.isNotFound then
      Attempt.warn ("Volume " ++ id ++ " disappeared before delete: " ++ fault.message)
    else if fault.isBusy then
      throw (.failedPrecondition ("volume " ++ id ++
        " has dependent filesystems or snapshots: " ++ fault.message))
    else throw fault

/-- Deletes a volume with its snapshots; a text that names no volume, and a volume that nobody
has, count as deleted. -/
def deleteVolume (fleet : Fleet) (id : String) : Attempt Unit :=
  match volumeId id with
  | .error fault =>
    Attempt.warn ("Delete of malformed volume id treated as done: " ++ fault.message)
  | .ok identifier => do
    match ← fleet.resolveExisting identifier with
    | none => Attempt.warn ("Volume " ++ id ++ " not found, nothing to delete")
    | some resolution =>
      let outcome ← (Attempt.ask resolution.appliance
        (.destroyFilesystem resolution.path true true)).outcome
      volumeDestroyed id outcome

/-- Gives a volume a new size and returns it. -/
def expandVolume (fleet : Fleet) (id : String) (capacity : Nat) : Attempt Nat := do
  if capacity = 0 then
    throw (.invalidArgument "expand requires a capacity greater than 0")
  let identifier ← Attempt.ofExcept (volumeId id)
  let resolution ← fleet.resolve identifier
  Attempt.ask resolution.appliance (.updateFilesystem resolution.path (some capacity))
  return capacity

/-- Looks up a volume. -/
def validateVolume (fleet : Fleet) (id : String) : Attempt Volume := do
  let identifier ← Attempt.ofExcept (volumeId id)
  let resolution ← fleet.resolve identifier
  let fs ← Attempt.ask resolution.appliance (.getFilesystem resolution.path)
  return Volume.of resolution.backend resolution.path fs.quota {}

/-- The bytes that new volumes can take. -/
def availableCapacity (fleet : Fleet) (name dataset zone : Option String) : Attempt Nat := do
  let resolution ← fleet.select name zone dataset
  Attempt.ask resolution.appliance (.getAvailable resolution.path)

end Fleet
end StorageFleet
