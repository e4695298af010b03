import StorageFleet.Volume.Share
import StorageFleet.Volume.Snapshots

/-!
# Operations

`Operation` is everything a caller can ask of the fleet and `Operation.Answer` what it gets.  An
operation runs as one or more branches side by side, all over the fleet that was current when it
started; `Operation.conclude` makes the answer of what the branches found.  Listings of everything
and the health check have a branch for each backend, all else has one.
-/

namespace StorageFleet

/-- A request to the fleet. -/
inductive Operation where
  | createVolume (request : CreateVolumeRequest)
  | deleteVolume (id : String)
  | expandVolume (id : String) (capacity : Nat)
  | validateVolume (id : String)
  | listVolumes (limit : Nat) (token : Option String)
  | getCapacity (backend dataset zone : Option String)
  | prepareShare (id : String) (mount : Option MountType) (address : Option String)
  | createSnapshot (volumeId name : String)
  | deleteSnapshot (id : String)
  | listSnapshots (snapshotId volumeId : Option String) (limit : Nat) (token : Option String)
  | checkBackends
  deriving Repr, DecidableEq, Inhabited

namespace Operation

/-- The name of an operation in reports. -/
def name : Operation → String
  | .createVolume _ => "create_volume"
  | .deleteVolume _ => "delete_volume"
  | .expandVolume .. => "expand_volume"
  | .validateVolume _ => "validate_volume"
  | .listVolumes .. => "list_volumes"
  | .getCapacity .. => "get_capacity"
  | .prepareShare .. => "prepare_share"
  | .createSnapshot .. => "create_snapshot"
  | .deleteSnapshot _ => "delete_snapshot"
  | .listSnapshots .. => "list_snapshots"
  | .checkBackends => "check_backends"

/-- What a successful operation gives back. -/
abbrev Answer : Operation → Type
  | .createVolume _ | .validateVolume _ => Volume
  | .deleteVolume _ | .deleteSnapshot _ => Unit
  | .expandVolume .. | .getCapacity .. => Nat
  | .listVolumes .. => Page Volume
  | .prepareShare .. => ShareInfo
  | .createSnapshot .. => VolumeSnapshot
  | .listSnapshots .. => Page VolumeSnapshot
  | .checkBackends => List BackendStatus

/-- How an operation ends. -/
abbrev Outcome (operation : Operation) := Except Fault operation.Answer

/-- What one branch of an operation finds. -/
abbrev Part : Operation → Type
  | .createVolume _ | .validateVolume _ => Except Fault Volume
  | .deleteVolume _ | .deleteSnapshot _ => Except Fault Unit
  | .expandVolume .. | .getCapacity .. => Except Fault Nat
  | .listVolumes .. => Except Fault (List Volume)
  | .prepareShare .. => Except Fault ShareInfo
  | .createSnapshot .. => Except Fault VolumeSnapshot
  | .listSnapshots .. => Except Fault (List VolumeSnapshot)
  | .checkBackends => BackendStatus

/-- The branches of a listing of snapshots: by snapshot, by volume, or of everything. -/
def snapshotBranches (fleet : Fleet) (snapshotId volumeId : Option String) :
    List (Attempt (List VolumeSnapshot)) :=
  match Fleet.given snapshotId, Fleet.given volumeId with
  | some id, _ => [fleet.findSnapshot id]
  | none, some id => [fleet.snapshotsOfVolume id]
  | none, none => fleet.overDatasets Fleet.snapshotsBelow

/-- The branches of an operation on a fleet. -/
def branches (fleet : Fleet) : (operation : Operation) → List (Plan operation.Part)
  | .createVolume request => [(fleet.createVolume request).run]
  | .deleteVolume id => [(fleet.deleteVolume id).run]
  | .expandVolume id capacity => [(fleet.expandVolume id capacity).run]
  | .validateVolume id => [(fleet.validateVolume id).run]
  | .listVolumes .. => (fleet.overDatasets Fleet.volumesOf).map ExceptT.run
  | .getCapacity backend dataset zone => [(fleet.availableCapacity backend dataset zone).run]
  | .prepareShare id mount address => [(fleet.prepareShare id mount address).run]
  | .createSnapshot volumeId name => [(fleet.createSnapshot volumeId name).run]
  | .deleteSnapshot id => [(fleet.deleteSnapshot id).run]
  | .listSnapshots snapshotId volumeId _ _ =>
    (snapshotBranches fleet snapshotId volumeId).map ExceptT.run
  | .checkBackends => fleet.backends.map Fleet.checkBackend

/-- The outcome of the only branch; without one there is nothing to report. -/
def only : List (Except Fault α) → Except Fault α
  | outcome :: _ => outcome
  | [] => .error (.internal "nothing was done")

/-- The outcome of an operation, made of what its branches found. -/
def conclude : (operation : Operation) → List operation.Part → operation.Outcome
  | .createVolume _, parts | .validateVolume _, parts => only parts
  | .deleteVolume _, parts | .deleteSnapshot _, parts => only parts
  | .expandVolume .., parts | .getCapacity .., parts => only parts
  | .listVolumes limit token, parts => do
    Page.cut Volume.id limit token (← Fleet.joined parts)
  | .prepareShare .., parts => only parts
  | .createSnapshot .., parts => only parts
  | .listSnapshots _ _ limit token, parts => do
    Page.cut VolumeSnapshot.id limit token (← Fleet.joined parts)
  | .checkBackends, parts => .ok parts

/-- The JSON form of an answer. -/
def answerToJson : (operation : Operation) → operation.Answer → Json
  | .createVolume _, volume | .validateVolume _, volume => volume.toJson
  | .deleteVolume _, _ | .deleteSnapshot _, _ => .null
  | .expandVolume .., bytes | .getCapacity .., bytes => .nat bytes
  | .listVolumes .., page => page.toJson Volume.toJson
  | .prepareShare .., share => share.toJson
  | .createSnapshot .., snapshot => snapshot.toJson
  | .listSnapshots .., page => page.toJson VolumeSnapshot.toJson
  | .checkBackends, list => .array (list.map BackendStatus.toJson)

end Operation
end StorageFleet
