import StorageFleet.Appliance.Resource
import StorageFleet.Config.Backend

/-!
# Volumes, snapshots and shares

What callers ask for and get: the request for a new volume, the volume, its snapshots, the share
that a worker mounts, and the state of a backend.  Each type has a `record`, which reads its JSON
form, and a `toJson`.
-/

namespace StorageFleet

/-- A field with text that is only written if there is one. -/
def textField (key : String) (value : Option String) : List (String × Json) :=
  match value with
  | some text => [(key, .string text)]
  | none => []

/-- A table of texts. -/
def Reader.texts : Reader (Catalog String) := fun draft =>
  (Reader.table Reader.string draft).map Catalog.ofList

/-- What a caller may choose about a volume. -/
structure VolumeParameters where
  /-- The backend that the volume is made on. -/
  configName : Option String := none
  /-- The parent of the volume. -/
  dataset : Option String := none
  mountFsType : Option MountType := none
  dataIp : Option String := none
  mountOptions : Option String := none
  deriving Repr, DecidableEq, Inhabited

namespace VolumeParameters

/-- How the parameters are read. -/
def record : Record VolumeParameters :=
  Record.of VolumeParameters.mk
    |>.defaulted "configName" Reader.string.optional none
    |>.defaulted "dataset" Reader.string.optional none
    |>.defaulted "mountFsType" MountType.reader.optional none
    |>.defaulted "dataIp" Reader.string.optional none
    |>.defaulted "mountOptions" Reader.string.optional none

/-- The JSON form, with all parameters. -/
def toJson (parameters : VolumeParameters) : Json :=
  .object [("configName", .ofOption parameters.configName),
    ("dataset", .ofOption parameters.dataset),
    ("mountFsType", .ofOption (parameters.mountFsType.map MountType.name)),
    ("dataIp", .ofOption parameters.dataIp),
    ("mountOptions", .ofOption parameters.mountOptions)]

/-- The parameters in a table of texts, in which empty texts count as absent. -/
def ofTexts (texts : Catalog String) : Except Fault VolumeParameters := do
  let text (key : String) : Option String := (texts.find? key).filter fun text => !text.isEmpty
  let mountFsType ← match text "mountFsType" with
    | some name => (MountType.parse name).map some
    | none => pure none
  return {
    configName := text "configName"
    dataset := text "dataset"
    mountFsType
    dataIp := text "dataIp"
    mountOptions := text "mountOptions" }

end VolumeParameters

/-- What a new volume starts from. -/
inductive VolumeSource where
  /-- The snapshot of this identifier. -/
  | snapshot (id : String)
  /-- The volume of this identifier. -/
  | volume (id : String)
  deriving Repr, DecidableEq, Inhabited

namespace VolumeSource

/-- Reads a source. -/
def reader : Reader VolumeSource :=
  Reader.tagged fun
    | "snapshot" => some fun draft => (Reader.string draft).map VolumeSource.snapshot
    | "volume" => some fun draft => (Reader.string draft).map VolumeSource.volume
    | _ => none

/-- The JSON form. -/
def toJson : VolumeSource → Json
  | .snapshot id => .object [("snapshot", .string id)]
  | .volume id => .object [("volume", .string id)]

end VolumeSource

/-- The request for a new volume. -/
structure CreateVolumeRequest where
  name : String
  /-- The size; none or zero leaves the volume without a limit. -/
  capacityBytes : Option Nat := none
  parameters : VolumeParameters := {}
  source : Option VolumeSource := none
  /-- The zone that the volume must be reached from. -/
  zone : Option String := none
  deriving Repr, DecidableEq, Inhabited

namespace CreateVolumeRequest

/-- How a request is read. -/
def record : Record CreateVolumeRequest :=
  Record.of CreateVolumeRequest.mk
    |>.required "name" Reader.string
    |>.defaulted "capacityBytes" Reader.count.optional none
    |>.defaulted "parameters" VolumeParameters.record.read {}
    |>.defaulted "source" VolumeSource.reader.optional none
    |>.defaulted "zone" Reader.string.optional none

/-- The JSON form, with all fields. -/
def toJson (request : CreateVolumeRequest) : Json :=
  .object [("name", .string request.name),
    ("capacityBytes", (request.capacityBytes.map Json.nat).getD .null),
    ("parameters", request.parameters.toJson),
    ("source", (request.source.map VolumeSource.toJson).getD .null),
    ("zone", .ofOption request.zone)]

/-- The size that was asked for, if any. -/
def capacity (request : CreateVolumeRequest) : Option Nat :=
  request.capacityBytes.filter fun size => 0 < size

end CreateVolumeRequest

/-- A volume. -/
structure Volume where
  id : String
  capacityBytes : Nat
  /-- What a worker needs to mount the volume. -/
  context : Catalog String
  zone : Option String
  deriving DecidableEq, Inhabited

namespace Volume

/-- How a volume is read. -/
def record : Record Volume :=
  Record.of Volume.mk
    |>.required "id" Reader.string
    |>.required "capacityBytes" Reader.count
    |>.required "context" Reader.texts
    |>.nullable "zone" Reader.string

/-- The JSON form; the zone is only written if there is one. -/
def toJson (volume : Volume) : Json :=
  .object ([("id", Json.string volume.id), ("capacityBytes", .nat volume.capacityBytes),
    ("context", .object (volume.context.entries.map fun entry => (entry.1, .string entry.2)))] ++
    textField "zone" volume.zone)

end Volume

/-- A snapshot of a volume. -/
structure VolumeSnapshot where
  id : String
  sourceVolumeId : String
  creationTime : Instant
  readyToUse : Bool
  deriving Repr, DecidableEq, Inhabited

namespace VolumeSnapshot

/-- How a snapshot is read. -/
def record : Record VolumeSnapshot :=
  Record.of VolumeSnapshot.mk
    |>.required "id" Reader.string
    |>.required "sourceVolumeId" Reader.string
    |>.required "creationTime" Reader.instant
    |>.required "readyToUse" Reader.bool

/-- The JSON form. -/
def toJson (snapshot : VolumeSnapshot) : Json :=
  .object [("id", .string snapshot.id), ("sourceVolumeId", .string snapshot.sourceVolumeId),
    ("creationTime", .string snapshot.creationTime.render),
    ("readyToUse", .bool snapshot.readyToUse)]

end VolumeSnapshot

/-- The share that a worker mounts. -/
structure ShareInfo where
  volumeId : String
  mountFsType : MountType
  /-- `address:/mount/point` over NFS, `//address/share` over CIFS. -/
  source : String
  mountOptions : Option String
  deriving Repr, DecidableEq, Inhabited

namespace ShareInfo

/-- How a share is read. -/
def record : Record ShareInfo :=
  Record.of ShareInfo.mk
    |>.required "volumeId" Reader.string
    |>.required "mountFsType" MountType.reader
    |>.required "source" Reader.string
    |>.nullable "mountOptions" Reader.string

/-- The JSON form; the options are only written if there are any. -/
def toJson (share : ShareInfo) : Json :=
  .object ([("volumeId", Json.string share.volumeId),
    ("mountFsType", .string share.mountFsType.name), ("source", .string share.source)] ++
    textField "mountOptions" share.mountOptions)

end ShareInfo

/-- Whether a backend is licensed, as far as one can tell. -/
structure BackendStatus where
  name : String
  /-- The appliance that answered. -/
  endpoint : Option String
  licenseValid : Bool
  /-- Why none answered. -/
  error : Option String
  deriving Repr, DecidableEq, Inhabited

namespace BackendStatus

/-- How a state is read. -/
def record : Record BackendStatus :=
  Record.of BackendStatus.mk
    |>.required "name" Reader.string
    |>.nullable "endpoint" Reader.string
    |>.required "licenseValid" Reader.bool
    |>.nullable "error" Reader.string

/-- The JSON form; endpoint and error are only written if there are any. -/
def toJson (status : BackendStatus) : Json :=
  .object ([("name", Json.string status.name), ("licenseValid", .bool status.licenseValid)] ++
    textField "endpoint" status.endpoint ++ textField "error" status.error)

end BackendStatus
end StorageFleet
