import StorageFleet.Api.Message
import StorageFleet.Api.Query
import StorageFleet.Metrics
import StorageFleet.Operation

/-!
# Routes

`route` decides what a message asks for: an operation, the counters, or a reply that is known at
once.  A path that nothing stands under, a method that the path does not know, content that is not
declared as JSON, and content or a query that cannot be read are each refused with a status of
their own.
-/

namespace StorageFleet.Api

/-- What a message asks for. -/
inductive Action where
  | reply (reply : Reply)
  | counters
  | operate (operation : Operation)
  deriving Inhabited

/-- What a path answers to: reading, or JSON content. -/
structure Resource where
  read : Option (Query → Option Action) := none
  write : Option (Reader Operation) := none

/-! ## Contents -/

/-- Content that names a volume or a snapshot. -/
def idContent : Record String :=
  Record.of id |>.required "id" Reader.string

/-- Content that makes a volume. -/
def createVolumeContent : Record Operation :=
  { CreateVolumeRequest.record with
    build := fun found => (CreateVolumeRequest.record.build found).map .createVolume }

/-- Content that expands a volume. -/
def expandContent : Record Operation :=
  Record.of Operation.expandVolume
    |>.required "id" Reader.string
    |>.required "capacityBytes" Reader.count

/-- Content that prepares a share. -/
def shareContent : Record Operation :=
  Record.of Operation.prepareShare
    |>.required "id" Reader.string
    |>.defaulted "mountFsType" MountType.reader.optional none
    |>.defaulted "dataIp" Reader.string.optional none

/-- Content that takes a snapshot. -/
def snapshotContent : Record Operation :=
  Record.of Operation.createSnapshot
    |>.required "sourceVolumeId" Reader.string
    |>.required "name" Reader.string

/-- Content that names what an operation is about. -/
def about (make : String → Operation) : Reader Operation := fun draft =>
  (idContent.read draft).map make

/-! ## Queries -/

/-- A listing of volumes. -/
def volumesQuery (query : Query) : Option Action := do
  let limit ← query.count "maxEntries"
  let token ← query.text "startingToken"
  return .operate (.listVolumes limit token)

/-- A listing of snapshots. -/
def snapshotsQuery (query : Query) : Option Action := do
  let snapshotId ← query.text "snapshotId"
  let volumeId ← query.text "sourceVolumeId"
  let limit ← query.count "maxEntries"
  let token ← query.text "startingToken"
  return .operate (.listSnapshots snapshotId volumeId limit token)

/-- A request for the free capacity. -/
def capacityQuery (query : Query) : Option Action := do
  let backend ← query.text "configName"
  let dataset ← query.text "dataset"
  let zone ← query.text "zone"
  return .operate (.getCapacity backend dataset zone)

/-- A request that has no query of its own. -/
def always (action : Action) : Query → Option Action :=
  fun _ => some action

/-! ## The table -/

/-- What stands under each path. -/
def resources : List (String × Resource) :=
  [("/v1/volumes", { read := some volumesQuery, write := some createVolumeContent.read }),
    ("/v1/volumes/delete", { write := some (about .deleteVolume) }),
    ("/v1/volumes/expand", { write := some expandContent.read }),
    ("/v1/volumes/validate", { write := some (about .validateVolume) }),
    ("/v1/volumes/share", { write := some shareContent.read }),
    ("/v1/snapshots", { read := some snapshotsQuery, write := some snapshotContent.read }),
    ("/v1/snapshots/delete", { write := some (about .deleteSnapshot) }),
    ("/v1/capacity", { read := some capacityQuery }),
    ("/healthz", { read := some (always (.reply (.plain "ok"))) }),
    ("/readyz", { read := some (always (.operate .checkBackends)) }),
    ("/metrics", { read := some (always .counters) })]

/-- Whether the method reads. -/
def isRead (method : String) : Bool :=
  method == "GET" || method == "HEAD"

/-- Reads the JSON content of a message. -/
def readContent (reader : Reader Operation) (message : Message) : Action :=
  if !message.contentType.any isJsonType then .reply (.refusal 415)
  else match reader (Draft.read message.body).1 with
    | .ok operation => .operate operation
    | .error .malformed => .reply (.refusal 400)
    | .error (.mismatched _) => .reply (.refusal 422)

/-- What a message asks of the resource under its path. -/
def Resource.action (resource : Resource) (message : Message) : Action :=
  if isRead message.method then
    match resource.read with
    | some read => (read (.read message.query)).getD (.reply (.refusal 400))
    | none => .reply (.bare 405)
  else if message.method == "POST" then
    match resource.write with
    | some reader => readContent reader message
    | none => .reply (.bare 405)
  else .reply (.bare 405)

/-- What a message asks for. -/
def route (message : Message) : Action :=
  match resources.lookup message.path with
  | some resource => resource.action message
  | none => .reply (.bare 404)

/-! ## Replies to operations -/

/-- The reply to an operation that succeeded. -/
def replyTo : (operation : Operation) → operation.Answer → Reply
  | .createVolume _, volume => .json 201 volume.toJson
  | .createSnapshot .., snapshot => .json 201 snapshot.toJson
  | .deleteVolume _, _ | .deleteSnapshot _, _ => .bare 204
  | .expandVolume .., bytes => .json 200 (.object [("capacityBytes", .nat bytes)])
  | .getCapacity .., bytes => .json 200 (.object [("availableCapacityBytes", .nat bytes)])
  | .validateVolume _, volume => .json 200 volume.toJson
  | .prepareShare .., share => .json 200 share.toJson
  | .listVolumes .., page => .json 200 (page.toJson Volume.toJson)
  | .listSnapshots .., page => .json 200 (page.toJson VolumeSnapshot.toJson)
  | .checkBackends, states =>
    let ready := !states.isEmpty && states.all BackendStatus.licenseValid
    .json (if ready then 200 else 503)
      (.object [("ready", .bool ready), ("backends", .array (states.map BackendStatus.toJson))])

/-- The reply with the counters. -/
def countersReply (counters : Counters) : Reply :=
  ⟨200, some "text/plain; version=0.0.4", .text counters.exposition⟩

end StorageFleet.Api
