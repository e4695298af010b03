import StorageFleet.Json.Decode
import StorageFleet.Time.Stamp

/-!
# What an appliance keeps

Pools, filesystems, snapshots, the license and the clusters of an appliance, with their JSON forms.
Each resource has a `record`, which reads it, and a `toJson`, which writes it with all fields.
-/

namespace StorageFleet

/-- A storage pool. -/
structure Pool where
  poolName : String := ""
  health : String := ""
  status : String := ""
  deriving Repr, DecidableEq, Inhabited

namespace Pool

/-- How a pool is read. -/
def record : Record Pool :=
  Record.of Pool.mk
    |>.defaulted "poolName" Reader.string ""
    |>.defaulted "health" Reader.string ""
    |>.defaulted "status" Reader.string ""

/-- The JSON form. -/
def toJson (pool : Pool) : Json :=
  .object [("poolName", .string pool.poolName), ("health", .string pool.health),
    ("status", .string pool.status)]

end Pool

/-- A filesystem; its quota on referenced data is the size of the volume it holds. -/
structure Filesystem where
  path : String := ""
  mountPoint : String := ""
  sharedOverNfs : Bool := false
  sharedOverSmb : Bool := false
  bytesAvailable : Nat := 0
  bytesUsed : Nat := 0
  quota : Nat := 0
  deriving Repr, DecidableEq, Inhabited

namespace Filesystem

/-- How a filesystem is read. -/
def record : Record Filesystem :=
  Record.of Filesystem.mk
    |>.defaulted "path" Reader.string ""
    |>.defaulted "mountPoint" Reader.string ""
    |>.defaulted "sharedOverNfs" Reader.bool false
    |>.defaulted "sharedOverSmb" Reader.bool false
    |>.defaulted "bytesAvailable" Reader.count 0
    |>.defaulted "bytesUsed" Reader.count 0
    |>.defaulted "referencedQuotaSize" Reader.count 0

/-- The JSON form. -/
def toJson (fs : Filesystem) : Json :=
  .object [("path", .string fs.path), ("mountPoint", .string fs.mountPoint),
    ("sharedOverNfs", .bool fs.sharedOverNfs), ("sharedOverSmb", .bool fs.sharedOverSmb),
    ("bytesAvailable", .nat fs.bytesAvailable), ("bytesUsed", .nat fs.bytesUsed),
    ("referencedQuotaSize", .nat fs.quota)]

end Filesystem

/-- A snapshot of a filesystem. -/
structure Snapshot where
  /-- The full path, `filesystem@name`. -/
  path : String
  name : String
  /-- The path of the filesystem. -/
  parent : String
  /-- The filesystems cloned from the snapshot, oldest first. -/
  clones : List String
  /-- The number of the transaction the snapshot was taken in. -/
  transaction : Nat
  created : Instant
  deriving Repr, DecidableEq, Inhabited

/-- A number of 64 bits, given as a number or as decimal text. -/
def Reader.countOrText : Reader Nat
  | .string text =>
    match Number.readUnsigned 10 Number.max64 text.toList with
    | some n => .ok n
    | none => .error (.mismatched "an unsigned number")
  | draft => Reader.count draft

/-- A time stamp. -/
def Reader.instant : Reader Instant := fun draft => do
  let text ← Reader.string draft
  match Instant.read text with
  | some instant => return instant
  | none => throw (.mismatched "a time stamp")

namespace Snapshot

/-- How a snapshot is read. -/
def record : Record Snapshot :=
  Record.of Snapshot.mk
    |>.required "path" Reader.string
    |>.required "name" Reader.string
    |>.required "parent" Reader.string
    |>.defaulted "clones" (Reader.list Reader.string) []
    |>.defaulted "creationTxg" Reader.countOrText 0
    |>.required "creationTime" Reader.instant

/-- The JSON form. -/
def toJson (snapshot : Snapshot) : Json :=
  .object [("path", .string snapshot.path), ("name", .string snapshot.name),
    ("parent", .string snapshot.parent), ("clones", .ofStrings snapshot.clones),
    ("creationTxg", .nat snapshot.transaction),
    ("creationTime", .string snapshot.created.render)]

end Snapshot

/-- The license of an appliance. -/
structure License where
  valid : Bool := false
  expires : Option String := none
  deriving Repr, DecidableEq, Inhabited

namespace License

/-- How a license is read. -/
def record : Record License :=
  Record.of License.mk
    |>.defaulted "valid" Reader.bool false
    |>.defaulted "expires" Reader.string.optional none

/-- The JSON form. -/
def toJson (license : License) : Json :=
  .object [("valid", .bool license.valid), ("expires", .ofOption license.expires)]

end License

/-- A member of a cluster. -/
structure ClusterNode where
  name : String := ""
  machineId : String := ""
  deriving Repr, DecidableEq, Inhabited

/-- A cluster of appliances that take over from each other. -/
structure Cluster where
  clusterName : String := ""
  nodes : List ClusterNode := []
  deriving Repr, DecidableEq, Inhabited

namespace ClusterNode

/-- How a member is read. -/
def record : Record ClusterNode :=
  Record.of ClusterNode.mk
    |>.defaulted "name" Reader.string ""
    |>.defaulted "machineId" Reader.string ""

/-- The JSON form. -/
def toJson (node : ClusterNode) : Json :=
  .object [("name", .string node.name), ("machineId", .string node.machineId)]

end ClusterNode

namespace Cluster

/-- How a cluster is read. -/
def record : Record Cluster :=
  Record.of Cluster.mk
    |>.defaulted "clusterName" Reader.string ""
    |>.defaulted "nodes" (Reader.list ClusterNode.record.read) []

/-- The JSON form. -/
def toJson (cluster : Cluster) : Json :=
  .object [("clusterName", .string cluster.clusterName),
    ("nodes", .array (cluster.nodes.map ClusterNode.toJson))]

end Cluster

/-- A rule of a filesystem's access control list. -/
structure AccessRule where
  kind : String
  principal : String
  flags : List String
  permissions : List String
  deriving Repr, DecidableEq, Inhabited

namespace AccessRule

/-- Everyone has full access, which files and directories inherit. -/
def everyone : AccessRule where
  kind := "allow"
  principal := "everyone@"
  flags := ["file_inherit", "dir_inherit"]
  permissions := ["full_set"]

/-- The JSON form. -/
def toJson (rule : AccessRule) : Json :=
  .object [("type", .string rule.kind), ("principal", .string rule.principal),
    ("flags", .ofStrings rule.flags), ("permissions", .ofStrings rule.permissions)]

end AccessRule
end StorageFleet
