import StorageFleet.Client.Job

/-!
# Calls over a network

`Client.answer` carries out each call to an appliance as the requests that the appliance
understands.  Lists of filesystems come in pages of a hundred; all other calls are one request,
except that destroying a filesystem may first promote a clone that depends on its snapshots.
-/

namespace StorageFleet.Client

/-! ## Requests with a typed answer -/

/-- Asks for a resource. -/
def fetch (client : Client) (reader : Reader α) (path : String) : Exchange α := do
  let response ← client.submit { method := "GET", path }
  Exchange.ofExcept (response.decode reader client.endpoint)

/-- Asks for a list of resources. -/
def fetchList (client : Client) (reader : Reader α) (path : String) : Exchange (List α) :=
  client.fetch (Reader.dataList reader) path

/-- Asks for the first of a list of resources. -/
def fetchFirst (client : Client) (reader : Reader α) (kind path uri : String) : Exchange α := do
  match ← client.fetchList reader uri with
  | first :: _ => return first
  | [] => throw (.ofCode ApplianceError.codeMissing
      (client.endpoint ++ ": " ++ kind ++ " '" ++ path ++ "' not found"))

/-- Sends a request whose response does not matter. -/
def order (client : Client) (method path : String) (body : Option Json) : Exchange Unit := do
  let _ ← client.submit { method, path, body }
  return ()

/-- Deletes a resource. -/
def delete (client : Client) (path : String) : Exchange Unit :=
  client.order "DELETE" path none

/-! ## Pools, filesystems and shares -/

/-- The fields that are asked for of a filesystem. -/
def filesystemFields : String :=
  "path,mountPoint,sharedOverNfs,sharedOverSmb,bytesAvailable,bytesUsed,referencedQuotaSize"

/-- The fields that are asked for of a snapshot. -/
def snapshotFields : String :=
  "name,path,parent,clones,creationTxg,creationTime"

/-- How many filesystems come in one page. -/
def pageSize : Nat := 100

/-- Where a filesystem is found. -/
def filesystemPath (path : String) : String :=
  "storage/filesystems/" ++ segment path

/-- A truth value in a query. -/
def flag (value : Bool) : String :=
  if value then "true" else "false"

/-- The address of one page of the filesystems below `parent`. -/
def pageUri (parent : String) (offset : Nat) : String :=
  queryUri "storage/filesystems"
    [("parent", parent), ("fields", filesystemFields), ("limit", toString pageSize),
      ("offset", toString offset)]

/-- The filesystems below `parent` from `offset` on, page after page up to the first short one;
at most `pages` pages. -/
def childrenFrom (client : Client) (parent : String) : Nat → Nat → Exchange (List Filesystem)
  | 0, _ => return []
  | pages + 1, offset => do
    let page ← client.fetchList Filesystem.record.read (pageUri parent offset)
    let kept := page.filter fun fs => fs.path ≠ parent
    if page.length < pageSize then return kept
    let rest ← client.childrenFrom parent pages (offset + pageSize)
    return kept ++ rest

/-- The filesystems below `parent`; their number has 64 bits. -/
def children (client : Client) (parent : String) : Exchange (List Filesystem) :=
  client.childrenFrom parent Number.max64 0

/-- The filesystem at `path`. -/
def filesystem (client : Client) (path : String) : Exchange Filesystem :=
  client.fetchFirst Filesystem.record.read "filesystem" path
    (queryUri "storage/filesystems" [("path", path), ("fields", filesystemFields)])

/-- Makes a filesystem independent of the snapshot it was cloned from. -/
def promoteFilesystem (client : Client) (path : String) : Exchange Unit :=
  client.order "POST" (filesystemPath path ++ "/promote") none

/-! ## Snapshots -/

/-- Where a snapshot is found. -/
def snapshotPath (path : String) : String :=
  "storage/snapshots/" ++ segment path

/-- The snapshots of `parent`, and if `recursive` of what lies below. -/
def snapshotsOf (client : Client) (parent : String) (recursive : Bool) :
    Exchange (List Snapshot) :=
  client.fetchList Snapshot.record.read (queryUri "storage/snapshots"
    [("parent", parent), ("fields", snapshotFields), ("recursive", flag recursive)])

/-- The later of two snapshots; of two from one transaction the second. -/
def newer (a b : Snapshot) : Snapshot :=
  if a.transaction ≤ b.transaction then b else a

/-- The newest snapshot that has clones. -/
def newestCloned (snapshots : List Snapshot) : Option Snapshot :=
  match snapshots.filter fun snapshot => !snapshot.clones.isEmpty with
  | [] => none
  | first :: rest => some (rest.foldl newer first)

/-- Promotes the first clone of the newest snapshot of `path` that has clones. -/
def promoteNewestClone (client : Client) (path : String) : Exchange Unit := do
  let snapshots ← client.snapshotsOf path false
  match (newestCloned snapshots).bind fun snapshot => snapshot.clones.head? with
  | some clone => client.promoteFilesystem clone
  | none => return ()

/-- Destroys a filesystem. -/
def destroyFilesystem (client : Client) (path : String) (snapshots promote : Bool) :
    Exchange Unit := do
  if promote then client.promoteNewestClone path
  client.delete (queryUri (filesystemPath path)
    [("force", "true"), ("snapshots", flag snapshots)])

/-! ## All calls -/

/-- The name of an SMB share; one without a name has the filesystem's path with other marks. -/
def smbShareName (client : Client) (path : String) : Exchange String := do
  let name ← client.fetch Reader.shareName ("nas/smb/" ++ segment path)
  return if name.isEmpty then Text.replaceChar '/' '_' path else name

/-- Carries out a call. -/
def answer (client : Client) : (call : Call) → Exchange call.Answer
  | .logIn => client.logIn
  | .getPools => client.fetchList Pool.record.read
      (queryUri "storage/pools" [("fields", "poolName,health,status")])
  | .getFilesystem path => client.filesystem path
  | .getFilesystems parent => client.children parent
  | .createFilesystem path quota reservation => client.order "POST" "storage/filesystems"
      (some (.object (("path", .string path) :: countField "referencedQuotaSize" quota ++
        countField "referencedReservationSize" reservation)))
  | .updateFilesystem path quota => client.order "PUT" (filesystemPath path)
      (some (.object (countField "referencedQuotaSize" quota)))
  | .destroyFilesystem path snapshots promote => client.destroyFilesystem path snapshots promote
  | .promoteFilesystem path => client.promoteFilesystem path
  | .getAvailable path => do return (← client.filesystem path).bytesAvailable
  | .setAccess path rule => client.order "POST" (filesystemPath path ++ "/acl") (some rule.toJson)
  | .createNfsShare path => client.order "POST" "nas/nfs" (some (nfsShareBody path))
  | .deleteNfsShare path => client.delete ("nas/nfs/" ++ segment path)
  | .createSmbShare path name => client.order "POST" "nas/smb" (some (smbShareBody path name))
  | .getSmbShareName path => client.smbShareName path
  | .deleteSmbShare path => client.delete ("nas/smb/" ++ segment path)
  | .createSnapshot path => client.order "POST" "storage/snapshots"
      (some (.object [("path", .string path)]))
  | .getSnapshot path => client.fetchFirst Snapshot.record.read "snapshot" path
      (queryUri "storage/snapshots" [("path", path), ("fields", snapshotFields)])
  | .getSnapshots parent recursive => client.snapshotsOf parent recursive
  | .destroySnapshot path => client.delete (snapshotPath path)
  | .cloneSnapshot path target quota => client.order "POST" (snapshotPath path ++ "/clone")
      (some (.object (("targetPath", .string target) :: countField "referencedQuotaSize" quota)))
  | .getLicense => client.fetch License.record.read
      (queryUri "settings/license" [("fields", "valid,expires")])
  | .getClusters => client.fetchList Cluster.record.read "rsf/clusters"

end StorageFleet.Client
