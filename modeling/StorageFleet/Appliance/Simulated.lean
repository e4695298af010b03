import StorageFleet.Appliance.Call

/-!
# A simulated appliance

An appliance kept in memory: its filesystems, snapshots, shares and access rules are tables by
path, and every call takes effect at once.  `Simulated.step` answers one call and gives the
appliance afterwards.  An appliance that is offline refuses every call and stays as it is.

Snapshots are numbered by the transaction that took them; the `n`-th is taken `n` seconds after a
fixed moment.
-/

namespace StorageFleet

/-- An appliance in memory. -/
structure Simulated where
  endpoint : String
  filesystems : Catalog Filesystem := .empty
  snapshots : Catalog Snapshot := .empty
  nfsShares : Catalog Unit := .empty
  /-- The share name of each filesystem that is shared over SMB. -/
  smbShares : Catalog String := .empty
  /-- The filesystems whose access rules were set. -/
  accessRules : Catalog Unit := .empty
  clusters : List Cluster := []
  licensed : Bool := true
  offline : Bool := false
  /-- The number of the last transaction that took a snapshot. -/
  transaction : Nat := 0
  deriving Inhabited

namespace Simulated

/-- The moment before the first snapshot. -/
def epoch : Instant where
  year := 2023
  month := 11
  day := 14
  hour := 22
  minute := 13
  second := 20
  nano := 0

/-! ## What is refused -/

/-- The fault of a missing filesystem. -/
def missingFilesystem (path : String) : Fault :=
  .ofCode ApplianceError.codeMissing ("filesystem '" ++ path ++ "' not found")

/-- The fault of a filesystem that is there already. -/
def takenFilesystem (path : String) : Fault :=
  .ofCode ApplianceError.codeExists ("filesystem '" ++ path ++ "' exists")

/-- The fault of a missing snapshot. -/
def missingSnapshot (path : String) : Fault :=
  .ofCode ApplianceError.codeMissing ("snapshot '" ++ path ++ "' not found")

/-- The fault of a snapshot that is there already. -/
def takenSnapshot (path : String) : Fault :=
  .ofCode ApplianceError.codeExists ("snapshot '" ++ path ++ "' exists")

/-- The fault of a path that names no snapshot. -/
def badSnapshotPath (path : String) : Fault :=
  .ofCode ApplianceError.codeInvalid ("bad snapshot path '" ++ path ++ "'")

/-- The fault of a filesystem whose snapshots may not go with it. -/
def hasSnapshots (path : String) : Fault :=
  .ofCode ApplianceError.codeBusy ("filesystem '" ++ path ++ "' has snapshots")

/-- The fault of a snapshot that others were cloned from. -/
def hasClones (path : String) : Fault :=
  .ofCode ApplianceError.codeBusy ("snapshot '" ++ path ++ "' has clones")

/-- The fault of a missing share. -/
def missingShare (path : String) : Fault :=
  .ofCode ApplianceError.codeMissing ("share '" ++ path ++ "' not found")

/-! ## Looking -/

/-- Whether `path` lies directly below `parent`. -/
def isChild (parent path : String) : Bool :=
  match Text.dropStart? (parent ++ "/").toList path.toList with
  | some rest => !rest.contains '/'
  | none => false

/-- Whether a snapshot belongs to the filesystem `parent`, or, if `recursive`, to one below it. -/
def isSnapshotOf (parent : String) (recursive : Bool) (snapshot : Snapshot) : Bool :=
  snapshot.parent == parent ||
    (recursive && Text.startsWith (parent ++ "/") snapshot.parent)

/-- Whether the path names a snapshot of the filesystem `parent`. -/
def isSnapshotPath (parent path : String) : Bool :=
  Text.startsWith (parent ++ "@") path

/-- A list without items that equal the one before. -/
def withoutRepeats : List String → List String
  | a :: b :: rest =>
    if a = b then withoutRepeats (b :: rest) else a :: withoutRepeats (b :: rest)
  | short => short

/-- The pool that a path begins with. -/
def poolOf (path : String) : String :=
  String.ofList ((Text.splitAll '/' path.toList).headD [])

/-- The pools of all filesystems. -/
def pools (a : Simulated) : List Pool :=
  (withoutRepeats (a.filesystems.keys.map poolOf)).map fun name => ⟨name, "ONLINE", "ONLINE"⟩

/-- The filesystem at `path`. -/
def filesystem (a : Simulated) (path : String) : Except Fault Filesystem :=
  match a.filesystems.find? path with
  | some fs => .ok fs
  | none => .error (missingFilesystem path)

/-- The filesystems directly below `parent`. -/
def children (a : Simulated) (parent : String) : List Filesystem :=
  a.filesystems.values.filter fun fs => isChild parent fs.path

/-- The snapshot at `path`. -/
def snapshot (a : Simulated) (path : String) : Except Fault Snapshot :=
  match a.snapshots.find? path with
  | some snapshot => .ok snapshot
  | none => .error (missingSnapshot path)

/-- The snapshots of `parent`, and if `recursive` of what lies below. -/
def snapshotsOf (a : Simulated) (parent : String) (recursive : Bool) : List Snapshot :=
  a.snapshots.values.filter (isSnapshotOf parent recursive)

/-- The share name of a filesystem. -/
def smbShareName (a : Simulated) (path : String) : Except Fault String :=
  match a.smbShares.find? path with
  | some name => .ok name
  | none => .error (missingShare path)

/-- The share name that a filesystem gets when none is asked for. -/
def defaultShareName (path : String) : String :=
  Text.replaceChar '/' '_' path

/-! ## Changing -/

/-- A filesystem with nothing in it. -/
def freshFilesystem (path : String) (quota : Nat) : Filesystem :=
  { path, mountPoint := "/" ++ path, bytesAvailable := quota, quota }

/-- Puts an empty filesystem at `path`. -/
def addFilesystem (a : Simulated) (path : String) (quota : Option Nat) : Simulated :=
  { a with filesystems := a.filesystems.insert path (freshFilesystem path (quota.getD 0)) }

/-- Creates a filesystem where there is none. -/
def createFilesystem (a : Simulated) (path : String) (quota : Option Nat) :
    Except Fault Unit × Simulated :=
  if a.filesystems.contains path then (.error (takenFilesystem path), a)
  else (.ok (), a.addFilesystem path quota)

/-- Sets the quota of a filesystem, if one is given. -/
def updateFilesystem (a : Simulated) (path : String) (quota : Option Nat) :
    Except Fault Unit × Simulated :=
  match a.filesystems.find? path with
  | none => (.error (missingFilesystem path), a)
  | some fs => match quota with
    | none => (.ok (), a)
    | some quota => (.ok (), { a with filesystems := a.filesystems.insert path { fs with quota } })

/-- Removes a filesystem with its shares and snapshots; its snapshots only if `withSnapshots`. -/
def destroyFilesystem (a : Simulated) (path : String) (withSnapshots : Bool) :
    Except Fault Unit × Simulated :=
  if !a.filesystems.contains path then (.error (missingFilesystem path), a)
  else if a.snapshots.keys.any (isSnapshotPath path) && !withSnapshots then
    (.error (hasSnapshots path), a)
  else
    (.ok (), { a with
      snapshots := a.snapshots.eraseWhere (isSnapshotPath path)
      filesystems := a.filesystems.erase path
      nfsShares := a.nfsShares.erase path
      smbShares := a.smbShares.erase path })

/-- Shares a filesystem over NFS. -/
def createNfsShare (a : Simulated) (path : String) : Simulated :=
  { a with
    nfsShares := a.nfsShares.insert path ()
    filesystems := a.filesystems.adjust path fun fs => { fs with sharedOverNfs := true } }

/-- Shares a filesystem over SMB. -/
def createSmbShare (a : Simulated) (path : String) (name : Option String) : Simulated :=
  { a with
    smbShares := a.smbShares.insert path (name.getD (defaultShareName path))
    filesystems := a.filesystems.adjust path fun fs => { fs with sharedOverSmb := true } }

/-- Takes a snapshot; its path is cut at the first at sign. -/
def createSnapshot (a : Simulated) (path : String) : Except Fault Unit × Simulated :=
  match Text.splitOnce '@' path.toList with
  | none => (.error (badSnapshotPath path), a)
  | some (parent, name) =>
    let parent := String.ofList parent
    if !a.filesystems.contains parent then (.error (missingFilesystem parent), a)
    else if a.snapshots.contains path then (.error (takenSnapshot path), a)
    else
      let transaction := a.transaction + 1
      let snapshot : Snapshot :=
        { path, name := String.ofList name, parent, clones := [], transaction
          created := epoch.addSeconds transaction }
      (.ok (), { a with transaction, snapshots := a.snapshots.insert path snapshot })

/-- Removes a snapshot that nothing was cloned from. -/
def destroySnapshot (a : Simulated) (path : String) : Except Fault Unit × Simulated :=
  match a.snapshots.find? path with
  | none => (.error (missingSnapshot path), a)
  | some snapshot =>
    if snapshot.clones.isEmpty then (.ok (), { a with snapshots := a.snapshots.erase path })
    else (.error (hasClones path), a)

/-- Makes a new filesystem from a snapshot. -/
def cloneSnapshot (a : Simulated) (path target : String) (quota : Option Nat) :
    Except Fault Unit × Simulated :=
  match a.snapshots.find? path with
  | none => (.error (missingSnapshot path), a)
  | some snapshot =>
    if a.filesystems.contains target then (.error (takenFilesystem target), a)
    else
      let cloned := { snapshot with clones := snapshot.clones ++ [target] }
      let a := a.addFilesystem target quota
      (.ok (), { a with snapshots := a.snapshots.insert path cloned })

/-- The answer of an appliance that can be reached. -/
def answer (a : Simulated) : (call : Call) → call.Outcome × Simulated
  | .logIn => (.ok (), a)
  | .getPools => (.ok a.pools, a)
  | .getFilesystem path => (a.filesystem path, a)
  | .getFilesystems parent => (.ok (a.children parent), a)
  | .createFilesystem path quota _ => a.createFilesystem path quota
  | .updateFilesystem path quota => a.updateFilesystem path quota
  | .destroyFilesystem path snapshots _ => a.destroyFilesystem path snapshots
  | .promoteFilesystem _ => (.ok (), a)
  | .getAvailable path => ((a.filesystem path).map Filesystem.bytesAvailable, a)
  | .setAccess path _ => (.ok (), { a with accessRules := a.accessRules.insert path () })
  | .createNfsShare path => (.ok (), a.createNfsShare path)
  | .deleteNfsShare path => (.ok (), { a with nfsShares := a.nfsShares.erase path })
  | .createSmbShare path name => (.ok (), a.createSmbShare path name)
  | .getSmbShareName path => (a.smbShareName path, a)
  | .deleteSmbShare path => (.ok (), { a with smbShares := a.smbShares.erase path })
  | .createSnapshot path => a.createSnapshot path
  | .getSnapshot path => (a.snapshot path, a)
  | .getSnapshots parent recursive => (.ok (a.snapshotsOf parent recursive), a)
  | .destroySnapshot path => a.destroySnapshot path
  | .cloneSnapshot path target quota => a.cloneSnapshot path target quota
  | .getLicense => (.ok ⟨a.licensed, none⟩, a)
  | .getClusters => (.ok a.clusters, a)

/-- Answers a call; offline, every call fails and changes nothing. -/
def step (a : Simulated) (call : Call) : call.Outcome × Simulated :=
  if a.offline then (.error (.internal (a.endpoint ++ " is unreachable")), a) else a.answer call

/-- An appliance with filesystems of the given sizes and clusters of the given names. -/
def ofContents (endpoint : String) (filesystems : List (String × Nat)) (clusters : List String) :
    Simulated :=
  { endpoint
    filesystems := filesystems.foldl (fun table entry =>
      table.insert entry.1
        { path := entry.1, mountPoint := "/" ++ entry.1,
          bytesAvailable := 10 * max entry.2 1, quota := entry.2 }) .empty
    clusters := clusters.map fun name => ⟨name, [⟨endpoint, ""⟩]⟩ }

end Simulated
end StorageFleet
