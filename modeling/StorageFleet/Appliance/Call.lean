import StorageFleet.Appliance.Resource
import StorageFleet.Fault

/-!
# Calls to an appliance

`Call` is what one can ask of an appliance and `Call.Answer` the type of what it gives back on
success.  `Call.label` names the call and its main argument.
-/

namespace StorageFleet

/-- A request to an appliance. -/
inductive Call where
  | logIn
  | getPools
  | getFilesystem (path : String)
  /-- The children of `parent`, without `parent` itself. -/
  | getFilesystems (parent : String)
  | createFilesystem (path : String) (quota reservation : Option Nat)
  | updateFilesystem (path : String) (quota : Option Nat)
  /-- Destroys a filesystem, with its snapshots if `snapshots`; if `promote`, the newest clone of
  its snapshots is made independent first. -/
  | destroyFilesystem (path : String) (snapshots promote : Bool)
  | promoteFilesystem (path : String)
  | getAvailable (path : String)
  | setAccess (path : String) (rule : AccessRule)
  | createNfsShare (path : String)
  | deleteNfsShare (path : String)
  | createSmbShare (path : String) (name : Option String)
  | getSmbShareName (path : String)
  | deleteSmbShare (path : String)
  /-- Takes the snapshot `filesystem@name`. -/
  | createSnapshot (path : String)
  | getSnapshot (path : String)
  | getSnapshots (parent : String) (recursive : Bool)
  | destroySnapshot (path : String)
  | cloneSnapshot (path target : String) (quota : Option Nat)
  | getLicense
  | getClusters
  deriving Repr, DecidableEq, Inhabited

namespace Call

/-- What a successful call gives back. -/
abbrev Answer : Call → Type
  | .getPools => List Pool
  | .getFilesystem _ => Filesystem
  | .getFilesystems _ => List Filesystem
  | .getAvailable _ => Nat
  | .getSmbShareName _ => String
  | .getSnapshot _ => Snapshot
  | .getSnapshots .. => List Snapshot
  | .getLicense => License
  | .getClusters => List Cluster
  | .logIn | .createFilesystem .. | .updateFilesystem .. | .destroyFilesystem ..
  | .promoteFilesystem _ | .setAccess .. | .createNfsShare _ | .deleteNfsShare _
  | .createSmbShare .. | .deleteSmbShare _ | .createSnapshot _ | .destroySnapshot _
  | .cloneSnapshot .. => Unit

/-- The outcome of a call. -/
abbrev Outcome (call : Call) := Except Fault call.Answer

/-- The call's name and main argument. -/
def parts : Call → String × String
  | .logIn => ("log_in", "")
  | .getPools => ("get_pools", "")
  | .getFilesystem path => ("get_filesystem", path)
  | .getFilesystems parent => ("get_filesystems", parent)
  | .createFilesystem path _ _ => ("create_filesystem", path)
  | .updateFilesystem path _ => ("update_filesystem", path)
  | .destroyFilesystem path _ _ => ("destroy_filesystem", path)
  | .promoteFilesystem path => ("promote_filesystem", path)
  | .getAvailable path => ("get_filesystem_available_capacity", path)
  | .setAccess path _ => ("set_filesystem_acl", path)
  | .createNfsShare path => ("create_nfs_share", path)
  | .deleteNfsShare path => ("delete_nfs_share", path)
  | .createSmbShare path _ => ("create_smb_share", path)
  | .getSmbShareName path => ("get_smb_share_name", path)
  | .deleteSmbShare path => ("delete_smb_share", path)
  | .createSnapshot path => ("create_snapshot", path)
  | .getSnapshot path => ("get_snapshot", path)
  | .getSnapshots parent _ => ("get_snapshots", parent)
  | .destroySnapshot path => ("destroy_snapshot", path)
  | .cloneSnapshot path _ _ => ("clone_snapshot", path)
  | .getLicense => ("get_license", "")
  | .getClusters => ("get_rsf_clusters", "")

/-- The call in a log of calls: `name:argument`. -/
def label (call : Call) : String :=
  call.parts.1 ++ ":" ++ call.parts.2

/-- The JSON form of a successful answer. -/
def answerToJson : (call : Call) → call.Answer → Json
  | .getPools, pools => .array (pools.map Pool.toJson)
  | .getFilesystem _, fs => fs.toJson
  | .getFilesystems _, list => .array (list.map Filesystem.toJson)
  | .getAvailable _, bytes => .nat bytes
  | .getSmbShareName _, name => .string name
  | .getSnapshot _, snapshot => snapshot.toJson
  | .getSnapshots .., list => .array (list.map Snapshot.toJson)
  | .getLicense, license => license.toJson
  | .getClusters, list => .array (list.map Cluster.toJson)
  | .logIn, _ | .createFilesystem .., _ | .updateFilesystem .., _ | .destroyFilesystem .., _
  | .promoteFilesystem _, _ | .setAccess .., _ | .createNfsShare _, _ | .deleteNfsShare _, _
  | .createSmbShare .., _ | .deleteSmbShare _, _ | .createSnapshot _, _
  | .destroySnapshot _, _ | .cloneSnapshot .., _ => .null

end Call
end StorageFleet
