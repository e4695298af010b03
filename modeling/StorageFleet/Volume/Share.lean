import StorageFleet.Volume.Provision

/-!
# Sharing volumes

Before a worker mounts a volume, the volume is shared over the protocol asked for and opened to
everyone.  A share that exists already is kept, so preparing a share again changes nothing.
-/

namespace StorageFleet.Fleet

/-- The address that workers mount from: the one asked for, or the backend's default. -/
def dataAddress (backend : Backend) (asked : Option String) : Except Fault String :=
  match given asked <|> backend.config.defaultDataIp with
  | some address => .ok address
  | none => .error (.failedPrecondition
      ("backend '" ++ backend.name ++ "' has no defaultDataIp and none was given"))

/-- Shares the filesystem if it is not shared yet, and gives the source to mount. -/
def share (resolution : Resolution) (fs : Filesystem) (mount : MountType) (address : String) :
    Attempt String :=
  let path := resolution.path
  match mount with
  | .nfs => do
    if !fs.sharedOverNfs then
      let outcome ← (Attempt.ask resolution.appliance (.createNfsShare path)).outcome
      Attempt.ofExcept (tolerateExisting outcome)
    return address ++ ":" ++ fs.mountPoint
  | .cifs => do
    if !fs.sharedOverSmb then
      let outcome ← (Attempt.ask resolution.appliance (.createSmbShare path none)).outcome
      Attempt.ofExcept (tolerateExisting outcome)
    let name ← Attempt.ask resolution.appliance (.getSmbShareName path)
    return "//" ++ address ++ "/" ++ name

/-- Shares a volume and opens it to everyone. -/
def prepareShare (fleet : Fleet) (id : String) (mount : Option MountType)
    (address : Option String) : Attempt ShareInfo := do
  let identifier ← Attempt.ofExcept (volumeId id)
  let resolution ← fleet.resolve identifier
  let config := resolution.backend.config
  let mount := mount.getD config.defaultMountFsType
  let address ← Attempt.ofExcept (dataAddress resolution.backend address)
  let fs ← Attempt.ask resolution.appliance (.getFilesystem resolution.path)
  let source ← share resolution fs mount address
  Attempt.ask resolution.appliance (.setAccess resolution.path .everyone)
  return ⟨id, mount, source, config.defaultMountOptions⟩

end StorageFleet.Fleet
