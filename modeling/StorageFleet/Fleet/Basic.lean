import StorageFleet.Fleet.Backend

/-!
# The fleet

A `Fleet` is the list of backends in configured order.  `Fleet.select` finds who serves a path: a
named backend, or else the first backend of the zone that has it.  A path that is absent or empty
stands for each backend's default dataset.
-/

namespace StorageFleet

/-- The backends in configured order. -/
structure Fleet where
  backends : List Backend := []
  deriving DecidableEq, Inhabited

/-- Who serves a path. -/
structure Resolution where
  backend : Backend
  /-- The appliance of the backend that has the path. -/
  appliance : ApplianceRef
  path : String
  deriving DecidableEq

/-- The resolution in words. -/
def Resolution.describe (resolution : Resolution) : String :=
  Text.described "Resolution"
    [("backend", Text.quoted resolution.backend.name),
      ("endpoint", Text.quoted resolution.appliance.endpoint),
      ("path", Text.quoted resolution.path)]

namespace Fleet

/-- The fleet in words. -/
def describe (fleet : Fleet) : String :=
  Text.described "BackendSet"
    [("resolvers", Text.bracketed (fleet.backends.map Backend.describe))]

/-- The first backend of this name. -/
def find? (fleet : Fleet) (name : String) : Option Backend :=
  fleet.backends.find? fun backend => backend.name == name

/-- A text, if it is there and not empty. -/
def given (text : Option String) : Option String :=
  text.filter fun text => !text.isEmpty

/-- The appliance of a backend that has `path`. -/
def selectOn (backend : Backend) (path : Option String) : Attempt Resolution := do
  let path ← Attempt.ofExcept (backend.datasetOrDefault path)
  let appliance ← backend.locate path
  return ⟨backend, appliance, path⟩

/-- Selects on the backend of this name, which must be in the zone if one is given. -/
def selectNamed (fleet : Fleet) (name : String) (zone path : Option String) :
    Attempt Resolution :=
  match fleet.find? name with
  | none => throw (.backendNotFound name)
  | some backend => match zone.filter fun zone => backend.zone ≠ some zone with
    | some zone => throw (.zoneMismatch name zone (backend.zone.getD ""))
    | none => selectOn backend path

/-- The fault of a search that found no backend to ask; `skipped` says why backends of the zone
were passed over. -/
def nothingToAsk (zone : Option String) (skipped : List String) : Fault :=
  .noBackendAvailable (
    if skipped.isEmpty then
      match zone with
      | some zone => "no backend configured in zone '" ++ zone ++ "'"
      | none => "no backend configured"
    else String.intercalate "; " skipped)

/-- Tries the backends of the zone in order; `last` is the fault of the last one that was asked. -/
def selectAmong (zone path : Option String) (last : Option Fault) (skipped : List String) :
    List Backend → Attempt Resolution
  | [] => throw (last.getD (nothingToAsk zone skipped))
  | backend :: rest =>
    if zone.isSome ∧ backend.zone ≠ zone then selectAmong zone path last skipped rest
    else match backend.datasetOrDefault path with
      | .error fault => selectAmong zone path last (skipped ++ [fault.message]) rest
      | .ok dataset => do
        match ← (backend.locate dataset).outcome with
        | .ok appliance => return ⟨backend, appliance, dataset⟩
        | .error fault => selectAmong zone path (some fault) skipped rest

/-- Finds who serves `path`. -/
def select (fleet : Fleet) (name zone path : Option String) : Attempt Resolution :=
  match given name with
  | some name => fleet.selectNamed name (given zone) path
  | none => selectAmong (given zone) path none [] fleet.backends

/-- Finds who serves the path of an identifier. -/
def resolve (fleet : Fleet) (id : Identifier) : Attempt Resolution :=
  fleet.select id.backend none (some id.path)

/-- Finds who serves the path of an identifier; `none` if nobody does. -/
def resolveExisting (fleet : Fleet) (id : Identifier) : Attempt (Option Resolution) := do
  match ← (fleet.resolve id).outcome with
  | .ok resolution => return some resolution
  | .error fault => if fault.status = .notFound then return none else throw fault

/-- Warns if the appliances of a backend are not one cluster, or cannot be asked. -/
def checkCluster (backend : Backend) : Plan Unit := do
  if backend.appliances.length < 2 then return ()
  match ← backend.isCluster.run with
  | .ok true => return ()
  | .ok false => .warn ("Backend " ++ backend.name ++ " lists " ++
      toString backend.appliances.length ++ " endpoints that are not one RSF cluster") (.done ())
  | .error fault => .warn ("Backend " ++ backend.name ++
      ": cannot query RSF cluster membership: " ++ fault.message) (.done ())

/-- Checks the clusters of all backends, one after the other. -/
def checkClusters (fleet : Fleet) : Plan Unit :=
  fleet.backends.forM checkCluster

end Fleet
end StorageFleet
