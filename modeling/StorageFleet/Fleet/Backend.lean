import StorageFleet.Config.Basic
import StorageFleet.Plan

/-!
# A backend

A `Backend` is a configured name with its appliances in order.  They share a namespace, so a path
belongs to whichever appliance has it; appliances are asked in order and the first that answers
counts.
-/

namespace StorageFleet

/-- A configured backend and its appliances; there is at least one. -/
structure Backend where
  name : String
  config : BackendConfig
  appliances : List ApplianceRef
  nonempty : appliances ≠ []
  deriving DecidableEq

namespace Backend

/-- The backend over the given appliances; refused if there are none. -/
def ofAppliances (name : String) (config : BackendConfig) (appliances : List ApplianceRef) :
    Except Fault Backend :=
  if h : appliances = [] then
    .error (.configuration ("backend '" ++ name ++ "' has no appliance endpoints"))
  else .ok ⟨name, config, appliances, h⟩

/-- The zone that the backend is in, if it is in one. -/
def zone (backend : Backend) : Option String :=
  backend.config.zone

/-- The backend in words. -/
def describe (backend : Backend) : String :=
  Text.described "Resolver"
    [("name", Text.quoted backend.name), ("zone", Text.quotedOption backend.zone),
      ("endpoints", Text.bracketed (backend.appliances.map fun a => Text.quoted a.endpoint))]

/-- The path, or the backend's default dataset if there is no path or it is empty. -/
def datasetOrDefault (backend : Backend) (path : Option String) : Except Fault String :=
  match path.filter fun path => !path.isEmpty with
  | some path => .ok path
  | none => match backend.config.defaultDataset with
    | some dataset => .ok dataset
    | none => .error (.invalidArgument ("backend '" ++ backend.name ++
        "': no dataset given and no defaultDataset configured"))

/-- The fault that stands for an empty list of appliances. -/
def withoutAppliances (name : String) : Fault :=
  .internal ("backend '" ++ name ++ "' has no providers")

/-- The first of the appliances that has `path`, or the last one's fault. -/
def locateAmong (path : String) (last : Fault) : List ApplianceRef → Attempt ApplianceRef
  | [] => throw last
  | appliance :: rest => do
    match ← (Attempt.ask appliance (.getFilesystem path)).outcome with
    | .ok _ => return appliance
    | .error fault => locateAmong path fault rest

/-- The appliance that has `path`. -/
def locate (backend : Backend) (path : String) : Attempt ApplianceRef := do
  if path.isEmpty then
    throw (.invalidArgument ("backend '" ++ backend.name ++ "': cannot resolve an empty path"))
  match ← (locateAmong path (withoutAppliances backend.name) backend.appliances).outcome with
  | .ok appliance => return appliance
  | .error last => throw (.notFoundOnAnyBackend (backend.name ++ ":" ++ path) last)

/-- Whether all the appliances report the cluster `shared` first; `none` fits any. -/
def shareCluster (shared : Option String) : List ApplianceRef → Attempt Bool
  | [] => return true
  | appliance :: rest => do
    match ← Attempt.ask appliance .getClusters with
    | [] => return false
    | cluster :: _ =>
      if shared.all (· == cluster.clusterName) then shareCluster (some cluster.clusterName) rest
      else return false

/-- Whether the appliances are one cluster; a single appliance is none. -/
def isCluster (backend : Backend) : Attempt Bool :=
  if backend.appliances.length < 2 then return false
  else shareCluster none backend.appliances

/-- The license of the first of the appliances that answers, or the last one's fault. -/
def licenseAmong (last : Fault) : List ApplianceRef → Attempt (String × License)
  | [] => throw last
  | appliance :: rest => do
    match ← (Attempt.ask appliance .getLicense).outcome with
    | .ok license => return (appliance.endpoint, license)
    | .error fault => licenseAmong fault rest

/-- The first answering appliance and its license. -/
def license (backend : Backend) : Attempt (String × License) :=
  licenseAmong (withoutAppliances backend.name) backend.appliances

end Backend
end StorageFleet
