import StorageFleet.Config.Backend

/-!
# The configuration

The configuration names the backends in the order in which they are tried.  Naming a backend again
replaces its settings and keeps its place.
-/

namespace StorageFleet

/-- Puts a value under a name: in place of one that has the name, else at the end. -/
def placeByName (name : String) (value : α) : List (String × α) → List (String × α)
  | [] => [(name, value)]
  | (other, old) :: rest =>
    if other = name then (name, value) :: rest
    else (other, old) :: placeByName name value rest

/-- The configuration of a fleet. -/
structure Config where
  /-- The backends by name, in the order in which they are tried. -/
  backends : List (String × BackendConfig) := []
  /-- Whether more is logged. -/
  debug : Bool := false
  deriving Repr, DecidableEq, Inhabited

namespace Config

/-- Names a backend. -/
def place (config : Config) (name : String) (backend : BackendConfig) : Config :=
  { config with backends := placeByName name backend config.backends }

/-- The first defect of the backends, in order. -/
def checkBackends : List (String × BackendConfig) → Except Fault Unit
  | [] => .ok ()
  | (name, backend) :: rest =>
    match backend.check name with
    | .error defect => .error (defect.fault name)
    | .ok () => checkBackends rest

/-- Checks that there is a backend and that every backend can be used. -/
def check (config : Config) : Except Fault Unit :=
  if config.backends.isEmpty then
    .error (.configuration "nexentastor_map must define at least one backend")
  else checkBackends config.backends

/-- Reads the backends of a configuration. -/
def backendsReader : Reader (List (String × BackendConfig))
  | .fields drafts ending => Reader.entries placeByName BackendConfig.record.read ending [] drafts
  | .unfit | .broken => .error .malformed
  | _ => .error (.mismatched "an object")

/-- How a configuration is read from JSON. -/
def record : Record Config :=
  Record.of Config.mk
    |>.required "nexentastor_map" backendsReader
    |>.defaulted "debug" Reader.bool false

end Config
end StorageFleet
