import StorageFleet.Fault
import StorageFleet.Json.Decode
import StorageFleet.Text.Lowercase
import StorageFleet.Text.Quoted

/-!
# The settings of one backend

A backend is one appliance or several that share a namespace.  `BackendConfig.check` refuses
settings that nothing could be done with; everything that passes it can be used.
-/

namespace StorageFleet

/-- The protocol over which a worker mounts a share. -/
inductive MountType where
  | nfs
  | cifs
  deriving Repr, DecidableEq, Inhabited

namespace MountType

/-- The name in settings and requests. -/
def name : MountType → String
  | .nfs => "nfs"
  | .cifs => "cifs"

/-- The name in descriptions. -/
def title : MountType → String
  | .nfs => "Nfs"
  | .cifs => "Cifs"

/-- The protocol of exactly this name. -/
def ofName : String → Option MountType
  | "nfs" => some .nfs
  | "cifs" => some .cifs
  | _ => none

/-- The protocol of this name in any mix of capital and small letters. -/
def parse (text : String) : Except Fault MountType :=
  let small := Text.lowercase text
  match ofName small with
  | some mount => .ok mount
  | none => .error (.invalidArgument
      ("unsupported mount filesystem type '" ++ small ++ "', use 'nfs' or 'cifs'"))

/-- Reads a protocol. -/
def reader : Reader MountType :=
  Reader.choice ofName

end MountType

/-- The settings of a backend. -/
structure BackendConfig where
  /-- The addresses of the appliances, separated by commas. -/
  restIp : String
  username : String
  password : String
  /-- The parent of new volumes. -/
  defaultDataset : Option String := none
  /-- The address that workers mount shares from. -/
  defaultDataIp : Option String := none
  defaultMountFsType : MountType := .nfs
  defaultMountOptions : Option String := none
  /-- The permissions of the mount point, in base eight. -/
  mountPointPermissions : Option String := none
  zone : Option String := none
  /-- Whether a certificate that cannot be verified is accepted. -/
  insecureSkipVerify : Bool := true
  deriving Repr, DecidableEq, Inhabited

/-- What is needed to reach one appliance. -/
structure Connection where
  endpoint : String
  username : String
  password : String
  insecureSkipVerify : Bool
  deriving Repr, DecidableEq, Inhabited

/-- What descriptions show in place of a password. -/
def hiddenPassword : String := "***"

/-- The connection in words, without the password. -/
def Connection.describe (connection : Connection) : String :=
  Text.described "ProviderConfig"
    [("endpoint", Text.quoted connection.endpoint),
      ("username", Text.quoted connection.username),
      ("password", Text.quoted hiddenPassword),
      ("insecure_skip_verify", toString connection.insecureSkipVerify)]

/-- The address without slashes at its end. -/
def Connection.address (connection : Connection) : String :=
  String.ofList (connection.endpoint.toList.reverse.dropWhile (· == '/')).reverse

namespace BackendConfig

/-- How the settings are read. -/
def record : Record BackendConfig :=
  Record.of BackendConfig.mk
    |>.required "restIp" Reader.string
    |>.required "username" Reader.string
    |>.required "password" Reader.string
    |>.defaulted "defaultDataset" Reader.string.optional none
    |>.defaulted "defaultDataIp" Reader.string.optional none
    |>.defaulted "defaultMountFsType" MountType.reader .nfs
    |>.defaulted "defaultMountOptions" Reader.string.optional none
    |>.defaulted "mountPointPermissions" Reader.string.optional none
    |>.defaulted "zone" Reader.string.optional none
    |>.defaulted "insecureSkipVerify" Reader.bool true

/-- The JSON form, with all settings. -/
def toJson (config : BackendConfig) : Json :=
  .object [("restIp", .string config.restIp), ("username", .string config.username),
    ("password", .string config.password), ("defaultDataset", .ofOption config.defaultDataset),
    ("defaultDataIp", .ofOption config.defaultDataIp),
    ("defaultMountFsType", .string config.defaultMountFsType.name),
    ("defaultMountOptions", .ofOption config.defaultMountOptions),
    ("mountPointPermissions", .ofOption config.mountPointPermissions),
    ("zone", .ofOption config.zone), ("insecureSkipVerify", .bool config.insecureSkipVerify)]

/-- The settings in words, without the password. -/
def describe (config : BackendConfig) : String :=
  Text.described "BackendConfig"
    [("rest_ip", Text.quoted config.restIp), ("username", Text.quoted config.username),
      ("password", Text.quoted hiddenPassword),
      ("default_dataset", Text.quotedOption config.defaultDataset),
      ("default_data_ip", Text.quotedOption config.defaultDataIp),
      ("default_mount_fs_type", config.defaultMountFsType.title),
      ("zone", Text.quotedOption config.zone)]

/-- The addresses of the appliances, in order, without blanks around them. -/
def endpoints (config : BackendConfig) : List String :=
  (((Text.splitAll ',' config.restIp.toList).map Text.trim).filter fun piece =>
    !piece.isEmpty).map String.ofList

/-- How each appliance is reached, in order. -/
def connections (config : BackendConfig) : List Connection :=
  config.endpoints.map fun endpoint =>
    ⟨endpoint, config.username, config.password, config.insecureSkipVerify⟩

/-- Whether the path names a dataset below a pool, without empty parts. -/
def isDatasetPath (path : String) : Bool :=
  let parts := Text.splitAll '/' path.toList
  2 ≤ parts.length && parts.all fun part => !part.isEmpty

/-- Whether the text is a number of 32 bits in base eight. -/
def isOctal (text : String) : Bool :=
  (Number.readUnsigned 8 Number.max32 text.toList).isSome

/-- What makes the settings of a backend unusable. -/
inductive Defect where
  | name (defect : Identifier.NameDefect)
  | noEndpoint
  | noCredentials
  | badDataset (path : String)
  | badPermissions (text : String)
  deriving Repr, DecidableEq, Inhabited

/-- The fault of unusable settings. -/
def Defect.fault (backend : String) : Defect → Fault
  | .name defect => .ofNameDefect backend defect
  | .noEndpoint => .configuration
      ("backend '" ++ backend ++ "': restIp must list at least one endpoint")
  | .noCredentials => .configuration
      ("backend '" ++ backend ++ "': username and password are required")
  | .badDataset path => .configuration
      ("backend '" ++ backend ++ "': defaultDataset '" ++ path ++ "' must be 'pool/dataset'")
  | .badPermissions text => .configuration
      ("backend '" ++ backend ++ "': mountPointPermissions '" ++ text ++ "' is not octal")

/-- The first defect of a backend, or nothing if it can be used. -/
def check (name : String) (config : BackendConfig) : Except Defect Unit :=
  match Identifier.checkBackendName name with
  | .error defect => .error (.name defect)
  | .ok () =>
    if config.endpoints.isEmpty then .error .noEndpoint
    else if config.username.isEmpty || config.password.isEmpty then .error .noCredentials
    else match config.defaultDataset.filter fun path => !isDatasetPath path with
      | some path => .error (.badDataset path)
      | none => match config.mountPointPermissions.filter fun text => !isOctal text with
        | some text => .error (.badPermissions text)
        | none => .ok ()

end BackendConfig
end StorageFleet
