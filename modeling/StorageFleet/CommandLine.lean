import StorageFleet.Api.Address
import StorageFleet.Config.Loader
import StorageFleet.Deployment.Schedule

/-!
# The command line

Each setting of the program is an option, which may also come from a variable of the environment
and otherwise has a default.  Options are read from left to right and the first that is wrong, or
asks for a description, ends the reading.

`start` does what the program does before it listens: it loads the configuration, builds the fleet,
and reads the address to listen on, in this order.
-/

namespace StorageFleet.CommandLine

/-- The settings of the program. -/
structure Settings where
  config : String
  apiAddr : String
  refreshSeconds : Nat
  logLevel : String
  logJson : Bool
  deriving Repr, DecidableEq, Inhabited

/-- What the arguments ask for. -/
inductive Invocation where
  | run (settings : Settings)
  /-- A description of the program. -/
  | describe
  /-- Nothing that can be done. -/
  | refuse
  deriving Repr, DecidableEq, Inhabited

/-- An option with a value. -/
structure ValueOption where
  name : String
  /-- The variable of the environment that stands in for it. -/
  envName : String
  standard : String
  /-- Which values it takes. -/
  accepts : String → Bool

/-- The number of seconds that a text stands for. -/
def seconds? (text : String) : Option Nat :=
  Number.readUnsigned 10 Number.max64 text.toList

/-- The path of the configuration. -/
def configOption : ValueOption where
  name := "config"
  envName := "CONFIG_PATH"
  standard := "/config/nexentastor-csi-driver-config.yaml"
  accepts text := !text.isEmpty

/-- The address to listen on. -/
def apiAddrOption : ValueOption where
  name := "api-addr"
  envName := "API_ADDR"
  standard := Api.SocketAddress.standard
  accepts _ := true

/-- How often the configuration is read again. -/
def refreshOption : ValueOption where
  name := "config-refresh-secs"
  envName := "CONFIG_REFRESH_SECS"
  standard := "30"
  accepts text := (seconds? text).isSome

/-- How much is logged. -/
def logLevelOption : ValueOption where
  name := "log-level"
  envName := "LOG_LEVEL"
  standard := "info"
  accepts _ := true

/-- The options with a value. -/
def valueOptions : List ValueOption :=
  [configOption, apiAddrOption, refreshOption, logLevelOption]

/-- The option that needs no value. -/
def logJsonName : String := "log-json"

/-- The variable that stands in for it. -/
def logJsonVariable : String := "LOG_JSON"

/-- The options that ask for a description. -/
def isDescription (name : String) : Bool :=
  name == "help" || name == "version"

/-- The options that were given, with their values. -/
abbrev Given := List (String × String)

/-- How the reading of the arguments ended. -/
inductive Reading where
  | given (options : Given)
  | describe
  | refuse

/-- Whether an argument can be the value of the option before it. -/
def isValue (argument : String) : Bool :=
  argument == "-" || !Text.startsWith "-" argument

/-- The value of an option and the arguments behind it. -/
def takeValue (attached : Option String) (rest : List String) : Option (String × List String) :=
  match attached with
  | some value => some (value, rest)
  | none => match rest with
    | value :: rest => if isValue value then some (value, rest) else none
    | [] => none

/-- The name of an option and the value attached to it. -/
def cutOption (text : List Char) : String × Option String :=
  match Text.splitOnce '=' text with
  | some (name, value) => (String.ofList name, some (String.ofList value))
  | none => (String.ofList text, none)

/-- Reads an option: what was given then, and the arguments behind it. -/
def readOption (given : Given) (name : String) (attached : Option String) (rest : List String) :
    Reading × List String :=
  if isDescription name then (if attached.isSome then .refuse else .describe, rest)
  else if (given.lookup name).isSome then (.refuse, rest)
  else if name = logJsonName then
    (if attached.isSome then .refuse else .given ((name, "true") :: given), rest)
  else match valueOptions.find? fun option => option.name == name with
    | none => (.refuse, rest)
    | some option => match takeValue attached rest with
      | none => (.refuse, rest)
      | some (value, rest) =>
        (if option.accepts value then .given ((name, value) :: given) else .refuse, rest)

/-- Reads the arguments; `fuel` bounds their number. -/
def readArguments : Nat → Given → List String → Reading
  | 0, given, _ => .given given
  | _, given, [] => .given given
  | fuel + 1, given, argument :: rest =>
    match argument.toList with
    | ['-', '-'] => if rest.isEmpty then .given given else .refuse
    | '-' :: '-' :: text =>
      let (name, attached) := cutOption text
      match readOption given name attached rest with
      | (.given given, rest) => readArguments fuel given rest
      | (reading, _) => reading
    | '-' :: c :: _ => if c == 'h' || c == 'V' then .describe else .refuse
    | _ => .refuse

/-- The value of an option: as given, from the environment, or its default. -/
def valueOf (given : Given) (environment : String → Option String) (option : ValueOption) :
    Option String :=
  match given.lookup option.name with
  | some value => some value
  | none => match environment option.envName with
    | some value => if option.accepts value then some value else none
    | none => some option.standard

/-- Whether logs are JSON: as given, from the environment, or not. -/
def logJsonOf (given : Given) (environment : String → Option String) : Option Bool :=
  if (given.lookup logJsonName).isSome then some true
  else match environment logJsonVariable with
    | some "true" => some true
    | some "false" => some false
    | some _ => none
    | none => some false

/-- The settings that were given. -/
def settings (given : Given) (environment : String → Option String) : Option Settings := do
  return {
    config := ← valueOf given environment configOption
    apiAddr := ← valueOf given environment apiAddrOption
    refreshSeconds := ← seconds? (← valueOf given environment refreshOption)
    logLevel := ← valueOf given environment logLevelOption
    logJson := ← logJsonOf given environment }

/-- What the arguments ask for. -/
def parse (arguments : List String) (environment : String → Option String) : Invocation :=
  match readArguments (arguments.length + 1) [] arguments with
  | .describe => .describe
  | .refuse => .refuse
  | .given given => match settings given environment with
    | some settings => .run settings
    | none => .refuse

/-! ## Starting -/

/-- The fault of an address that is none. -/
def badAddress : Fault :=
  .configuration "Invalid REST API address: invalid socket address syntax"

/-- A deployment over a configuration, once its clusters have been checked. -/
def deploy (config : Config) : Except Fault Deployment :=
  let (d, jobs) := Deployment.runAll {} [{ work := .reload config }]
  match jobs with
  | [{ work := .reload _, progress := .finished (.error fault) _, .. }] => .error fault
  | _ => .ok d

/-- Everything that comes before listening: the deployment and the address to listen on. -/
def start (settings : Settings) (file : Option (List UInt8)) :
    Except Fault (Deployment × Api.SocketAddress) := do
  let (_, config) ← (Loader.refresh { path := settings.config } file).1
  let d ← deploy config
  match Api.SocketAddress.parse? settings.apiAddr with
  | some address => return (d, address)
  | none => throw badAddress

/-- How a run of the program ends, or that it does not end by itself. -/
inductive Ending where
  | exit (code : Nat)
  | failed (fault : Fault)
  | listening (d : Deployment) (address : Api.SocketAddress)

/-- What the program comes to, given the file that its settings name. -/
def ending (invocation : Invocation) (file : String → Option (List UInt8)) : Ending :=
  match invocation with
  | .describe => .exit 0
  | .refuse => .exit 2
  | .run settings => match start settings (file settings.config) with
    | .error fault => .failed fault
    | .ok (d, address) => .listening d address

end StorageFleet.CommandLine
