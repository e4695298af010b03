import StorageFleet.Api.Message
import StorageFleet.Deployment.Station
import StorageFleet.Fleet.Basic

/-!
# Deployments

A `Deployment` is a fleet together with all that its operations act on: the stations of its
appliances, the clock, the counters, the log, and a record of the calls that appliances received.
The functions here are the single effects of a running task.
-/

namespace StorageFleet

/-- What a station received. -/
inductive Received where
  /-- A call to an appliance in memory. -/
  | call (call : Call)
  /-- A request over a link, and when it was sent. -/
  | request (time : Nat) (request : Request)

/-- A fleet and all that its operations act on. -/
structure Deployment where
  /-- The stations; an appliance's identity is its place in this list. -/
  stations : List Station := []
  /-- The fleet that new operations run on. -/
  fleet : Fleet := {}
  /-- The time in milliseconds. -/
  clock : Nat := 0
  counters : Counters := {}
  log : List LogLine := []
  received : List (Nat × Received) := []
  /-- Whether requests of the HTTP interface are no longer carried out. -/
  closed : Bool := false
  /-- The number of the next thread. -/
  nextThread : Nat := 0
  deriving Inhabited

namespace Deployment

/-- Logs a line. -/
def report (d : Deployment) (line : LogLine) : Deployment :=
  { d with log := d.log ++ [line] }

/-- Logs a warning. -/
def warn (d : Deployment) (text : String) : Deployment :=
  d.report ⟨.warning, text⟩

/-- Counts. -/
def count (d : Deployment) (counter : Counter) : Deployment :=
  { d with counters := d.counters.add counter }

/-- Records what a station received. -/
def receive (d : Deployment) (id : Nat) (received : Received) : Deployment :=
  { d with received := d.received ++ [(id, received)] }

/-- The station of an appliance. -/
def station? (d : Deployment) (id : Nat) : Option Station :=
  d.stations[id]?

/-- Puts a station in place of another. -/
def setStation (d : Deployment) (id : Nat) (station : Station) : Deployment :=
  { d with stations := d.stations.set id station }

/-- The connected station of an appliance, if it has one. -/
def connected? (d : Deployment) (id : Nat) : Option Connected :=
  (d.station? id).bind Station.connected?

/-- The appliance in memory, if it is one. -/
def simulated? (d : Deployment) (id : Nat) : Option Simulated :=
  (d.station? id).bind Station.simulated?

/-- Changes a connected station. -/
def adjust (d : Deployment) (id : Nat) (change : Connected → Connected) : Deployment :=
  match d.connected? id with
  | some connected => d.setStation id (.connected (change connected))
  | none => d

/-- The session with an appliance. -/
def session (d : Deployment) (id : Nat) : Session :=
  ((d.connected? id).map Connected.session).getD {}

/-- The fault of asking an appliance that is not there. -/
def nobodyThere (appliance : ApplianceRef) : Fault :=
  .internal (appliance.endpoint ++ " is not deployed")

/-- Calls an appliance in memory. -/
def perform (d : Deployment) (appliance : ApplianceRef) (call : Call) :
    call.Outcome × Deployment :=
  match d.simulated? appliance.id with
  | some simulated =>
    let (outcome, after) := simulated.step call
    (outcome, (d.receive appliance.id (.call call)).setStation appliance.id (.simulated after))
  | none => (.error (nobodyThere appliance), d)

/-- Sends a request: the answer, the time it takes, and the deployment afterwards. -/
def send (d : Deployment) (appliance : ApplianceRef) (request : Request) :
    Except Fault Response × Nat × Deployment :=
  match d.connected? appliance.id with
  | some connected =>
    let (answer, delay, link) := connected.link.send request
    let d := d.receive appliance.id (.request d.clock request)
    (answer, delay, d.setStation appliance.id (.connected { connected with link }))
  | none => (.error (nobodyThere appliance), 0, d)

/-- Records how a login attempt ended. -/
def settle (d : Deployment) (id : Nat) (outcome : Except String String) : Deployment :=
  d.adjust id fun connected => { connected with session := connected.session.settle outcome }

/-- Asks for the login lock. -/
def requestLock (d : Deployment) (id thread : Nat) : Deployment :=
  d.adjust id fun connected => { connected with lock := connected.lock.request thread }

/-- Whether a thread has the login lock. -/
def hasLock (d : Deployment) (id thread : Nat) : Bool :=
  ((d.connected? id).bind fun connected => connected.lock.owner) == some thread

/-- Gives the login lock back. -/
def releaseLock (d : Deployment) (id thread : Nat) : Deployment :=
  d.adjust id fun connected => { connected with lock := connected.lock.abandon thread }

/-- Takes a thread away from every lock that it has or waits for. -/
def abandonLocks (d : Deployment) (thread : Nat) : Deployment :=
  { d with stations := d.stations.map fun
    | .connected connected =>
      .connected { connected with lock := connected.lock.abandon thread }
    | station => station }

/-- How calls to an appliance are carried out, if it has a client. -/
def carryOut (d : Deployment) (appliance : ApplianceRef) :
    Option ((call : Call) → Task call.Outcome) :=
  (d.connected? appliance.id).map fun connected call => (connected.client.answer call).run

/-- The task that a plan becomes here. -/
def task (d : Deployment) (plan : Plan α) : Task α :=
  plan.toTask d.carryOut

/-! ## Setting up -/

/-- Adds a station and tells how to refer to it. -/
def addStation (d : Deployment) (endpoint : String) (station : ApplianceRef → Station) :
    Deployment × ApplianceRef :=
  let appliance : ApplianceRef := ⟨d.stations.length, endpoint⟩
  ({ d with stations := d.stations ++ [station appliance] }, appliance)

/-- Adds a client for one connection. -/
def connect (d : Deployment) (connection : Connection) : Deployment × ApplianceRef :=
  d.addStation connection.address fun appliance =>
    .connected { client := { appliance, username := connection.username,
                             password := connection.password }
                 link := .unreachable }

/-- Adds clients for several connections. -/
def connectAll (d : Deployment) : List Connection → Deployment × List ApplianceRef
  | [] => (d, [])
  | connection :: rest =>
    let (d, appliance) := d.connect connection
    let (d, appliances) := d.connectAll rest
    (d, appliance :: appliances)

/-- Adds the clients of a backend. -/
def addBackend (d : Deployment) (name : String) (config : BackendConfig) :
    Deployment × Except Fault Backend :=
  let (d, appliances) := d.connectAll config.connections
  (d, Backend.ofAppliances name config appliances)

/-- Adds the clients of configured backends up to the first that has no appliance. -/
def addBackends (d : Deployment) :
    List (String × BackendConfig) → Deployment × Except Fault (List Backend)
  | [] => (d, .ok [])
  | (name, config) :: rest =>
    match d.addBackend name config with
    | (d, .error fault) => (d, .error fault)
    | (d, .ok backend) =>
      let (d, backends) := d.addBackends rest
      (d, backends.map (backend :: ·))

/-- Adds the clients of a whole configuration. -/
def addFleet (d : Deployment) (config : Config) : Deployment × Except Fault Fleet :=
  let (d, backends) := d.addBackends config.backends
  (d, backends.map Fleet.mk)

end Deployment
end StorageFleet
