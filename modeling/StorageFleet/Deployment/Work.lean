import StorageFleet.Api.Route
import StorageFleet.Deployment.Basic

/-!
# Work

`Work` is everything that can be run on a deployment: operations on the current fleet, reloading
the configuration, requests of the HTTP interface, and single calls to backends and appliances.
`Work.begin` gives the tasks of a piece of work and `Work.finish` makes its answer of their results.
-/

namespace StorageFleet

/-- What a request of the HTTP interface runs. -/
abbrev Api.Action.Part : Api.Action → Type
  | .operate operation => operation.Part
  | .reply _ | .counters => Unit

/-- A piece of work for a deployment. -/
inductive Work where
  | operate (operation : Operation)
  /-- Builds a fleet from a configuration and publishes it. -/
  | reload (config : Config)
  /-- Answers a request of the HTTP interface, with the head alone if `bodiless`. -/
  | serve (action : Api.Action) (bodiless : Bool)
  | ask (appliance : ApplianceRef) (call : Call)
  | checkJob (client : Client) (job : String)
  | awaitJob (client : Client) (job : String)
  | submit (client : Client) (request : Request)
  | select (backend zone path : Option String)
  | checkClusters
  | locate (backend : Backend) (path : String)
  | isCluster (backend : Backend)
  | license (backend : Backend)

namespace Work

/-- The work for a message of the HTTP interface.  `HEAD` asks for the head alone. -/
def ofMessage (message : Api.Message) : Work :=
  .serve (Api.route message) (message.method == "HEAD")

/-- What one task of a piece of work finds. -/
abbrev Part : Work → Type
  | .operate operation => operation.Part
  | .reload _ => Except Fault Fleet
  | .serve action _ => action.Part
  | .ask _ call => call.Outcome
  | .checkJob .. | .isCluster _ => Except Fault Bool
  | .awaitJob .. => Except Fault Unit
  | .submit .. => Except Fault Response
  | .select .. => Except Fault Resolution
  | .checkClusters => Unit
  | .locate .. => Except Fault ApplianceRef
  | .license _ => Except Fault (String × License)

/-- The answer of a piece of work. -/
abbrev Answer : Work → Type
  | .operate operation => operation.Outcome
  | .reload _ => Except Fault Fleet
  | .serve .. => Api.Reply
  | .ask _ call => call.Outcome
  | .checkJob .. | .isCluster _ => Except Fault Bool
  | .awaitJob .. => Except Fault Unit
  | .submit .. => Except Fault Response
  | .select .. => Except Fault Resolution
  | .checkClusters => Unit
  | .locate .. => Except Fault ApplianceRef
  | .license _ => Except Fault (String × License)

/-- The tasks of a reload: the clients are made at once, and the fleet is ready once its clusters
have been checked. -/
def beginReload (d : Deployment) (config : Config) :
    Deployment × List (Task (Except Fault Fleet)) :=
  match d.addFleet config with
  | (d, .error fault) => (d, [.done (.error fault)])
  | (d, .ok fleet) => (d, [d.task (fleet.checkClusters.bind fun _ => .done (.ok fleet))])

/-- The tasks of a request of the HTTP interface. -/
def beginAction (d : Deployment) : (action : Api.Action) → List (Task action.Part)
  | .operate operation => (operation.branches d.fleet).map d.task
  | .reply _ | .counters => []

/-- The tasks of a piece of work, over the fleet that is current now. -/
def begin (d : Deployment) : (work : Work) → Deployment × List (Task work.Part)
  | .operate operation => (d, (operation.branches d.fleet).map d.task)
  | .reload config => beginReload d config
  | .serve action _ => (d, beginAction d action)
  | .ask appliance call => (d, [d.task (.call appliance call .done)])
  | .checkJob client job => (d, [(client.checkJob job).run])
  | .awaitJob client job => (d, [(client.awaitJob job).run])
  | .submit client request => (d, [(client.submit request).run])
  | .select backend zone path => (d, [d.task (d.fleet.select backend zone path).run])
  | .checkClusters => (d, [d.task d.fleet.checkClusters])
  | .locate backend path => (d, [d.task (backend.locate path).run])
  | .isCluster backend => (d, [d.task backend.isCluster.run])
  | .license backend => (d, [d.task backend.license.run])

/-- The reply to an operation, with a log line if it failed. -/
def replyTo (d : Deployment) (operation : Operation) :
    operation.Outcome → Deployment × Api.Reply
  | .ok answer => (d, Api.replyTo operation answer)
  | .error fault => (d.report fault.report, .ofFault fault)

/-- The reply to a request of the HTTP interface. -/
def finishAction (d : Deployment) :
    (action : Api.Action) → List action.Part → Deployment × Api.Reply
  | .operate operation, parts => replyTo d operation (operation.conclude parts)
  | .reply reply, _ => (d, reply)
  | .counters, _ => (d, Api.countersReply d.counters)

/-- Leaves the content out of a reply if only the head was asked for. -/
def trimReply (bodiless : Bool) (reply : Api.Reply) : Api.Reply :=
  if bodiless then reply.head else reply

/-- Publishes a fleet that was built. -/
def publish (d : Deployment) : Except Fault Fleet → Deployment
  | .ok fleet => { d with fleet }
  | .error _ => d

/-- The answer of a piece of work, made of what its tasks found. -/
def finish (d : Deployment) : (work : Work) → List work.Part → Deployment × work.Answer
  | .operate operation, parts => (d, operation.conclude parts)
  | .reload _, parts => (publish d (Operation.only parts), Operation.only parts)
  | .serve action bodiless, parts =>
    let (d, reply) := finishAction d action parts
    (d, trimReply bodiless reply)
  | .ask _ _, parts => (d, Operation.only parts)
  | .checkJob .., parts | .isCluster _, parts => (d, Operation.only parts)
  | .awaitJob .., parts => (d, Operation.only parts)
  | .submit .., parts => (d, Operation.only parts)
  | .select .., parts => (d, Operation.only parts)
  | .checkClusters, _ => (d, ())
  | .locate .., parts => (d, Operation.only parts)
  | .license _, parts => (d, Operation.only parts)

/-- The name under which a piece of work can be cancelled, if it can be. -/
def cancelName : Work → Option String
  | .operate operation | .serve (.operate operation) _ => some operation.name
  | .reload _ => some "reload"
  | _ => none

/-- Whether a piece of work belongs to the HTTP interface and ends with it. -/
def isServed : Work → Bool
  | .serve .. => true
  | _ => false

/-- The answer of a piece of work that was cancelled; `none` if it cannot be. -/
def cancelled (d : Deployment) : (work : Work) → Option (Deployment × work.Answer)
  | .operate operation =>
    some (d.warn (operation.name ++ " cancelled"), .error (.cancelled operation.name))
  | .reload _ => some (d.warn "reload cancelled", .error (.cancelled "reload"))
  | .serve (.operate operation) bodiless =>
    let (d, reply) := replyTo (d.warn (operation.name ++ " cancelled")) operation
      (.error (.cancelled operation.name))
    some (d, trimReply bodiless reply)
  | _ => none

end Work
end StorageFleet
