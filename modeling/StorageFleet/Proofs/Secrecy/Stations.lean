import StorageFleet.Proofs.Secrecy.Operations
import StorageFleet.Proofs.Secrecy.Tasks

/-!
# Deployments with other passwords

To rekey a deployment is to rekey its clients, its fleet, and the logins among the requests that it
has received.  Each effect of a task does the same to a rekeyed deployment: links answer by the
method, the path and the token of a request, and nothing else of a client is looked at but what it
sends.  The tasks of plans are rekeyed too (`Deployment.task_rekey`), and a configuration with other
passwords becomes the same fleet with other passwords (`Deployment.addFleet_rekey`).
-/

namespace StorageFleet

variable (f : String → String)

/-! ## What is rekeyed -/

/-- The station with another password. -/
def Connected.rekey (connected : Connected) : Connected :=
  { connected with client := connected.client.rekey f }

/-- The station with another password, if it is one that a client connects to. -/
def Station.rekey : Station → Station
  | .simulated appliance => .simulated appliance
  | .connected station => .connected (station.rekey f)

/-- What was received, with another password if it was a login. -/
def Received.rekey : Received → Received
  | .call asked => .call asked
  | .request time sent => .request time (sent.rekey f)

/-- The deployment with other passwords. -/
def Deployment.rekey (d : Deployment) : Deployment :=
  { d with
    stations := d.stations.map (Station.rekey f)
    fleet := d.fleet.rekey f
    received := d.received.map (Prod.map id (Received.rekey f)) }

/-! ## Links -/

namespace Rule

lemma fits_rekey (rule : Rule) (request : Request) :
    rule.fits (request.rekey f) = rule.fits request := by
  simp only [fits, Request.rekey_method, Request.rekey_path, Request.rekey_token]

end Rule

lemma answerByScript_rekey (request : Request) (rules : List Rule) :
    answerByScript (request.rekey f) rules = answerByScript request rules := by
  induction rules with
  | nil => rfl
  | cons rule rest ih => simp only [answerByScript, Rule.fits_rekey, ih]

/-- A link does not answer by a password. -/
lemma Link.send_rekey (request : Request) (link : Link) :
    link.send (request.rekey f) = link.send request := by
  cases link with
  | scripted rules => simp only [Link.send, answerByScript_rekey]
  | unreachable => rfl

namespace Deployment

variable (d : Deployment)

/-! ## Stations -/

lemma station?_rekey (id : Nat) :
    (d.rekey f).station? id = (d.station? id).map (Station.rekey f) :=
  List.getElem?_map

lemma connected?_rekey (id : Nat) :
    (d.rekey f).connected? id = (d.connected? id).map (Connected.rekey f) := by
  rw [connected?, connected?, station?_rekey]
  cases d.station? id with
  | none => rfl
  | some station => cases station <;> rfl

lemma simulated?_rekey (id : Nat) : (d.rekey f).simulated? id = d.simulated? id := by
  rw [simulated?, simulated?, station?_rekey]
  cases d.station? id with
  | none => rfl
  | some station => cases station <;> rfl

lemma setStation_rekey (id : Nat) (station : Station) :
    (d.rekey f).setStation id (station.rekey f) = (d.setStation id station).rekey f := by
  simp only [setStation, rekey, List.map_set]

lemma receive_rekey (id : Nat) (received : Received) :
    (d.rekey f).receive id (received.rekey f) = (d.receive id received).rekey f := by
  simp only [receive, rekey, List.map_append]
  rfl

lemma adjust_rekey {change : Connected → Connected}
    (h : ∀ connected, change (connected.rekey f) = (change connected).rekey f) (id : Nat) :
    (d.rekey f).adjust id change = (d.adjust id change).rekey f := by
  rw [adjust, adjust, connected?_rekey]
  cases d.connected? id with
  | none => rfl
  | some connected =>
    refine Eq.trans ?_ (d.setStation_rekey f id (.connected (change connected)))
    exact congrArg (setStation _ id) (congrArg Station.connected (h connected))

/-- A link that answers in another way does so whatever the password of the client is. -/
lemma adjust_link_rekey (id : Nat) (link : Link) :
    (d.rekey f).adjust id (fun connected => { connected with link }) =
      (d.adjust id fun connected => { connected with link }).rekey f :=
  d.adjust_rekey f (by intro _; rfl) id

/-! ## Effects -/

lemma session_rekey (id : Nat) : (d.rekey f).session id = d.session id := by
  rw [session, session, connected?_rekey, Option.map_map]
  rfl

lemma hasLock_rekey (id thread : Nat) : (d.rekey f).hasLock id thread = d.hasLock id thread := by
  rw [hasLock, hasLock, connected?_rekey]
  cases d.connected? id <;> rfl

lemma requestLock_rekey (id thread : Nat) :
    (d.rekey f).requestLock id thread = (d.requestLock id thread).rekey f :=
  d.adjust_rekey f (by intro _; rfl) id

lemma releaseLock_rekey (id thread : Nat) :
    (d.rekey f).releaseLock id thread = (d.releaseLock id thread).rekey f :=
  d.adjust_rekey f (by intro _; rfl) id

lemma settle_rekey (id : Nat) (outcome : Except String String) :
    (d.rekey f).settle id outcome = (d.settle id outcome).rekey f :=
  d.adjust_rekey f (by intro _; rfl) id

lemma abandonLocks_rekey (thread : Nat) :
    (d.rekey f).abandonLocks thread = (d.abandonLocks thread).rekey f := by
  simp only [abandonLocks, rekey, List.map_map]
  congr 1
  refine List.map_congr_left fun station _ => ?_
  cases station <;> rfl

/-- A call finds the same and does the same. -/
lemma perform_rekey (appliance : ApplianceRef) (call : Call) :
    (d.rekey f).perform appliance call =
      ((d.perform appliance call).1, (d.perform appliance call).2.rekey f) := by
  rw [perform, perform, simulated?_rekey]
  cases d.simulated? appliance.id with
  | none => rfl
  | some simulated =>
    refine Prod.ext rfl ?_
    dsimp only
    rw [← setStation_rekey, ← receive_rekey]
    rfl

/-- A request with another password is answered in the same way. -/
lemma send_rekey (appliance : ApplianceRef) (request : Request) :
    (d.rekey f).send appliance (request.rekey f) =
      ((d.send appliance request).1, (d.send appliance request).2.1,
        (d.send appliance request).2.2.rekey f) := by
  rw [send, send, connected?_rekey]
  cases d.connected? appliance.id with
  | none => rfl
  | some connected =>
    have hlink : (connected.rekey f).link.send (request.rekey f) =
        connected.link.send request := Link.send_rekey f request connected.link
    simp only [Option.map_some, hlink]
    refine Prod.ext rfl (Prod.ext rfl ?_)
    dsimp only
    rw [← setStation_rekey, ← receive_rekey]
    rfl

/-! ## Plans -/

lemma carryOut_rekey (appliance : ApplianceRef) :
    (d.rekey f).carryOut appliance =
      (d.carryOut appliance).map fun answer call => (answer call).rekey f id := by
  rw [carryOut, carryOut, connected?_rekey, Option.map_map, Option.map_map]
  refine congrArg (Option.map · _) (funext fun connected => funext fun call => ?_)
  exact congrArg ExceptT.run (connected.client.answer_rekey f call)

/-- A plan that finds the same becomes the same task, rekeyed. -/
theorem task_rekey (plan : Plan α) (g : α → β) :
    (d.rekey f).task (g <$> plan) = (d.task plan).rekey f g := by
  induction plan with
  | done result => rfl
  | call appliance asked next ih =>
    change Plan.toTask _ (.call appliance asked fun outcome => g <$> next outcome) = _
    rw [Plan.toTask, carryOut_rekey, task, Plan.toTask]
    cases d.carryOut appliance with
    | none => exact congrArg (Task.perform appliance asked) (funext ih)
    | some answer =>
      refine Eq.trans ?_ (Task.rekey_bind f (answer asked) _ g).symm
      exact congrArg (Task.bind _) (funext ih)
  | warn line next ih => exact congrArg (Task.warn line) ih

lemma task_rekey_id (plan : Plan α) : (d.rekey f).task plan = (d.task plan).rekey f id := by
  rw [← task_rekey, id_map]

/-! ## Setting up -/

lemma connect_rekey (connection : Connection) :
    (d.rekey f).connect (connection.rekey f) =
      ((d.connect connection).1.rekey f, (d.connect connection).2) := by
  simp only [connect, addStation, rekey, List.length_map, List.map_append]
  rfl

lemma connectAll_rekey (connections : List Connection) :
    (d.rekey f).connectAll (connections.map (Connection.rekey f)) =
      ((d.connectAll connections).1.rekey f, (d.connectAll connections).2) := by
  induction connections generalizing d with
  | nil => rfl
  | cons connection rest ih => simp only [List.map_cons, connectAll, connect_rekey, ih]

lemma addBackend_rekey (name : String) (config : BackendConfig) :
    (d.rekey f).addBackend name (config.rekey f) =
      ((d.addBackend name config).1.rekey f,
        (d.addBackend name config).2.map (Backend.rekey f)) := by
  rw [addBackend, BackendConfig.connections_rekey, connectAll_rekey]
  refine Prod.ext rfl ?_
  dsimp only [addBackend, Backend.ofAppliances]
  split_ifs <;> rfl

lemma addBackends_rekey (backends : List (String × BackendConfig)) :
    (d.rekey f).addBackends (backends.map fun entry => (entry.1, entry.2.rekey f)) =
      ((d.addBackends backends).1.rekey f,
        (d.addBackends backends).2.map (List.map (Backend.rekey f))) := by
  induction backends generalizing d with
  | nil => rfl
  | cons entry rest ih =>
    rw [List.map_cons, addBackends, addBackends, addBackend_rekey]
    rcases d.addBackend entry.1 entry.2 with ⟨d, fault | backend⟩
    · rfl
    · simp only [Except.map, ih]
      refine Prod.ext rfl ?_
      cases (d.addBackends rest).2 <;> rfl

/-- A configuration with other passwords becomes the same fleet, rekeyed. -/
theorem addFleet_rekey (config : Config) :
    (d.rekey f).addFleet (config.rekey f) =
      ((d.addFleet config).1.rekey f, (d.addFleet config).2.map (Fleet.rekey f)) := by
  rw [addFleet, Config.rekey, addBackends_rekey]
  refine Prod.ext rfl ?_
  dsimp only [addFleet]
  cases (d.addBackends config.backends).2 <;> rfl

end Deployment
end StorageFleet
