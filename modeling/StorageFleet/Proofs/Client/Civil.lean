import StorageFleet.Proofs.Plan.Network
import StorageFleet.Proofs.Plan.Transcript
import StorageFleet.Deployment.Work

/-!
# Civil tasks

Whatever runs on a deployment touches the sessions and the login locks of appliances in two ways
only: a client talks an authenticated request over, or it logs in.  `Task.Civil` are the tasks that
are made of these, of calls to appliances in memory, and of steps that touch no station.

A plan becomes a civil task (`civil_task`), in which each client that talks was found at the station
of an appliance that the plan asks; and so does all work (`civil_begin`).  What has to hold of
every task is then proved of talks and logins.
-/

namespace StorageFleet

namespace Task

/-- Tasks that touch sessions and login locks only where one of these clients sends an authenticated
request or logs in, and that call only these appliances in memory. -/
inductive Civil (clients : Client → Prop) (memory : ApplianceRef → Prop) : Task α → Prop
  | done (result) : Civil clients memory (.done result)
  | perform {appliance call next} (h : memory appliance)
      (civil : ∀ outcome, Civil clients memory (next outcome)) :
      Civil clients memory (.perform appliance call next)
  | talk {client request k} (h : clients client)
      (civil : ∀ outcome, Civil clients memory (k outcome)) :
      Civil clients memory ((client.sendAuthenticated request).run.bind k)
  | logIn {client k} (h : clients client) (civil : ∀ outcome, Civil clients memory (k outcome)) :
      Civil clients memory (client.logIn.run.bind k)
  | sleep {span next} (civil : Civil clients memory next) : Civil clients memory (.sleep span next)
  | limit {span late next} (civilLate : Civil clients memory late)
      (civil : Civil clients memory next) : Civil clients memory (.limit span late next)
  | unlimit {next} (civil : Civil clients memory next) : Civil clients memory (.unlimit next)
  | count {counter next} (civil : Civil clients memory next) :
      Civil clients memory (.count counter next)
  | warn {line next} (civil : Civil clients memory next) : Civil clients memory (.warn line next)

variable {clients others : Client → Prop} {memory places : ApplianceRef → Prop}

lemma Civil.bind {task : Task α} {next : α → Task β} (h : task.Civil clients memory)
    (hnext : ∀ result, (next result).Civil clients memory) :
    (task.bind next).Civil clients memory := by
  induction h with
  | done result => exact hnext result
  | perform h _ ih => exact .perform h ih
  | talk h _ ih =>
    rw [bind_assoc]
    exact .talk h ih
  | logIn h _ ih =>
    rw [bind_assoc]
    exact .logIn h ih
  | sleep _ ih => exact .sleep ih
  | limit _ _ ihLate ih => exact .limit ihLate ih
  | unlimit _ ih => exact .unlimit ih
  | count _ ih => exact .count ih
  | warn _ ih => exact .warn ih

lemma Civil.mono {task : Task α} (h : task.Civil clients memory)
    (hclients : ∀ client, clients client → others client)
    (hmemory : ∀ appliance, memory appliance → places appliance) : task.Civil others places := by
  induction h with
  | done result => exact .done result
  | perform h _ ih => exact .perform (hmemory _ h) ih
  | talk h _ ih => exact .talk (hclients _ h) ih
  | logIn h _ ih => exact .logIn (hclients _ h) ih
  | sleep _ ih => exact .sleep ih
  | limit _ _ ihLate ih => exact .limit ihLate ih
  | unlimit _ ih => exact .unlimit ih
  | count _ ih => exact .count ih
  | warn _ ih => exact .warn ih

end Task

/-- An exchange is civil if its parts are. -/
lemma Exchange.civil_bind {clients : Client → Prop} {memory : ApplianceRef → Prop}
    {first : Exchange α} {next : α → Exchange β} (h : first.run.Civil clients memory)
    (hnext : ∀ value, (next value).run.Civil clients memory) :
    (first >>= next).run.Civil clients memory := by
  apply Task.Civil.bind h
  rintro (fault | value)
  · exact .done _
  · exact hnext value

/-! ## What a client does -/

namespace Client

variable {client : Client}

/-- A task in which this client alone has a part. -/
abbrev Civil (client : Client) (task : Task α) : Prop :=
  task.Civil (· = client) fun _ => False

lemma civil_sendAuthenticated (request : Request) :
    client.Civil (client.sendAuthenticated request).run := by
  rw [← Task.bind_done (client.sendAuthenticated request).run]
  exact .talk rfl .done

lemma civil_logIn : client.Civil client.logIn.run := by
  rw [← Task.bind_done client.logIn.run]
  exact .logIn rfl .done

lemma civil_checkJob (job : String) : client.Civil (client.checkJob job).run :=
  Exchange.civil_bind (civil_sendAuthenticated _) fun _ => .done _

lemma civil_pollJob (job : String) (rounds : Nat) :
    client.Civil (client.pollJob job rounds).run := by
  induction rounds with
  | zero => exact .done _
  | succ rounds ih =>
    refine .sleep (Exchange.civil_bind (civil_checkJob job) fun isDone => ?_)
    cases isDone with
    | true => exact .done _
    | false => exact ih

lemma civil_reportJob (job : String) (outcome : Except Fault Unit) :
    client.Civil (client.reportJob job outcome) := by
  cases outcome with
  | error fault => exact .count (.warn (.done _))
  | ok _ => exact .count (.done _)

lemma civil_awaitJob (job : String) : client.Civil (client.awaitJob job).run := by
  refine Task.Civil.bind (.limit (.done _) ?_) (civil_reportJob job)
  exact (civil_pollJob job _).bind fun _ => .unlimit (.done _)

lemma civil_submit (request : Request) : client.Civil (client.submit request).run := by
  refine Exchange.civil_bind (civil_sendAuthenticated request) fun response => ?_
  split
  · refine Exchange.civil_bind (.done _) fun job => ?_
    exact Exchange.civil_bind (civil_awaitJob job) fun _ => .done _
  · split
    · exact .done _
    · exact .done _

lemma civil_order (method path : String) (body : Option Json) :
    client.Civil (client.order method path body).run :=
  Exchange.civil_bind (civil_submit _) fun _ => .done _

lemma civil_fetch (reader : Reader α) (path : String) :
    client.Civil (client.fetch reader path).run :=
  Exchange.civil_bind (civil_submit _) fun _ => .done _

lemma civil_fetchFirst (reader : Reader α) (kind path uri : String) :
    client.Civil (client.fetchFirst reader kind path uri).run := by
  refine Exchange.civil_bind (civil_fetch _ _) fun found => ?_
  cases found with
  | nil => exact .done _
  | cons => exact .done _

lemma civil_childrenFrom (parent : String) (pages offset : Nat) :
    client.Civil (client.childrenFrom parent pages offset).run := by
  induction pages generalizing offset with
  | zero => exact .done _
  | succ pages ih =>
    refine Exchange.civil_bind (civil_fetch _ _) fun page => ?_
    dsimp only
    split
    · exact .done _
    · exact Exchange.civil_bind (ih _) fun _ => .done _

lemma civil_promoteNewestClone (path : String) :
    client.Civil (client.promoteNewestClone path).run := by
  refine Exchange.civil_bind (civil_fetch _ _) fun snapshots => ?_
  split
  · exact civil_order _ _ _
  · exact .done _

lemma civil_destroyFilesystem (path : String) (snapshots promote : Bool) :
    client.Civil (client.destroyFilesystem path snapshots promote).run := by
  cases promote with
  | true =>
    exact Exchange.civil_bind (civil_promoteNewestClone path) fun _ => civil_order _ _ _
  | false => exact civil_order _ _ _

theorem civil_answer (call : Call) : client.Civil (client.answer call).run := by
  cases call with
  | logIn => exact civil_logIn
  | getFilesystems parent => exact civil_childrenFrom parent _ _
  | getFilesystem | getSnapshot => exact civil_fetchFirst _ _ _ _
  | destroyFilesystem path snapshots promote => exact civil_destroyFilesystem path snapshots promote
  | getPools | getSnapshots | getLicense | getClusters => exact civil_fetch _ _
  | getAvailable => exact Exchange.civil_bind (civil_fetchFirst _ _ _ _) fun _ => .done _
  | getSmbShareName => exact Exchange.civil_bind (civil_fetch _ _) fun _ => .done _
  | createFilesystem | updateFilesystem | promoteFilesystem | setAccess | createNfsShare
  | deleteNfsShare | createSmbShare | deleteSmbShare | createSnapshot | destroySnapshot
  | cloneSnapshot => exact civil_order _ _ _

end Client

/-! ## What work does -/

namespace Deployment

variable {d : Deployment} {reach : ApplianceRef → Prop}

/-- The client was found at the station of such an appliance. -/
def Employs (d : Deployment) (reach : ApplianceRef → Prop) (client : Client) : Prop :=
  ∃ appliance connected, reach appliance ∧ d.connected? appliance.id = some connected ∧
    connected.client = client

/-- The task of a plan is civil: its clients are those of the appliances that the plan asks. -/
theorem civil_task {plan : Plan α} (h : plan.Asks fun appliance _ => reach appliance) :
    (d.task plan).Civil (d.Employs reach) reach := by
  induction plan with
  | done result => exact .done result
  | warn line rest ih => exact .warn (ih h)
  | call appliance asked rest ih =>
    rw [task, Plan.toTask, carryOut]
    cases hstation : d.connected? appliance.id with
    | none => exact .perform h.1 fun outcome => ih outcome (h.2 outcome)
    | some connected =>
      refine Task.Civil.bind ?_ fun outcome => ih outcome (h.2 outcome)
      refine (connected.client.civil_answer asked).mono ?_ fun _ => False.elim
      rintro _ rfl
      exact ⟨appliance, connected, h.1, hstation, rfl⟩

end Deployment

/-- Work is made of civil tasks. -/
theorem Work.civil_begin (d : Deployment) (work : Work) :
    ∀ task ∈ (work.begin d).2, task.Civil (fun _ => True) fun _ => True := by
  have hplan {β : Type} (d : Deployment) (plan : Plan β) :
      (d.task plan).Civil (fun _ => True) fun _ => True := by
    have hasks : plan.Asks fun _ _ => True := by
      rw [Plan.asks_iff]
      exact fun _ _ _ _ _ => trivial
    exact (Deployment.civil_task hasks).mono (fun _ _ => trivial) fun _ _ => trivial
  have hclient {β : Type} {client : Client} {task : Task β} (h : client.Civil task) :
      task.Civil (fun _ => True) fun _ => True :=
    h.mono (fun _ _ => trivial) fun _ _ => trivial
  intro task htask
  cases work with
  | operate operation =>
    obtain ⟨plan, -, rfl⟩ := List.mem_map.1 htask
    exact hplan d plan
  | serve action bodiless =>
    cases action with
    | operate operation =>
      obtain ⟨plan, -, rfl⟩ := List.mem_map.1 htask
      exact hplan d plan
    | reply | counters => cases htask
  | reload config =>
    simp only [Work.begin, Work.beginReload] at htask
    split at htask
    · obtain rfl := List.mem_singleton.1 htask
      exact .done _
    · obtain rfl := List.mem_singleton.1 htask
      exact hplan _ _
  | checkJob client job =>
    obtain rfl := List.mem_singleton.1 htask
    exact hclient (client.civil_checkJob job)
  | awaitJob client job =>
    obtain rfl := List.mem_singleton.1 htask
    exact hclient (client.civil_awaitJob job)
  | submit client request =>
    obtain rfl := List.mem_singleton.1 htask
    exact hclient (client.civil_submit request)
  | ask | select | checkClusters | locate | isCluster | license =>
    obtain rfl := List.mem_singleton.1 htask
    exact hplan d _

end StorageFleet
