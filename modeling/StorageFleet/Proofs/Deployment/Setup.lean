import StorageFleet.Proofs.Deployment.Frame

/-!
# How work begins and ends

To begin a piece of work adds clients to a deployment, or nothing (`begin_employs`); a reload adds
the clients of a whole configuration at once (`addBackends_builds`).  To end it changes the current
fleet and the log at most (`finish_eq`), and to cancel it changes the log (`cancelled_eq`), after
the threads have given up what they had of locks.

Every client is at the station that it is for (`Wired`), and remains there.
-/

namespace StorageFleet

/-! ## New clients -/

/-- The clients of connections; their stations come one after the other from place `first` on. -/
def Connection.clients (first : Nat) : List Connection → List Client
  | [] => []
  | connection :: rest =>
    { appliance := ⟨first, connection.address⟩
      username := connection.username
      password := connection.password } :: clients (first + 1) rest

namespace Connection

lemma length_clients (first : Nat) (connections : List Connection) :
    (clients first connections).length = connections.length := by
  induction connections generalizing first with
  | nil => rfl
  | cons connection rest ih => simp [clients, ih]

lemma clients_append (first : Nat) (connections others : List Connection) :
    clients first (connections ++ others) =
      clients first connections ++ clients (first + connections.length) others := by
  induction connections generalizing first with
  | nil => rfl
  | cons connection rest ih =>
    simp only [List.cons_append, clients, ih, List.length_cons]
    rw [Nat.add_assoc, Nat.add_comm 1]

/-- The clients are for stations that follow each other. -/
lemma id_clients (first : Nat) (connections : List Connection) :
    (clients first connections).map (fun client => client.appliance.id) =
      List.range' first connections.length := by
  induction connections generalizing first with
  | nil => rfl
  | cons connection rest ih => simp [clients, ih, List.range'_succ]

lemma endpoint_clients (first : Nat) (connections : List Connection) :
    (clients first connections).map (fun client => client.appliance.endpoint) =
      connections.map address := by
  induction connections generalizing first with
  | nil => rfl
  | cons connection rest ih => simp [clients, ih]

end Connection

namespace Deployment

/-- Adds clients that have not said anything yet. -/
def employ (d : Deployment) (clients : List Client) : Deployment :=
  { d with stations := d.stations ++ clients.map fun client =>
      .connected { client, link := .unreachable } }

lemma employ_nil (d : Deployment) : d.employ [] = d := by
  simp [employ]

lemma employ_append (d : Deployment) (clients others : List Client) :
    d.employ (clients ++ others) = (d.employ clients).employ others := by
  simp [employ]

lemma connectAll_eq (d : Deployment) (connections : List Connection) :
    d.connectAll connections =
      (d.employ (Connection.clients d.stations.length connections),
        (Connection.clients d.stations.length connections).map Client.appliance) := by
  induction connections generalizing d with
  | nil => simp [connectAll, Connection.clients, employ_nil]
  | cons connection rest ih =>
    have hconnect : d.connect connection =
        (d.employ (Connection.clients d.stations.length [connection]),
          ⟨d.stations.length, connection.address⟩) := rfl
    have hlength : (d.employ (Connection.clients d.stations.length [connection])).stations.length =
        d.stations.length + 1 := by simp [employ, Connection.clients]
    rw [connectAll, hconnect]
    dsimp only
    rw [ih, hlength, ← employ_append]
    rfl

/-- Backends over clients that were made for them: one for each configured backend, in configured
order, with an appliance for each of its addresses, in order. -/
structure Builds (configured : List (String × BackendConfig)) (clients : List Client)
    (backends : List Backend) : Prop where
  settings : backends.map (fun backend => (backend.name, backend.config)) = configured
  endpoints : ∀ backend ∈ backends, backend.appliances.map ApplianceRef.endpoint =
    backend.config.connections.map Connection.address
  appliances : backends.flatMap Backend.appliances = clients.map Client.appliance

/-- Backends are made of new clients, and all of them if nothing fails. -/
lemma addBackends_builds (d : Deployment) (configured : List (String × BackendConfig)) :
    ∃ connections, (d.addBackends configured).1 =
        d.employ (Connection.clients d.stations.length connections) ∧
      ∀ backends, (d.addBackends configured).2 = .ok backends →
        connections = configured.flatMap (fun entry => entry.2.connections) ∧
        Builds configured (Connection.clients d.stations.length connections) backends := by
  induction configured generalizing d with
  | nil =>
    refine ⟨[], d.employ_nil.symm, ?_⟩
    rintro _ ⟨⟩
    exact ⟨rfl, rfl, by simp, rfl⟩
  | cons entry rest ih =>
    obtain ⟨name, config⟩ := entry
    simp only [addBackends, addBackend, connectAll_eq, Backend.ofAppliances]
    by_cases hnone :
        (Connection.clients d.stations.length config.connections).map Client.appliance = []
    · rw [dif_pos hnone]
      exact ⟨config.connections, rfl, by simp⟩
    · rw [dif_neg hnone]
      dsimp only
      obtain ⟨connections, hafter, hbuilds⟩ :=
        ih (d.employ (Connection.clients d.stations.length config.connections))
      have hlength : (d.employ (Connection.clients d.stations.length
          config.connections)).stations.length =
            d.stations.length + config.connections.length := by
        simp [employ, Connection.length_clients]
      rw [hlength] at hafter hbuilds
      refine ⟨config.connections ++ connections, ?_, ?_⟩
      · rw [hafter, Connection.clients_append, employ_append]
      · intro backends hbackends
        cases hrest : (addBackends (d.employ (Connection.clients d.stations.length
            config.connections)) rest).2 with
        | error fault =>
          rw [hrest] at hbackends
          cases hbackends
        | ok others =>
          rw [hrest] at hbackends
          cases hbackends
          obtain ⟨rfl, hothers⟩ := hbuilds others hrest
          refine ⟨rfl, ?_, ?_, ?_⟩
          · rw [List.map_cons, hothers.settings]
          · refine List.forall_mem_cons.2 ⟨?_, hothers.endpoints⟩
            exact (List.map_map ..).trans (Connection.endpoint_clients ..)
          · rw [List.flatMap_cons, hothers.appliances, Connection.clients_append, List.map_append]

/-! ## Clients at their stations -/

/-- Every client is found at the station that it is for. -/
def Wired (d : Deployment) : Prop :=
  ∀ id client, d.client? id = some client → client.appliance.id = id

variable {d d' : Deployment}

lemma Keeps.wired (h : d.Keeps d') (hwired : d.Wired) : d'.Wired := by
  intro id client hclient
  rw [h.client?_eq] at hclient
  exact hwired id client hclient

lemma wired_employ (hwired : d.Wired) (connections : List Connection) :
    (d.employ (Connection.clients d.stations.length connections)).Wired := by
  intro id client hclient
  rw [client?_eq_bind, station?, employ] at hclient
  dsimp only at hclient
  by_cases hid : id < d.stations.length
  · rw [List.getElem?_append_left hid] at hclient
    refine hwired id client ?_
    rw [client?_eq_bind]
    exact hclient
  · rw [List.getElem?_append_right (Nat.le_of_not_lt hid), List.getElem?_map] at hclient
    have hfound : (Connection.clients d.stations.length connections)[id - d.stations.length]? =
        some client := by
      revert hclient
      cases (Connection.clients d.stations.length connections)[id - d.stations.length]? with
      | none => simp
      | some found => simp [Station.connected?]
    have hmap := congrArg (fun list => list[id - d.stations.length]?)
      (Connection.id_clients d.stations.length connections)
    simp only [List.getElem?_map, hfound, Option.map_some] at hmap
    obtain ⟨hlt, heq⟩ := List.getElem?_eq_some_iff.1 hmap.symm
    rw [List.getElem_range'] at heq
    omega

end Deployment

/-! ## Beginning and ending -/

namespace Deployment

lemma Keeps.trans {d between d' : Deployment} (h : d.Keeps between) (hlater : between.Keeps d') :
    d.Keeps d' :=
  ⟨fun id => (hlater.client?_eq id).trans (h.client?_eq id), hlater.fleet_eq.trans h.fleet_eq,
    hlater.closed_eq.trans h.closed_eq, hlater.clock_eq.trans h.clock_eq,
    hlater.nextThread_eq.trans h.nextThread_eq⟩

lemma keeps_turn (d : Deployment) (station : Nat) (link : Link) :
    d.Keeps (d.adjust station fun connected => { connected with link }) :=
  d.keeps_adjust station fun _ => rfl

lemma keeps_abandonAll (d : Deployment) (threads : List (Thread α)) :
    d.Keeps (Thread.abandonAll d threads) := by
  induction threads generalizing d with
  | nil => exact d.keeps_self
  | cons thread rest ih => exact (d.keeps_abandonLocks thread.id).trans (ih _)

end Deployment

namespace Work

variable {d d' : Deployment} {work : Work}

/-- To begin adds clients, or nothing. -/
lemma begin_employs (d : Deployment) (work : Work) : ∃ connections,
    (work.begin d).1 = d.employ (Connection.clients d.stations.length connections) := by
  cases work with
  | reload config =>
    obtain ⟨connections, hafter, -⟩ := d.addBackends_builds config.backends
    refine ⟨connections, Eq.trans ?_ hafter⟩
    simp only [begin, beginReload, Deployment.addFleet]
    cases d.addBackends config.backends with
    | mk after built => cases built <;> rfl
  | _ => exact ⟨[], d.employ_nil.symm⟩

/-- To end work changes the fleet and the log at most. -/
lemma finish_eq (d : Deployment) (work : Work) (parts : List work.Part) :
    ∃ fleet log, (work.finish d parts).1 = { d with fleet, log } := by
  cases work with
  | reload config =>
    simp only [finish, publish]
    cases Operation.only parts with
    | error fault => exact ⟨d.fleet, d.log, rfl⟩
    | ok fleet => exact ⟨fleet, d.log, rfl⟩
  | serve action bodiless =>
    cases action with
    | operate operation =>
      simp only [finish, finishAction, replyTo]
      cases operation.conclude parts with
      | error fault => exact ⟨d.fleet, _, rfl⟩
      | ok answer => exact ⟨d.fleet, d.log, rfl⟩
    | reply | counters => exact ⟨d.fleet, d.log, rfl⟩
  | _ => exact ⟨d.fleet, d.log, rfl⟩

/-- To cancel work changes the log at most. -/
lemma cancelled_eq {answer : work.Answer} (h : work.cancelled d = some (d', answer)) :
    ∃ log, d' = { d with log } := by
  cases work with
  | operate | reload =>
    cases h
    exact ⟨_, rfl⟩
  | serve action =>
    cases action with
    | operate =>
      cases h
      exact ⟨_, rfl⟩
    | reply | counters => cases h
  | _ => cases h

lemma keeps_cancelled {answer : work.Answer} (h : work.cancelled d = some (d', answer)) :
    d.Keeps d' := by
  obtain ⟨log, rfl⟩ := cancelled_eq h
  exact ⟨fun _ => rfl, rfl, rfl, rfl, rfl⟩

end Work

namespace Scene

variable {scene later : Scene} {entry : Option Entry}

/-- A job that begins adds clients, and takes a number for each of its threads. -/
lemma Begins.deployment_eq {i : Nat} {job : Job} (h : scene.Begins i job later) : ∃ connections,
    later.deployment =
      { scene.deployment.employ
          (Connection.clients scene.deployment.stations.length connections) with
        nextThread := scene.deployment.nextThread +
          (job.work.begin scene.deployment).2.length } := by
  obtain ⟨-, -, -, -, rfl⟩ := h
  obtain ⟨connections, hbegin⟩ := job.work.begin_employs scene.deployment
  refine ⟨connections, ?_⟩
  simp only [Job.startThreads]
  rw [hbegin]
  rfl

/-- The client of a station stays there. -/
lemma Next.wired (h : Next scene entry later) (hwired : scene.deployment.Wired) :
    later.deployment.Wired := by
  cases h with
  | begins hbegins =>
    obtain ⟨connections, hbegun⟩ := hbegins.deployment_eq
    rw [hbegun]
    exact Deployment.wired_employ hwired connections
  | resumes | rests | cancels | waits | closes => exact hwired
  | moves _ _ _ _ hmoves => exact hmoves.keeps.wired hwired
  | @ends d jobs active i job threads parts =>
    obtain ⟨fleet, log, hfinish⟩ := job.work.finish_eq d parts
    dsimp only
    rw [hfinish]
    exact hwired
  | gives _ _ _ _ hcancelled =>
    exact ((Deployment.keeps_abandonAll _ _).trans (Work.keeps_cancelled hcancelled)).wired hwired
  | turns station link => exact (Deployment.keeps_turn _ station link).wired hwired

lemma Leads.wired {entries : List Entry} (h : scene.Leads entries later)
    (hwired : scene.deployment.Wired) : later.deployment.Wired := by
  induction h with
  | here => exact hwired
  | step _ hnext ih => exact hnext.wired ih

end Scene
end StorageFleet
