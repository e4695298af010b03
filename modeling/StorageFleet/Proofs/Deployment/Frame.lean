import StorageFleet.Proofs.Client.Civil
import StorageFleet.Proofs.Deployment.Company
import StorageFleet.Proofs.Deployment.Scene

/-!
# What a move leaves alone

Each effect of a task changes one station, or none.  This module says what is at a station after
each of them, and what no move of a thread ever changes (`Thread.Moves.keeps`): which client is at
a station, the current fleet, and whether the HTTP interface is closed.

`Task.Ensures` bounds the stations that a task touches, and its results.  A civil task stays where
its clients and its appliances in memory are (`Civil.ensures`), and a thread keeps to the bounds of
its task with every move (`Moves.ensures`).
-/

namespace StorageFleet

/-! ## Stations after an effect -/

namespace Station

/-- The station after a call to its appliance in memory. -/
def after (call : Call) : Station → Station
  | .simulated appliance => .simulated (appliance.step call).2
  | .connected found => .connected found

/-- The station after a change of its client. -/
def adjust (change : Connected → Connected) : Station → Station
  | .simulated appliance => .simulated appliance
  | .connected found => .connected (change found)

end Station

namespace Deployment

variable {d : Deployment} {id : Nat}

lemma station?_setStation {old : Station} (h : d.station? id = some old) (station : Station)
    (other : Nat) : (d.setStation id station).station? other =
      if other = id then some station else d.station? other := by
  obtain ⟨hlt, -⟩ := List.getElem?_eq_some_iff.1 h
  unfold setStation station?
  by_cases hother : other = id
  · subst hother
    rw [if_pos rfl, List.getElem?_set_self hlt]
  · rw [if_neg hother, List.getElem?_set_ne (Ne.symm hother)]

lemma station?_of_connected? {connected : Connected} (h : d.connected? id = some connected) :
    d.station? id = some (.connected connected) := by
  obtain ⟨station, hstation, hconnected⟩ := Option.bind_eq_some_iff.1 h
  cases station with
  | simulated => cases hconnected
  | connected found =>
    cases hconnected
    exact hstation

lemma station?_of_simulated? {simulated : Simulated} (h : d.simulated? id = some simulated) :
    d.station? id = some (.simulated simulated) := by
  obtain ⟨station, hstation, hsimulated⟩ := Option.bind_eq_some_iff.1 h
  cases station with
  | connected => cases hsimulated
  | simulated found =>
    cases hsimulated
    exact hstation

/-- After a call there is the appliance in memory that the call has left behind. -/
lemma station?_perform (d : Deployment) (appliance : ApplianceRef) (call : Call) (other : Nat) :
    (d.perform appliance call).2.station? other =
      if other = appliance.id then (d.station? other).map (Station.after call)
      else d.station? other := by
  unfold perform
  split
  · next simulated hsimulated =>
    have hstation := station?_of_simulated? hsimulated
    have hreceived : (d.receive appliance.id (.call call)).station? appliance.id =
        some (.simulated simulated) := hstation
    refine (station?_setStation hreceived _ other).trans ?_
    split
    · next hother => rw [hother, hstation]; rfl
    · rfl
  · next hsimulated =>
    split
    · next hother =>
      subst hother
      cases hstation : d.station? appliance.id with
      | none => rfl
      | some station =>
        cases station with
        | simulated => simp [simulated?, hstation, Station.simulated?] at hsimulated
        | connected => rfl
    · rfl

lemma station?_adjust (d : Deployment) (id : Nat) (change : Connected → Connected) (other : Nat) :
    (d.adjust id change).station? other =
      if other = id then (d.station? other).map (Station.adjust change)
      else d.station? other := by
  unfold adjust
  split
  · next connected hconnected =>
    have hstation := station?_of_connected? hconnected
    refine (station?_setStation hstation _ other).trans ?_
    split
    · next hother => rw [hother, hstation]; rfl
    · rfl
  · next hconnected =>
    split
    · next hother =>
      subst hother
      cases hstation : d.station? other with
      | none => rfl
      | some station =>
        cases station with
        | simulated => rfl
        | connected => simp [connected?, hstation, Station.connected?] at hconnected
    · rfl

/-- A request changes a station as it changes the link there. -/
lemma station?_send (d : Deployment) (appliance : ApplianceRef) (request : Request) (other : Nat) :
    (d.send appliance request).2.2.station? other =
      (d.adjust appliance.id fun connected =>
        { connected with link := (connected.link.send request).2.2 }).station? other := by
  unfold send adjust
  cases d.connected? appliance.id <;> rfl

lemma station?_abandonLocks (d : Deployment) (thread other : Nat) :
    (d.abandonLocks thread).station? other =
      (d.station? other).map (Station.adjust fun connected =>
        { connected with lock := connected.lock.abandon thread }) := by
  unfold abandonLocks station?
  rw [List.getElem?_map]
  congr 1
  funext station
  cases station <;> rfl

/-! ## What no move changes -/

/-- The client at a station. -/
def client? (d : Deployment) (id : Nat) : Option Client :=
  (d.connected? id).map Connected.client

/-- What no effect of a task changes. -/
structure Keeps (before after : Deployment) : Prop where
  client?_eq : ∀ id, after.client? id = before.client? id
  fleet_eq : after.fleet = before.fleet
  closed_eq : after.closed = before.closed
  clock_eq : after.clock = before.clock
  nextThread_eq : after.nextThread = before.nextThread

lemma keeps_self (d : Deployment) : d.Keeps d :=
  ⟨fun _ => rfl, rfl, rfl, rfl, rfl⟩

lemma client?_eq_bind (d : Deployment) (id : Nat) :
    d.client? id = (d.station? id).bind fun station => station.connected?.map Connected.client := by
  unfold client? connected?
  cases d.station? id <;> rfl

lemma keeps_perform (d : Deployment) (appliance : ApplianceRef) (call : Call) :
    d.Keeps (d.perform appliance call).2 := by
  have hclient : ∀ id, (d.perform appliance call).2.client? id = d.client? id := by
    intro id
    rw [client?_eq_bind, client?_eq_bind, station?_perform]
    split
    · cases d.station? id with
      | none => rfl
      | some station => cases station <;> rfl
    · rfl
  unfold perform at hclient ⊢
  cases hsimulated : d.simulated? appliance.id with
  | none => exact d.keeps_self
  | some simulated =>
    simp only [hsimulated] at hclient
    exact ⟨hclient, rfl, rfl, rfl, rfl⟩

lemma keeps_adjust (d : Deployment) (id : Nat) {change : Connected → Connected}
    (hchange : ∀ connected, (change connected).client = connected.client) :
    d.Keeps (d.adjust id change) := by
  have hclient : ∀ other, (d.adjust id change).client? other = d.client? other := by
    intro other
    rw [client?_eq_bind, client?_eq_bind, station?_adjust]
    split
    · cases d.station? other with
      | none => rfl
      | some station =>
        cases station with
        | simulated => rfl
        | connected connected => exact congrArg some (hchange connected)
    · rfl
  unfold adjust at hclient ⊢
  cases hconnected : d.connected? id with
  | none => exact d.keeps_self
  | some connected =>
    simp only [hconnected] at hclient
    exact ⟨hclient, rfl, rfl, rfl, rfl⟩

lemma keeps_send (d : Deployment) (appliance : ApplianceRef) (request : Request) :
    d.Keeps (d.send appliance request).2.2 := by
  have hclient : ∀ other, (d.send appliance request).2.2.client? other = d.client? other := by
    intro other
    have hlink : d.Keeps (d.adjust appliance.id fun connected =>
        { connected with link := (connected.link.send request).2.2 }) :=
      d.keeps_adjust appliance.id fun _ => rfl
    rw [← hlink.client?_eq other, client?_eq_bind, client?_eq_bind, station?_send]
  unfold send at hclient ⊢
  cases hconnected : d.connected? appliance.id with
  | none => exact d.keeps_self
  | some connected =>
    simp only [hconnected] at hclient
    exact ⟨hclient, rfl, rfl, rfl, rfl⟩

lemma keeps_abandonLocks (d : Deployment) (thread : Nat) : d.Keeps (d.abandonLocks thread) := by
  refine ⟨fun id => ?_, rfl, rfl, rfl, rfl⟩
  rw [client?_eq_bind, client?_eq_bind, station?_abandonLocks]
  cases d.station? id with
  | none => rfl
  | some station => cases station <;> rfl

end Deployment

/-- A move of a thread keeps clients, the fleet, the clock and the HTTP interface. -/
theorem Thread.Moves.keeps {d d' : Deployment} {thread thread' : Thread α}
    {deed : Option (Nat × Deed)} (h : thread.Moves d deed d' thread') : d.Keeps d' := by
  cases h with
  | performs => exact d.keeps_perform _ _
  | sends => exact d.keeps_send _ _
  | acquires | queues | releases | settles => exact d.keeps_adjust _ fun _ => rfl
  | lapses => exact d.keeps_abandonLocks _
  | counts | warns => exact ⟨fun _ => rfl, rfl, rfl, rfl, rfl⟩
  | reads | sleeps | limits | unlimits | done | wakes | obtains => exact d.keeps_self

/-! ## Tasks that stay at some stations -/

namespace Task

/-- All stations that the task touches are of this kind, and so are its results, whatever it meets
with. -/
def Ensures (reach : Nat → Prop) (results : α → Prop) : Task α → Prop
  | .done result => results result
  | .perform appliance _ next =>
    reach appliance.id ∧ ∀ outcome, (next outcome).Ensures reach results
  | .send appliance _ next =>
    reach appliance.id ∧ ∀ answer, (next answer).Ensures reach results
  | .session appliance next =>
    reach appliance.id ∧ ∀ session, (next session).Ensures reach results
  | .acquire appliance next | .release appliance next | .settle appliance _ next =>
    reach appliance.id ∧ next.Ensures reach results
  | .limit _ late next => late.Ensures reach results ∧ next.Ensures reach results
  | .sleep _ next | .unlimit next | .count _ next | .warn _ next => next.Ensures reach results

variable {reach : Nat → Prop} {results : α → Prop} {values : β → Prop}

lemma Ensures.bind {task : Task α} {next : α → Task β} (h : task.Ensures reach results)
    (hnext : ∀ result, results result → (next result).Ensures reach values) :
    (task.bind next).Ensures reach values := by
  induction task with
  | done result => exact hnext result h
  | perform _ _ _ ih | send _ _ _ ih | session _ _ ih =>
    exact ⟨h.1, fun found => ih found (h.2 found)⟩
  | acquire _ _ ih | release _ _ ih | settle _ _ _ ih => exact ⟨h.1, ih h.2⟩
  | limit _ _ _ ihLate ih => exact ⟨ihLate h.1, ih h.2⟩
  | sleep _ _ ih | unlimit _ ih | count _ _ ih | warn _ _ ih => exact ih h

/-- A task at one appliance stays at its station. -/
lemma Attends.ensures {appliance : ApplianceRef} {task : Task α} {held ending : Bool}
    (h : task.Attends appliance held ending) (hreach : reach appliance.id) :
    task.Ensures reach fun _ => True := by
  induction task generalizing held with
  | done => trivial
  | perform => exact h.elim
  | send _ _ _ ih | session _ _ ih => exact ⟨h.1 ▸ hreach, fun found => ih found (h.2 found)⟩
  | acquire _ _ ih => exact ⟨h.1 ▸ hreach, ih h.2.2⟩
  | release _ _ ih | settle _ _ _ ih => exact ⟨h.1 ▸ hreach, ih h.2⟩
  | limit _ _ _ ihLate ih => exact ⟨ihLate h.1, ih h.2⟩
  | sleep _ _ ih | unlimit _ ih | count _ _ ih | warn _ _ ih => exact ih h

/-- A civil task stays where its clients and its appliances in memory are. -/
lemma Civil.ensures {clients : Client → Prop} {memory : ApplianceRef → Prop} {task : Task α}
    (h : task.Civil clients memory) (hclients : ∀ client, clients client → reach client.appliance.id)
    (hmemory : ∀ appliance, memory appliance → reach appliance.id) :
    task.Ensures reach fun _ => True := by
  induction h with
  | done => trivial
  | perform h _ ih => exact ⟨hmemory _ h, ih⟩
  | talk h _ ih =>
    exact ((Client.attends_sendAuthenticated _).ensures (hclients _ h)).bind fun outcome _ =>
      ih outcome
  | logIn h _ ih =>
    exact (Client.attends_logIn.ensures (hclients _ h)).bind fun outcome _ => ih outcome
  | limit _ _ ihLate ih => exact ⟨ihLate, ih⟩
  | sleep _ ih | unlimit _ ih | count _ ih | warn _ ih => exact ih

end Task

namespace Thread

variable {reach : Nat → Prop} {results : α → Prop}

/-- All stations that the thread touches from here on are of this kind, and so is its result. -/
structure Ensures (reach : Nat → Prop) (results : α → Prop) (thread : Thread α) : Prop where
  task : thread.task.Ensures reach results
  lock : ∀ station, thread.wait = .lock station → reach station
  late : ∀ limit, thread.limit = some limit → limit.2.Ensures reach results

/-- A thread that stays at some stations goes on to do so, and what it does is done there. -/
lemma Moves.ensures {d d' : Deployment} {thread thread' : Thread α} {deed : Option (Nat × Deed)}
    (h : thread.Moves d deed d' thread') (hensures : thread.Ensures reach results) :
    thread'.Ensures reach results ∧ ∀ done ∈ deed, reach done.1 := by
  obtain ⟨htask, hlock, hlate⟩ := hensures
  cases h with
  | performs | reads => exact ⟨⟨htask.2 _, by simp, hlate⟩, by simpa using htask.1⟩
  | sends =>
    refine ⟨⟨htask.2 _, ?_, hlate⟩, by simpa using htask.1⟩
    intro station hwait
    simp only [answerAfter] at hwait
    split at hwait <;> cases hwait
  | acquires | releases | settles => exact ⟨⟨htask.2, by simp, hlate⟩, by simpa using htask.1⟩
  | queues =>
    refine ⟨⟨htask.2, ?_, hlate⟩, by simp⟩
    rintro _ ⟨⟩
    exact htask.1
  | limits =>
    refine ⟨⟨htask.2, by simp, ?_⟩, by simp⟩
    rintro _ ⟨⟩
    exact htask.1
  | unlimits | done => exact ⟨⟨htask, by simp, by simp⟩, by simp⟩
  | sleeps | counts | warns | wakes => exact ⟨⟨htask, by simp, hlate⟩, by simp⟩
  | obtains => exact ⟨⟨htask, by simp, hlate⟩, by simpa using hlock _ rfl⟩
  | lapses => exact ⟨⟨hlate _ rfl, by simp, by simp⟩, by simp⟩

lemma Ensures.result {thread : Thread α} {result : α} (h : thread.Ensures reach results)
    (hresult : thread.result? = some result) : results result := by
  obtain ⟨id, task, wait, limit⟩ := thread
  cases task with
  | done found =>
    cases wait with
    | nothing =>
      cases hresult
      exact h.task
    | _ => cases hresult
  | _ => cases hresult

end Thread
end StorageFleet
