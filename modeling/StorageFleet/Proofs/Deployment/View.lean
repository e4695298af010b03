import StorageFleet.Deployment.Thread
import StorageFleet.Proofs.Task.Crowd

/-!
# What a deployment shows of one appliance

`Deployment.view?` is the part of a deployment that the tasks at one appliance read and write: the
session, the login lock with its queue, the requests that the appliance has received, and how often
its sessions were renewed.  Each single effect of a task is one change of this view.

The login lock of a crowd has an owner and no queue.  `Lock.Suits` says when a lock with a queue is
as good as that: whoever has the lock and still waits, because it was handed the lock and has not
been visited since, does not own it yet.
-/

namespace StorageFleet
open StorageFleet.Task (Event)

/-! ## Views -/

/-- What a deployment shows of one appliance. -/
structure View where
  session : Session
  lock : Lock
  /-- The requests that the appliance has received, in order. -/
  requests : List Request
  relogins : Nat

/-- The request, if it is one. -/
def Received.request? : Received → Option Request
  | .request _ sent => some sent
  | .call _ => none

namespace Deployment

/-- The requests that a station has received, in order. -/
def requestsAt (d : Deployment) (id : Nat) : List Request :=
  d.received.filterMap fun entry => if entry.1 = id then entry.2.request? else none

/-- What a deployment shows of an appliance that is connected. -/
def view? (d : Deployment) (appliance : ApplianceRef) : Option View :=
  (d.connected? appliance.id).map fun connected =>
    { session := connected.session
      lock := connected.lock
      requests := d.requestsAt appliance.id
      relogins := d.counters.reloginsOf appliance.endpoint }

variable {d : Deployment} {appliance : ApplianceRef} {view : View}

lemma connected?_setStation {id : Nat} {connected : Connected}
    (h : d.connected? id = some connected) (station : Station) :
    (d.setStation id station).connected? id = station.connected? := by
  have hlt : id < d.stations.length := by
    by_contra hle
    have hnone : d.stations[id]? = none := List.getElem?_eq_none (Nat.not_lt.1 hle)
    simp [connected?, station?, hnone] at h
  simp [connected?, station?, setStation, List.getElem?_set_self hlt]

lemma view?_eq_some (h : d.view? appliance = some view) :
    ∃ connected, d.connected? appliance.id = some connected ∧
      view = { session := connected.session, lock := connected.lock,
               requests := d.requestsAt appliance.id,
               relogins := d.counters.reloginsOf appliance.endpoint } := by
  obtain ⟨connected, hconnected, rfl⟩ := Option.map_eq_some_iff.1 h
  exact ⟨connected, hconnected, rfl⟩

/-- A change of the connected station changes the session and the lock only. -/
lemma view?_adjust (h : d.view? appliance = some view) (change : Connected → Connected)
    {session : Session} {lock : Lock}
    (hchange : ∀ connected : Connected, connected.session = view.session →
      connected.lock = view.lock →
        (change connected).session = session ∧ (change connected).lock = lock) :
    (d.adjust appliance.id change).view? appliance =
      some { view with session := session, lock := lock } := by
  obtain ⟨connected, hconnected, rfl⟩ := view?_eq_some h
  obtain ⟨hsession, hlock⟩ := hchange connected rfl rfl
  simp only [adjust, hconnected, view?, connected?_setStation hconnected, Station.connected?,
    Option.map_some, hsession, hlock]
  rfl

lemma view?_settle (h : d.view? appliance = some view) (outcome : Except String String) :
    (d.settle appliance.id outcome).view? appliance =
      some { view with session := view.session.settle outcome } :=
  view?_adjust h _ fun _ hsession hlock => ⟨by rw [hsession], hlock⟩

lemma view?_requestLock (h : d.view? appliance = some view) (i : Nat) :
    (d.requestLock appliance.id i).view? appliance =
      some { view with lock := view.lock.request i } :=
  view?_adjust h _ fun _ hsession hlock => ⟨hsession, by rw [hlock]⟩

lemma view?_releaseLock (h : d.view? appliance = some view) (i : Nat) :
    (d.releaseLock appliance.id i).view? appliance =
      some { view with lock := view.lock.abandon i } :=
  view?_adjust h _ fun _ hsession hlock => ⟨hsession, by rw [hlock]⟩

lemma view?_abandonLocks (h : d.view? appliance = some view) (i : Nat) :
    (d.abandonLocks i).view? appliance = some { view with lock := view.lock.abandon i } := by
  obtain ⟨connected, hconnected, rfl⟩ := view?_eq_some h
  obtain ⟨station, hstation, hstation'⟩ := Option.bind_eq_some_iff.1 hconnected
  cases station with
  | simulated => cases hstation'
  | connected found =>
    cases hstation'
    have hfound : d.stations[appliance.id]? = some (.connected connected) := hstation
    simp [view?, connected?, station?, abandonLocks, List.getElem?_map, hfound,
      Station.connected?, requestsAt]

lemma view?_send (h : d.view? appliance = some view) (request : Request) :
    (d.send appliance request).2.2.view? appliance =
      some { view with requests := view.requests ++ [request] } := by
  obtain ⟨connected, hconnected, rfl⟩ := view?_eq_some h
  have hreceived : (d.receive appliance.id (.request d.clock request)).connected? appliance.id =
      some connected := hconnected
  have hrequests : (d.receive appliance.id (.request d.clock request)).requestsAt appliance.id =
      d.requestsAt appliance.id ++ [request] := by
    simp [requestsAt, receive, Received.request?]
  simp only [send, hconnected, view?, connected?_setStation hreceived, Station.connected?,
    Option.map_some, ← hrequests]
  rfl

lemma view?_count (h : d.view? appliance = some view) (counter : Counter) :
    (d.count counter).view? appliance = some
      { view with relogins :=
          view.relogins + if counter = .relogin appliance.endpoint then 1 else 0 } := by
  obtain ⟨connected, hconnected, rfl⟩ := view?_eq_some h
  have hcounted : (d.count counter).connected? appliance.id = some connected := hconnected
  simp only [view?, hcounted, Option.map_some]
  simp only [count, Counters.reloginsOf_add]
  rfl

lemma session_eq (h : d.view? appliance = some view) : d.session appliance.id = view.session := by
  obtain ⟨connected, hconnected, rfl⟩ := view?_eq_some h
  simp [session, hconnected]

lemma hasLock_iff (h : d.view? appliance = some view) (i : Nat) :
    d.hasLock appliance.id i = true ↔ view.lock.owner = some i := by
  obtain ⟨connected, hconnected, rfl⟩ := view?_eq_some h
  simp [hasLock, hconnected]

end Deployment

/-! ## Locks with a queue -/

namespace Lock

/-- A lock with a queue stands for one without; `queues` says which threads wait for it, the ones
that were handed the lock and have not gone on yet among them. -/
structure Suits (lock : Lock) (owner : Option Nat) (queues : Nat → Prop) : Prop where
  owner_iff : ∀ i, owner = some i ↔ lock.owner = some i ∧ ¬ queues i
  queued : ∀ i ∈ lock.queue, queues i ∧ lock.owner ≠ some i
  nodup : lock.queue.Nodup

namespace Suits

variable {lock : Lock} {owner : Option Nat} {queues : Nat → Prop} {i : Nat}

lemma congr (h : lock.Suits owner queues) {queues' : Nat → Prop}
    (hqueues : ∀ j, queues' j ↔ queues j) : lock.Suits owner queues' :=
  (funext fun j => propext (hqueues j) : queues' = queues) ▸ h

/-- As long as the lock is nobody's, or belongs to somebody who still waits, nobody owns it. -/
lemma owner_eq_none (h : lock.Suits owner queues) (hlock : ∀ j, lock.owner = some j → queues j) :
    owner = none := by
  cases howner : owner with
  | none => rfl
  | some j =>
    obtain ⟨hj, hnot⟩ := (h.owner_iff j).1 howner
    exact absurd (hlock j hj) hnot

lemma request_free (h : lock.Suits owner queues) (free : lock.owner = none) (hi : ¬ queues i) :
    (lock.request i).Suits (some i) queues := by
  have hlock : lock.request i = { lock with owner := some i } := by simp [request, free]
  rw [hlock]
  refine ⟨fun j => ?_, fun j hj => ?_, h.nodup⟩
  · constructor
    · intro hij
      exact ⟨hij, Option.some.inj hij ▸ hi⟩
    · exact And.left
  · have hqueues := (h.queued j hj).1
    exact ⟨hqueues, fun hij => hi (Option.some.inj hij ▸ hqueues)⟩

lemma request_busy (h : lock.Suits owner queues) (busy : lock.owner ≠ none)
    (hi : ¬ queues i) (howner : owner ≠ some i) :
    (lock.request i).Suits owner (fun j => queues j ∨ j = i) ∧ (lock.request i).owner ≠ some i := by
  obtain ⟨found, hfound⟩ := Option.ne_none_iff_exists'.1 busy
  have hlock : lock.request i = { lock with queue := lock.queue ++ [i] } := by
    simp [request, hfound]
  have hnot : lock.owner ≠ some i := fun hown => howner ((h.owner_iff i).2 ⟨hown, hi⟩)
  rw [hlock]
  refine ⟨⟨fun j => ?_, fun j hj => ?_, ?_⟩, hnot⟩
  · rw [h.owner_iff]
    constructor
    · rintro ⟨hj, hfree⟩
      refine ⟨hj, ?_⟩
      rintro (hqueues | rfl)
      · exact hfree hqueues
      · exact hnot hj
    · exact fun ⟨hj, hfree⟩ => ⟨hj, fun hqueues => hfree (.inl hqueues)⟩
  · rcases List.mem_append.1 hj with hmem | hlast
    · exact ⟨.inl (h.queued j hmem).1, (h.queued j hmem).2⟩
    · obtain rfl : j = i := List.mem_singleton.1 hlast
      exact ⟨.inr rfl, hnot⟩
  · have hmem : i ∉ lock.queue := fun hmem => hi (h.queued i hmem).1
    refine List.nodup_append.2 ⟨h.nodup, by simp, fun j hj k hk hjk => hmem ?_⟩
    rwa [← List.mem_singleton.1 hk, ← hjk]

/-- Whoever was handed the lock owns it once it goes on. -/
lemma grant (h : lock.Suits owner queues) (hlock : lock.owner = some i) :
    lock.Suits (some i) fun j => queues j ∧ j ≠ i := by
  refine ⟨fun j => ?_, fun j hj => ?_, h.nodup⟩
  · rw [hlock]
    constructor
    · rintro ⟨⟩
      exact ⟨rfl, fun hi => hi.2 rfl⟩
    · exact And.left
  · obtain ⟨hqueues, hne⟩ := h.queued j hj
    refine ⟨⟨hqueues, ?_⟩, hne⟩
    rintro rfl
    exact hne hlock

lemma abandon (h : lock.Suits owner queues) (i : Nat) :
    (lock.abandon i).Suits (if owner = some i then none else owner) fun j => queues j ∧ j ≠ i := by
  by_cases hlock : lock.owner = some i
  · have howner : (if owner = some i then none else owner) = none := by
      split
      · rfl
      · next hne =>
        cases hsome : owner with
        | none => rfl
        | some j =>
          have hj := ((h.owner_iff j).1 hsome).1
          rw [hlock] at hj
          cases hj
          exact absurd hsome hne
    rw [howner, Lock.abandon, if_pos hlock]
    -- the first in the queue is handed the lock and still waits
    cases hqueue : lock.queue with
    | nil => exact ⟨by simp, by simp, by simp⟩
    | cons first rest =>
      have hnodup := h.nodup
      rw [hqueue] at hnodup
      have hqueued : ∀ j ∈ first :: rest, queues j ∧ j ≠ i := by
        intro j hj
        obtain ⟨hqueues, hne⟩ := h.queued j (hqueue ▸ hj)
        refine ⟨hqueues, ?_⟩
        rintro rfl
        exact hne hlock
      refine ⟨fun j => ?_, fun j hj => ?_, (List.nodup_cons.1 hnodup).2⟩
      · constructor
        · rintro ⟨⟩
        · rintro ⟨hfirst, hnot⟩
          cases hfirst
          exact absurd (hqueued _ (List.mem_cons_self ..)) hnot
      · refine ⟨hqueued j (List.mem_cons_of_mem _ hj), ?_⟩
        rintro hfirst
        cases hfirst
        exact (List.nodup_cons.1 hnodup).1 hj
  · have howner : owner ≠ some i := fun hown => hlock ((h.owner_iff i).1 hown).1
    rw [if_neg howner, Lock.abandon, if_neg hlock]
    refine ⟨fun j => ?_, fun j hj => ?_, h.nodup.erase i⟩
    · rw [h.owner_iff]
      constructor
      · exact fun ⟨hj, hfree⟩ => ⟨hj, fun hqueues => hfree hqueues.1⟩
      · rintro ⟨hj, hfree⟩
        refine ⟨hj, fun hqueues => hfree ⟨hqueues, ?_⟩⟩
        rintro rfl
        exact hlock hj
    · obtain ⟨hne, hmem⟩ := h.nodup.mem_erase_iff.1 hj
      exact ⟨⟨(h.queued j hmem).1, hne⟩, (h.queued j hmem).2⟩

end Suits
end Lock
end StorageFleet
