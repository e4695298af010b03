import StorageFleet.Proofs.Deployment.Frame
import StorageFleet.Proofs.Session.Manners

/-!
# Who has a login lock, and who waits for it

The owner of a lock and the threads behind it form a line (`Lock.line`): whoever asks joins at the
end, and whoever gives up leaves it, wherever it stands.  `Thread.Fits` says how a thread and the
line of a station fit together.  A thread that does not wait is not behind the owner, and minds the
lock as one that has it just if it is the owner; a thread that waits will decide.

`Moves.fits` keeps this for the thread that moves; others may join the line and leave it
(`Fits.request`, `Fits.abandon`).
-/

namespace StorageFleet

/-! ## Lines -/

namespace Lock

variable {lock : Lock}

/-- Who has the lock and who waits for it, in order. -/
def line (lock : Lock) : List Nat :=
  lock.owner.toList ++ lock.queue

/-- Nobody waits for a free lock, and nobody stands in line twice. -/
structure Ordered (lock : Lock) : Prop where
  free : lock.owner = none → lock.queue = []
  nodup : lock.line.Nodup

lemma ordered_empty : ({} : Lock).Ordered :=
  ⟨fun _ => rfl, List.nodup_nil⟩

lemma Ordered.head?_line (h : lock.Ordered) : lock.line.head? = lock.owner := by
  unfold line
  cases howner : lock.owner with
  | none => simp [h.free howner]
  | some owner => rfl

lemma Ordered.line_request (h : lock.Ordered) (thread : Nat) :
    (lock.request thread).line = lock.line ++ [thread] := by
  unfold request line
  cases howner : lock.owner with
  | none => simp [h.free howner]
  | some owner => simp

lemma Ordered.line_abandon (h : lock.Ordered) (thread : Nat) :
    (lock.abandon thread).line = lock.line.erase thread := by
  unfold abandon line
  cases howner : lock.owner with
  | none => simp [h.free howner]
  | some owner =>
    by_cases heq : owner = thread
    · subst heq
      cases lock.queue <;> simp
    · have hne : some owner ≠ some thread := fun hsome => heq (Option.some.inj hsome)
      rw [if_neg hne]
      exact (List.erase_cons_tail (by simpa using heq)).symm

lemma Ordered.request (h : lock.Ordered) {thread : Nat} (hthread : thread ∉ lock.line) :
    (lock.request thread).Ordered := by
  refine ⟨fun hfree => ?_, ?_⟩
  · unfold Lock.request at hfree
    split at hfree <;> simp_all
  · rw [h.line_request]
    refine List.nodup_append.2 ⟨h.nodup, by simp, fun i hi j hj hij => hthread ?_⟩
    rwa [← List.mem_singleton.1 hj, ← hij]

lemma Ordered.abandon (h : lock.Ordered) (thread : Nat) : (lock.abandon thread).Ordered := by
  refine ⟨fun hfree => ?_, ?_⟩
  · unfold Lock.abandon at hfree ⊢
    split
    · next howner =>
      rw [if_pos howner] at hfree
      cases hqueue : lock.queue with
      | nil => rfl
      | cons => simp [hqueue] at hfree
    · next howner =>
      rw [if_neg howner] at hfree
      simp [h.free hfree]
  · rw [h.line_abandon]
    exact h.nodup.erase thread

/-- Whoever gives up is in the line no more. -/
lemma Ordered.not_mem_abandon (h : lock.Ordered) (thread : Nat) :
    thread ∉ (lock.abandon thread).line := by
  rw [h.line_abandon]
  exact fun hmem => (h.nodup.mem_erase_iff.1 hmem).1 rfl

end Lock

/-! ## The lock of a station -/

namespace Deployment

variable {d : Deployment}

/-- The login lock of a station. -/
def lock (d : Deployment) (station : Nat) : Lock :=
  ((d.connected? station).map Connected.lock).getD {}

lemma hasLock_iff_lock {station thread : Nat} :
    d.hasLock station thread = true ↔ (d.lock station).owner = some thread := by
  unfold hasLock lock
  cases d.connected? station <;> simp

lemma connected?_adjust (d : Deployment) (id : Nat) (change : Connected → Connected) (other : Nat) :
    (d.adjust id change).connected? other =
      if other = id then (d.connected? other).map change else d.connected? other := by
  unfold connected?
  rw [station?_adjust]
  split
  · cases d.station? other with
    | none => rfl
    | some station => cases station <;> rfl
  · rfl

lemma connected?_perform (d : Deployment) (appliance : ApplianceRef) (call : Call) (other : Nat) :
    (d.perform appliance call).2.connected? other = d.connected? other := by
  unfold connected?
  rw [station?_perform]
  split
  · cases d.station? other with
    | none => rfl
    | some station => cases station <;> rfl
  · rfl

lemma connected?_send (d : Deployment) (appliance : ApplianceRef) (request : Request)
    (other : Nat) : (d.send appliance request).2.2.connected? other =
      (d.adjust appliance.id fun connected =>
        { connected with link := (connected.link.send request).2.2 }).connected? other := by
  unfold connected?
  rw [station?_send]

lemma connected?_abandonLocks (d : Deployment) (thread other : Nat) :
    (d.abandonLocks thread).connected? other = (d.connected? other).map fun connected =>
      { connected with lock := connected.lock.abandon thread } := by
  unfold connected?
  rw [station?_abandonLocks]
  cases d.station? other with
  | none => rfl
  | some station => cases station <;> rfl

/-- What a change leaves alone at its station it leaves alone everywhere. -/
lemma map_connected?_adjust {f : Connected → β} {change : Connected → Connected}
    (hchange : ∀ connected, f (change connected) = f connected) (id station : Nat) :
    ((d.adjust id change).connected? station).map f = (d.connected? station).map f := by
  rw [connected?_adjust]
  split
  · cases d.connected? station with
    | none => rfl
    | some connected => exact congrArg some (hchange connected)
  · rfl

/-- A request changes the link and nothing else. -/
lemma map_connected?_send {f : Connected → β}
    (hlink : ∀ connected link, f { connected with link } = f connected) (appliance : ApplianceRef)
    (request : Request) (station : Nat) : ((d.send appliance request).2.2.connected? station).map f =
      (d.connected? station).map f := by
  rw [connected?_send, map_connected?_adjust fun connected => hlink connected _]

lemma lock_adjust_of_eq {id : Nat} {change : Connected → Connected}
    (hchange : ∀ connected, (change connected).lock = connected.lock) (station : Nat) :
    (d.adjust id change).lock station = d.lock station := by
  unfold lock
  rw [map_connected?_adjust hchange]

lemma lock_perform (d : Deployment) (appliance : ApplianceRef) (call : Call) (station : Nat) :
    (d.perform appliance call).2.lock station = d.lock station := by
  unfold lock
  rw [connected?_perform]

lemma lock_send (d : Deployment) (appliance : ApplianceRef) (request : Request) (station : Nat) :
    (d.send appliance request).2.2.lock station = d.lock station := by
  unfold lock
  rw [map_connected?_send (by intro _ _; rfl)]

lemma lock_requestLock (d : Deployment) (id thread station : Nat) :
    (d.requestLock id thread).lock station =
      if station = id ∧ (d.connected? id).isSome then (d.lock station).request thread
      else d.lock station := by
  unfold lock requestLock
  rw [connected?_adjust]
  by_cases hid : station = id
  · subst hid
    cases hconnected : d.connected? station <;> simp
  · simp [hid]

lemma abandon_empty (thread : Nat) : ({} : Lock).abandon thread = {} := by
  simp [Lock.abandon]

lemma lock_releaseLock (d : Deployment) (id thread station : Nat) :
    (d.releaseLock id thread).lock station =
      if station = id then (d.lock station).abandon thread else d.lock station := by
  unfold lock releaseLock
  rw [connected?_adjust]
  split
  · cases d.connected? station <;> simp [abandon_empty]
  · rfl

lemma lock_abandonLocks (d : Deployment) (thread station : Nat) :
    (d.abandonLocks thread).lock station = (d.lock station).abandon thread := by
  unfold lock
  rw [connected?_abandonLocks]
  cases d.connected? station <;> simp [abandon_empty]

end Deployment

/-! ## Threads and lines -/

namespace Thread

variable {station seen : Nat} {lock : Lock} {thread : Thread α}

/-- A thread fits to the lock of a station: `seen` is the generation that it last read of the
session there. -/
structure Fits (station : Nat) (lock : Lock) (seen : Nat) (thread : Thread α) : Prop where
  late : ∀ limit, thread.limit = some limit → ∀ seen, limit.2.Minds station false seen
  waits : thread.wait = .lock station →
    thread.task.Decides station seen ∧ thread.task.Minds station true seen
  goes : thread.wait ≠ .lock station → thread.id ∉ lock.queue ∧
    thread.task.Minds station (lock.owner == some thread.id) seen

/-- The generation that a thread last read, after one more deed. -/
def seenAfter (station seen : Nat) : Option (Nat × Deed) → Nat
  | some (place, .read session) => if place = station then session.generation else seen
  | _ => seen

/-- A thread of manners that has just begun fits, if it is not in the line. -/
lemma fits_of_minds (hwait : thread.wait = .nothing) (hlimit : thread.limit = none)
    (hline : thread.id ∉ lock.line) (h : thread.task.Minds station false seen) :
    thread.Fits station lock seen := by
  simp only [Lock.line, List.mem_append, Option.mem_toList, not_or] at hline
  refine ⟨by simp [hlimit], by simp [hwait], fun _ => ⟨hline.2, ?_⟩⟩
  rwa [beq_eq_false_iff_ne.2 hline.1]

/-- Other threads may join the line. -/
lemma Fits.request (h : thread.Fits station lock seen) {other : Nat} (hother : thread.id ≠ other) :
    thread.Fits station (lock.request other) seen := by
  refine ⟨h.late, h.waits, fun hwait => ?_⟩
  obtain ⟨hqueue, hminds⟩ := h.goes hwait
  unfold Lock.request
  cases howner : lock.owner with
  | none =>
    rw [howner] at hminds
    have hne : (some other == some thread.id) = false := by simpa using Ne.symm hother
    exact ⟨hqueue, by rw [hne]; exact hminds⟩
  | some owner =>
    rw [howner] at hminds
    exact ⟨by simpa [hother] using hqueue, hminds⟩

/-- Other threads may leave the line. -/
lemma Fits.abandon (h : thread.Fits station lock seen) {other : Nat} (hother : thread.id ≠ other) :
    thread.Fits station (lock.abandon other) seen := by
  refine ⟨h.late, h.waits, fun hwait => ?_⟩
  obtain ⟨hqueue, hminds⟩ := h.goes hwait
  unfold Lock.abandon
  split
  · next howner =>
    -- the lock goes to the first in the queue, and that is not this thread
    have hbefore : (lock.owner == some thread.id) = false := by
      rw [howner]
      simpa using Ne.symm hother
    have hafter : (lock.queue.head? == some thread.id) = false := by
      rw [beq_eq_false_iff_ne]
      exact fun hhead => hqueue (List.mem_of_head? hhead)
    rw [hbefore] at hminds
    exact ⟨fun hmem => hqueue (List.mem_of_mem_tail hmem), by rw [hafter]; exact hminds⟩
  · exact ⟨fun hmem => hqueue (List.mem_of_mem_erase hmem), hminds⟩

/-- Whoever asks for the lock was not in the line. -/
lemma joins_line {d : Deployment} {id : Nat} {appliance : ApplianceRef} {next : Task α}
    {limit : Option (Nat × Task α)}
    (hfits : Fits station (d.lock station) seen ⟨id, .acquire appliance next, .nothing, limit⟩) :
    (d.requestLock appliance.id id).lock station = d.lock station ∨
      (d.requestLock appliance.id id).lock station = (d.lock station).request id ∧
        id ∉ (d.lock station).line := by
  rw [d.lock_requestLock]
  split
  · next hplace =>
    obtain ⟨hqueue, hminds⟩ := hfits.goes (by simp)
    simp only [Task.Minds, ← hplace.1, if_true] at hminds
    refine .inr ⟨rfl, ?_⟩
    rw [Lock.line, List.mem_append, Option.mem_toList, not_or]
    exact ⟨by simpa using hminds.1, hqueue⟩
  · exact .inl rfl

/-- What a move does to the line of a station: nothing, or the thread joins it where it was not
before, or leaves it. -/
lemma Moves.lock_cases {d d' : Deployment} {thread' : Thread α} {deed : Option (Nat × Deed)}
    (h : thread.Moves d deed d' thread') (hfits : thread.Fits station (d.lock station) seen) :
    d'.lock station = d.lock station ∨
    (d'.lock station = (d.lock station).request thread.id ∧ thread.id ∉ (d.lock station).line) ∨
    d'.lock station = (d.lock station).abandon thread.id := by
  cases h with
  | performs => exact .inl (d.lock_perform _ _ _)
  | sends => exact .inl (d.lock_send _ _ _)
  | settles => exact .inl (Deployment.lock_adjust_of_eq (by intro; rfl) _)
  | acquires | queues => exact (joins_line hfits).imp_right .inl
  | releases =>
    rw [d.lock_releaseLock]
    split
    · exact .inr (.inr rfl)
    · exact .inl rfl
  | lapses => exact .inr (.inr (d.lock_abandonLocks _ _))
  | reads | sleeps | limits | unlimits | counts | warns | done | wakes | obtains => exact .inl rfl

lemma wait_answerAfter (d : Deployment) (delay : Nat) : answerAfter d delay ≠ .lock station := by
  unfold answerAfter
  split <;> simp

/-- A thread that does not wait in the line. -/
lemma fits_of_goes (hlate : ∀ limit, thread.limit = some limit → ∀ seen,
      limit.2.Minds station false seen) (hwait : thread.wait ≠ .lock station)
    (hgoes : thread.id ∉ lock.queue ∧
      thread.task.Minds station (lock.owner == some thread.id) seen) :
    thread.Fits station lock seen :=
  ⟨hlate, fun h => absurd h hwait, fun _ => hgoes⟩

/-- A thread that has just got the lock of a station goes on as its owner, and elsewhere as before. -/
lemma fits_of_acquired {d : Deployment} {id : Nat} {appliance : ApplianceRef} {next : Task α}
    {limit : Option (Nat × Task α)} (hordered : (d.lock station).Ordered)
    (hfits : Fits station (d.lock station) seen ⟨id, .acquire appliance next, .nothing, limit⟩)
    (hfree : (d.requestLock appliance.id id).hasLock appliance.id id = true) :
    Fits station ((d.requestLock appliance.id id).lock station) seen ⟨id, next, .nothing, limit⟩ := by
  rw [Deployment.hasLock_iff_lock] at hfree
  obtain ⟨hqueue, hminds⟩ := hfits.goes (by simp)
  refine fits_of_goes hfits.late (by simp) ?_
  by_cases hid : appliance.id = station
  · subst hid
    simp only [Task.Minds, if_true] at hminds
    refine ⟨fun hmem => ?_, ?_⟩
    · have howner : id ∉ (d.lock appliance.id).line := by
        rw [Lock.line, List.mem_append, Option.mem_toList, not_or]
        exact ⟨by simpa using hminds.1, hqueue⟩
      rcases joins_line hfits with hsame | ⟨hjoined, -⟩
      · exact hqueue (hsame ▸ hmem)
      · rw [hjoined] at hmem hfree
        have hnodup := (hordered.request howner).nodup
        rw [Lock.line, hfree] at hnodup
        exact (List.nodup_cons.1 hnodup).1 hmem
    · rw [hfree, beq_self_eq_true]
      exact hminds.2.2
  · rw [d.lock_requestLock, if_neg fun hplace => hid hplace.1.symm]
    simp only [Task.Minds, hid, if_false] at hminds
    exact ⟨hqueue, hminds⟩

/-- A thread that has to wait for the lock of a station decides there, and elsewhere is as before. -/
lemma fits_of_queued {d : Deployment} {id : Nat} {appliance : ApplianceRef} {next : Task α}
    {limit : Option (Nat × Task α)}
    (hfits : Fits station (d.lock station) seen ⟨id, .acquire appliance next, .nothing, limit⟩) :
    Fits station ((d.requestLock appliance.id id).lock station) seen
      ⟨id, next, .lock appliance.id, limit⟩ := by
  obtain ⟨hqueue, hminds⟩ := hfits.goes (by simp)
  refine ⟨hfits.late, ?_, fun hwait => ?_⟩
  · rintro ⟨⟩
    simp only [Task.Minds, if_true] at hminds
    exact hminds.2
  · have hid : appliance.id ≠ station := by
      rintro rfl
      exact hwait rfl
    rw [d.lock_requestLock, if_neg fun hplace => hid hplace.1.symm]
    simp only [Task.Minds, hid, if_false] at hminds
    exact ⟨hqueue, hminds⟩

/-- A thread that has left the line goes on without the lock. -/
lemma goes_of_abandoned (hordered : lock.Ordered) {task : Task α} {id : Nat}
    (hminds : task.Minds station false seen) : id ∉ (lock.abandon id).queue ∧
      task.Minds station ((lock.abandon id).owner == some id) seen := by
  have hline := hordered.not_mem_abandon id
  rw [Lock.line, List.mem_append, Option.mem_toList, not_or] at hline
  refine ⟨hline.2, ?_⟩
  rwa [beq_eq_false_iff_ne.2 hline.1]

/-- A thread fits after its own moves. -/
lemma Moves.fits {d d' : Deployment} {thread' : Thread α} {deed : Option (Nat × Deed)}
    (h : thread.Moves d deed d' thread') (hordered : (d.lock station).Ordered)
    (hfits : thread.Fits station (d.lock station) seen) :
    thread'.Fits station (d'.lock station) (seenAfter station seen deed) := by
  have hlate := hfits.late
  have hgoes := hfits.goes
  cases h with
  | performs =>
    obtain ⟨hqueue, hminds⟩ := hgoes (by simp)
    rw [d.lock_perform]
    exact fits_of_goes hlate (by simp) ⟨hqueue, hminds _⟩
  | sends =>
    obtain ⟨hqueue, hminds⟩ := hgoes (by simp)
    rw [d.lock_send]
    exact fits_of_goes hlate (wait_answerAfter _ _) ⟨hqueue, hminds _⟩
  | reads =>
    obtain ⟨hqueue, hminds⟩ := hgoes (by simp)
    exact fits_of_goes hlate (by simp) ⟨hqueue, hminds _⟩
  | acquires hfree => exact fits_of_acquired hordered hfits hfree
  | queues => exact fits_of_queued hfits
  | @releases id appliance next limit =>
    obtain ⟨hqueue, hminds⟩ := hgoes (by simp)
    refine fits_of_goes hlate (by simp) ?_
    rw [d.lock_releaseLock]
    by_cases hid : appliance.id = station
    · simp only [Task.Minds, hid, if_true] at hminds
      rw [if_pos hid.symm]
      exact goes_of_abandoned hordered hminds.2
    · simp only [Task.Minds, hid, if_false] at hminds
      rw [if_neg (Ne.symm hid)]
      exact ⟨hqueue, hminds⟩
  | settles =>
    obtain ⟨hqueue, hminds⟩ := hgoes (by simp)
    refine fits_of_goes hlate (by simp) ?_
    rw [show (d.settle _ _).lock station = d.lock station from
      Deployment.lock_adjust_of_eq (by intro; rfl) _]
    exact ⟨hqueue, hminds.2⟩
  | sleeps | counts | warns => exact fits_of_goes hlate (by simp) (hgoes (by simp))
  | limits =>
    obtain ⟨hqueue, hminds⟩ := hgoes (by simp)
    refine fits_of_goes ?_ (by simp) ⟨hqueue, hminds.2⟩
    rintro _ ⟨⟩
    exact hminds.1
  | unlimits | done => exact fits_of_goes (by simp) (by simp) (hgoes (by simp))
  | wakes => exact fits_of_goes hlate (by simp) (hgoes (by simp))
  | @obtains id task place limit hlock =>
    rw [Deployment.hasLock_iff_lock] at hlock
    by_cases hplace : place = station
    · subst hplace
      have hnodup := hordered.nodup
      rw [Lock.line, hlock] at hnodup
      refine fits_of_goes hlate (by simp) ⟨(List.nodup_cons.1 hnodup).1, ?_⟩
      rw [hlock, beq_self_eq_true]
      exact (hfits.waits rfl).2
    · exact fits_of_goes hlate (by simp) (hgoes (by simpa using hplace))
  | lapses =>
    refine fits_of_goes (by simp) (by simp) ?_
    rw [d.lock_abandonLocks]
    exact goes_of_abandoned hordered (hlate _ rfl _)

end Thread
end StorageFleet
