import StorageFleet.Proofs.Deployment.Queue
import StorageFleet.Proofs.Deployment.Setup

/-!
# Locks and the steps of others

Work that begins or ends leaves login locks and sessions alone, and work that is cancelled takes its
threads out of the lines (`lock_abandonAll`, `Ordered.abandonAll`).

A thread fits to a line after the moves of others (`Fits.of_moves`), and does not get the lock by
them as long as it goes on (`Fits.owner_of_moves`).  Whoever does not have the lock does not touch
the session (`Moves.session_eq`); whoever has it and goes on has just got it, or has changed nothing
yet, or is about to give it back (`Moves.holds`).
-/

namespace StorageFleet

/-! ## Locks and sessions when work begins and ends -/

namespace Deployment

variable {d : Deployment}

/-- A station that has just been added is as one that is not there yet. -/
lemma connected?_employ (d : Deployment) (clients : List Client) (station : Nat) :
    (d.employ clients).connected? station = d.connected? station ∨
    d.connected? station = none ∧ ∃ client,
      (d.employ clients).connected? station = some { client, link := .unreachable } := by
  unfold connected? station? employ
  by_cases hstation : station < d.stations.length
  · exact .inl (by rw [List.getElem?_append_left hstation])
  · have hle := Nat.le_of_not_lt hstation
    rw [List.getElem?_append_right hle, List.getElem?_eq_none hle, List.getElem?_map]
    cases clients[station - d.stations.length]? with
    | none => exact .inl rfl
    | some client => exact .inr ⟨rfl, client, rfl⟩

/-- What is read of a station that has just been added is what is read where there is none. -/
lemma getD_connected?_employ {f : Connected → β} {missing : β}
    (hnew : ∀ client, f { client, link := .unreachable } = missing) (clients : List Client)
    (station : Nat) : (((d.employ clients).connected? station).map f).getD missing =
      ((d.connected? station).map f).getD missing := by
  rcases d.connected?_employ clients station with hsame | ⟨hnone, client, hadded⟩
  · rw [hsame]
  · rw [hnone, hadded]
    exact hnew client

lemma lock_employ (d : Deployment) (clients : List Client) (station : Nat) :
    (d.employ clients).lock station = d.lock station :=
  getD_connected?_employ (fun _ => rfl) clients station

lemma session_employ (d : Deployment) (clients : List Client) (station : Nat) :
    (d.employ clients).session station = d.session station :=
  getD_connected?_employ (fun _ => rfl) clients station

lemma session_adjust_of_eq {id : Nat} {change : Connected → Connected}
    (hchange : ∀ connected, (change connected).session = connected.session) (station : Nat) :
    (d.adjust id change).session station = d.session station := by
  unfold session
  rw [map_connected?_adjust hchange]

lemma session_perform (d : Deployment) (appliance : ApplianceRef) (call : Call) (station : Nat) :
    (d.perform appliance call).2.session station = d.session station := by
  unfold session
  rw [connected?_perform]

lemma session_send (d : Deployment) (appliance : ApplianceRef) (request : Request)
    (station : Nat) : (d.send appliance request).2.2.session station = d.session station := by
  unfold session
  rw [map_connected?_send (by intro _ _; rfl)]

lemma session_settle_of_ne {id station : Nat} (h : station ≠ id) (outcome : Except String String) :
    (d.settle id outcome).session station = d.session station := by
  unfold session settle
  rw [connected?_adjust, if_neg h]

/-- Login attempts are counted. -/
lemma generation_settle (d : Deployment) (id station : Nat) (outcome : Except String String) :
    (d.session station).generation ≤ ((d.settle id outcome).session station).generation := by
  by_cases hid : station = id
  · unfold session settle
    rw [connected?_adjust, if_pos hid]
    cases d.connected? station with
    | none => exact Nat.le_refl _
    | some connected => cases outcome <;> exact Nat.le_succ _
  · exact Nat.le_of_eq (congrArg Session.generation (d.session_settle_of_ne hid outcome)).symm

lemma session_abandonLocks (d : Deployment) (thread station : Nat) :
    (d.abandonLocks thread).session station = d.session station := by
  unfold session
  rw [connected?_abandonLocks]
  cases d.connected? station <;> rfl

lemma session_abandonAll (d : Deployment) (threads : List (Thread α)) (station : Nat) :
    (Thread.abandonAll d threads).session station = d.session station := by
  induction threads generalizing d with
  | nil => rfl
  | cons thread rest ih => exact (ih _).trans (d.session_abandonLocks thread.id station)

/-- What becomes of a lock when several threads give it up. -/
lemma lock_abandonAll (d : Deployment) (threads : List (Thread α)) (station : Nat) :
    (Thread.abandonAll d threads).lock station =
      (threads.map Thread.id).foldl Lock.abandon (d.lock station) := by
  induction threads generalizing d with
  | nil => rfl
  | cons thread rest ih =>
    refine (ih _).trans ?_
    rw [lock_abandonLocks, List.map_cons, List.foldl_cons]

end Deployment

namespace Lock

variable {lock : Lock}

lemma Ordered.abandonAll (h : lock.Ordered) (threads : List Nat) :
    (threads.foldl Lock.abandon lock).Ordered ∧
      (threads.foldl Lock.abandon lock).line = lock.line.filter (· ∉ threads) := by
  induction threads generalizing lock with
  | nil => exact ⟨h, (List.filter_eq_self.2 (by simp)).symm⟩
  | cons thread rest ih =>
    obtain ⟨hordered, hline⟩ := ih (h.abandon thread)
    refine ⟨hordered, ?_⟩
    rw [List.foldl_cons, hline, h.line_abandon, h.nodup.erase_eq_filter, List.filter_filter]
    congr 1
    funext other
    rw [Bool.eq_iff_iff]
    simp [and_comm]

end Lock

namespace Thread

variable {d d' : Deployment} {station seen : Nat} {lock : Lock} {thread thread' : Thread α}
  {deed : Option (Nat × Deed)} {other : Thread β}

lemma Fits.abandonAll (h : thread.Fits station lock seen) {others : List Nat}
    (hother : thread.id ∉ others) : thread.Fits station (others.foldl Lock.abandon lock) seen := by
  induction others generalizing lock with
  | nil => exact h
  | cons other rest ih =>
    rw [List.mem_cons, not_or] at hother
    exact ih (h.abandon hother.1) hother.2

/-- A thread fits after the moves of others. -/
lemma Fits.of_moves (h : other.Fits station (d.lock station) seen)
    (hmoves : thread.Moves d deed d' thread') {last : Nat}
    (hfits : thread.Fits station (d.lock station) last) (hne : other.id ≠ thread.id) :
    other.Fits station (d'.lock station) seen := by
  rcases hmoves.lock_cases hfits with hlock | ⟨hlock, -⟩ | hlock
  · rwa [hlock]
  · rw [hlock]
    exact h.request hne
  · rw [hlock]
    exact h.abandon hne

/-- A thread that goes on does not get a lock by what others give up. -/
lemma Fits.owner_of_abandon (h : thread.Fits station lock seen) (hwait : thread.wait ≠ .lock station)
    {id : Nat} (howner : (lock.abandon id).owner = some thread.id) :
    lock.owner = some thread.id := by
  unfold Lock.abandon at howner
  split at howner
  · exact absurd (List.mem_of_head? howner) (h.goes hwait).1
  · exact howner

lemma Fits.owner_of_abandonAll (h : thread.Fits station lock seen)
    (hwait : thread.wait ≠ .lock station) {others : List Nat} (hother : thread.id ∉ others)
    (howner : (others.foldl Lock.abandon lock).owner = some thread.id) :
    lock.owner = some thread.id := by
  induction others generalizing lock with
  | nil => exact howner
  | cons other rest ih =>
    rw [List.mem_cons, not_or] at hother
    exact h.owner_of_abandon hwait (ih (h.abandon hother.1) hother.2 howner)

/-- A thread that goes on does not get a lock by the moves of others. -/
lemma Fits.owner_of_moves (h : other.Fits station (d.lock station) seen)
    (hwait : other.wait ≠ .lock station) (hmoves : thread.Moves d deed d' thread') {last : Nat}
    (hfits : thread.Fits station (d.lock station) last) (hne : other.id ≠ thread.id)
    (howner : (d'.lock station).owner = some other.id) :
    (d.lock station).owner = some other.id := by
  rcases hmoves.lock_cases hfits with hlock | ⟨hlock, -⟩ | hlock
  · rwa [← hlock]
  · rw [hlock] at howner
    unfold Lock.request at howner
    split at howner
    · exact absurd (Option.some.inj howner).symm hne
    · exact howner
  · rw [hlock] at howner
    exact h.owner_of_abandon hwait howner

/-- Whoever does not have the lock does not touch the session. -/
lemma Moves.session_eq (h : thread.Moves d deed d' thread')
    (hfits : thread.Fits station (d.lock station) seen)
    (howner : (d.lock station).owner ≠ some thread.id) :
    d'.session station = d.session station := by
  cases h with
  | performs => exact d.session_perform _ _ _
  | sends => exact d.session_send _ _ _
  | acquires | queues | releases => exact Deployment.session_adjust_of_eq (by intro; rfl) _
  | @settles id appliance outcome =>
    refine d.session_settle_of_ne ?_ outcome
    rintro rfl
    exact howner (by simpa using ((hfits.goes (by simp)).2.1 rfl).1)
  | lapses => exact d.session_abandonLocks _ _
  | reads | sleeps | limits | unlimits | counts | warns | done | wakes | obtains => rfl

lemma Moves.generation_le (h : thread.Moves d deed d' thread') (station : Nat) :
    (d.session station).generation ≤ (d'.session station).generation := by
  cases h with
  | performs => exact Nat.le_of_eq (congrArg Session.generation (d.session_perform _ _ _)).symm
  | sends => exact Nat.le_of_eq (congrArg Session.generation (d.session_send _ _ _)).symm
  | acquires | queues | releases =>
    exact Nat.le_of_eq (congrArg Session.generation
      (Deployment.session_adjust_of_eq (by intro; rfl) _)).symm
  | settles => exact d.generation_settle _ _ _
  | lapses => exact Nat.le_of_eq (congrArg Session.generation (d.session_abandonLocks _ _)).symm
  | reads | sleeps | limits | unlimits | counts | warns | done | wakes | obtains =>
    exact Nat.le_refl _

/-- A thread that is about to give the lock back gives it up with its next move, be it late. -/
lemma Moves.lock_of_releases (h : thread.Moves d deed d' thread') (hwait : thread.wait = .nothing)
    (hreleases : thread.task.Releases station) :
    d'.lock station = (d.lock station).abandon thread.id := by
  obtain ⟨appliance, next, rfl, htask⟩ := hreleases
  cases h with
  | releases =>
    cases htask
    rw [d.lock_releaseLock, if_pos rfl]
  | lapses => exact d.lock_abandonLocks _ _
  | wakes | obtains => cases hwait
  | performs | sends | reads | acquires | queues | settles | sleeps | limits | unlimits | counts
  | warns | done => cases htask

/-- How a thread that goes on has come to have a lock: it has just got it, or it had it before, and
then it has not changed the session, or it has and is about to give the lock back. -/
lemma Moves.holds (h : thread.Moves d deed d' thread') (hordered : (d.lock station).Ordered)
    (hfits : thread.Fits station (d.lock station) seen)
    (howner : (d'.lock station).owner = some thread'.id) (hwait : thread'.wait ≠ .lock station) :
    (deed = some (station, .acquired) ∧ d'.session station = d.session station) ∨
    ((d.lock station).owner = some thread.id ∧ thread.wait ≠ .lock station ∧
      ¬(thread.wait = .nothing ∧ thread.task.Releases station) ∧
      (d'.session station = d.session station ∨
        thread'.wait = .nothing ∧ thread'.task.Releases station)) := by
  have habandoned : ∀ id, ((d.lock station).abandon id).owner ≠ some id := by
    intro id hsome
    refine hordered.not_mem_abandon id ?_
    rw [Lock.line, hsome]
    exact List.mem_cons_self
  have hgoes : ¬(thread.wait = .nothing ∧ thread.task.Releases station) := by
    rintro ⟨hnothing, hreleases⟩
    rw [h.lock_of_releases hnothing hreleases, h.id_eq] at howner
    exact habandoned _ howner
  have hbusy : ∀ {appliance : ApplianceRef} {id : Nat}, appliance.id ≠ station →
      ((d.requestLock appliance.id id).lock station).owner = some id →
      (d.lock station).owner = some id := by
    intro appliance id hid hsome
    rwa [d.lock_requestLock, if_neg fun hplace => hid hplace.1.symm] at hsome
  cases h with
  | performs =>
    rw [d.lock_perform] at howner
    exact .inr ⟨howner, by simp, hgoes, .inl (d.session_perform _ _ _)⟩
  | sends =>
    rw [d.lock_send] at howner
    exact .inr ⟨howner, by simp, hgoes, .inl (d.session_send _ _ _)⟩
  | @acquires id appliance next limit =>
    by_cases hid : appliance.id = station
    · subst hid
      exact .inl ⟨rfl, Deployment.session_adjust_of_eq (by intro; rfl) _⟩
    · exact .inr ⟨hbusy hid howner, by simp, hgoes,
        .inl (Deployment.session_adjust_of_eq (by intro; rfl) _)⟩
  | @queues id appliance next limit =>
    have hid : appliance.id ≠ station := by
      rintro rfl
      exact hwait rfl
    exact .inr ⟨hbusy hid howner, by simp, hgoes,
      .inl (Deployment.session_adjust_of_eq (by intro; rfl) _)⟩
  | @releases id appliance next limit =>
    rw [d.lock_releaseLock] at howner
    by_cases hid : station = appliance.id
    · exact (hgoes ⟨rfl, appliance, next, hid.symm, rfl⟩).elim
    · rw [if_neg hid] at howner
      exact .inr ⟨howner, by simp, hgoes,
        .inl (Deployment.session_adjust_of_eq (by intro; rfl) _)⟩
  | @settles id appliance outcome next limit =>
    rw [show (d.settle _ _).lock station = d.lock station from
      Deployment.lock_adjust_of_eq (by intro; rfl) _] at howner
    refine .inr ⟨howner, by simp, hgoes, ?_⟩
    by_cases hid : station = appliance.id
    · exact .inr ⟨rfl, ((hfits.goes (by simp)).2.1 hid.symm).2⟩
    · exact .inl (d.session_settle_of_ne hid outcome)
  | reads | sleeps | limits | unlimits | counts | warns | done | wakes =>
    exact .inr ⟨howner, by simp, hgoes, .inl rfl⟩
  | @obtains id task place limit hlock =>
    by_cases hplace : place = station
    · subst hplace
      exact .inl ⟨rfl, rfl⟩
    · exact .inr ⟨howner, by simpa using hplace, hgoes, .inl rfl⟩
  | lapses =>
    rw [d.lock_abandonLocks] at howner
    exact (habandoned _ howner).elim

end Thread

end StorageFleet
