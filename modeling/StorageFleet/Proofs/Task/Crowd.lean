import StorageFleet.Proofs.Task.Runner

/-!
# Crowds: tasks side by side at one appliance

A `Crowd` is any number of tasks that share the session, the login lock and the counters of one
appliance (`Commons`).  A schedule names, step by step, the task that moves and its move, so it
stands for one interleaving with one choice of answers, passing time limits and cut-offs; a move
that is not possible changes nothing.  What holds of `Crowd.run` for every schedule holds for
every interleaving.

The lock has no queue here: whoever asks while it is free gets it, so every order in which waiting
tasks may be served is the order of some schedule.  `Company.exists_schedule` shows that threads on
a deployment, whose locks have queues, are crowds.

The history keeps all events, the latest first, and `own i` the ones of one task.  The commons are
the replay of the history (`Reaches.commons_eq`), and the events of one task are a path of that
task alone (`Reaches.path`).  Counts along the history are written with `tally`, which shows each
event together with what its task had done before.
-/

namespace StorageFleet
open StorageFleet.Task (Event Runner Move)

/-- How many renewals are counted for an endpoint. -/
def Counters.reloginsOf (counters : Counters) (endpoint : String) : Nat :=
  (counters.relogins.find? endpoint).getD 0

lemma Counters.reloginsOf_add (counters : Counters) (counter : Counter) (endpoint : String) :
    (counters.add counter).reloginsOf endpoint =
      counters.reloginsOf endpoint + if counter = .relogin endpoint then 1 else 0 := by
  cases counter with
  | job ending => simp [reloginsOf, add]
  | relogin renewed =>
    simp only [reloginsOf, add, bump, Catalog.find?_insert]
    by_cases h : renewed = endpoint
    · simp [h]
    · simp [h, Ne.symm h]

/-- What the tasks at one appliance share. -/
structure Commons where
  session : Session := {}
  owner : Option Nat := none
  counters : Counters := {}

namespace Commons

/-- Takes the login lock away from a task, if it has it. -/
def leave (commons : Commons) (i : Nat) : Commons :=
  if commons.owner = some i then { commons with owner := none } else commons

/-- What an event of a task does to the commons. -/
def after (commons : Commons) (i : Nat) : Event → Commons
  | .settled outcome => { commons with session := commons.session.settle outcome }
  | .acquired => { commons with owner := some i }
  | .released | .late | .dropped => commons.leave i
  | .counted counter => { commons with counters := commons.counters.add counter }
  | .read _ | .sent _ | .answered _ | .slept | .limited | .unlimited | .warned _ => commons

/-- The commons after a history. -/
def replay (commons : Commons) (history : List (Nat × Event)) : Commons :=
  history.foldr (fun entry commons => commons.after entry.1 entry.2) commons

@[simp] lemma replay_nil (commons : Commons) : commons.replay [] = commons := rfl

@[simp] lemma replay_cons (commons : Commons) (entry : Nat × Event)
    (earlier : List (Nat × Event)) :
    commons.replay (entry :: earlier) = (commons.replay earlier).after entry.1 entry.2 := rfl

@[simp] lemma session_leave (commons : Commons) (i : Nat) :
    (commons.leave i).session = commons.session := by
  unfold leave
  split <;> rfl

@[simp] lemma counters_leave (commons : Commons) (i : Nat) :
    (commons.leave i).counters = commons.counters := by
  unfold leave
  split <;> rfl

lemma owner_leave (commons : Commons) (i j : Nat) :
    (commons.leave i).owner = some j ↔ commons.owner = some j ∧ j ≠ i := by
  unfold leave
  split
  · next h => simp [h, eq_comm]
  · next h => exact ⟨fun hj => ⟨hj, fun hji => h (hji ▸ hj)⟩, And.left⟩

/-- Only the end of a login attempt changes the session. -/
lemma session_after (commons : Commons) (i : Nat) (event : Event) :
    (commons.after i event).session = match event with
      | .settled outcome => commons.session.settle outcome
      | _ => commons.session := by
  cases event <;> simp [after]

lemma counters_after (commons : Commons) (i : Nat) (event : Event) :
    (commons.after i event).counters = match event with
      | .counted counter => commons.counters.add counter
      | _ => commons.counters := by
  cases event <;> simp [after]

lemma owner_after (commons : Commons) (i j : Nat) (event : Event) :
    (commons.after i event).owner = some j ↔ match event with
      | .acquired => i = j
      | .released | .late | .dropped => commons.owner = some j ∧ j ≠ i
      | _ => commons.owner = some j := by
  cases event <;> simp [after, owner_leave]

lemma generation_le_after (commons : Commons) (i : Nat) (event : Event) :
    commons.session.generation ≤ (commons.after i event).session.generation := by
  rw [session_after]
  cases event with
  | settled outcome => cases outcome <;> simp [Session.settle]
  | _ => exact Nat.le_refl _

end Commons

/-! ## Histories -/

/-- The events of one task in a history. -/
def own (i : Nat) (history : List (Nat × Event)) : List Event :=
  history.filterMap fun entry => if entry.1 = i then some entry.2 else none

@[simp] lemma own_nil (i : Nat) : own i [] = [] := rfl

@[simp] lemma own_cons_self (i : Nat) (event : Event) (history : List (Nat × Event)) :
    own i ((i, event) :: history) = event :: own i history := by
  simp [own]

lemma own_cons_of_ne {i j : Nat} (h : j ≠ i) (event : Event) (history : List (Nat × Event)) :
    own i ((j, event) :: history) = own i history := by
  simp [own, h]

lemma mem_own {i : Nat} {event : Event} {history : List (Nat × Event)} :
    event ∈ own i history ↔ (i, event) ∈ history := by
  simp only [own, List.mem_filterMap, Prod.exists]
  constructor
  · rintro ⟨j, e, hmem, he⟩
    split at he
    · next hj => cases he; exact hj ▸ hmem
    · exact absurd he (by simp)
  · exact fun h => ⟨i, event, h, by simp⟩

/-- An event of one task divides the history as it divides the events of that task. -/
lemma exists_of_own_eq {i : Nat} {event : Event} {later earlier : List Event}
    {history : List (Nat × Event)} (h : own i history = later ++ event :: earlier) :
    ∃ after before, history = after ++ (i, event) :: before ∧ own i after = later ∧
      own i before = earlier := by
  induction history generalizing later with
  | nil => simp at h
  | cons entry history ih =>
    obtain ⟨j, found⟩ := entry
    by_cases hj : j = i
    · subst hj
      rw [own_cons_self] at h
      cases later with
      | nil =>
        obtain ⟨rfl, hown⟩ := List.cons.inj h
        exact ⟨[], history, rfl, rfl, hown⟩
      | cons first later =>
        obtain ⟨rfl, hown⟩ := List.cons.inj h
        obtain ⟨after, before, rfl, rfl, hbefore⟩ := ih hown
        exact ⟨(j, found) :: after, before, rfl, by simp, hbefore⟩
    · rw [own_cons_of_ne hj] at h
      obtain ⟨after, before, rfl, hafter, hbefore⟩ := ih h
      exact ⟨(j, found) :: after, before, rfl, by rw [own_cons_of_ne hj, hafter], hbefore⟩

/-- Whether a task with these events, the latest first, has the login lock. -/
def holdsLock : List Event → Bool
  | [] => false
  | .acquired :: _ => true
  | .released :: _ | .late :: _ | .dropped :: _ => false
  | .read _ :: past | .sent _ :: past | .answered _ :: past | .settled _ :: past
  | .slept :: past | .limited :: past | .unlimited :: past | .counted _ :: past
  | .warned _ :: past => holdsLock past

/-- How many events satisfy `p`, which sees what the event's task did before. -/
def tally (p : List Event → Event → Bool) : List (Nat × Event) → Nat
  | [] => 0
  | (i, event) :: earlier => tally p earlier + (p (own i earlier) event).toNat

lemma tally_cons (p : List Event → Event → Bool) (i : Nat) (event : Event)
    (earlier : List (Nat × Event)) :
    tally p ((i, event) :: earlier) = tally p earlier + (p (own i earlier) event).toNat := rfl

/-! ## Crowds -/

/-- Tasks side by side at one appliance. -/
structure Crowd (α : Type) where
  commons : Commons
  runners : Nat → Runner α
  history : List (Nat × Event) := []

namespace Crowd

/-- Tasks that have not begun; nobody has the login lock. -/
def start (session : Session) (counters : Counters) (tasks : Nat → Task α) : Crowd α where
  commons := { session, counters }
  runners i := .start (tasks i)

/-- Records a step of a task. -/
def record (crowd : Crowd α) (i : Nat) (event : Event) (after : Runner α) : Crowd α where
  commons := crowd.commons.after i event
  runners := Function.update crowd.runners i after
  history := (i, event) :: crowd.history

@[simp] lemma history_record (crowd : Crowd α) (i : Nat) (event : Event) (after : Runner α) :
    (crowd.record i event after).history = (i, event) :: crowd.history := rfl

/-- The step that a move of one task leads to. -/
def step (crowd : Crowd α) (i : Nat) (move : Move) : Crowd α :=
  match (crowd.runners i).next crowd.commons.session crowd.commons.owner.isNone move with
  | some (event, after) => crowd.record i event after
  | none => crowd

/-- The moves of a schedule, one after the other. -/
def run (crowd : Crowd α) (schedule : List (Nat × Move)) : Crowd α :=
  schedule.foldl (fun crowd move => crowd.step move.1 move.2) crowd

/-- The crowds that schedules lead to. -/
inductive Reaches (start : Crowd α) : Crowd α → Prop where
  | here : Reaches start start
  | step {crowd : Crowd α} {i : Nat} {event : Event} {after : Runner α}
      (before : Reaches start crowd)
      (does : (crowd.runners i).Does crowd.commons.session crowd.commons.owner.isNone event
        after) :
      Reaches start (crowd.record i event after)

lemma Reaches.run {start crowd : Crowd α} (h : Reaches start crowd)
    (schedule : List (Nat × Move)) : Reaches start (crowd.run schedule) := by
  induction schedule generalizing crowd with
  | nil => exact h
  | cons move rest ih =>
    show Reaches start ((crowd.step move.1 move.2).run rest)
    apply ih
    unfold Crowd.step
    split
    · next taken => exact .step h (Runner.does_of_next taken)
    · exact h

lemma reaches_run (start : Crowd α) (schedule : List (Nat × Move)) :
    Reaches start (start.run schedule) :=
  Reaches.here.run schedule

/-- A task that is decided stays decided. -/
lemma Reaches.endsIn {start crowd : Crowd α} (h : Reaches start crowd) {i : Nat} {result : α}
    (hstart : (start.runners i).EndsIn result) : (crowd.runners i).EndsIn result := by
  induction h with
  | here => exact hstart
  | @step crowd j event after _ does ih =>
    by_cases hj : j = i
    · subst hj
      simp only [record, Function.update_self]
      exact ih.next does
    · simp only [record, Function.update_of_ne (Ne.symm hj)]
      exact ih

section
variable {session : Session} {counters : Counters} {tasks : Nat → Task α} {crowd : Crowd α}

/-- The commons are the replay of the history. -/
lemma Reaches.commons_eq (h : Reaches (start session counters tasks) crowd) :
    crowd.commons = Commons.replay { session, counters } crowd.history := by
  induction h with
  | here => rfl
  | step _ _ ih => simp only [record, Commons.replay_cons, ih]

/-- Each task goes a path of its own. -/
lemma Reaches.path (h : Reaches (start session counters tasks) crowd) (i : Nat) :
    Runner.Path (.start (tasks i)) (own i crowd.history) (crowd.runners i) := by
  induction h with
  | here => exact .here
  | @step crowd j event after _ does ih =>
    by_cases hj : j = i
    · subst hj
      simp only [record, own_cons_self, Function.update_self]
      exact .step ih does
    · simp only [record, own_cons_of_ne hj, Function.update_of_ne (Ne.symm hj)]
      exact ih

/-- The events of a task tell whether it owns the login lock. -/
lemma Reaches.owner_iff (h : Reaches (start session counters tasks) crowd) (i : Nat) :
    crowd.commons.owner = some i ↔ holdsLock (own i crowd.history) = true := by
  induction h generalizing i with
  | here => simp [start, holdsLock]
  | @step crowd j event after _ does ih =>
    simp only [record, Commons.owner_after]
    by_cases hj : j = i
    · subst hj
      rw [own_cons_self]
      cases event <;> simp [holdsLock, ih]
    · rw [own_cons_of_ne hj, ← ih]
      cases event with
      | acquired =>
        have hfree : crowd.commons.owner = none := by simpa using does.free_of_acquired
        simp [hfree, hj]
      | _ => simp [Ne.symm hj]

/-- Every event of the history was a step of a crowd on the way. -/
lemma Reaches.at_event {start crowd : Crowd α} (h : Reaches start crowd)
    (hstart : start.history = []) {i : Nat} {event : Event} {later earlier : List (Nat × Event)}
    (hhistory : crowd.history = later ++ (i, event) :: earlier) :
    ∃ (moment : Crowd α) (after : Runner α), Reaches start moment ∧ moment.history = earlier ∧
      (moment.runners i).Does moment.commons.session moment.commons.owner.isNone event after ∧
      Reaches (moment.record i event after) crowd := by
  induction h generalizing later with
  | here => simp [hstart] at hhistory
  | @step crowd j event' after before does ih =>
    cases later with
    | nil =>
      obtain ⟨hentry, rfl⟩ := List.cons.inj hhistory
      obtain ⟨rfl, rfl⟩ := Prod.mk.inj hentry
      exact ⟨crowd, after, before, rfl, does, .here⟩
    | cons entry later =>
      obtain ⟨moment, after', hreaches, hpast, hdoes, hon⟩ := ih (List.cons.inj hhistory).2
      exact ⟨moment, after', hreaches, hpast, hdoes, .step hon does⟩

/-- The generation of the session never falls. -/
lemma Reaches.generation_le {start crowd : Crowd α} (h : Reaches start crowd) :
    start.commons.session.generation ≤ crowd.commons.session.generation := by
  induction h with
  | here => exact Nat.le_refl _
  | @step crowd i event _ _ _ ih =>
    exact Nat.le_trans ih (crowd.commons.generation_le_after i event)

end
end Crowd
end StorageFleet
