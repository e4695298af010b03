import StorageFleet.Deployment.Thread
import StorageFleet.Proofs.Task.Playback

/-!
# The life of a thread

A thread is visited again and again (`Thread.advance`), each time on the deployment as it is by
then.  Between two visits other threads may change everything on it; the clock does not fall, and
it does not go beyond a moment that the thread waits for (`Thread.OnTime`).  That is what a schedule
promises that visits all threads until none moves and then sets the clock to the first moment that
anything waits for.

Such a life is a playback of the thread's task: `Thread.plays` finds circumstances under which
`Task.play` does in the same order and at the same times what the thread does in its visits, and
ends with the same result.  So what holds of all playbacks of a task holds of every thread that
runs it, whatever the other threads do.

What a visit does is read off the deployment before and after it (`Deployment.Shows`): the counters,
the log, and the requests that were received.

A playback is followed through a visit in three parts: what the thread waited for comes
(`leads_ready`), it runs as far as it gets (`goes_run`, by induction on the task), and if its time
is up then, it goes on with what it has for that case (`Goes.lapse`).
-/

namespace StorageFleet
open StorageFleet.Task (Event Circumstance Moment Ending Playback Deadline await)

/-! ## What events leave behind -/

namespace Deployment

/-- The events account for the difference between two deployments. -/
structure Shows (events : List Event) (before after : Deployment) : Prop where
  clock : after.clock = before.clock
  counters : after.counters = (events.filterMap Event.counter?).foldl Counters.add before.counters
  log : after.log = before.log ++ (events.filterMap Event.line?).map (LogLine.mk .warning)
  received : ∃ new, after.received = before.received ++ new ∧
    (new.map Prod.snd).Sublist
      ((events.filterMap Event.sent?).map (Received.request before.clock))

lemma Shows.trans {before between after : Deployment} {events later : List Event}
    (h : before.Shows events between) (hlater : between.Shows later after) :
    before.Shows (events ++ later) after where
  clock := hlater.clock.trans h.clock
  counters := by
    rw [hlater.counters, h.counters, List.filterMap_append, List.foldl_append]
  log := by
    rw [hlater.log, h.log, List.filterMap_append, List.map_append, List.append_assoc]
  received := by
    obtain ⟨new, hnew, hsub⟩ := h.received
    obtain ⟨newer, hnewer, hsubLater⟩ := hlater.received
    refine ⟨new ++ newer, ?_, ?_⟩
    · rw [hnewer, hnew, List.append_assoc]
    · rw [h.clock] at hsubLater
      rw [List.filterMap_append, List.map_append, List.map_append]
      exact hsub.append hsubLater

/-- Nothing but stations has changed. -/
structure Alike (before after : Deployment) : Prop where
  clock : after.clock = before.clock
  counters : after.counters = before.counters
  log : after.log = before.log
  received : after.received = before.received

/-- An event that is neither a request, nor a count, nor a warning shows on stations only. -/
lemma Alike.shows {before after : Deployment} (h : before.Alike after) {event : Event}
    (hcounter : event.counter? = none) (hline : event.line? = none) :
    before.Shows [event] after where
  clock := h.clock
  counters := by
    rw [h.counters, List.filterMap_cons_none hcounter]
    rfl
  log := by
    rw [h.log, List.filterMap_cons_none hline]
    simp
  received := ⟨[], by simp [h.received], List.nil_sublist _⟩

lemma Alike.shows_nil {before after : Deployment} (h : before.Alike after) :
    before.Shows [] after where
  clock := h.clock
  counters := h.counters
  log := by simp [h.log]
  received := ⟨[], by simp [h.received], List.nil_sublist _⟩

lemma alike_self (d : Deployment) : d.Alike d :=
  ⟨rfl, rfl, rfl, rfl⟩

lemma alike_adjust (d : Deployment) (id : Nat) (change : Connected → Connected) :
    d.Alike (d.adjust id change) := by
  unfold adjust
  split
  · exact ⟨rfl, rfl, rfl, rfl⟩
  · exact d.alike_self

lemma alike_abandonLocks (d : Deployment) (thread : Nat) : d.Alike (d.abandonLocks thread) :=
  ⟨rfl, rfl, rfl, rfl⟩

lemma shows_count (d : Deployment) (counter : Counter) :
    d.Shows [.counted counter] (d.count counter) where
  clock := rfl
  counters := rfl
  log := by simp [count]
  received := ⟨[], by simp [count], List.nil_sublist _⟩

lemma shows_warn (d : Deployment) (line : String) : d.Shows [.warned line] (d.warn line) where
  clock := rfl
  counters := rfl
  log := rfl
  received := ⟨[], by simp [warn, report], List.nil_sublist _⟩

lemma shows_send (d : Deployment) (appliance : ApplianceRef) (request : Request) :
    d.Shows [.sent request] (d.send appliance request).2.2 := by
  unfold send
  split
  · refine ⟨rfl, rfl, by simp [receive, setStation], ?_⟩
    exact ⟨[(appliance.id, .request d.clock request)], rfl, List.Sublist.refl _⟩
  · exact (d.alike_self).shows rfl rfl

end Deployment

namespace Task

/-- The task makes no call to an appliance in memory, and sets time limits only if `limits`; what it
does after a time limit has passed sets none. -/
def Remote (limits : Bool) : Task α → Prop
  | .done _ => True
  | .perform .. => False
  | .send _ _ next => ∀ answer, (next answer).Remote limits
  | .session _ next => ∀ session, (next session).Remote limits
  | .limit _ late next => limits = true ∧ late.Remote false ∧ next.Remote limits
  | .acquire _ next | .release _ next | .settle _ _ next | .sleep _ next | .unlimit next
  | .count _ next | .warn _ next => next.Remote limits

lemma Remote.of_false {task : Task α} (h : task.Remote false) : task.Remote true := by
  induction task with
  | done => trivial
  | perform => exact h.elim
  | send _ _ next ih => exact fun answer => ih answer (h answer)
  | session _ next ih => exact fun session => ih session (h session)
  | limit => exact absurd h.1 (by simp)
  | acquire _ _ ih | release _ _ ih | settle _ _ _ ih | sleep _ _ ih | unlimit _ ih
  | count _ _ ih | warn _ _ ih => exact ih h

lemma Untimed.remote {task : Task α} (h : task.Untimed) : task.Remote false := by
  induction task with
  | done => trivial
  | perform | sleep | limit | unlimit => exact h.elim
  | send _ _ next ih => exact fun answer => ih answer (h answer)
  | session _ next ih => exact fun session => ih session (h session)
  | acquire _ _ ih | release _ _ ih | settle _ _ _ ih | count _ _ ih | warn _ _ ih => exact ih h

lemma Remote.bind {task : Task α} {next : α → Task β} {limits : Bool} (h : task.Remote false)
    (hnext : ∀ result, (next result).Remote limits) : (task.bind next).Remote limits := by
  induction task with
  | done result => exact hnext result
  | perform => exact h.elim
  | send _ _ rest ih => exact fun answer => ih answer (h answer)
  | session _ rest ih => exact fun session => ih session (h session)
  | limit => exact absurd h.1 (by simp)
  | acquire _ _ ih | release _ _ ih | settle _ _ _ ih | sleep _ _ ih | unlimit _ ih
  | count _ _ ih | warn _ _ ih => exact ih h

end Task

/-! ## Circumstances, one after the other -/

/-- Under some circumstances with numbers from `used` on and below `later`, whatever the others are,
`first` is `rest` after the events. -/
def Leads (used later : Nat) (first rest : (Nat → Circumstance) → Playback α)
    (events : List (Nat × Event)) : Prop :=
  used ≤ later ∧ ∃ found : Nat → Circumstance, ∀ world : Nat → Circumstance,
    (∀ k, used ≤ k → k < later → world k = found k) → first world = (rest world).after events

namespace Leads

variable {used between later : Nat} {first middle rest : (Nat → Circumstance) → Playback α}
  {events more : List (Nat × Event)}

lemma of_eq (h : ∀ world, first world = (rest world).after events) :
    Leads used used first rest events :=
  ⟨Nat.le_refl _, fun _ => {}, fun world _ => h world⟩

lemma of_found (found : Circumstance)
    (h : ∀ world, world used = found → first world = (rest world).after events) :
    Leads used (used + 1) first rest events :=
  ⟨Nat.le_succ _, fun _ => found, fun world hworld =>
    h world (hworld used (Nat.le_refl _) (Nat.lt_succ_self _))⟩

lemma trans (h : Leads used between first middle events)
    (hmore : Leads between later middle rest more) :
    Leads used later first rest (events ++ more) := by
  obtain ⟨hle, found, hfound⟩ := h
  obtain ⟨hleMore, foundMore, hfoundMore⟩ := hmore
  refine ⟨Nat.le_trans hle hleMore,
    fun k => if k < between then found k else foundMore k, fun world hworld => ?_⟩
  have hfirst : first world = (middle world).after events := by
    apply hfound
    intro k hk hlt
    exact (hworld k hk (Nat.lt_of_lt_of_le hlt hleMore)).trans (if_pos hlt)
  have hmiddle : middle world = (rest world).after more := by
    apply hfoundMore
    intro k hk hlt
    exact (hworld k (Nat.le_trans hle hk) hlt).trans (if_neg (Nat.not_lt.2 hk))
  rw [hfirst, hmiddle, Playback.after_after]

end Leads

/-! ## Threads as playbacks -/

/-- The events that end a wait. -/
def Task.Event.IsWait : Event → Prop
  | .answered _ | .slept | .acquired => True
  | _ => False

lemma Deployment.Alike.shows_wait {before after : Deployment} (h : before.Alike after)
    {event : Event} (hwait : event.IsWait) : before.Shows [event] after := by
  cases event with
  | answered | slept | acquired => exact h.shows rfl rfl
  | _ => exact hwait.elim

namespace Thread

/-- The time limit of a thread as a deadline of its playback. -/
def deadlineOf (limit : Option (Nat × Task α)) (world : Nat → Circumstance) :
    Option (Deadline α) :=
  limit.map fun limit => ⟨limit.1, limit.2.play world none⟩

/-- How a thread that has waited since a moment goes on; `event` is what it shows when its wait is
over. -/
def playOn (thread : Thread α) (since : Moment) (event : Event) (world : Nat → Circumstance) :
    Playback α :=
  let deadline := deadlineOf thread.limit world
  let next (later : Moment) :=
    (thread.task.play world deadline later).after [(later.time, event)]
  match thread.wait with
  | .nothing => thread.task.play world deadline since
  | .moment due =>
    await deadline since (if deadline.any fun deadline => deadline.time ≤ since.time then none
      else some (due - since.time)) next
  | .lock _ => await deadline ⟨since.used + 1, since.time⟩ (world since.used).delay next

/-- What holds of a thread that was left at a time: unless it is done, it waits for something that
is not in the past. -/
structure LeftAt (thread : Thread α) (time : Nat) : Prop where
  done : thread.wait = .nothing → ∃ result, thread.task = .done result ∧ thread.limit = none
  due : ∀ due, thread.wait = .moment due → time ≤ due
  ahead : ∀ limit ∈ thread.limit, time ≤ limit.1
  remote : thread.task.Remote true
  remoteLate : ∀ limit ∈ thread.limit, limit.2.Remote false

/-- A playback goes on, within one moment, as a thread was left. -/
def Goes (used time : Nat) (d : Deployment) (first : (Nat → Circumstance) → Playback α)
    (after : Deployment × Thread α) : Prop :=
  ∃ later event shown, Leads used later first (after.2.playOn ⟨later, time⟩ event)
      (shown.map fun event => (time, event)) ∧
    event.IsWait ∧ d.Shows shown after.1 ∧ after.2.LeftAt time

lemma Goes.step {used between time : Nat} {d next : Deployment}
    {first middle : (Nat → Circumstance) → Playback α} {after : Deployment × Thread α}
    {shown : List Event}
    (hleads : Leads used between first middle (shown.map fun event => (time, event)))
    (hshows : d.Shows shown next) (h : Goes between time next middle after) :
    Goes used time d first after := by
  obtain ⟨later, event, more, hmore, hwait, hshowsMore, hleft⟩ := h
  refine ⟨later, event, shown ++ more, ?_, hwait, hshows.trans hshowsMore, hleft⟩
  rw [List.map_append]
  exact hleads.trans hmore

lemma deadlineOf_ahead {limit : Option (Nat × Task α)} {time : Nat}
    (hahead : ∀ passed ∈ limit, time ≤ passed.1) (world : Nat → Circumstance) :
    ∀ passed ∈ deadlineOf limit world, time + 0 ≤ passed.time := by
  intro passed hpassed
  obtain ⟨found, hfound, rfl⟩ := Option.map_eq_some_iff.1 hpassed
  exact hahead found hfound

/-- It makes no difference to a wait that takes time if time that is up is looked at first. -/
lemma await_suspended (deadline : Option (Deadline α)) (now : Moment) {delay : Nat}
    (hdelay : delay ≠ 0) (next : Moment → Playback α) :
    await deadline now (if deadline.any fun deadline => deadline.time ≤ now.time then none
      else some delay) next = await deadline now (some delay) next := by
  cases deadline with
  | none => rfl
  | some passed =>
    simp only [Option.any_some, decide_eq_true_eq]
    split
    · next hup =>
      have hlt : passed.time < now.time + delay := by omega
      simp only [await, if_neg (Nat.not_le.2 hlt)]
    · rfl

lemma goes_run (id : Nat) (task : Task α) (limit : Option (Nat × Task α)) (d : Deployment)
    (used time : Nat) (hclock : d.clock = time) (remote : task.Remote true)
    (hahead : ∀ passed ∈ limit, time ≤ passed.1)
    (hlate : ∀ passed ∈ limit, passed.2.Remote false) :
    Goes used time d (fun world => task.play world (deadlineOf limit world) ⟨used, time⟩)
      (run id limit d task) := by
  induction task generalizing limit d used with
  | done result =>
    refine ⟨used, .slept, [], .of_eq fun _ => rfl, trivial, (d.alike_self).shows_nil, ?_⟩
    exact ⟨fun _ => ⟨result, rfl, rfl⟩, by simp [run], by simp [run], trivial, by simp [run]⟩
  | perform => exact remote.elim
  | session appliance next ih =>
    have hleads : Leads used (used + 1)
        (fun world => (Task.session appliance next).play world (deadlineOf limit world)
          ⟨used, time⟩)
        (fun world => (next (d.session appliance.id)).play world (deadlineOf limit world)
          ⟨used + 1, time⟩)
        ([Event.read (d.session appliance.id)].map fun event => (time, event)) := by
      refine .of_found { session := d.session appliance.id } fun world hworld => ?_
      simp only [Task.play, hworld]
      rfl
    have hshows : d.Shows [.read (d.session appliance.id)] d := (d.alike_self).shows rfl rfl
    exact .step hleads hshows (ih _ limit d (used + 1) hclock (remote _) hahead hlate)
  | send appliance request next ih =>
    rcases hsent : d.send appliance request with ⟨answer, delay, sent⟩
    have hshows : d.Shows [.sent request] sent := by
      have h := d.shows_send appliance request
      rwa [hsent] at h
    simp only [run, hsent]
    split
    · next hdelay =>
      have hleads : Leads used (used + 1)
          (fun world => (Task.send appliance request next).play world (deadlineOf limit world)
            ⟨used, time⟩)
          (fun world => (next answer).play world (deadlineOf limit world) ⟨used + 1, time⟩)
          ([Event.sent request, .answered answer].map fun event => (time, event)) := by
        refine .of_found { answer, delay := some 0 } fun world hworld => ?_
        simp only [Task.play, hworld, Task.await_of_le (deadlineOf_ahead hahead world)]
        rfl
      have hanswered : sent.Shows [.answered answer] sent := (sent.alike_self).shows rfl rfl
      exact .step hleads (hshows.trans hanswered)
        (ih answer limit sent (used + 1) (hshows.clock.trans hclock) (remote _) hahead hlate)
    · next hdelay =>
      refine ⟨used + 1, .answered answer, [.sent request], ?_, trivial, hshows, ?_⟩
      · refine .of_found { answer, delay := some delay } fun world hworld => ?_
        have hspan : sent.clock + delay - time = delay := by
          have hsame := hshows.clock
          omega
        have hwait := await_suspended (deadlineOf limit world) ⟨used + 1, time⟩ hdelay
          fun later => ((next answer).play world (deadlineOf limit world) later).after
            [(later.time, .answered answer)]
        simp only [Task.play, hworld, playOn, hspan]
        exact congrArg (Playback.after · [(time, .sent request)]) hwait.symm
      · refine ⟨by simp, fun due hdue => ?_, hahead, remote _, hlate⟩
        cases hdue
        have hsame := hshows.clock
        omega
  | acquire appliance next ih =>
    have hshows : d.Shows [] (d.requestLock appliance.id id) := (d.alike_adjust _ _).shows_nil
    have hacquired : (d.requestLock appliance.id id).Shows [.acquired]
        (d.requestLock appliance.id id) := (Deployment.alike_self _).shows rfl rfl
    simp only [run]
    split
    · have hleads : Leads used (used + 1)
          (fun world => (Task.acquire appliance next).play world (deadlineOf limit world)
            ⟨used, time⟩)
          (fun world => next.play world (deadlineOf limit world) ⟨used + 1, time⟩)
          ([Event.acquired].map fun event => (time, event)) := by
        refine .of_found {} fun world hworld => ?_
        simp only [Task.play, hworld, Task.await_of_le (deadlineOf_ahead hahead world)]
        rfl
      exact .step hleads (hshows.trans hacquired)
        (ih limit _ (used + 1) (hshows.clock.trans hclock) remote hahead hlate)
    · refine ⟨used, .acquired, [], .of_eq fun world => rfl, trivial, hshows, ?_⟩
      exact ⟨by simp, by simp, hahead, remote, hlate⟩
  | sleep span next ih =>
    rw [run]
    refine ⟨used, .slept, [], .of_eq fun world => ?_, trivial, (d.alike_self).shows_nil, ?_⟩
    · have hspan : d.clock + span.milliseconds - time = span.milliseconds := by omega
      simp only [Task.play, playOn, hspan]
      rfl
    · refine ⟨by simp, fun due hdue => ?_, hahead, remote, hlate⟩
      cases hdue
      omega
  | release appliance next ih =>
    have hshows : d.Shows [.released] (d.releaseLock appliance.id id) :=
      (d.alike_adjust _ _).shows rfl rfl
    exact .step (.of_eq fun world => rfl) hshows
      (ih limit _ used (hshows.clock.trans hclock) remote hahead hlate)
  | settle appliance outcome next ih =>
    have hshows : d.Shows [.settled outcome] (d.settle appliance.id outcome) :=
      (d.alike_adjust _ _).shows rfl rfl
    exact .step (.of_eq fun world => rfl) hshows
      (ih limit _ used (hshows.clock.trans hclock) remote hahead hlate)
  | limit span late next ihLate ih =>
    have hshows : d.Shows [.limited] d := (d.alike_self).shows rfl rfl
    have hnew : ∀ passed ∈ some (time + span.milliseconds, late), time ≤ passed.1 := by
      rintro passed hpassed
      cases hpassed
      exact Nat.le_add_right _ _
    have hnewLate : ∀ passed ∈ some (time + span.milliseconds, late), passed.2.Remote false := by
      rintro passed hpassed
      cases hpassed
      exact remote.2.1
    rw [run, hclock]
    exact .step (.of_eq fun world => rfl) hshows
      (ih _ d used hclock remote.2.2 hnew hnewLate)
  | unlimit next ih =>
    have hshows : d.Shows [.unlimited] d := (d.alike_self).shows rfl rfl
    exact .step (.of_eq fun world => rfl) hshows
      (ih none d used hclock remote (by simp) (by simp))
  | count counter next ih =>
    exact .step (.of_eq fun world => rfl) (d.shows_count counter)
      (ih limit _ used hclock remote hahead hlate)
  | warn line next ih =>
    exact .step (.of_eq fun world => rfl) (d.shows_warn line)
      (ih limit _ used hclock remote hahead hlate)

lemma run_limit_none (id : Nat) (task : Task α) (d : Deployment) (remote : task.Remote false) :
    (run id none d task).2.limit = none := by
  induction task generalizing d with
  | done => rfl
  | perform => exact remote.elim
  | send appliance request next ih =>
    simp only [run]
    split
    · exact ih _ _ (remote _)
    · rfl
  | acquire appliance next ih =>
    simp only [run]
    split
    · exact ih _ remote
    · rfl
  | session _ next ih => exact ih _ _ (remote _)
  | sleep => rfl
  | limit => exact absurd remote.1 (by simp)
  | release _ _ ih | settle _ _ _ ih | unlimit _ ih | count _ _ ih | warn _ _ ih =>
    exact ih _ remote

/-! ## Time limits -/

/-- The time limit of a waiting thread passes. -/
lemma leads_late {thread : Thread α} {time : Nat} {late : Task α} (since : Moment) (event : Event)
    (hlimit : thread.limit = some (time, late)) (hwait : thread.wait ≠ .nothing)
    (hdue : ∀ due, thread.wait = .moment due → since.time = time ∨ time < due) :
    ∃ later, Leads since.used later (thread.playOn since event)
      (fun world => late.play world none ⟨later, time⟩) [(time, .late)] := by
  cases h : thread.wait with
  | nothing => exact absurd h hwait
  | moment due =>
    refine ⟨since.used, .of_eq fun world => ?_⟩
    simp only [playOn, h, deadlineOf, hlimit, Option.map_some]
    apply Task.await_of_lt
    intro span hspan
    split at hspan
    · cases hspan
    · next hup =>
      cases hspan
      simp only [Option.any_some, decide_eq_true_eq] at hup
      have hwhen := hdue due h
      simp only
      omega
  | lock =>
    refine ⟨since.used + 1, .of_found { delay := none } fun world hworld => ?_⟩
    simp only [playOn, h, deadlineOf, hlimit, hworld]
    rfl

/-- What a visit does about the time limit of a thread. -/
def lapse (state : Deployment × Thread α) : Deployment × Thread α :=
  match state.2.late? state.1 with
  | some late => run state.2.id none (state.1.abandonLocks state.2.id) late
  | none => state

lemma advance_eq (d : Deployment) (thread : Thread α) : (thread.advance d).2 =
    lapse (if thread.isReady d then run thread.id thread.limit d thread.task
      else (d, thread)) := by
  generalize hstate : (if thread.isReady d then run thread.id thread.limit d thread.task
    else (d, thread)) = state
  simp only [advance, hstate, lapse]
  cases state.2.late? state.1 with
  | none => rfl
  | some late => rfl

lemma late?_eq_some {d : Deployment} {thread : Thread α} {late : Task α}
    (h : thread.late? d = some late) : thread.result? = none ∧
      ∃ time, thread.limit = some (time, late) ∧ time ≤ d.clock := by
  unfold late? at h
  split at h
  · cases h
  · next hresult =>
    split at h
    · next time found hlimit =>
      split at h
      · next hpassed =>
        cases h
        exact ⟨by simpa using hresult, time, hlimit, hpassed⟩
      · cases h
    · cases h

lemma late?_eq_none {d : Deployment} {thread : Thread α} (h : thread.late? d = none)
    (hresult : thread.result? = none) : ∀ limit ∈ thread.limit, d.clock < limit.1 := by
  intro limit hlimit
  have hsome : thread.limit = some limit := hlimit
  simp only [late?, hresult, hsome, Option.isSome_none] at h
  simpa using h

lemma LeftAt.wait_ne {thread : Thread α} {time : Nat} (h : thread.LeftAt time)
    (hlimit : thread.limit ≠ none) : thread.wait ≠ .nothing := by
  intro hwait
  obtain ⟨-, -, hnone⟩ := h.done hwait
  exact hlimit hnone

lemma LeftAt.limit_eq_none {thread : Thread α} {time : Nat} (h : thread.LeftAt time)
    (hresult : thread.result? ≠ none) : thread.limit = none := by
  unfold result? at hresult
  split at hresult
  · next hwait => exact (h.done hwait).choose_spec.2
  · exact absurd rfl hresult

/-- What holds of a thread between two visits, the last one at `now`. -/
structure Stands (thread : Thread α) (since : Moment) (event : Event) (now : Nat) : Prop where
  left : thread.LeftAt now
  ahead : ∀ limit ∈ thread.limit, now < limit.1
  since_le : since.time ≤ now
  finished : thread.wait = .nothing → since.time = now
  isWait : event.IsWait

/-- What a visit makes of a playback: some events, all at the time of the visit, and a thread that
stands. -/
def Visit (used : Nat) (d : Deployment) (first : (Nat → Circumstance) → Playback α)
    (after : Deployment × Thread α) : Prop :=
  ∃ since event shown, Leads used since.used first (after.2.playOn since event)
      (shown.map fun event => (d.clock, event)) ∧
    d.Shows shown after.1 ∧ after.2.Stands since event d.clock

lemma Goes.visit {used : Nat} {d : Deployment} {first : (Nat → Circumstance) → Playback α}
    {after : Deployment × Thread α} (h : Goes used d.clock d first after)
    (hahead : ∀ limit ∈ after.2.limit, d.clock < limit.1) : Visit used d first after := by
  obtain ⟨later, event, shown, hleads, hwait, hshows, hleft⟩ := h
  exact ⟨⟨later, d.clock⟩, event, shown, hleads, hshows,
    hleft, hahead, Nat.le_refl _, fun _ => rfl, hwait⟩

/-- A thread whose time is up goes on with what it has for that case. -/
lemma goes_late {d : Deployment} {thread : Thread α} {late : Task α} {now : Nat} (since : Moment)
    (event : Event) (hleft : thread.LeftAt now) (hlimit : thread.limit = some (d.clock, late))
    (hdue : ∀ due, thread.wait = .moment due → since.time = d.clock ∨ d.clock < due) :
    Goes since.used d.clock d (thread.playOn since event)
      (run thread.id none (d.abandonLocks thread.id) late) := by
  have hwait : thread.wait ≠ .nothing := hleft.wait_ne (by simp [hlimit])
  have habandon := d.alike_abandonLocks thread.id
  have hremote : late.Remote false := hleft.remoteLate _ hlimit
  obtain ⟨later, hpass⟩ := leads_late since event hlimit hwait hdue
  have hgoes := goes_run thread.id late none (d.abandonLocks thread.id) later d.clock
    habandon.clock hremote.of_false (by simp) (by simp)
  have hshows : d.Shows [.late] (d.abandonLocks thread.id) := habandon.shows rfl rfl
  exact .step hpass hshows hgoes

/-- A thread that has just gone on looks at its time limit. -/
lemma Goes.lapse {used : Nat} {d : Deployment} {first : (Nat → Circumstance) → Playback α}
    {after : Deployment × Thread α} (h : Goes used d.clock d first after) :
    Visit used d first (lapse after) := by
  have hgoes := h
  obtain ⟨later, event, shown, hleads, -, hshows, hleft⟩ := hgoes
  unfold Thread.lapse
  split
  · next late hlate =>
    obtain ⟨-, passed, hlimit, hle⟩ := late?_eq_some hlate
    have hahead : d.clock ≤ passed := hleft.ahead _ hlimit
    obtain rfl : passed = after.1.clock := by
      have hsame := hshows.clock
      omega
    have hgoes := goes_late ⟨later, after.1.clock⟩ event hleft hlimit fun _ _ => .inl rfl
    rw [hshows.clock] at hgoes
    apply (Goes.step hleads hshows hgoes).visit
    rw [run_limit_none _ _ _ (hleft.remoteLate _ hlimit)]
    simp
  · next hnone =>
    apply h.visit
    by_cases hresult : after.2.result? = none
    · rw [← hshows.clock]
      exact late?_eq_none hnone hresult
    · rw [hleft.limit_eq_none hresult]
      simp

/-! ## Visits -/

/-- A wait that is over: the thread goes on with its task. -/
lemma leads_ready {thread : Thread α} {since : Moment} {event : Event} {now time : Nat}
    (h : thread.Stands since event now) (hnow : now ≤ time)
    (hin : ∀ limit ∈ thread.limit, time ≤ limit.1) (hwait : thread.wait ≠ .nothing)
    (hdue : ∀ due, thread.wait = .moment due → due = time) :
    ∃ later, Leads since.used later (thread.playOn since event)
      (fun world => thread.task.play world (deadlineOf thread.limit world) ⟨later, time⟩)
      [(time, event)] := by
  obtain ⟨used, start⟩ := since
  have hstart : start ≤ now := h.since_le
  have hspan : start + (time - start) = time := by omega
  have hpassed : ∀ world, ∀ passed ∈ deadlineOf thread.limit world,
      start + (time - start) ≤ passed.time := by
    intro world passed hpassed
    rw [hspan]
    exact deadlineOf_ahead hin world passed hpassed
  cases hwhat : thread.wait with
  | nothing => exact absurd hwhat hwait
  | moment due =>
    obtain rfl : due = time := hdue due hwhat
    refine ⟨used, .of_eq fun world => ?_⟩
    have hnot : ¬ (deadlineOf thread.limit world).any
        (fun deadline => deadline.time ≤ start) = true := by
      cases hlimit : thread.limit with
      | none => simp [deadlineOf]
      | some limit =>
        have hahead : now < limit.1 := h.ahead limit hlimit
        simp only [deadlineOf, Option.map_some, Option.any_some, decide_eq_true_eq]
        omega
    simp only [playOn, hwhat, if_neg hnot, Task.await_of_le (hpassed world), hspan]
  | lock =>
    refine ⟨used + 1, .of_found { delay := some (time - start) } fun world hworld => ?_⟩
    simp only [playOn, hwhat, hworld, Task.await_of_le (hpassed world), hspan]

/-- A visit to a thread that stands. -/
lemma Stands.visit {thread : Thread α} {since : Moment} {event : Event} {now : Nat}
    (h : thread.Stands since event now) (d : Deployment) (hresult : thread.result? = none)
    (hnow : now ≤ d.clock) (hmoments : ∀ moment ∈ thread.moments, d.clock ≤ max now moment) :
    Visit since.used d (thread.playOn since event) (thread.advance d).2 := by
  have hwait : thread.wait ≠ .nothing := by
    intro hwait
    obtain ⟨result, htask, -⟩ := h.left.done hwait
    simp [result?, hwait, htask] at hresult
  have hlimit : ∀ limit ∈ thread.limit, d.clock ≤ limit.1 := by
    intro limit hlimit
    have hsome : thread.limit = some limit := hlimit
    have hbound := hmoments limit.1 (by simp [moments, hresult, hsome])
    have hahead := h.ahead limit hlimit
    omega
  have hdue : ∀ due, thread.wait = .moment due → d.clock ≤ due := by
    intro due hdue
    have hbound := hmoments due (by simp [moments, hresult, hdue])
    have hleft := h.left.due due hdue
    omega
  rw [advance_eq]
  split
  · next hready =>
    have hdue' : ∀ due, thread.wait = .moment due → due = d.clock := by
      intro due hmoment
      have hle : due ≤ d.clock := by simpa [isReady, hmoment] using hready
      exact Nat.le_antisymm hle (hdue due hmoment)
    obtain ⟨later, hleads⟩ := leads_ready h hnow hlimit hwait hdue'
    have hgoes := goes_run thread.id thread.task thread.limit d later d.clock rfl h.left.remote
      hlimit h.left.remoteLate
    have hshows : d.Shows [event] d := (d.alike_self).shows_wait h.isWait
    exact (Goes.step hleads hshows hgoes).lapse
  · next hready =>
    have hdue' : ∀ due, thread.wait = .moment due → d.clock < due := by
      intro due hmoment
      simpa [isReady, hmoment] using hready
    unfold lapse
    split
    · next late hlate =>
      obtain ⟨-, passed, hpassed, hle⟩ := late?_eq_some hlate
      obtain rfl : passed = d.clock := Nat.le_antisymm hle (hlimit _ hpassed)
      have hgoes := goes_late since event h.left hpassed fun due hmoment =>
        .inr (hdue' due hmoment)
      apply hgoes.visit
      rw [run_limit_none _ _ _ (h.left.remoteLate _ hpassed)]
      simp
    · next hnone =>
      refine ⟨since, event, [], .of_eq fun world => rfl, (d.alike_self).shows_nil, ?_⟩
      exact
        { left := ⟨h.left.done, hdue, hlimit, h.left.remote, h.left.remoteLate⟩
          ahead := late?_eq_none hnone hresult
          since_le := Nat.le_trans h.since_le hnow
          finished := fun hnothing => absurd hnothing hwait
          isWait := h.isWait }

/-! ## Lives -/

/-- The deployments are where a thread that was left at `now` can be visited, one after the other:
it is not done yet, the clock does not fall, and it does not go beyond what the thread waits
for. -/
def OnTime : Thread α → Nat → List Deployment → Prop
  | _, _, [] => True
  | thread, now, d :: later => thread.result? = none ∧ now ≤ d.clock ∧
    (∀ moment ∈ thread.moments, d.clock ≤ max now moment) ∧
    OnTime (thread.advance d).2.2 d.clock later

/-- A thread after some visits, and the time of the last one. -/
def visited : Thread α → Nat → List Deployment → Thread α × Nat
  | thread, now, [] => (thread, now)
  | thread, _, d :: later => visited (thread.advance d).2.2 d.clock later

/-- The events account, visit for visit, for what the thread does. -/
def ShownBy : Thread α → List Deployment → List (Nat × Event) → Prop
  | _, [], events => events = []
  | thread, d :: later, events => ∃ shown rest,
    events = (shown.map fun event => (d.clock, event)) ++ rest ∧
      d.Shows shown (thread.advance d).2.1 ∧ ShownBy (thread.advance d).2.2 later rest

lemma Stands.visits {thread : Thread α} {since : Moment} {event : Event} {now : Nat}
    (h : thread.Stands since event now) (visits : List Deployment)
    (onTime : thread.OnTime now visits) :
    ∃ since' event' events, Leads since.used since'.used (thread.playOn since event)
        ((thread.visited now visits).1.playOn since' event') events ∧
      thread.ShownBy visits events ∧
      (thread.visited now visits).1.Stands since' event' (thread.visited now visits).2 := by
  induction visits generalizing thread since event now with
  | nil => exact ⟨since, event, [], .of_eq fun world => rfl, rfl, h⟩
  | cons d later ih =>
    obtain ⟨hresult, hnow, hmoments, hlater⟩ := onTime
    obtain ⟨between, next, shown, hleads, hshows, hstands⟩ := h.visit d hresult hnow hmoments
    obtain ⟨since', event', events, hrest, hshown, hleft⟩ := ih hstands hlater
    exact ⟨since', event', _, hleads.trans hrest, ⟨shown, events, rfl, hshows, hshown⟩, hleft⟩

lemma advance_start (id : Nat) (task : Task α) (d : Deployment) :
    (advance d { id, task }).2 = lapse (run id none d task) := by
  rw [advance_eq]
  cases task <;> rfl

lemma Stands.playOn_done {thread : Thread α} {since : Moment} {event : Event} {now : Nat}
    (h : thread.Stands since event now) {result : α} (hresult : thread.result? = some result)
    (world : Nat → Circumstance) :
    thread.playOn since event world = ⟨[], some ⟨⟨since.used, now⟩, result⟩⟩ := by
  unfold result? at hresult
  split at hresult
  · next found htask hwait =>
    cases hresult
    have hnow : since.time = now := h.finished hwait
    simp only [playOn, hwait, htask, Task.play, ← hnow]
  · cases hresult

/-- The life of a thread is a playback of its task: its events are what the visits show, and if it
ends, it ends with the result of the thread at the time of the last visit. -/
theorem plays (id : Nat) (task : Task α) (remote : task.Remote true) (d : Deployment)
    (visits : List Deployment) (onTime : OnTime (advance d { id, task }).2.2 d.clock visits) :
    ∃ world events rest, task.play world none ⟨0, d.clock⟩ = Playback.after rest events ∧
      ShownBy { id, task } (d :: visits) events ∧
      ∀ result, (visited { id, task } d.clock (d :: visits)).1.result? = some result →
        ∃ used, rest = ⟨[], some ⟨⟨used, (visited { id, task } d.clock (d :: visits)).2⟩,
          result⟩⟩ := by
  have hgoes := (goes_run id task none d 0 d.clock rfl remote (by simp) (by simp)).lapse
  rw [← advance_start] at hgoes
  obtain ⟨since, event, shown, hleads, hshows, hstands⟩ := hgoes
  obtain ⟨since', event', events, hrest, hshown, hleft⟩ := hstands.visits visits onTime
  obtain ⟨-, world, hworld⟩ := hleads.trans hrest
  refine ⟨world, _, _, hworld world fun _ _ _ => rfl, ⟨shown, events, rfl, hshows, hshown⟩, ?_⟩
  exact fun result hresult => ⟨since'.used, hleft.playOn_done hresult world⟩

end Thread
end StorageFleet
