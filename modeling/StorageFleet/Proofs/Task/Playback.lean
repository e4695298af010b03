import StorageFleet.Proofs.Task.Runner

/-!
# Tasks on a clock

`Task.play` lets a task run on a clock.  Its surroundings are a list of circumstances, one for each
request, each wait for the login lock and each look at the session, in the order in which the task
comes to them.  They say what the answer or the session is, and how long the task has to wait for
it.  Work itself takes no time.

A time limit is kept the way `Thread.advance` keeps it: what falls due at the very moment of the
limit is still done first, and a sleep that begins at that moment is not begun.

A playback consists of the events with their times, in order, and of the ending, if there is one: a
task may wait for ever.  `Playback.Since` says that its times are in order, `play_follows` that its
events are a path of the runner of the task.

The larger part of the module is about tasks that do not look at the clock themselves (`Untimed`).
Such a task can be played without a time limit first, and `play_bind` then tells from that playback
what becomes of the task, with all that comes after it, under a time limit.
-/

namespace StorageFleet
namespace Task

/-- What the surroundings hold ready for a request, for a wait for the lock or for a look at the
session. -/
structure Circumstance where
  answer : Except Fault Response := .error (.http "no connection")
  session : Session := {}
  /-- How long the task waits; `none` if it waits in vain. -/
  delay : Option Nat := some 0

/-- How many circumstances are used up, and the time. -/
structure Moment where
  used : Nat := 0
  time : Nat

/-- How a playback ends. -/
structure Ending (α : Type) where
  moment : Moment
  result : α

/-- What a task does on a clock, in order, and how it ends, if it does. -/
structure Playback (α : Type) where
  events : List (Nat × Event)
  ending : Option (Ending α)

/-- The moment at which time is up, and what is played then. -/
structure Deadline (α : Type) where
  time : Nat
  late : Moment → Playback α

namespace Playback

/-- The playback after what came before it. -/
def after (run : Playback α) (earlier : List (Nat × Event)) : Playback α :=
  { run with events := earlier ++ run.events }

@[simp] lemma after_after (run : Playback α) (earlier first : List (Nat × Event)) :
    (run.after earlier).after first = run.after (first ++ earlier) := by
  simp [after]

@[simp] lemma events_after (run : Playback α) (earlier : List (Nat × Event)) :
    (run.after earlier).events = earlier ++ run.events := rfl

end Playback

/-- Time is up. -/
def Deadline.pass (deadline : Deadline α) (used : Nat) : Playback α :=
  (deadline.late ⟨used, deadline.time⟩).after [(deadline.time, .late)]

/-- Goes on after `delay`, unless time is up before that. -/
def await (deadline : Option (Deadline α)) (now : Moment) (delay : Option Nat)
    (next : Moment → Playback α) : Playback α :=
  match deadline, delay with
  | none, none => ⟨[], none⟩
  | none, some delay => next ⟨now.used, now.time + delay⟩
  | some deadline, none => deadline.pass now.used
  | some deadline, some delay =>
    if now.time + delay ≤ deadline.time then next ⟨now.used, now.time + delay⟩
    else deadline.pass now.used

/-- Plays a task from a moment on. -/
def play (world : Nat → Circumstance) : Task α → Option (Deadline α) → Moment → Playback α
  | .done result, _, now => ⟨[], some ⟨now, result⟩⟩
  | .perform .., _, _ => ⟨[], none⟩
  | .send _ request next, deadline, now =>
    let found := world now.used
    (await deadline ⟨now.used + 1, now.time⟩ found.delay fun later =>
      (play world (next found.answer) deadline later).after
        [(later.time, .answered found.answer)]).after [(now.time, .sent request)]
  | .session _ next, deadline, now =>
    let found := (world now.used).session
    (play world (next found) deadline ⟨now.used + 1, now.time⟩).after [(now.time, .read found)]
  | .acquire _ next, deadline, now =>
    await deadline ⟨now.used + 1, now.time⟩ (world now.used).delay fun later =>
      (play world next deadline later).after [(later.time, .acquired)]
  | .release _ next, deadline, now => (play world next deadline now).after [(now.time, .released)]
  | .settle _ outcome next, deadline, now =>
    (play world next deadline now).after [(now.time, .settled outcome)]
  | .sleep span next, deadline, now =>
    -- time that is up already is looked at before the task goes to sleep
    let delay := if deadline.any fun deadline => deadline.time ≤ now.time then none
      else some span.milliseconds
    await deadline now delay fun later =>
      (play world next deadline later).after [(later.time, .slept)]
  | .limit span late next, _, now =>
    (play world next (some ⟨now.time + span.milliseconds, play world late none⟩) now).after
      [(now.time, .limited)]
  | .unlimit next, _, now => (play world next none now).after [(now.time, .unlimited)]
  | .count counter next, deadline, now =>
    (play world next deadline now).after [(now.time, .counted counter)]
  | .warn line next, deadline, now =>
    (play world next deadline now).after [(now.time, .warned line)]

/-! ## Waiting -/

variable {world : Nat → Circumstance} {deadline : Option (Deadline α)} {now : Moment}

@[simp] lemma await_none_none (now : Moment) (next : Moment → Playback α) :
    await none now none next = ⟨[], none⟩ := rfl

@[simp] lemma await_none_some (now : Moment) (delay : Nat) (next : Moment → Playback α) :
    await none now (some delay) next = next ⟨now.used, now.time + delay⟩ := rfl

lemma await_of_le {used time delay : Nat} {next : Moment → Playback α}
    (h : ∀ passed ∈ deadline, time + delay ≤ passed.time) :
    await deadline ⟨used, time⟩ (some delay) next = next ⟨used, time + delay⟩ := by
  cases deadline with
  | none => rfl
  | some passed =>
    have hle : time + delay ≤ passed.time := h passed rfl
    simp only [await, if_pos hle]

lemma await_of_lt {passed : Deadline α} {delay : Option Nat} {next : Moment → Playback α}
    (h : ∀ span ∈ delay, passed.time < now.time + span) :
    await (some passed) now delay next = passed.pass now.used := by
  cases delay with
  | none => rfl
  | some span =>
    have hlt : passed.time < now.time + span := h span rfl
    simp only [await, if_neg (Nat.not_le.2 hlt)]

/-- A wait is over in time, or time is up before, or the task waits for ever. -/
lemma await_cases (deadline : Option (Deadline α)) (now : Moment) (delay : Option Nat)
    (next : Moment → Playback α) :
    (∃ span, delay = some span ∧ (∀ passed ∈ deadline, now.time + span ≤ passed.time) ∧
      await deadline now delay next = next ⟨now.used, now.time + span⟩) ∨
    (∃ passed, deadline = some passed ∧ (∀ span ∈ delay, passed.time < now.time + span) ∧
      await deadline now delay next = passed.pass now.used) ∨
    (deadline = none ∧ delay = none ∧ await deadline now delay next = ⟨[], none⟩) := by
  cases deadline with
  | none =>
    cases delay with
    | none => exact .inr (.inr ⟨rfl, rfl, rfl⟩)
    | some span => exact .inl ⟨span, rfl, by simp, rfl⟩
  | some passed =>
    by_cases h : ∃ span, delay = some span ∧ now.time + span ≤ passed.time
    · obtain ⟨span, rfl, hle⟩ := h
      have hin : ∀ other ∈ some passed, now.time + span ≤ other.time := by
        intro other hother
        cases hother
        exact hle
      exact .inl ⟨span, rfl, hin, await_of_le hin⟩
    · have hout : ∀ span ∈ delay, passed.time < now.time + span := by
        intro span hspan
        exact Nat.lt_of_not_le fun hle => h ⟨span, hspan, hle⟩
      exact .inr (.inl ⟨passed, rfl, hout, await_of_lt hout⟩)

lemma play_sleep_of_le {span : Span} {next : Task α} {passed : Deadline α}
    (positive : 0 < span.milliseconds) (h : now.time + span.milliseconds ≤ passed.time) :
    (Task.sleep span next).play world (some passed) now =
      (next.play world (some passed) ⟨now.used, now.time + span.milliseconds⟩).after
        [(now.time + span.milliseconds, .slept)] := by
  have hbefore : ¬ passed.time ≤ now.time := by omega
  simp only [play, Option.any_some, decide_eq_true_eq, if_neg hbefore, await, if_pos h]

lemma play_sleep_of_lt {span : Span} {next : Task α} {passed : Deadline α}
    (h : passed.time < now.time + span.milliseconds) :
    (Task.sleep span next).play world (some passed) now = passed.pass now.used := by
  simp only [play]
  apply await_of_lt
  intro delay hdelay
  split at hdelay
  · cases hdelay
  · cases hdelay
    exact h

/-! ## Times are in order -/

/-- The playback begins at `time` or later, its times never fall, and it ends with the latest. -/
structure Playback.Since (run : Playback α) (time : Nat) : Prop where
  le_event : ∀ entry ∈ run.events, time ≤ entry.1
  inOrder : run.events.Pairwise fun a b => a.1 ≤ b.1
  le_ending : ∀ ending, run.ending = some ending → time ≤ ending.moment.time
  event_le : ∀ ending, run.ending = some ending →
    ∀ entry ∈ run.events, entry.1 ≤ ending.moment.time

namespace Playback

lemma Since.mono {run : Playback α} {time earlier : Nat} (h : run.Since time)
    (hle : earlier ≤ time) : run.Since earlier where
  le_event entry hentry := Nat.le_trans hle (h.le_event entry hentry)
  inOrder := h.inOrder
  le_ending ending hending := Nat.le_trans hle (h.le_ending ending hending)
  event_le := h.event_le

lemma Since.after {run : Playback α} {time : Nat} (h : run.Since time) (event : Event) :
    (run.after [(time, event)]).Since time where
  le_event entry hentry := by
    rcases List.mem_cons.1 hentry with rfl | hrest
    · exact Nat.le_refl _
    · exact h.le_event entry hrest
  inOrder := List.pairwise_cons.2 ⟨h.le_event, h.inOrder⟩
  le_ending := h.le_ending
  event_le ending hending entry hentry := by
    rcases List.mem_cons.1 hentry with rfl | hrest
    · exact h.le_ending ending hending
    · exact h.event_le ending hending entry hrest

lemma since_stuck (time : Nat) : (⟨[], none⟩ : Playback α).Since time where
  le_event := by simp
  inOrder := .nil
  le_ending := by simp
  event_le := by simp

end Playback

/-- A deadline that has not passed, after which times go on in order. -/
def Deadline.Ahead (deadline : Deadline α) (now : Nat) : Prop :=
  now ≤ deadline.time ∧ ∀ used, (deadline.late ⟨used, deadline.time⟩).Since deadline.time

lemma since_await {delay : Option Nat} {next : Moment → Playback α}
    (ahead : ∀ passed ∈ deadline, passed.Ahead now.time)
    (hnext : ∀ later : Moment, now.time ≤ later.time →
      (∀ passed ∈ deadline, later.time ≤ passed.time) → (next later).Since later.time) :
    (await deadline now delay next).Since now.time := by
  rcases await_cases deadline now delay next with
    ⟨span, rfl, hin, heq⟩ | ⟨passed, rfl, -, heq⟩ | ⟨-, -, heq⟩
  · have hle : now.time ≤ now.time + span := Nat.le_add_right _ _
    rw [heq]
    exact (hnext ⟨now.used, now.time + span⟩ hle hin).mono hle
  · obtain ⟨hle, hlate⟩ := ahead passed rfl
    rw [heq]
    exact ((hlate now.used).after .late).mono hle
  · rw [heq]
    exact Playback.since_stuck _

lemma Deadline.Ahead.later {passed : Deadline α} {now later : Nat} (h : passed.Ahead now)
    (hle : later ≤ passed.time) : passed.Ahead later :=
  ⟨hle, h.2⟩

lemma play_since (world : Nat → Circumstance) (task : Task α) (deadline : Option (Deadline α))
    (now : Moment) (ahead : ∀ passed ∈ deadline, passed.Ahead now.time) :
    (task.play world deadline now).Since now.time := by
  induction task generalizing deadline now with
  | done result =>
    exact ⟨by simp [play], .nil, by simp [play], by simp [play]⟩
  | perform => exact Playback.since_stuck _
  | send _ request next ih =>
    have ahead' : ∀ passed ∈ deadline, passed.Ahead (Moment.mk (now.used + 1) now.time).time :=
      ahead
    refine Playback.Since.after ?_ _
    refine since_await ahead' fun later _ hin => ?_
    exact (ih _ deadline later fun passed h => (ahead passed h).later (hin passed h)).after _
  | session _ next ih => exact (ih _ deadline ⟨now.used + 1, now.time⟩ ahead).after _
  | acquire _ next ih =>
    have ahead' : ∀ passed ∈ deadline, passed.Ahead (Moment.mk (now.used + 1) now.time).time :=
      ahead
    refine since_await ahead' fun later _ hin => ?_
    exact (ih deadline later fun passed h => (ahead passed h).later (hin passed h)).after _
  | sleep span next ih =>
    rw [play]
    refine since_await ahead fun later _ hin => ?_
    exact (ih deadline later fun passed h => (ahead passed h).later (hin passed h)).after _
  | limit span late next ihLate ih =>
    refine Playback.Since.after (ih _ now ?_) _
    rintro passed hpassed
    cases hpassed
    exact ⟨Nat.le_add_right _ _, fun used => ihLate none _ (by simp)⟩
  | unlimit next ih => exact (ih none now (by simp)).after _
  | release _ next ih | settle _ _ next ih | count _ next ih | warn _ next ih =>
    exact (ih deadline now ahead).after _

/-! ## The events are a path -/

/-- The playback shows a path of the runner, from `start` to the result. -/
def Playback.Follows (run : Playback α) (start : Runner α) : Prop :=
  ∃ runner, Runner.Path start (run.events.map Prod.snd).reverse runner ∧
    ∀ ending, run.ending = some ending → runner.result? = some ending.result

namespace Playback

lemma Follows.after {run : Playback α} {start between : Runner α} {event : Event}
    (h : run.Follows between) (session : Session)
    (does : Runner.Does session true start event between) (time : Nat) :
    (run.after [(time, event)]).Follows start := by
  obtain ⟨runner, path, hresult⟩ := h
  refine ⟨runner, ?_, hresult⟩
  have hevents : ((run.after [(time, event)]).events.map Prod.snd).reverse =
      (run.events.map Prod.snd).reverse ++ [event] := by
    simp
  rw [hevents]
  exact path.after_step does

lemma follows_stuck (start : Runner α) : (⟨[], none⟩ : Playback α).Follows start :=
  ⟨start, .here, by simp⟩

end Playback

/-- The deadline goes with what the runner has for the case that its time limit passes. -/
def Deadline.Suits (deadline : Option (Deadline α)) (late : Option (Task α)) : Prop :=
  ∀ passed ∈ deadline, ∃ task, late = some task ∧
    ∀ moment, (passed.late moment).Follows ⟨.ready task, none⟩

lemma follows_await {stage : Stage α} {late : Option (Task α)} {delay : Option Nat}
    {next : Moment → Playback α} (suits : Deadline.Suits deadline late)
    (suspended : stage.isSuspended = true)
    (hnext : ∀ later, (next later).Follows ⟨stage, late⟩) :
    (await deadline now delay next).Follows ⟨stage, late⟩ := by
  rcases await_cases deadline now delay next with
    ⟨span, rfl, -, heq⟩ | ⟨passed, rfl, -, heq⟩ | ⟨-, -, heq⟩
  · rw [heq]
    exact hnext _
  · obtain ⟨task, rfl, hlate⟩ := suits passed rfl
    rw [heq]
    exact (hlate _).after {} (.cut suspended (.late rfl)) _
  · rw [heq]
    exact Playback.follows_stuck _

/-- What is played is something that the runner of the task can do. -/
theorem play_follows (world : Nat → Circumstance) (task : Task α)
    (deadline : Option (Deadline α)) (late : Option (Task α)) (now : Moment)
    (suits : Deadline.Suits deadline late) :
    (task.play world deadline now).Follows ⟨.ready task, late⟩ := by
  induction task generalizing deadline late now with
  | done result => exact ⟨_, .here, by simp [play, Runner.result?]⟩
  | perform => exact Playback.follows_stuck _
  | send _ request next ih =>
    have hwait : ∀ moment delay, (await deadline moment delay fun later =>
        (play world (next (world now.used).answer) deadline later).after
          [(later.time, .answered (world now.used).answer)]).Follows
            ⟨.waiting request next, late⟩ := by
      intro moment delay
      refine follows_await suits rfl fun later => ?_
      exact (ih _ deadline late later suits).after {} (.answered _) _
    exact (hwait _ _).after {} .sent _
  | session _ next ih =>
    exact (ih _ deadline late _ suits).after _ .read _
  | acquire _ next ih =>
    refine follows_await suits rfl fun later => ?_
    exact (ih deadline late later suits).after {} (.acquired rfl) _
  | sleep span next ih =>
    rw [play]
    refine follows_await suits rfl fun later => ?_
    exact (ih deadline late later suits).after {} .slept _
  | limit span task next ihLate ih =>
    refine (ih _ (some task) now ?_).after {} .limited _
    rintro passed hpassed
    cases hpassed
    exact ⟨task, rfl, fun moment => ihLate none none moment (by simp [Deadline.Suits])⟩
  | unlimit next ih =>
    exact (ih none none now (by simp [Deadline.Suits])).after {} .unlimited _
  | release _ next ih =>
    exact (ih deadline late now suits).after {} .released _
  | settle _ _ next ih =>
    exact (ih deadline late now suits).after {} .settled _
  | count _ next ih =>
    exact (ih deadline late now suits).after {} .counted _
  | warn _ next ih =>
    exact (ih deadline late now suits).after {} .warned _

/-! ## Tasks that do not look at the clock -/

/-- The task neither sleeps nor sets a time limit, and makes no call to an appliance in memory. -/
def Untimed : Task α → Prop
  | .done _ => True
  | .perform .. | .sleep .. | .limit .. | .unlimit .. => False
  | .send _ _ next => ∀ answer, (next answer).Untimed
  | .session _ next => ∀ session, (next session).Untimed
  | .acquire _ next | .release _ next | .settle _ _ next | .count _ next | .warn _ next =>
    next.Untimed

lemma play_since_none (world : Nat → Circumstance) (task : Task α) (now : Moment) :
    (task.play world none now).Since now.time :=
  play_since world task none now (by simp)

namespace Playback

/-- What `free`, a playback without a time limit, tells of the playback under a time limit that
goes on with `next`: all that comes after it, what is left of it, or that it never ends. -/
structure Extends (run : Playback β) (free : Playback α) (deadline : Option (Deadline β))
    (next : Ending α → Playback β) : Prop where
  inTime : ∀ ending, free.ending = some ending →
    (∀ passed ∈ deadline, ending.moment.time ≤ passed.time) →
    run = (next ending).after free.events
  cut : ∀ passed, deadline = some passed →
    (∀ ending, free.ending = some ending → passed.time < ending.moment.time) →
    ∃ used, run = (passed.pass used).after
      (free.events.filter fun entry => entry.1 ≤ passed.time)
  forEver : deadline = none → free.ending = none → run = ⟨free.events, none⟩

variable {free : Playback α} {deadline : Option (Deadline β)} {next : Ending α → Playback β}

lemma Extends.after {run : Playback β} {time : Nat} (h : run.Extends free deadline next)
    (hin : ∀ passed ∈ deadline, time ≤ passed.time) (event : Event) :
    (run.after [(time, event)]).Extends (free.after [(time, event)]) deadline next where
  inTime ending hending hle := by
    rw [h.inTime ending hending hle]
    rfl
  cut passed hpassed hlate := by
    have hle : time ≤ passed.time := hin passed hpassed
    obtain ⟨used, hused⟩ := h.cut passed hpassed hlate
    refine ⟨used, ?_⟩
    rw [hused]
    simp [hle]
  forEver hnone hending := by
    rw [h.forEver hnone hending]
    rfl

lemma Since.filter_eq_nil {time limit : Nat} (h : free.Since time) (hlt : limit < time) :
    free.events.filter (fun entry => entry.1 ≤ limit) = [] := by
  rw [List.filter_eq_nil_iff]
  intro entry hentry
  have hle : time ≤ entry.1 := h.le_event entry hentry
  simp only [decide_eq_true_eq]
  omega

lemma Since.filter_eq_self {time limit : Nat} (h : free.Since time) {ending : Ending α}
    (hending : free.ending = some ending) (hle : ending.moment.time ≤ limit) :
    free.events.filter (fun entry => entry.1 ≤ limit) = free.events := by
  rw [List.filter_eq_self]
  intro entry hentry
  have hlast : entry.1 ≤ ending.moment.time := h.event_le ending hending entry hentry
  simp only [decide_eq_true_eq]
  omega

lemma extends_await {used time : Nat} {delay : Option Nat} {go : Moment → Playback β}
    {goFree : Moment → Playback α} (since : ∀ later, (goFree later).Since later.time)
    (h : ∀ later, (∀ passed ∈ deadline, later.time ≤ passed.time) →
      (go later).Extends (goFree later) deadline next) :
    (await deadline ⟨used, time⟩ delay go).Extends (await none ⟨used, time⟩ delay goFree)
      deadline next := by
  rcases await_cases deadline ⟨used, time⟩ delay go with
    ⟨span, rfl, hin, heq⟩ | ⟨passed, rfl, hout, heq⟩ | ⟨rfl, rfl, heq⟩
  · rw [heq]
    exact h _ hin
  · rw [heq]
    cases delay with
    | none =>
      refine ⟨by simp, fun other hother _ => ?_, by simp⟩
      cases hother
      exact ⟨used, rfl⟩
    | some span =>
      have hlt : passed.time < time + span := hout span rfl
      have hsince := since ⟨used, time + span⟩
      refine ⟨fun ending hending hle => ?_, fun other hother _ => ?_, by simp⟩
      · have hfirst : time + span ≤ ending.moment.time := hsince.le_ending ending hending
        have hlast : ending.moment.time ≤ passed.time := hle passed rfl
        omega
      · cases hother
        refine ⟨used, ?_⟩
        rw [await_none_some, hsince.filter_eq_nil hlt]
        rfl
  · rw [heq]
    exact ⟨by simp, by simp, fun _ _ => rfl⟩

end Playback

/-- What becomes of an untimed task, and of what comes after it, under a time limit. -/
theorem play_bind (world : Nat → Circumstance) {task : Task α} (untimed : task.Untimed)
    (next : α → Task β) (deadline : Option (Deadline β)) (now : Moment)
    (hin : ∀ passed ∈ deadline, now.time ≤ passed.time) :
    ((task.bind next).play world deadline now).Extends (task.play world none now) deadline
      fun ending => (next ending.result).play world deadline ending.moment := by
  induction task generalizing now with
  | done result =>
    refine ⟨fun ending hending _ => ?_, fun passed hpassed hlate => ?_, fun _ h => nomatch h⟩
    · cases hending
      rfl
    · have hle : now.time ≤ passed.time := hin passed hpassed
      have hlt : passed.time < now.time := hlate _ rfl
      omega
  | perform | sleep | limit | unlimit => exact untimed.elim
  | send _ request rest ih =>
    refine Playback.Extends.after ?_ hin _
    refine Playback.extends_await (fun later => ?_) fun later hlater => ?_
    · exact (play_since_none world _ later).after _
    · exact (ih _ (untimed _) later hlater).after hlater _
  | session _ rest ih =>
    exact (ih _ (untimed _) ⟨now.used + 1, now.time⟩ hin).after hin _
  | acquire _ rest ih =>
    refine Playback.extends_await (fun later => ?_) fun later hlater => ?_
    · exact (play_since_none world _ later).after _
    · exact (ih untimed later hlater).after hlater _
  | release _ rest ih | settle _ _ rest ih | count _ rest ih | warn _ rest ih =>
    exact (ih untimed now hin).after hin _

/-! ## A change of the result -/

/-- The playback with another result. -/
def Playback.map (f : α → β) (run : Playback α) : Playback β where
  events := run.events
  ending := run.ending.map fun ending => ⟨ending.moment, f ending.result⟩

/-- The deadline with another result of what is played after it. -/
def Deadline.map (f : α → β) (deadline : Deadline α) : Deadline β where
  time := deadline.time
  late moment := (deadline.late moment).map f

lemma Playback.map_after (f : α → β) (run : Playback α) (earlier : List (Nat × Event)) :
    (run.after earlier).map f = (run.map f).after earlier := rfl

lemma map_await (f : α → β) (deadline : Option (Deadline α)) (now : Moment) (delay : Option Nat)
    (next : Moment → Playback α) : (await deadline now delay next).map f =
      await (deadline.map (Deadline.map f)) now delay fun later => (next later).map f := by
  cases deadline with
  | none => cases delay <;> rfl
  | some passed =>
    cases delay with
    | none => rfl
    | some span =>
      simp only [await, Option.map_some, Deadline.map]
      split <;> rfl

lemma play_map (world : Nat → Circumstance) (f : α → β) (task : Task α)
    (deadline : Option (Deadline α)) (now : Moment) :
    (task.bind fun result => .done (f result)).play world (deadline.map (Deadline.map f)) now =
      (task.play world deadline now).map f := by
  induction task generalizing deadline now with
  | done | perform => rfl
  | send _ request next ih =>
    simp only [Task.bind, play, ih, Playback.map_after, map_await]
  | session _ next ih => simp only [Task.bind, play, ih, Playback.map_after]
  | acquire _ next ih => simp only [Task.bind, play, ih, Playback.map_after, map_await]
  | sleep span next ih =>
    simp only [Task.bind, play, ih, Playback.map_after, map_await]
    cases deadline <;> rfl
  | limit span late next ihLate ih =>
    have hlate : (fun moment => (late.play world none moment).map f) =
        (late.bind fun result => .done (f result)).play world none := by
      funext moment
      exact (ihLate none moment).symm
    simp only [Task.bind, play, ← hlate, Playback.map_after]
    rw [← ih]
    rfl
  | unlimit next ih =>
    simp only [Task.bind, play, Playback.map_after]
    rw [← ih]
    rfl
  | release _ next ih | settle _ _ next ih | count _ next ih | warn _ next ih =>
    simp only [Task.bind, play, ih, Playback.map_after]

end Task
end StorageFleet
