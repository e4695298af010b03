import StorageFleet.Proofs.Deployment.Life
import StorageFleet.Proofs.Job.Look
import StorageFleet.Proofs.Json.Wire

/-!
# Waiting for a job

`Client.awaitJob` looks at a job at intervals until a look finds it over or the time for it is up.
`Client.Polls` is the protocol of these looks: which of them begin, what the wait comes to if one of
them finds the job over in time, and what it comes to otherwise.  `polls_pollJob` proves it for the
loop, by induction on the looks that are left; there are always enough of them, because each takes
an interval.

Every wait is counted once.  `Client.Labels` gives the label that goes with its result, and
`Counters.jobsUnder` how often a label was counted.

`polling` is the theorem about all waits and about all requests that may lead to one.
-/

namespace StorageFleet
open StorageFleet.Task (Event Circumstance Moment Ending Playback Deadline)

/-! ## Counting jobs -/

namespace Counters

variable {counters : Counters} {label : String}

/-- How many jobs are counted under a label. -/
def jobsUnder (counters : Counters) (label : String) : Nat :=
  ((counters.families.find? fun family =>
    family.1.name == "nexentastor_csi_async_jobs_total").bind fun family =>
      family.2.find? label).getD 0

/-- The counters after an event. -/
def afterEvent (counters : Counters) : Event → Counters
  | .counted counter => counters.add counter
  | _ => counters

/-- The counters after a row of events. -/
def afterEvents (counters : Counters) (events : List (Nat × Event)) : Counters :=
  events.foldl (fun counters entry => counters.afterEvent entry.2) counters

lemma jobsUnder_eq : counters.jobsUnder label = (counters.jobs.find? label).getD 0 := by
  simp [jobsUnder, families, jobFamily]

lemma jobsUnder_add_job (ending : JobEnd) : (counters.add (.job ending)).jobsUnder label =
    counters.jobsUnder label + if label = ending.label then 1 else 0 := by
  simp only [jobsUnder_eq, add, bump, Catalog.find?_insert]
  by_cases h : label = ending.label
  · simp [h]
  · simp [h]

lemma afterEvents_append (counters : Counters) (first second : List (Nat × Event)) :
    counters.afterEvents (first ++ second) = (counters.afterEvents first).afterEvents second :=
  List.foldl_append

/-- Only ends of jobs are counted among the jobs. -/
lemma jobsUnder_afterEvents {events : List (Nat × Event)}
    (h : ∀ entry ∈ events, ∀ ending, entry.2 ≠ .counted (.job ending)) :
    (counters.afterEvents events).jobsUnder label = counters.jobsUnder label := by
  induction events generalizing counters with
  | nil => rfl
  | cons entry rest ih =>
    obtain ⟨hfirst, hrest⟩ := List.forall_mem_cons.1 h
    have hevent : (counters.afterEvent entry.2).jobsUnder label = counters.jobsUnder label := by
      obtain ⟨time, event⟩ := entry
      cases event with
      | counted counter =>
        cases counter with
        | job ending => exact absurd rfl (hfirst ending)
        | relogin endpoint => simp only [afterEvent, jobsUnder_eq, add]
      | _ => rfl
    exact (ih hrest).trans hevent

end Counters

namespace Client

variable {α : Type} {client : Client} {world : Nat → Circumstance} {job : String}

/-- What a client that looks at a job from `now` on does by the deadline.  `count` looks begin.  If
one of them finds the job over in time, `decision` comes after it, and otherwise `late` comes at the
deadline, after the part of the looks that was done by then. -/
structure Polls (client : Client) (world : Nat → Circumstance) (job : String) (now : Moment)
    (deadline count : Nat) (decision : Ending (Except Fault Unit) → Playback α)
    (late : Nat → Playback α) (run : Playback α) : Prop where
  begun : ∀ k < count, ∃ start, client.lookStart? world job now k = some start ∧
    start.time ≤ deadline
  unbegun : ∀ start, client.lookStart? world job now count = some start → deadline < start.time
  decided : ∀ k ending, client.Decides world job now k ending → ending.moment.time ≤ deadline →
    run = (decision ending).after (client.looks world job now deadline count)
  undecided : (∀ k ending, client.Decides world job now k ending →
      deadline < ending.moment.time) →
    ∃ used, run = (late used).after (client.looks world job now deadline count)

/-! ## The loop -/

/-- Goes on after a look. -/
def afterLooking (client : Client) (job : String) (rounds : Nat) (k : Except Fault Unit → Task α)
    (outcome : Except Fault Response) : Task α :=
  match client.verdict? job outcome with
  | some verdict => k verdict
  | none => (client.pollJob job rounds).run.bind k

lemma pollJob_succ_bind (rounds : Nat) (k : Except Fault Unit → Task α) :
    (client.pollJob job (rounds + 1)).run.bind k = .sleep client.interval
      ((client.sendAuthenticated (statusRequest job)).run.bind
        (client.afterLooking job rounds k)) := by
  show Task.sleep _ (((((client.sendAuthenticated (jobRequest job)).run.bind _).bind _).bind _)) = _
  rw [Task.bind_assoc, Task.bind_assoc, jobRequest_eq]
  congr 2
  funext outcome
  cases outcome with
  | error fault => rfl
  | ok response =>
    simp only [afterLooking, verdict?, ExceptT.bindCont]
    simp only [jobIsDone, jobRequest_eq]
    split
    · rfl
    · split
      · rfl
      · rfl

section
variable {now : Moment} {deadline count : Nat} {decision : Ending (Except Fault Unit) → Playback α}
  {late : Nat → Playback α} {run rest : Playback α} {first : Ending (Except Fault Response)}

/-- The deadline comes before the first look. -/
lemma Polls.of_none {used : Nat} (hlt : deadline < now.time + client.interval.milliseconds)
    (hrun : run = late used) : client.Polls world job now deadline 0 decision late run where
  begun k hk := absurd hk (Nat.not_lt_zero k)
  unbegun start hstart := by
    have hle := lookStart?_le hstart
    omega
  decided k ending hdecides hin := by
    have hle := hdecides.le
    omega
  undecided _ := ⟨used, hrun⟩

/-- The first look is not answered by the deadline. -/
lemma Polls.of_unanswered {used : Nat} (hle : now.time + client.interval.milliseconds ≤ deadline)
    (hlate : ∀ first, (client.look world job (client.rested now)).ending = some first →
      deadline < first.moment.time)
    (hrun : run = (late used).after (client.looks world job now deadline 1)) :
    client.Polls world job now deadline 1 decision late run where
  begun k hk := by
    obtain rfl : k = 0 := by omega
    exact ⟨_, rfl, hle⟩
  unbegun start hstart := by
    rw [lookStart?_succ] at hstart
    obtain ⟨first, hfirst, hstart⟩ := Option.bind_eq_some_iff.1 hstart
    split at hstart
    · have hafter := hlate first hfirst
      have hnext := lookStart?_le hstart
      omega
    · cases hstart
  decided k ending hdecides hin := by
    exfalso
    cases k with
    | zero =>
      obtain ⟨first, hfirst, -, hmoment⟩ := decides_zero.1 hdecides
      have hafter := hlate first hfirst
      rw [hmoment] at hafter
      omega
    | succ k =>
      obtain ⟨first, hfirst, -, hlater⟩ := decides_succ.1 hdecides
      have hafter := hlate first hfirst
      have hnext := hlater.le
      omega
  undecided _ := ⟨used, hrun⟩

/-- The first look finds the job over in time. -/
lemma Polls.of_decided {verdict : Except Fault Unit}
    (hle : now.time + client.interval.milliseconds ≤ deadline)
    (hfirst : (client.look world job (client.rested now)).ending = some first)
    (hverdict : client.verdict? job first.result = some verdict)
    (hin : first.moment.time ≤ deadline)
    (hrun : run = (decision ⟨first.moment, verdict⟩).after
      (client.looks world job now deadline 1)) :
    client.Polls world job now deadline 1 decision late run where
  begun k hk := by
    obtain rfl : k = 0 := by omega
    exact ⟨_, rfl, hle⟩
  unbegun start hstart := by
    rw [lookStart?_succ, hfirst] at hstart
    simp [hverdict] at hstart
  decided k ending hdecides _ := by
    cases k with
    | zero =>
      obtain ⟨found, hfound, hfinds, hmoment⟩ := decides_zero.1 hdecides
      obtain rfl : first = found := Option.some.inj (hfirst.symm.trans hfound)
      obtain rfl : verdict = ending.result := Option.some.inj (hverdict.symm.trans hfinds)
      rw [hrun, hmoment]
    | succ k =>
      obtain ⟨found, hfound, hopen, -⟩ := decides_succ.1 hdecides
      obtain rfl : first = found := Option.some.inj (hfirst.symm.trans hfound)
      rw [hverdict] at hopen
      cases hopen
  undecided hlate := by
    have hafter : deadline < first.moment.time :=
      hlate 0 ⟨first.moment, verdict⟩ (decides_zero.2 ⟨first, hfirst, hverdict, rfl⟩)
    omega

/-- The first look leaves the job open, and the others follow. -/
lemma Polls.of_open (hle : now.time + client.interval.milliseconds ≤ deadline)
    (hfirst : (client.look world job (client.rested now)).ending = some first)
    (hopen : client.verdict? job first.result = none)
    (hrest : client.Polls world job first.moment deadline count decision late rest)
    (hrun : run = rest.after (client.looks world job now deadline 1)) :
    client.Polls world job now deadline (count + 1) decision late run where
  begun k hk := by
    cases k with
    | zero => exact ⟨_, rfl, hle⟩
    | succ k =>
      rw [lookStart?_succ, hfirst, Option.bind_some, if_pos hopen]
      exact hrest.begun k (by omega)
  unbegun start hstart := by
    rw [lookStart?_succ, hfirst, Option.bind_some, if_pos hopen] at hstart
    exact hrest.unbegun start hstart
  decided k ending hdecides hin := by
    cases k with
    | zero =>
      obtain ⟨found, hfound, hfinds, -⟩ := decides_zero.1 hdecides
      obtain rfl : first = found := Option.some.inj (hfirst.symm.trans hfound)
      rw [hopen] at hfinds
      cases hfinds
    | succ k =>
      obtain ⟨found, hfound, -, hlater⟩ := decides_succ.1 hdecides
      obtain rfl : first = found := Option.some.inj (hfirst.symm.trans hfound)
      rw [hrun, hrest.decided k ending hlater hin, looks_succ hfirst hopen deadline count,
        Playback.after_after]
  undecided hlate := by
    have hlater : ∀ k ending, client.Decides world job first.moment k ending →
        deadline < ending.moment.time := by
      intro k ending hdecides
      exact hlate (k + 1) ending (decides_succ.2 ⟨first, hfirst, hopen, hdecides⟩)
    obtain ⟨used, hused⟩ := hrest.undecided hlater
    refine ⟨used, ?_⟩
    rw [hrun, hused, looks_succ hfirst hopen deadline count, Playback.after_after]

end

/-- A sleep and a look that begins by the deadline: the look is answered in time and the task goes
on, or it is cut off. -/
lemma play_round (world : Nat → Circumstance) (job : String) {now : Moment} {passed : Deadline α}
    (next : Except Fault Response → Task α) (positive : 0 < client.interval.milliseconds)
    (hle : now.time + client.interval.milliseconds ≤ passed.time) {run : Playback α}
    (hrun : (Task.sleep client.interval ((client.sendAuthenticated (statusRequest job)).run.bind
      next)).play world (some passed) now = run) :
    (∃ first, (client.look world job (client.rested now)).ending = some first ∧
      first.moment.time ≤ passed.time ∧
      run = ((next first.result).play world (some passed) first.moment).after
        (client.looks world job now passed.time 1)) ∨
    ((∀ first, (client.look world job (client.rested now)).ending = some first →
        passed.time < first.moment.time) ∧
      ∃ used, run = (passed.pass used).after (client.looks world job now passed.time 1)) := by
  rw [Task.play_sleep_of_le positive hle] at hrun
  have hin : ∀ other ∈ some passed, (client.rested now).time ≤ other.time := by
    intro other hother
    cases hother
    exact hle
  have hplay := Task.play_bind world (untimed_sendAuthenticated client (statusRequest job)) next
    (some passed) (client.rested now) hin
  by_cases hanswered : ∃ first, (client.look world job (client.rested now)).ending = some first ∧
      first.moment.time ≤ passed.time
  · obtain ⟨first, hfirst, hle⟩ := hanswered
    refine .inl ⟨first, hfirst, hle, ?_⟩
    have hall := (look_since (client.rested now)).filter_eq_self hfirst hle
    have hgoes := hplay.inTime first hfirst fun other hother => by
      cases hother
      exact hle
    rw [looks_one, hall, ← hrun]
    exact congrArg (Playback.after · [((client.rested now).time, .slept)]) hgoes
  · have hlate : ∀ first, (client.look world job (client.rested now)).ending = some first →
        passed.time < first.moment.time := by
      intro first hfirst
      exact Nat.lt_of_not_le fun hle => hanswered ⟨first, hfirst, hle⟩
    obtain ⟨used, hused⟩ := hplay.cut passed rfl hlate
    refine .inr ⟨hlate, used, ?_⟩
    rw [looks_one, ← hrun]
    exact congrArg (Playback.after · [((client.rested now).time, .slept)]) hused

/-- The loop keeps to the protocol if it has more looks left than fit into the time. -/
lemma polls_pollJob (positive : 0 < client.interval.milliseconds) (world : Nat → Circumstance)
    (job : String) (passed : Deadline α) (k : Except Fault Unit → Task α) (rounds : Nat)
    (now : Moment)
    (hnow : now.time ≤ passed.time)
    (enough : passed.time < now.time + rounds * client.interval.milliseconds) :
    ∃ count, client.Polls world job now passed.time count
      (fun ending => (k ending.result).play world (some passed) ending.moment) passed.pass
      (((client.pollJob job rounds).run.bind k).play world (some passed) now) := by
  induction rounds generalizing now with
  | zero => omega
  | succ rounds ih =>
    by_cases hle : now.time + client.interval.milliseconds ≤ passed.time
    · rw [pollJob_succ_bind]
      rcases play_round world job (client.afterLooking job rounds k) positive hle rfl with
        ⟨first, hfirst, hin, hrun⟩ | ⟨hlate, used, hrun⟩
      · cases hverdict : client.verdict? job first.result with
        | some verdict =>
          simp only [afterLooking, hverdict] at hrun
          exact ⟨1, .of_decided hle hfirst hverdict hin hrun⟩
        | none =>
          simp only [afterLooking, hverdict] at hrun
          have hbegun : now.time + client.interval.milliseconds ≤ first.moment.time :=
            (look_since (client.rested now)).le_ending first hfirst
          have hleft : passed.time <
              first.moment.time + rounds * client.interval.milliseconds := by
            rw [Nat.succ_mul] at enough
            omega
          obtain ⟨count, hrest⟩ := ih first.moment hin hleft
          exact ⟨count + 1, .of_open hle hfirst hverdict hrest hrun⟩
      · exact ⟨1, .of_unanswered hle hlate hrun⟩
    · have hlt : passed.time < now.time + client.interval.milliseconds := Nat.lt_of_not_le hle
      rw [pollJob_succ_bind]
      exact ⟨0, .of_none hlt (Task.play_sleep_of_lt hlt)⟩

/-! ## The wait -/

/-- How a job has ended for which the wait comes to a result: well, too late, or in some other
way. -/
def endOf : Except Fault Unit → JobEnd
  | .ok _ => .done
  | .error (.jobTimeout _ _ _) => .timeout
  | .error _ => .failed

/-- The end of a wait: its time limit is lifted or passes, and its outcome is reported. -/
def closing (client : Client) (job : String) (last : Event)
    (ending : Ending (Except Fault Unit)) : Playback (Except Fault Unit) where
  events := (ending.moment.time, last) ::
    (ending.moment.time, .counted (.job (endOf ending.result))) ::
      match ending.result with
      | .ok _ => []
      | .error fault => [(ending.moment.time,
          .warned (client.endpoint ++ ": job " ++ job ++ " did not complete: " ++ fault.message))]
  ending := some ending

/-- The end of a wait that takes too long. -/
def tooLate (client : Client) (job : String) (deadline used : Nat) :
    Playback (Except Fault Unit) :=
  client.closing job .late
    ⟨⟨used, deadline⟩, .error (.jobTimeout client.endpoint job client.timeout)⟩

/-- The label that goes with a result. -/
inductive Labels : Except Fault Unit → String → Prop where
  | done : Labels (.ok ()) "done"
  | timeout {endpoint job limit} : Labels (.error (.jobTimeout endpoint job limit)) "timeout"
  | failed {fault} (other : ∀ endpoint job limit, fault ≠ .jobTimeout endpoint job limit) :
      Labels (.error fault) "failed"

/-- What is promised of a wait for a job from `now` on. -/
structure Waits (client : Client) (world : Nat → Circumstance) (job : String) (now : Moment)
    (run : Playback (Except Fault Unit)) : Prop where
  /-- It sets its time limit, and then keeps to the protocol. -/
  polls : ∃ count rest, run = rest.after [(now.time, .limited)] ∧
    client.Polls world job now (now.time + client.timeout.milliseconds) count
      (client.closing job .unlimited)
      (client.tooLate job (now.time + client.timeout.milliseconds)) rest
  /-- It returns in time, does nothing afterwards, and counts one job, under the label of its
  result. -/
  returns : ∃ ending label, run.ending = some ending ∧
    ending.moment.time ≤ now.time + client.timeout.milliseconds ∧
    (∀ entry ∈ run.events, now.time ≤ entry.1 ∧ entry.1 ≤ ending.moment.time) ∧
    Labels ending.result label ∧ ∀ (counters : Counters) (other : String),
      (counters.afterEvents run.events).jobsUnder other =
        counters.jobsUnder other + if other = label then 1 else 0
  /-- It asks for this job's status and logs in, no more. -/
  asks : ∀ time request, (time, .sent request) ∈ run.events →
    request = client.loginRequest ∨ ∃ session, request = (statusRequest job).signed session
  /-- A look sends its request at the moment it begins. -/
  sends : ∀ start, ∃ session rest, (client.look world job start).events =
    (start.time, .read session) ::
      (start.time, .sent ((statusRequest job).signed session)) :: rest
  /-- Looks begin an interval or more apart. -/
  apart : ∀ k start next, client.lookStart? world job now k = some start →
    client.lookStart? world job now (k + 1) = some next →
    start.time + client.interval.milliseconds ≤ next.time

lemma awaitJob_run : (client.awaitJob job).run = .limit client.timeout
    (client.reportJob job (.error (client.jobLate job)))
    ((client.pollJob job client.jobRounds).run.bind fun outcome =>
      .unlimit (client.reportJob job outcome)) := by
  show Task.limit _ _ (Task.bind (Task.bind _ _) _) = _
  rw [Task.bind_assoc]
  rfl

lemma jobEnd_eq (outcome : Except Fault Unit) : jobEnd outcome = endOf outcome := by
  rcases outcome with fault | done
  · cases fault <;> rfl
  · rfl

lemma labels_endOf (result : Except Fault Unit) : Labels result (endOf result).label := by
  rcases result with fault | done
  · cases fault with
    | jobTimeout endpoint job limit => exact .timeout
    | _ => exact .failed (by simp)
  · exact .done

lemma play_reportJob (outcome : Except Fault Unit) (deadline : Option (Deadline _))
    (now : Moment) (last : Event) :
    ((client.reportJob job outcome).play world deadline now).after [(now.time, last)] =
      client.closing job last ⟨now, outcome⟩ := by
  unfold reportJob
  rw [jobEnd_eq]
  cases outcome with
  | error fault => rfl
  | ok _ => rfl

lemma lt_jobRounds (positive : 0 < client.interval.milliseconds) :
    client.timeout.milliseconds < client.jobRounds * client.interval.milliseconds := by
  have hmax : max client.interval.milliseconds 1 = client.interval.milliseconds :=
    Nat.max_eq_left positive
  have hmod := Nat.mod_lt client.timeout.milliseconds positive
  have hdiv := Nat.div_add_mod' client.timeout.milliseconds client.interval.milliseconds
  rw [jobRounds, hmax, Nat.succ_mul]
  omega

/-- The end of a wait counts one job. -/
lemma afterEvents_closing (last : Event) (hlast : last = .unlimited ∨ last = .late)
    (ending : Ending (Except Fault Unit)) (counters : Counters) :
    counters.afterEvents (client.closing job last ending).events =
      counters.add (.job (endOf ending.result)) := by
  obtain ⟨moment, result⟩ := ending
  rcases hlast with rfl | rfl
  all_goals
    cases result with
    | error fault => rfl
    | ok _ => rfl

lemma not_sent_closing (last : Event) (hlast : last = .unlimited ∨ last = .late)
    (ending : Ending (Except Fault Unit)) {time : Nat} {request : Request} :
    (time, .sent request) ∉ (client.closing job last ending).events := by
  obtain ⟨moment, result⟩ := ending
  rcases hlast with rfl | rfl
  all_goals
    cases result with
    | error fault => simp [closing]
    | ok _ => simp [closing]

/-- Looks count renewals of the session at most. -/
lemma not_job_looks (now : Moment) (deadline count : Nat) :
    ∀ entry ∈ client.looks world job now deadline count,
      ∀ ending, entry.2 ≠ .counted (.job ending) := by
  intro entry hentry ending hcounted
  rcases mem_looks hentry with hslept | hutters
  · rw [hcounted] at hslept
    cases hslept
  · rw [hcounted] at hutters
    cases hutters

/-- The wait ends in one of two ways, after the looks that begin in time. -/
lemma Polls.cases {now : Moment} {deadline count : Nat} {decision : Ending (Except Fault Unit) →
    Playback α} {late : Nat → Playback α} {run : Playback α}
    (h : client.Polls world job now deadline count decision late run) :
    (∃ ending, ending.moment.time ≤ deadline ∧
      run = (decision ending).after (client.looks world job now deadline count)) ∨
    ∃ used, run = (late used).after (client.looks world job now deadline count) := by
  by_cases hover : ∃ k ending, client.Decides world job now k ending ∧
      ending.moment.time ≤ deadline
  · obtain ⟨k, ending, hdecides, hin⟩ := hover
    exact .inl ⟨ending, hin, h.decided k ending hdecides hin⟩
  · have hlate : ∀ k ending, client.Decides world job now k ending →
        deadline < ending.moment.time := by
      intro k ending hdecides
      exact Nat.lt_of_not_le fun hin => hover ⟨k, ending, hdecides, hin⟩
    exact .inr (h.undecided hlate)

/-- The wait comes down to looks and a closing. -/
lemma exists_closing {now : Moment} {deadline count : Nat} {run : Playback (Except Fault Unit)}
    (h : client.Polls world job now deadline count (client.closing job .unlimited)
      (client.tooLate job deadline) run) :
    ∃ last ending, (last = .unlimited ∨ last = .late) ∧ ending.moment.time ≤ deadline ∧
      run = (client.closing job last ending).after
        (client.looks world job now deadline count) := by
  rcases h.cases with ⟨ending, hin, hrun⟩ | ⟨used, hrun⟩
  · exact ⟨_, ending, .inl rfl, hin, hrun⟩
  · exact ⟨_, _, .inr rfl, Nat.le_refl deadline, hrun⟩

lemma polls_awaitJob (positive : 0 < client.interval.milliseconds) (world : Nat → Circumstance)
    (job : String) (now : Moment) :
    ∃ count rest, (client.awaitJob job).run.play world none now =
        rest.after [(now.time, .limited)] ∧
      client.Polls world job now (now.time + client.timeout.milliseconds) count
        (client.closing job .unlimited)
        (client.tooLate job (now.time + client.timeout.milliseconds)) rest := by
  let passed : Deadline (Except Fault Unit) := ⟨now.time + client.timeout.milliseconds,
    (client.reportJob job (.error (client.jobLate job))).play world none⟩
  have enough : passed.time < now.time + client.jobRounds * client.interval.milliseconds :=
    Nat.add_lt_add_left (lt_jobRounds positive) now.time
  obtain ⟨count, hpolls⟩ := polls_pollJob positive world job passed
    (fun outcome => .unlimit (client.reportJob job outcome)) client.jobRounds now
    (Nat.le_add_right _ _) enough
  have hover : (fun ending : Ending (Except Fault Unit) =>
      (Task.unlimit (client.reportJob job ending.result)).play world (some passed)
        ending.moment) = client.closing job .unlimited := by
    funext ending
    exact play_reportJob ending.result none ending.moment .unlimited
  have hlate : passed.pass = client.tooLate job passed.time := by
    funext used
    exact play_reportJob _ none ⟨used, passed.time⟩ .late
  rw [hover, hlate] at hpolls
  exact ⟨count, _, by rw [awaitJob_run]; rfl, hpolls⟩

lemma waits_awaitJob (positive : 0 < client.interval.milliseconds) (world : Nat → Circumstance)
    (job : String) (now : Moment) :
    client.Waits world job now ((client.awaitJob job).run.play world none now) := by
  obtain ⟨count, rest, hrun, hpolls⟩ := polls_awaitJob positive world job now
  have hsince := Task.play_since_none world (client.awaitJob job).run now
  rw [hrun] at hsince ⊢
  obtain ⟨last, ending, hlast, hin, hrest⟩ := exists_closing hpolls
  have hevents : (rest.after [(now.time, .limited)]).events = (now.time, .limited) ::
      (client.looks world job now (now.time + client.timeout.milliseconds) count ++
        (client.closing job last ending).events) := by
    rw [hrest]
    rfl
  refine
    { polls := ⟨count, rest, rfl, hpolls⟩
      returns := ⟨ending, _, by rw [hrest]; rfl, hin, ?_, labels_endOf ending.result,
        fun counters other => ?_⟩
      asks := ?_
      sends := look_sends
      apart := fun k start next => lookStart?_apart }
  · have hending : (rest.after [(now.time, .limited)]).ending = some ending := by
      rw [hrest]
      rfl
    intro entry hentry
    exact ⟨hsince.le_event entry hentry, hsince.event_le ending hending entry hentry⟩
  · rw [hevents]
    show (counters.afterEvents (_ ++ _)).jobsUnder other = _
    rw [Counters.afterEvents_append, afterEvents_closing last hlast, Counters.jobsUnder_add_job,
      Counters.jobsUnder_afterEvents (not_job_looks _ _ _)]
  · intro time request hmem
    rw [hevents] at hmem
    rcases List.mem_cons.1 hmem with hlimited | hmem
    · cases hlimited
    · rcases List.mem_append.1 hmem with hlook | hclosing
      · rcases mem_looks hlook with hslept | hutters
        · cases hslept
        · exact hutters
      · exact absurd hclosing (not_sent_closing last hlast ending)

end Client

/-! ## Requests that start a job -/

/-- A link as it is written. -/
def ResourceLink.toJson (link : ResourceLink) : Json :=
  .object [("rel", .string link.rel), ("href", .string link.href)]

lemma ResourceLink.decode_toJson (link : ResourceLink) :
    link.toJson.decode record.read = .ok link := by
  obtain ⟨rel, href⟩ := link
  refine Record.Holds.decode (.present (.present ?_ rfl rfl) rfl rfl)
  exact Record.holds_of ..

/-- An accepting response with links. -/
def Response.ofLinks (links : List ResourceLink) : Response where
  status := 202
  body := .json (.object [("links", .array (links.map ResourceLink.toJson))])

lemma Response.decode_ofLinks (links : List ResourceLink) (endpoint : String) :
    (Response.ofLinks links).decode Reader.acceptedLinks endpoint = .ok links := by
  have hread : (Json.object [("links", .array (links.map ResourceLink.toJson))]).decode
      Reader.acceptedLinks = .ok links := by
    refine Record.Holds.decode (.present (Record.holds_of ..) rfl ?_)
    exact Json.decode_array ResourceLink.decode_toJson links
  simp only [decode, ofLinks, hread]

namespace Client

variable {α : Type} {client : Client} {world : Nat → Circumstance} {job : String}

/-- An accepting response names a job: its first link to a monitor is a path below the root of
the job status, and what follows there is the job. -/
def NamesJob (client : Client) (response : Response) (job : String) : Prop :=
  ∃ before link after,
    response.decode Reader.acceptedLinks client.endpoint = .ok (before ++ link :: after) ∧
    (∀ other ∈ before, other.rel ≠ "monitor") ∧ link.rel = "monitor" ∧
    link.href = "/jobStatus/" ++ job ∧ job ≠ ""

/-- Why an accepting response names no job. -/
inductive Misnames (client : Client) (response : Response) : String → Prop where
  | noLinks {fault} (hlinks : response.decode Reader.acceptedLinks client.endpoint = .error fault) :
      Misnames client response "202 response without links"
  | noMonitor {links} (hlinks : response.decode Reader.acceptedLinks client.endpoint = .ok links)
      (hother : ∀ link ∈ links, link.rel ≠ "monitor") :
      Misnames client response "202 response without a monitor link"
  | elsewhere {before link after}
      (hlinks : response.decode Reader.acceptedLinks client.endpoint =
        .ok (before ++ link :: after))
      (hother : ∀ other ∈ before, other.rel ≠ "monitor") (hrel : link.rel = "monitor")
      (hhref : ∀ job, link.href = "/jobStatus/" ++ job → job = "") :
      Misnames client response ("unexpected monitor link '" ++ link.href ++ "'")

/-- What becomes of a request that is sent at `now`: its talk is `talk`, and only if it is accepted
for a job that the response names, a wait for that job follows. -/
structure Submits (client : Client) (world : Nat → Circumstance) (request : Request)
    (talk run : Playback (Except Fault Response)) : Prop where
  unanswered : talk.ending = none → run = ⟨talk.events, none⟩
  failed : ∀ moment fault, talk.ending = some ⟨moment, .error fault⟩ →
    run = ⟨talk.events, some ⟨moment, .error fault⟩⟩
  answered : ∀ moment response, talk.ending = some ⟨moment, .ok response⟩ →
    response.status ≠ 202 →
    run = ⟨talk.events, some ⟨moment, if 300 ≤ response.status
      then .error (response.fault client.endpoint request) else .ok response⟩⟩
  accepted : ∀ moment response job, talk.ending = some ⟨moment, .ok response⟩ →
    response.status = 202 → client.NamesJob response job →
    ∃ wait, client.Waits world job moment wait ∧
      run = (wait.map fun outcome => outcome.map fun _ => response).after talk.events
  malformed : ∀ moment response, talk.ending = some ⟨moment, .ok response⟩ →
    response.status = 202 → (∀ job, ¬ client.NamesJob response job) →
    ∃ reason, client.Misnames response reason ∧ run =
      ⟨talk.events, some ⟨moment, .error (.malformedResponse client.endpoint reason)⟩⟩

lemma monitorOf_eq_some_iff {links : List ResourceLink} {href : String} :
    monitorOf links = some href ↔ ∃ before link after, links = before ++ link :: after ∧
      (∀ other ∈ before, other.rel ≠ "monitor") ∧ link.rel = "monitor" ∧ link.href = href := by
  simp only [monitorOf, Option.map_eq_some_iff, List.find?_eq_some_iff_append]
  constructor
  · rintro ⟨link, ⟨hrel, before, after, hlinks, hbefore⟩, hhref⟩
    refine ⟨before, link, after, hlinks, ?_, by simpa using hrel, hhref⟩
    intro other hother
    simpa using hbefore other hother
  · rintro ⟨before, link, after, hlinks, hbefore, hrel, hhref⟩
    refine ⟨link, ⟨by simpa using hrel, before, after, hlinks, ?_⟩, hhref⟩
    intro other hother
    simpa using hbefore other hother

lemma dropRoot_eq_some_iff {href : String} {rest : List Char} :
    Text.dropStart? jobStatusRoot.toList href.toList = some rest ↔
      href = "/jobStatus/" ++ String.ofList rest := by
  change _ ↔ href = jobStatusRoot ++ _
  rw [Text.dropStart?_eq_some_iff, ← String.toList_inj, String.toList_append,
    String.toList_ofList]

lemma jobOf_of_namesJob {response : Response} {job : String}
    (h : client.NamesJob response job) : client.jobOf response = .ok job := by
  obtain ⟨before, link, after, hdecode, hbefore, hrel, hhref, hjob⟩ := h
  have hmonitor : monitorOf (before ++ link :: after) = some ("/jobStatus/" ++ job) :=
    monitorOf_eq_some_iff.2 ⟨before, link, after, rfl, hbefore, hrel, hhref⟩
  have hrest : Text.dropStart? jobStatusRoot.toList ("/jobStatus/" ++ job).toList =
      some job.toList := by
    rw [dropRoot_eq_some_iff, String.ofList_toList]
  have hne : job.toList ≠ [] := fun hnil => hjob (String.toList_eq_nil_iff.1 hnil)
  obtain ⟨c, rest, hcons⟩ := List.exists_cons_of_ne_nil hne
  simp only [jobOf, hdecode, hmonitor, hrest, hcons]
  rw [← hcons, String.ofList_toList]

lemma monitorOf_eq_none_iff {links : List ResourceLink} :
    monitorOf links = none ↔ ∀ link ∈ links, link.rel ≠ "monitor" := by
  simp [monitorOf]

lemma exists_namesJob_or_misnames (client : Client) (response : Response) :
    (∃ job, client.NamesJob response job) ∨
      ∃ reason, client.Misnames response reason ∧
        client.jobOf response = .error (.malformedResponse client.endpoint reason) := by
  unfold jobOf
  cases hlinks : response.decode Reader.acceptedLinks client.endpoint with
  | error fault => exact .inr ⟨_, .noLinks hlinks, rfl⟩
  | ok links =>
    cases hmonitor : monitorOf links with
    | none =>
      refine .inr ⟨_, .noMonitor hlinks (monitorOf_eq_none_iff.1 hmonitor), ?_⟩
      simp only [hmonitor]
    | some href =>
      obtain ⟨before, link, after, rfl, hbefore, hrel, rfl⟩ := monitorOf_eq_some_iff.1 hmonitor
      by_cases hjob : ∃ job, link.href = "/jobStatus/" ++ job ∧ job ≠ ""
      · obtain ⟨job, hhref, hne⟩ := hjob
        exact .inl ⟨job, before, link, after, hlinks, hbefore, hrel, hhref, hne⟩
      · have hnone : ∀ job, link.href = "/jobStatus/" ++ job → job = "" := by
          intro job hhref
          exact Classical.not_not.1 fun hne => hjob ⟨job, hhref, hne⟩
        refine .inr ⟨_, .elsewhere hlinks hbefore hrel hnone, ?_⟩
        simp only [hmonitor]
        split
        · next c rest hrest =>
          have hempty := congrArg String.toList (hnone _ (dropRoot_eq_some_iff.1 hrest))
          simp at hempty
        · rfl

/-- Goes on after the talk of a request. -/
def afterAnswer (client : Client) (request : Request) :
    Except Fault Response → Task (Except Fault Response)
  | .error fault => .done (.error fault)
  | .ok response =>
    if response.status = 202 then
      match client.jobOf response with
      | .error fault => .done (.error fault)
      | .ok job => (client.awaitJob job).run.bind fun outcome =>
        .done (outcome.map fun _ => response)
    else if 300 ≤ response.status then .done (.error (response.fault client.endpoint request))
    else .done (.ok response)

lemma submit_run (request : Request) : (client.submit request).run =
    (client.sendAuthenticated request).run.bind (client.afterAnswer request) := by
  show Task.bind _ _ = _
  congr 1
  funext outcome
  cases outcome with
  | error fault => rfl
  | ok response =>
    simp only [afterAnswer, ExceptT.bindCont]
    split
    · cases client.jobOf response with
      | error fault => rfl
      | ok job =>
        show (client.awaitJob job).run.bind _ = _
        congr 1
        funext outcome
        cases outcome <;> rfl
    · split <;> rfl

lemma submits_submit (positive : 0 < client.interval.milliseconds) (world : Nat → Circumstance)
    (request : Request) (now : Moment) :
    client.Submits world request ((client.sendAuthenticated request).run.play world none now)
      ((client.submit request).run.play world none now) := by
  rw [submit_run]
  have hplay := Task.play_bind world (untimed_sendAuthenticated client request)
    (client.afterAnswer request) none now (by simp)
  refine
    { unanswered := hplay.forEver rfl
      failed := fun moment fault hending => ?_
      answered := fun moment response hending hstatus => ?_
      accepted := fun moment response job hending hstatus hnames => ?_
      malformed := fun moment response hending hstatus hnames => ?_ }
  all_goals rw [hplay.inTime _ hending (by simp)]
  · simp [afterAnswer, Task.play, Playback.after]
  · simp only [afterAnswer, if_neg hstatus]
    split
    · simp [Task.play, Playback.after]
    · simp [Task.play, Playback.after]
  · refine ⟨_, waits_awaitJob positive world job moment, ?_⟩
    simp only [afterAnswer, if_pos hstatus, jobOf_of_namesJob hnames]
    rw [← Task.play_map world _ _ none moment]
    rfl
  · rcases exists_namesJob_or_misnames client response with
      ⟨job, hjob⟩ | ⟨reason, hmisnames, hreason⟩
    · exact absurd hjob (hnames job)
    · refine ⟨reason, hmisnames, ?_⟩
      simp [afterAnswer, hstatus, hreason, Task.play, Playback.after]

/-! ## Threads -/

lemma remote_pollJob (rounds : Nat) : (client.pollJob job rounds).run.Remote false := by
  induction rounds with
  | zero => trivial
  | succ rounds ih =>
    rw [← Task.bind_done (client.pollJob job (rounds + 1)).run, pollJob_succ_bind]
    have hlook : (client.sendAuthenticated (statusRequest job)).run.Remote false :=
      (untimed_sendAuthenticated client (statusRequest job)).remote
    refine hlook.bind fun outcome => ?_
    simp only [afterLooking]
    split
    · trivial
    · rw [Task.bind_done]
      exact ih

lemma remote_reportJob (outcome : Except Fault Unit) (limits : Bool) :
    (client.reportJob job outcome).Remote limits := by
  cases outcome with
  | error fault => trivial
  | ok _ => trivial

lemma remote_awaitJob : (client.awaitJob job).run.Remote true := by
  rw [awaitJob_run]
  refine ⟨rfl, remote_reportJob _ _, (remote_pollJob client.jobRounds).bind fun outcome => ?_⟩
  exact remote_reportJob outcome true

/-- The life of a thread that waits for a job is a playback that keeps all the promises. -/
theorem waits_thread (client : Client) (positive : 0 < client.interval.milliseconds)
    (job : String) (id : Nat) (d : Deployment) (visits : List Deployment)
    (onTime : Thread.OnTime (Thread.advance d { id, task := (client.awaitJob job).run }).2.2
      d.clock visits) :
    ∃ world events rest, client.Waits world job ⟨0, d.clock⟩ (Playback.after rest events) ∧
      Thread.ShownBy { id, task := (client.awaitJob job).run } (d :: visits) events ∧
      ∀ thread time result, Thread.visited { id, task := (client.awaitJob job).run } d.clock
          (d :: visits) = (thread, time) → thread.result? = some result →
        ∃ used, rest = ⟨[], some ⟨⟨used, time⟩, result⟩⟩ := by
  obtain ⟨world, events, rest, hplay, hshown, hends⟩ :=
    Thread.plays id (client.awaitJob job).run remote_awaitJob d visits onTime
  have hwaits := waits_awaitJob positive world job ⟨0, d.clock⟩
  rw [hplay] at hwaits
  refine ⟨world, events, rest, hwaits, hshown, ?_⟩
  intro thread time result hvisited hresult
  rw [hvisited] at hends
  exact hends result hresult

end Client

/-- Waiting for a job, for every interval that is not empty, every time limit, all answers and all
latencies: every wait keeps to the protocol and returns in time, and a request leads to a wait just
if it is accepted for a job that the response names.  The links of a response are read as they are
written. -/
theorem polling (client : Client) (positive : 0 < client.interval.milliseconds)
    (world : Nat → Circumstance) (now : Moment) :
    (∀ job, client.Waits world job now ((client.awaitJob job).run.play world none now)) ∧
    (∀ request, client.Submits world request
      ((client.sendAuthenticated request).run.play world none now)
      ((client.submit request).run.play world none now)) ∧
    ∀ links, (Response.ofLinks links).decode Reader.acceptedLinks client.endpoint = .ok links :=
  ⟨fun job => Client.waits_awaitJob positive world job now,
    fun request => Client.submits_submit positive world request now,
    fun links => Response.decode_ofLinks links client.endpoint⟩

namespace Sample

/-- A client that looks every 10 ms and waits at most 25 ms. -/
def hasty : Client where
  appliance := ⟨0, "https://appliance"⟩
  username := "admin"
  password := "secret"
  interval := ⟨10⟩
  timeout := ⟨25⟩

/-- The answer to the first look takes 5 ms and leaves the job open; all other answers come at once
and say that it is done. -/
def openOnce : Nat → Circumstance
  | 1 => { answer := .ok ⟨202, .empty⟩, delay := some 5 }
  | _ => { answer := .ok ⟨200, .empty⟩ }

/-- What a wait for job 7 does. -/
def wait : Playback (Except Fault Unit) :=
  (hasty.awaitJob "7").run.play openOnce none ⟨0, 0⟩

/-- The method and the path of a request that is sent, with the moment. -/
def asked? : Nat × Event → Option (Nat × String × String)
  | (time, .sent request) => some (time, request.method, request.path)
  | _ => none

end Sample

/-- The second look is due at the very moment of the time limit; it is made, and its answer
counts. -/
theorem polling_atTimeLimit :
    0 < Sample.hasty.interval.milliseconds ∧
    Sample.hasty.Waits Sample.openOnce "7" ⟨0, 0⟩ Sample.wait ∧
    Sample.wait.ending = some ⟨⟨4, 25⟩, .ok ()⟩ ∧
    Sample.wait.events.filterMap Sample.asked? =
      [(10, "GET", "jobStatus/7"), (25, "GET", "jobStatus/7")] ∧
    (Counters.afterEvents {} Sample.wait.events).jobsUnder "done" = 1 :=
  ⟨by decide, (polling Sample.hasty (by decide) Sample.openOnce ⟨0, 0⟩).1 "7", rfl, rfl, rfl⟩

end StorageFleet
