import StorageFleet.Proofs.Deployment.Setup
import StorageFleet.Proofs.Rack.Filing
import StorageFleet.Proofs.Volume.Requests

/-!
# Publication

A fleet is published whole or not at all, and an operation keeps to the fleet that was current when
it began.

A reload makes the clients of a whole configuration at once (`addBackends_builds`).  Then it asks
about clusters, and nothing that it hears can change what it ends with (`ensures_beginReload`).
A fleet becomes current in the step in which its reload ends, and in no other (`Next.publishes`).
An operation holds the tasks that it made of the fleet of that moment, so whatever is published
later, it goes on to talk with the appliances of that fleet (`ensures_begin`).

What is said of one job is said along every course of steps from the moment at which it is taken up
(`Leads.tracks`), with any other jobs beside it; the schedule of a deployment is such a course
(`reaches_runAll`).
-/

namespace StorageFleet

/-! ## The tasks of work -/

/-- The station belongs to an appliance of the fleet. -/
def Fleet.HasStation (fleet : Fleet) (id : Nat) : Prop :=
  ∃ appliance, fleet.Owns appliance ∧ appliance.id = id

namespace Work

variable {d : Deployment} {work : Work}

/-- The operation that a piece of work carries out, if it is one. -/
def operation? : Work → Option Operation
  | .operate operation | .serve (.operate operation) _ => some operation
  | _ => none

/-- The tasks of an operation stay with the fleet that is current when they are made. -/
lemma ensures_begin {operation : Operation} (hwork : work.operation? = some operation)
    (hwired : d.Wired) :
    ∀ task ∈ (work.begin d).2, task.Ensures d.fleet.HasStation fun _ => True := by
  have hbranch : ∀ branch ∈ operation.branches d.fleet,
      (d.task branch).Ensures d.fleet.HasStation fun _ => True := by
    intro branch hmem
    have hasks : branch.Asks fun appliance _ => d.fleet.Owns appliance :=
      (Operation.asks hmem).mono (fun _ _ h => h.1) fun _ h => h
    refine (Deployment.civil_task hasks).ensures ?_ fun appliance h => ⟨appliance, h, rfl⟩
    rintro _ ⟨appliance, connected, howns, hconnected, rfl⟩
    have hclient : d.client? appliance.id = some connected.client := by
      rw [Deployment.client?, hconnected, Option.map_some]
    exact ⟨appliance, howns, (hwired _ _ hclient).symm⟩
  intro task htask
  cases work with
  | operate found =>
    cases hwork
    obtain ⟨branch, hmem, rfl⟩ := List.mem_map.1 htask
    exact hbranch branch hmem
  | serve action bodiless =>
    cases action with
    | operate found =>
      cases hwork
      obtain ⟨branch, hmem, rfl⟩ := List.mem_map.1 htask
      exact hbranch branch hmem
    | reply | counters => cases hwork
  | _ => cases hwork

/-- Whatever the appliances say about clusters, a reload ends with what was built at its
beginning. -/
lemma ensures_beginReload (d : Deployment) (config : Config) :
    (beginReload d config).2.length = 1 ∧ ∀ task ∈ (beginReload d config).2,
      task.Ensures (fun _ => True) fun result => result = (d.addFleet config).2 := by
  unfold beginReload
  cases hadd : d.addFleet config with
  | mk after built =>
    cases built with
    | error fault => exact ⟨rfl, by simp [Task.Ensures]⟩
    | ok fleet =>
      refine ⟨rfl, ?_⟩
      intro task htask
      obtain rfl := List.mem_singleton.1 htask
      have hasks : fleet.checkClusters.Asks fun _ _ => True := by
        rw [Plan.asks_iff]
        exact fun _ _ _ _ _ => trivial
      rw [Deployment.task_bind]
      exact ((Deployment.civil_task hasks).ensures (fun _ _ => trivial) fun _ _ => trivial).bind
        fun _ _ => rfl

end Work

/-! ## One job among others -/

/-- What is known of the threads of a job that has been taken up. -/
def Progress.Ensures {work : Work} (reach : Nat → Prop) (count : Nat) (results : work.Part → Prop) :
    Progress work → Prop
  | .waiting => False
  | .running threads =>
    threads.length = count ∧ ∀ thread ∈ threads, thread.Ensures reach results
  | .finished .. => True

namespace Scene

variable {scene later : Scene} {entry : Option Entry} {i : Nat}

/-- What a step makes of a job that has been taken up: it stays as it is, except that it may be asked
to give up; or one of its threads moves; or it gets an answer. -/
lemma Next.of_begun {work : Work} {cancelled : Bool} {cancelAt : Option Nat}
    {progress : Progress work} (h : Next scene entry later)
    (hjob : scene.jobs[i]? = some ⟨work, cancelled, cancelAt, progress⟩)
    (hbegun : progress ≠ .waiting) :
    (∃ flag, later.jobs[i]? = some ⟨work, flag, cancelAt, progress⟩ ∧
      ∀ done ∈ entry, done.job ≠ i) ∨
    (∃ threads k thread deed thread', progress = .running threads ∧ threads[k]? = some thread ∧
      thread.Moves scene.deployment deed later.deployment thread' ∧
      entry = deed.map (.of i thread.id) ∧ later.jobs[i]? =
        some ⟨work, cancelled, cancelAt, .running (threads.set k thread')⟩) ∨
    ∃ answer time, later.jobs[i]? = some ⟨work, cancelled, cancelAt, .finished answer time⟩ ∧
      entry = none := by
  -- a step of another job leaves this one as it is
  have hother : ∀ {j : Nat} {job : Job}, j ≠ i →
      (scene.jobs.set j job)[i]? = some ⟨work, cancelled, cancelAt, progress⟩ := by
    intro j job hne
    rw [List.getElem?_set_ne hne, hjob]
  have hself : ∀ {job : Job}, (scene.jobs.set i job)[i]? = some job := by
    intro job
    exact List.getElem?_set_self (List.getElem?_eq_some_iff.1 hjob).1
  cases h with
  | @begins _ _ j job hbegins =>
    obtain ⟨hfound, -, -, hwaiting, rfl⟩ := hbegins
    have hj : j ≠ i := by
      rintro rfl
      rw [hjob] at hfound
      cases hfound
      exact hbegun hwaiting
    exact .inl ⟨_, hother hj, by simp⟩
  | resumes | rests | waits | closes | turns => exact .inl ⟨_, hjob, by simp⟩
  | @moves d jobs active j job threads k thread deed d' thread' hmoved _ hrunning hthread hmoves =>
    by_cases hj : j = i
    · subst hj
      rw [hjob] at hmoved
      cases hmoved
      exact .inr (.inl ⟨threads, k, thread, deed, thread', hrunning, hthread, hmoves, rfl, hself⟩)
    · refine .inl ⟨_, hother hj, fun done hmem => ?_⟩
      obtain ⟨said, -, rfl⟩ := Option.map_eq_some_iff.1 hmem
      exact hj
  | @ends d jobs active j job threads parts hended _ _ hparts =>
    by_cases hj : j = i
    · subst hj
      rw [hjob] at hended
      cases hended
      exact .inr (.inr ⟨_, _, hself, rfl⟩)
    · exact .inl ⟨_, hother hj, by simp⟩
  | @gives d jobs active j job d' answer hgiven =>
    by_cases hj : j = i
    · subst hj
      rw [hjob] at hgiven
      cases hgiven
      exact .inr (.inr ⟨_, _, hself, rfl⟩)
    · exact .inl ⟨_, hother hj, by simp⟩
  | @cancels d jobs active j job hcancelled =>
    by_cases hj : j = i
    · subst hj
      rw [hjob] at hcancelled
      cases hcancelled
      exact .inl ⟨true, hself, by simp⟩
    · exact .inl ⟨_, hother hj, by simp⟩

/-- The job at a place has this work, and something is known of its progress. -/
def Tracks (scene : Scene) (i : Nat) (work : Work) (known : Progress work → Prop) : Prop :=
  ∃ cancelled cancelAt progress,
    scene.jobs[i]? = some ⟨work, cancelled, cancelAt, progress⟩ ∧ known progress

section

variable {work : Work} {reach : Nat → Prop} {count : Nat} {results : work.Part → Prop}

/-- What is known of the threads of a job stays known with every step, and what they do is done
at the stations that they have to do with. -/
lemma Next.tracks (h : Next scene entry later)
    (htracks : scene.Tracks i work (Progress.Ensures reach count results)) :
    later.Tracks i work (Progress.Ensures reach count results) ∧
      ∀ done ∈ entry, done.job = i → reach done.station := by
  obtain ⟨cancelled, cancelAt, progress, hjob, hknown⟩ := htracks
  have hbegun : progress ≠ .waiting := by
    rintro rfl
    exact hknown
  rcases h.of_begun hjob hbegun with ⟨flag, hlater, hentry⟩ |
    ⟨threads, k, thread, deed, thread', rfl, hthread, hmoves, rfl, hlater⟩ |
    ⟨answer, time, hlater, rfl⟩
  · exact ⟨⟨_, _, _, hlater, hknown⟩, fun done hmem hi => absurd hi (hentry done hmem)⟩
  · obtain ⟨hcount, hthreads⟩ := hknown
    obtain ⟨hensures, hdone⟩ := hmoves.ensures (hthreads _ (List.mem_of_getElem? hthread))
    refine ⟨⟨_, _, _, hlater, ?_, ?_⟩, ?_⟩
    · rw [List.length_set, hcount]
    · intro other hother
      rcases List.mem_or_eq_of_mem_set hother with hmem | rfl
      · exact hthreads other hmem
      · exact hensures
    · intro done hmem _
      obtain ⟨said, hsaid, rfl⟩ := Option.map_eq_some_iff.1 hmem
      exact hdone said hsaid
  · exact ⟨⟨_, _, _, hlater, trivial⟩, by simp⟩

lemma Leads.tracks {entries : List Entry} (h : scene.Leads entries later)
    (htracks : scene.Tracks i work (Progress.Ensures reach count results)) :
    later.Tracks i work (Progress.Ensures reach count results) ∧
      ∀ done ∈ entries, done.job = i → reach done.station := by
  induction h with
  | here => exact ⟨htracks, by simp⟩
  | step _ hnext ih =>
    obtain ⟨htracked, hentries⟩ := ih
    obtain ⟨hlater, hentry⟩ := hnext.tracks htracked
    refine ⟨hlater, fun done hmem => ?_⟩
    rcases List.mem_append.1 hmem with hearlier | hlast
    · exact hentries done hearlier
    · exact hentry done (Option.mem_toList.1 hlast)

end

end Scene

/-! ## Answers -/

namespace Job

/-- The answer of a reload that is over. -/
def reloaded? : Job → Option (Except Fault Fleet)
  | ⟨.reload _, _, _, .finished answer _⟩ => some answer
  | _ => none

lemma reloaded?_eq_none {job : Job} (h : job.isFinished = false) : job.reloaded? = none := by
  obtain ⟨work, cancelled, cancelAt, progress⟩ := job
  cases progress with
  | waiting | running => cases work <;> rfl
  | finished => cases h

lemma isFinished_cancel (job : Job) : { job with cancelled := true }.isFinished = job.isFinished := by
  obtain ⟨work, cancelled, cancelAt, progress⟩ := job
  cases progress <;> rfl

lemma reloaded?_cancel (job : Job) : { job with cancelled := true }.reloaded? = job.reloaded? := by
  obtain ⟨work, cancelled, cancelAt, progress⟩ := job
  cases progress <;> cases work <;> rfl

end Job

namespace Scene

variable {scene before after later : Scene} {entry : Option Entry} {i : Nat}

/-- A job that has an answer since this step has ended, or has turned out to be cancelled. -/
lemma Next.answered {job job' : Job} (h : Next scene entry later)
    (hjob : scene.jobs[i]? = some job) (hopen : job.isFinished = false)
    (hlater : later.jobs[i]? = some job') (hfinished : job'.isFinished = true) :
    (∃ threads parts, job.progress = .running threads ∧
      threads.mapM Thread.result? = some parts ∧
      later.deployment = (job.work.finish scene.deployment parts).1 ∧
      job' = job.withAnswer (job.work.finish scene.deployment parts).2 later.deployment.clock) ∨
    (job.IsStopped scene.deployment ∧ ∃ answer,
      job.work.cancelled (Thread.abandonAll scene.deployment job.threads) =
        some (later.deployment, answer) ∧
      job' = job.withAnswer answer later.deployment.clock) := by
  have hsame : scene.jobs[i]? = some job' → False := by
    intro hjob'
    rw [hjob] at hjob'
    cases hjob'
    rw [hopen] at hfinished
    cases hfinished
  have hset : ∀ {j : Nat} {other other' : Job}, scene.jobs[j]? = some other →
      (scene.jobs.set j other')[i]? = some job' → j = i ∧ job = other ∧ job' = other' := by
    intro j other other' hother hafter
    by_cases hj : j = i
    · subst hj
      rw [List.getElem?_set_self (List.getElem?_eq_some_iff.1 hother).1] at hafter
      rw [hjob] at hother
      exact ⟨rfl, Option.some.inj hother, (Option.some.inj hafter).symm⟩
    · rw [List.getElem?_set_ne hj] at hafter
      exact (hsame hafter).elim
  cases h with
  | begins hbegins =>
    obtain ⟨hbegun, -, -, -, rfl⟩ := hbegins
    obtain ⟨-, -, rfl⟩ := hset hbegun hlater
    cases hfinished
  | resumes | rests | waits | closes | turns => exact (hsame hlater).elim
  | moves hmoved =>
    obtain ⟨-, -, rfl⟩ := hset hmoved hlater
    cases hfinished
  | ends hended _ hrunning hparts =>
    obtain ⟨-, rfl, rfl⟩ := hset hended hlater
    exact .inl ⟨_, _, hrunning, hparts, rfl, rfl⟩
  | gives hgiven _ _ hstopped hcancelled =>
    obtain ⟨-, rfl, rfl⟩ := hset hgiven hlater
    exact .inr ⟨hstopped, _, hcancelled, rfl⟩
  | cancels hcancelled =>
    obtain ⟨-, rfl, rfl⟩ := hset hcancelled hlater
    rw [Job.isFinished_cancel, hopen] at hfinished
    cases hfinished

/-! ## Publication -/

/-- The answer of the reload at this place, once it is over. -/
def reloaded? (scene : Scene) (i : Nat) : Option (Except Fault Fleet) :=
  scene.jobs[i]?.bind Job.reloaded?

/-- What a step does to the current fleet: the reload that returns a fleet in it puts this fleet in
place, and without such a reload the current fleet stays. -/
structure Publishes (before after : Scene) : Prop where
  kept : ∀ i answer, before.reloaded? i = some answer → after.reloaded? i = some answer
  published : ∀ i fleet, before.reloaded? i = none → after.reloaded? i = some (.ok fleet) →
    after.deployment.fleet = fleet
  failed : ∀ i fault, before.reloaded? i = none → after.reloaded? i = some (.error fault) →
    after.deployment.fleet = before.deployment.fleet
  unchanged : after.reloaded? = before.reloaded? →
    after.deployment.fleet = before.deployment.fleet

lemma publishes_of_eq (hreloaded : after.reloaded? = before.reloaded?)
    (hfleet : after.deployment.fleet = before.deployment.fleet) : before.Publishes after := by
  have habsurd : ∀ {i answer}, before.reloaded? i = none → after.reloaded? i ≠ some answer := by
    intro i answer hnone hsome
    rw [hreloaded, hnone] at hsome
    cases hsome
  exact ⟨fun i answer h => by rw [hreloaded, h], fun i fleet hnone hsome => (habsurd hnone hsome).elim,
    fun _ _ _ _ => hfleet, fun _ => hfleet⟩

/-- A job without an answer becomes another. -/
lemma publishes_set {job job' : Job} {d : Deployment} {active : Nat → Bool}
    (hjob : before.jobs[i]? = some job) (hopen : job.isFinished = false)
    (hfleet : d.fleet = match job'.reloaded? with
      | some (.ok fleet) => fleet
      | _ => before.deployment.fleet) :
    before.Publishes ⟨d, before.jobs.set i job', active⟩ := by
  have hbefore : before.reloaded? i = none := by
    rw [reloaded?, hjob, Option.bind_some, Job.reloaded?_eq_none hopen]
  have hself : (⟨d, before.jobs.set i job', active⟩ : Scene).reloaded? i = job'.reloaded? := by
    rw [reloaded?, List.getElem?_set_self (List.getElem?_eq_some_iff.1 hjob).1, Option.bind_some]
  have hother : ∀ j, j ≠ i →
      (⟨d, before.jobs.set i job', active⟩ : Scene).reloaded? j = before.reloaded? j := by
    intro j hj
    rw [reloaded?, reloaded?, List.getElem?_set_ne (Ne.symm hj)]
  -- only the answer of this job can be new
  have hnew : ∀ j answer, before.reloaded? j = none →
      (⟨d, before.jobs.set i job', active⟩ : Scene).reloaded? j = some answer →
      job'.reloaded? = some answer := by
    intro j answer hnone hsome
    by_cases hj : j = i
    · rwa [hj, hself] at hsome
    · rw [hother j hj, hnone] at hsome
      cases hsome
  refine ⟨fun j answer h => ?_, fun j fleet hnone hsome => ?_, fun j fault hnone hsome => ?_,
    fun heq => ?_⟩
  · have hj : j ≠ i := by
      rintro rfl
      rw [hbefore] at h
      cases h
    rw [hother j hj, h]
  · rw [hnew j _ hnone hsome] at hfleet
    exact hfleet
  · rw [hnew j _ hnone hsome] at hfleet
    exact hfleet
  · rw [← hself, heq, hbefore] at hfleet
    exact hfleet

/-- A fleet is put in place in the step in which its reload returns it, and in no other. -/
theorem Next.publishes (h : Next before entry after) : before.Publishes after := by
  cases h with
  | begins hbegins =>
    obtain ⟨hbegun, -, -, hwaiting, rfl⟩ := hbegins
    refine publishes_set hbegun (by simp [Job.isFinished, hwaiting]) ?_
    obtain ⟨connections, hbegin⟩ := Work.begin_employs before.deployment _
    rw [Job.reloaded?_eq_none rfl]
    dsimp only [Job.startThreads]
    rw [hbegin]
    rfl
  | resumes | rests | waits | closes => exact publishes_of_eq rfl rfl
  | turns station link =>
    exact publishes_of_eq rfl (Deployment.keeps_turn _ station link).fleet_eq
  | moves hmoved _ hrunning _ hmoves =>
    refine publishes_set hmoved (by simp [Job.isFinished, hrunning]) ?_
    rw [Job.reloaded?_eq_none rfl]
    exact hmoves.keeps.fleet_eq
  | @ends d jobs active i job threads parts hended _ hrunning hparts =>
    refine publishes_set hended (by simp [Job.isFinished, hrunning]) ?_
    obtain ⟨work, cancelled, cancelAt, progress⟩ := job
    cases work with
    | reload config =>
      show (Work.publish d (Operation.only parts)).fleet =
        match some (Operation.only parts) with
        | some (.ok fleet) => fleet
        | _ => d.fleet
      cases Operation.only parts <;> rfl
    | serve action bodiless =>
      cases action with
      | operate operation =>
        simp only [Work.finish, Work.finishAction, Work.replyTo]
        cases operation.conclude parts <;> rfl
      | reply | counters => rfl
    | _ => rfl
  | @gives d jobs active i job d' answer hgiven _ hunfinished _ hcancelled =>
    refine publishes_set hgiven hunfinished ?_
    have hkeeps := (Deployment.keeps_abandonAll d job.threads).trans
      (Work.keeps_cancelled hcancelled)
    obtain ⟨work, cancelled, cancelAt, progress⟩ := job
    cases work with
    | reload config =>
      cases hcancelled
      exact hkeeps.fleet_eq
    | _ => exact hkeeps.fleet_eq
  | @cancels d jobs active i job hcancelled =>
    refine publishes_of_eq (funext fun j => ?_) rfl
    unfold reloaded?
    by_cases hj : i = j
    · subst hj
      rw [List.getElem?_set_self (List.getElem?_eq_some_iff.1 hcancelled).1, hcancelled,
        Option.bind_some, Option.bind_some, Job.reloaded?_cancel]
    · rw [List.getElem?_set_ne hj]

/-! ## Jobs from their beginning on -/

variable {begun : Scene} {job : Job} {reach : Nat → Prop}

/-- A job that has just been taken up has a thread for each task. -/
lemma Begins.tracks (h : scene.Begins i job begun) {results : job.work.Part → Prop}
    (htasks : ∀ task ∈ (job.work.begin scene.deployment).2, task.Ensures reach results) :
    begun.Tracks i job.work
      (Progress.Ensures reach (job.work.begin scene.deployment).2.length results) := by
  obtain ⟨hjob, -, -, -, rfl⟩ := h
  refine ⟨job.cancelled, job.cancelAt, _,
    List.getElem?_set_self (List.getElem?_eq_some_iff.1 hjob).1, ?_, ?_⟩
  · simp [Job.startThreads]
  · intro thread hthread
    obtain ⟨k, hk, rfl⟩ := List.mem_mapIdx.1 hthread
    exact ⟨htasks _ (List.getElem_mem hk), by simp, by simp⟩

/-- A reload gives back what it has built, unless it was cancelled. -/
lemma Tracks.reloaded {config : Config} {built answer : Except Fault Fleet}
    (h : before.Tracks i (.reload config)
      (Progress.Ensures reach 1 fun result => result = built))
    (hnext : before.Next entry after) (hbefore : before.reloaded? i = none)
    (hafter : after.reloaded? i = some answer) :
    answer = built ∨ answer = .error (.cancelled "reload") ∧
      ∃ job, before.jobs[i]? = some job ∧ job.IsStopped before.deployment := by
  obtain ⟨cancelled, cancelAt, progress, hjob, hknown⟩ := h
  obtain ⟨job', hjob', hanswer⟩ := Option.bind_eq_some_iff.1 hafter
  have hopen : (⟨.reload config, cancelled, cancelAt, progress⟩ : Job).isFinished = false := by
    cases progress with
    | waiting | running => rfl
    | finished answer time =>
      rw [reloaded?, hjob] at hbefore
      cases hbefore
  have hfinished : job'.isFinished = true := by
    cases hended : job'.isFinished with
    | true => rfl
    | false =>
      rw [Job.reloaded?_eq_none hended] at hanswer
      cases hanswer
  rcases hnext.answered hjob hopen hjob' hfinished with
    ⟨threads, parts, hrunning, hparts, -, rfl⟩ | ⟨hstopped, found, hcancelled, rfl⟩
  · rw [show progress = .running threads from hrunning] at hknown
    obtain ⟨hcount, hthreads⟩ := hknown
    obtain ⟨thread, rfl⟩ := List.length_eq_one_iff.1 hcount
    left
    cases hresult : thread.result? with
    | none => simp [hresult] at hparts
    | some result =>
      simp only [List.mapM_cons, hresult, List.mapM_nil, Option.pure_def, Option.bind_eq_bind,
        Option.bind_some, Option.some.injEq] at hparts
      subst hparts
      cases hanswer
      exact (hthreads thread (List.mem_singleton_self _)).result hresult
  · obtain rfl : .error (.cancelled "reload") = found :=
      congrArg Prod.snd (Option.some.inj hcancelled)
    cases hanswer
    exact .inr ⟨rfl, _, hjob, hstopped⟩

end Scene

/-- A fleet of a whole configuration, whose clients have just been added to a deployment. -/
structure Deployment.Provides (d after : Deployment) (config : Config) (fleet : Fleet) : Prop where
  stations : after.stations = (d.employ (Connection.clients d.stations.length
    (config.backends.flatMap fun entry => entry.2.connections))).stations
  builds : Builds config.backends (Connection.clients d.stations.length
    (config.backends.flatMap fun entry => entry.2.connections)) fleet.backends

/-- What a reload builds is made of the whole configuration. -/
lemma Scene.Begins.provides {scene begun : Scene} {i : Nat} {job : Job}
    (h : scene.Begins i job begun) {config : Config} (hwork : job.work = .reload config)
    {fleet : Fleet} (hbuilt : (scene.deployment.addFleet config).2 = .ok fleet) :
    scene.deployment.Provides begun.deployment config fleet := by
  obtain ⟨-, -, -, -, rfl⟩ := h
  obtain ⟨work, cancelled, cancelAt, progress⟩ := job
  obtain rfl : work = .reload config := hwork
  obtain ⟨connections, hafter, hbuilds⟩ := scene.deployment.addBackends_builds config.backends
  simp only [Job.startThreads, Work.begin, Work.beginReload]
  unfold Deployment.addFleet at hbuilt ⊢
  cases hadd : scene.deployment.addBackends config.backends with
  | mk after built =>
    rw [hadd] at hafter hbuilds hbuilt
    cases built with
    | error fault => cases hbuilt
    | ok backends =>
      cases hbuilt
      obtain ⟨rfl, hbackends⟩ := hbuilds backends rfl
      have hstations := congrArg Deployment.stations hafter
      exact ⟨hstations, hbackends⟩

/-- Publication is atomic, and an operation sees one fleet.  Consider a job and any course of steps
from the moment at which it is taken up, with any other jobs beside it.  Each step puts a fleet in
place just if a reload returns this fleet in it.  A reload returns the fleet that was built from its
whole configuration, or the fault of building it, whatever appliances say about clusters in the
meantime; only if it is cancelled it fails for that.  And whatever an operation does, it does at
stations of the fleet that was current when it was taken up. -/
theorem publication {start scene begun before after : Scene} {i : Nat} {job : Job}
    {earlier entries : List Entry} {entry : Option Entry} (hwired : start.deployment.Wired)
    (hearlier : start.Leads earlier scene) (hbegins : scene.Begins i job begun)
    (hcourse : begun.Leads entries before) (hnext : before.Next entry after) :
    before.Publishes after ∧
    (∀ config answer, job.work = .reload config → before.reloaded? i = none →
      after.reloaded? i = some answer →
      (answer = (scene.deployment.addFleet config).2 ∨ answer = .error (.cancelled "reload") ∧
        ∃ job', before.jobs[i]? = some job' ∧ job'.IsStopped before.deployment) ∧
      ∀ fleet, answer = .ok fleet → after.deployment.fleet = fleet ∧
        scene.deployment.Provides begun.deployment config fleet) ∧
    ∀ operation, job.work.operation? = some operation → ∀ done ∈ entries ++ entry.toList,
      done.job = i → scene.deployment.fleet.HasStation done.station := by
  refine ⟨hnext.publishes, fun config answer hwork hopen hreturned => ?_,
    fun operation hwork done hmem hdone => ?_⟩
  · have hreturns : answer = (scene.deployment.addFleet config).2 ∨
        answer = .error (.cancelled "reload") ∧
          ∃ job', before.jobs[i]? = some job' ∧ job'.IsStopped before.deployment := by
      obtain ⟨work, cancelled, cancelAt, progress⟩ := job
      obtain rfl : work = .reload config := hwork
      obtain ⟨hcount, htasks⟩ := Work.ensures_beginReload scene.deployment config
      have htracks := hbegins.tracks htasks
      rw [show (Work.begin scene.deployment (.reload config)).2.length = 1 from hcount] at htracks
      exact (hcourse.tracks htracks).1.reloaded hnext hopen hreturned
    refine ⟨hreturns, ?_⟩
    rintro fleet rfl
    refine ⟨hnext.publishes.published i fleet hopen hreturned, ?_⟩
    rcases hreturns with hbuilt | ⟨hfault, -⟩
    · exact hbegins.provides hwork hbuilt.symm
    · cases hfault
  · have htracks := hbegins.tracks (Work.ensures_begin hwork (hearlier.wired hwired))
    obtain ⟨-, hentries⟩ := (hcourse.step hnext).tracks htracks
    exact hentries done hmem hdone

namespace Pools

/-- One backend of one appliance. -/
def config : Config where
  backends := [("west", (backend "west" "pool" 0).config)]

/-- The fleet of the configuration, on a deployment without stations. -/
def configured : Fleet where
  backends := [backend "west" "pool" 0]

/-- The work that puts it in place. -/
def reload : Job where
  work := .reload config

/-- A reload that is about to be taken up, where two backends are current. -/
def stale : Scene where
  deployment := { fleet }
  jobs := [reload]

/-- The reload has been taken up; there is nobody to ask about clusters. -/
def renewing : Scene where
  deployment :=
    { fleet, nextThread := 1
      stations := [.connected {
        client := { appliance := appliance 0, username := "admin", password := "secret" }
        link := .unreachable }] }
  jobs := [reload.withThreads [{ id := 0, task := .done (.ok configured) }]]
  active := Function.update stale.active 0 true

/-- The reload ends, and has put its fleet in place. -/
theorem publication_stale : stale.Begins 0 reload renewing ∧ ∃ after, renewing.Next none after ∧
    after.reloaded? 0 = some (.ok configured) ∧ after.deployment.fleet = configured ∧
    stale.deployment.Provides renewing.deployment config configured := by
  have hbegins : stale.Begins 0 reload renewing :=
    ⟨rfl, rfl, fun h => absurd h.1 (by decide), rfl, rfl⟩
  have hnext : renewing.Next none _ := .ends (i := 0) rfl (Function.update_self ..) rfl rfl
  have hwired : stale.deployment.Wired := fun id client h => by cases h
  obtain ⟨-, hreload, -⟩ := publication hwired .here hbegins .here hnext
  obtain ⟨-, hbuilt⟩ := hreload config (.ok configured) rfl rfl rfl
  exact ⟨hbegins, _, hnext, rfl, hbuilt configured rfl⟩

end Pools
end StorageFleet
