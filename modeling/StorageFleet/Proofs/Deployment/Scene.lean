import Mathlib.Logic.Function.Basic
import Mathlib.Tactic.Common
import StorageFleet.Deployment.Schedule

/-!
# Jobs under way

A `Scene` is a deployment with the jobs that are under way on it.  `Scene.Next` is everything that
can happen next, one effect at a time and in any order: a thread of some job does what its task says
next, a job is taken up, comes to rest or ends, a cancellation is asked for or noticed, the clock
goes on, the HTTP interface closes, an appliance outside changes the way it answers.  `Scene.Leads`
is a course of such steps, with all that threads have done at stations on the way.

A job is looked at from time to time.  It is taken up only if it is not to be cancelled by then, and
once it is taken up it goes on until each of its threads is done or has to wait; between two such
turns it rests.  Threads of different jobs, and threads of one job, may do their steps in any order.

The schedule of a deployment is one such course (`reaches_runAll`), so what every course keeps is kept
by the deployment.
-/

namespace StorageFleet

/-! ## Threads -/

/-- What a thread does at a station. -/
inductive Deed where
  /-- A call to an appliance in memory. -/
  | called (call : Call)
  /-- A request over a link. -/
  | sent (request : Request)
  /-- A look at the session. -/
  | read (session : Session)
  | acquired
  | released
  /-- A login attempt that has ended. -/
  | settled (outcome : Except String String)

namespace Thread

/-- Until when a thread waits for an answer. -/
def answerAfter (d : Deployment) (delay : Nat) : Wait :=
  if delay = 0 then .nothing else .moment (d.clock + delay)

/-- The next effect of a thread, with what it does at a station. -/
inductive Moves (d : Deployment) :
    Thread α → Option (Nat × Deed) → Deployment → Thread α → Prop where
  | performs {id appliance call next limit} :
      Moves d ⟨id, .perform appliance call next, .nothing, limit⟩
        (some (appliance.id, .called call)) (d.perform appliance call).2
        ⟨id, next (d.perform appliance call).1, .nothing, limit⟩
  | sends {id appliance request next limit} :
      Moves d ⟨id, .send appliance request next, .nothing, limit⟩
        (some (appliance.id, .sent request)) (d.send appliance request).2.2
        ⟨id, next (d.send appliance request).1,
          answerAfter (d.send appliance request).2.2 (d.send appliance request).2.1, limit⟩
  | reads {id appliance next limit} :
      Moves d ⟨id, .session appliance next, .nothing, limit⟩
        (some (appliance.id, .read (d.session appliance.id))) d
        ⟨id, next (d.session appliance.id), .nothing, limit⟩
  | acquires {id appliance next limit}
      (hfree : (d.requestLock appliance.id id).hasLock appliance.id id = true) :
      Moves d ⟨id, .acquire appliance next, .nothing, limit⟩ (some (appliance.id, .acquired))
        (d.requestLock appliance.id id) ⟨id, next, .nothing, limit⟩
  | queues {id appliance next limit}
      (hbusy : (d.requestLock appliance.id id).hasLock appliance.id id = false) :
      Moves d ⟨id, .acquire appliance next, .nothing, limit⟩ none
        (d.requestLock appliance.id id) ⟨id, next, .lock appliance.id, limit⟩
  | releases {id appliance next limit} :
      Moves d ⟨id, .release appliance next, .nothing, limit⟩ (some (appliance.id, .released))
        (d.releaseLock appliance.id id) ⟨id, next, .nothing, limit⟩
  | settles {id appliance outcome next limit} :
      Moves d ⟨id, .settle appliance outcome next, .nothing, limit⟩
        (some (appliance.id, .settled outcome)) (d.settle appliance.id outcome)
        ⟨id, next, .nothing, limit⟩
  | sleeps {id span next limit} :
      Moves d ⟨id, .sleep span next, .nothing, limit⟩ none d
        ⟨id, next, .moment (d.clock + span.milliseconds), limit⟩
  | limits {id span late next limit} :
      Moves d ⟨id, .limit span late next, .nothing, limit⟩ none d
        ⟨id, next, .nothing, some (d.clock + span.milliseconds, late)⟩
  | unlimits {id next limit} :
      Moves d ⟨id, .unlimit next, .nothing, limit⟩ none d ⟨id, next, .nothing, none⟩
  | counts {id counter next limit} :
      Moves d ⟨id, .count counter next, .nothing, limit⟩ none (d.count counter)
        ⟨id, next, .nothing, limit⟩
  | warns {id line next limit} :
      Moves d ⟨id, .warn line next, .nothing, limit⟩ none (d.warn line)
        ⟨id, next, .nothing, limit⟩
  /-- A task that is done needs its time limit no more. -/
  | done {id result limit} :
      Moves d ⟨id, .done result, .nothing, limit⟩ none d ⟨id, .done result, .nothing, none⟩
  /-- The moment that the thread waited for has come. -/
  | wakes {id task time limit} (hdue : time ≤ d.clock) :
      Moves d ⟨id, task, .moment time, limit⟩ none d ⟨id, task, .nothing, limit⟩
  /-- The lock that the thread waited for is its own. -/
  | obtains {id task station limit} (hlock : d.hasLock station id = true) :
      Moves d ⟨id, task, .lock station, limit⟩ (some (station, .acquired)) d
        ⟨id, task, .nothing, limit⟩
  /-- The time of the task is up. -/
  | lapses {id task wait time late}
      (hresult : (⟨id, task, wait, some (time, late)⟩ : Thread α).result? = none)
      (hdue : time ≤ d.clock) :
      Moves d ⟨id, task, wait, some (time, late)⟩ none (d.abandonLocks id)
        ⟨id, late, .nothing, none⟩

/-- The thread is done, or has to wait. -/
def IsIdle (thread : Thread α) : Prop :=
  thread.result?.isSome = true ∨ thread.wait ≠ .nothing

end Thread

/-! ## Scenes -/

/-- What a thread of a job does at a station. -/
structure Entry where
  /-- The place of the job in the list of jobs. -/
  job : Nat
  thread : Nat
  station : Nat
  deed : Deed

/-- The deed of a thread, as an entry of the record. -/
def Entry.of (job thread : Nat) (deed : Nat × Deed) : Entry :=
  ⟨job, thread, deed.1, deed.2⟩

namespace Job

/-- The job with these threads under way. -/
def withThreads (job : Job) (threads : List (Thread job.work.Part)) : Job :=
  { job with progress := .running threads }

/-- The job with an answer. -/
def withAnswer (job : Job) (answer : job.work.Answer) (time : Nat) : Job :=
  { job with progress := .finished answer time }

/-- The job can be cancelled and is to be. -/
def IsStopped (d : Deployment) (job : Job) : Prop :=
  job.isCancelled d = true ∧ job.work.cancelName.isSome = true

end Job

/-- Jobs under way on a deployment. -/
structure Scene where
  deployment : Deployment
  jobs : List Job
  /-- Which of the jobs have been taken up and go on; the others rest. -/
  active : Nat → Bool := fun _ => false

namespace Scene

/-- A job is taken up for the first time. -/
structure Begins (scene : Scene) (i : Nat) (job : Job) (begun : Scene) : Prop where
  job_eq : scene.jobs[i]? = some job
  rests : scene.active i = false
  goes : ¬job.IsStopped scene.deployment
  waiting : job.progress = .waiting
  eq : begun =
    { deployment := (Job.startThreads (job.work.begin scene.deployment).1
        (job.work.begin scene.deployment).2).1
      jobs := scene.jobs.set i (job.withThreads (Job.startThreads
        (job.work.begin scene.deployment).1 (job.work.begin scene.deployment).2).2)
      active := Function.update scene.active i true }

/-- What can happen next, with what a thread does at a station. -/
inductive Next : Scene → Option Entry → Scene → Prop where
  | begins {scene begun i job} (h : Begins scene i job begun) : Next scene none begun
  /-- A job is taken up again. -/
  | resumes {d jobs active i job threads} (hjob : jobs[i]? = some job) (hrests : active i = false)
      (hgoes : ¬job.IsStopped d) (hrunning : job.progress = .running threads) :
      Next ⟨d, jobs, active⟩ none ⟨d, jobs, Function.update active i true⟩
  /-- A thread of a job moves. -/
  | moves {d jobs active i job threads k thread deed d' thread'} (hjob : jobs[i]? = some job)
      (hactive : active i = true) (hrunning : job.progress = .running threads)
      (hthread : threads[k]? = some thread) (hmoves : thread.Moves d deed d' thread') :
      Next ⟨d, jobs, active⟩ (deed.map (.of i thread.id))
        ⟨d', jobs.set i (job.withThreads (threads.set k thread')), active⟩
  /-- Each thread of a job is done or has to wait. -/
  | rests {d jobs active i job threads} (hjob : jobs[i]? = some job) (hactive : active i = true)
      (hrunning : job.progress = .running threads) (hparts : threads.mapM Thread.result? = none)
      (hidle : ∀ thread ∈ threads, thread.IsIdle) :
      Next ⟨d, jobs, active⟩ none ⟨d, jobs, Function.update active i false⟩
  /-- All threads of a job are done. -/
  | ends {d jobs active i job threads parts} (hjob : jobs[i]? = some job)
      (hactive : active i = true) (hrunning : job.progress = .running threads)
      (hparts : threads.mapM Thread.result? = some parts) :
      Next ⟨d, jobs, active⟩ none
        ⟨(job.work.finish d parts).1,
          jobs.set i (job.withAnswer (job.work.finish d parts).2
            (job.work.finish d parts).1.clock),
          Function.update active i false⟩
  /-- A job that rests turns out to be cancelled. -/
  | gives {d jobs active i job d' answer} (hjob : jobs[i]? = some job) (hrests : active i = false)
      (hunfinished : job.isFinished = false) (hstopped : job.IsStopped d)
      (hcancelled : job.work.cancelled (Thread.abandonAll d job.threads) = some (d', answer)) :
      Next ⟨d, jobs, active⟩ none
        ⟨d', jobs.set i (job.withAnswer answer d'.clock), active⟩
  /-- The cancellation of a job is asked for. -/
  | cancels {d jobs active i job} (hjob : jobs[i]? = some job) :
      Next ⟨d, jobs, active⟩ none ⟨d, jobs.set i { job with cancelled := true }, active⟩
  /-- Time goes by. -/
  | waits {d : Deployment} {jobs active} {clock : Nat} (hlater : d.clock ≤ clock) :
      Next ⟨d, jobs, active⟩ none ⟨{ d with clock }, jobs, active⟩
  /-- The HTTP interface closes. -/
  | closes {d jobs active} : Next ⟨d, jobs, active⟩ none ⟨{ d with closed := true }, jobs, active⟩
  /-- What is behind a link answers in another way from now on. -/
  | turns {d jobs active} (station : Nat) (link : Link) :
      Next ⟨d, jobs, active⟩ none
        ⟨d.adjust station fun connected => { connected with link }, jobs, active⟩

/-- A course of steps, with all that threads have done at stations. -/
inductive Leads (start : Scene) : List Entry → Scene → Prop where
  | here : Leads start [] start
  | step {entries between entry later} (h : Leads start entries between)
      (hnext : Next between entry later) : Leads start (entries ++ entry.toList) later

namespace Leads

variable {start between later : Scene} {entries others : List Entry}

lemma of_next {entry : Option Entry} (h : Next start entry later) :
    Leads start entry.toList later :=
  .step .here h

lemma trans (h : Leads start entries between) (hlater : Leads between others later) :
    Leads start (entries ++ others) later := by
  induction hlater with
  | here => rwa [List.append_nil]
  | step _ hnext ih =>
    rw [← List.append_assoc]
    exact ih.step hnext

end Leads

/-- There is a course from one scene to the other. -/
def Reaches (start later : Scene) : Prop :=
  ∃ entries, Leads start entries later

namespace Reaches

variable {start between later : Scene}

lemma refl (start : Scene) : Reaches start start :=
  ⟨[], .here⟩

lemma of_next {entry : Option Entry} (h : Next start entry later) : Reaches start later :=
  ⟨_, .of_next h⟩

lemma trans : Reaches start between → Reaches between later → Reaches start later
  | ⟨_, h⟩, ⟨_, hlater⟩ => ⟨_, h.trans hlater⟩

end Reaches

end Scene

/-! ## The schedule of a deployment -/

namespace Thread

/-- A course of moves of a thread. -/
inductive Runs : Deployment → Thread α → Deployment → Thread α → Prop where
  | here {d thread} : Runs d thread d thread
  | step {d thread deed between moved d' thread'} (hmoves : Moves d thread deed between moved)
      (h : Runs between moved d' thread') : Runs d thread d' thread'

variable {d between d' : Deployment} {thread moved thread' : Thread α}

lemma Runs.trans (h : Runs d thread between moved) (hlater : Runs between moved d' thread') :
    Runs d thread d' thread' := by
  induction h with
  | here => exact hlater
  | step hmoves _ ih => exact .step hmoves (ih hlater)

/-- To run a task is to move until it is done or has to wait. -/
lemma runs_run (id : Nat) (limit : Option (Nat × Task α)) (d : Deployment) (task : Task α) :
    Runs d ⟨id, task, .nothing, limit⟩ (run id limit d task).1 (run id limit d task).2 ∧
      (run id limit d task).2.IsIdle := by
  induction task generalizing limit d with
  | done result => exact ⟨.step .done .here, .inl rfl⟩
  | perform appliance call next ih =>
    obtain ⟨hruns, hidle⟩ := ih (d.perform appliance call).1 limit (d.perform appliance call).2
    exact ⟨.step .performs hruns, hidle⟩
  | send appliance request next ih =>
    have hsends : Moves d ⟨id, .send appliance request next, .nothing, limit⟩
        (some (appliance.id, .sent request)) (d.send appliance request).2.2
        ⟨id, next (d.send appliance request).1,
          answerAfter (d.send appliance request).2.2 (d.send appliance request).2.1, limit⟩ :=
      .sends
    by_cases hdelay : (d.send appliance request).2.1 = 0
    · obtain ⟨hruns, hidle⟩ :=
        ih (d.send appliance request).1 limit (d.send appliance request).2.2
      simp only [answerAfter, hdelay, if_true] at hsends
      simp only [run, hdelay, if_true]
      exact ⟨.step hsends hruns, hidle⟩
    · simp only [answerAfter, hdelay, if_false] at hsends
      simp only [run, hdelay, if_false]
      exact ⟨.step hsends .here, .inr (by simp)⟩
  | session appliance next ih =>
    obtain ⟨hruns, hidle⟩ := ih (d.session appliance.id) limit d
    exact ⟨.step .reads hruns, hidle⟩
  | acquire appliance next ih =>
    by_cases hlock : (d.requestLock appliance.id id).hasLock appliance.id id = true
    · obtain ⟨hruns, hidle⟩ := ih limit (d.requestLock appliance.id id)
      simp only [run, hlock, if_true]
      exact ⟨.step (.acquires hlock) hruns, hidle⟩
    · simp only [run, hlock]
      exact ⟨.step (.queues (by simpa using hlock)) .here, .inr (by simp)⟩
  | release appliance next ih =>
    obtain ⟨hruns, hidle⟩ := ih limit (d.releaseLock appliance.id id)
    exact ⟨.step .releases hruns, hidle⟩
  | settle appliance outcome next ih =>
    obtain ⟨hruns, hidle⟩ := ih limit (d.settle appliance.id outcome)
    exact ⟨.step .settles hruns, hidle⟩
  | sleep span next => exact ⟨.step .sleeps .here, .inr (by simp [run])⟩
  | limit span late next _ ih =>
    obtain ⟨hruns, hidle⟩ := ih (some (d.clock + span.milliseconds, late)) d
    exact ⟨.step .limits hruns, hidle⟩
  | unlimit next ih =>
    obtain ⟨hruns, hidle⟩ := ih none d
    exact ⟨.step .unlimits hruns, hidle⟩
  | count counter next ih =>
    obtain ⟨hruns, hidle⟩ := ih limit (d.count counter)
    exact ⟨.step .counts hruns, hidle⟩
  | warn line next ih =>
    obtain ⟨hruns, hidle⟩ := ih limit (d.warn line)
    exact ⟨.step .warns hruns, hidle⟩

/-- A thread that is ready goes on where it waited. -/
lemma runs_of_isReady (h : thread.isReady d = true) :
    Runs d thread (run thread.id thread.limit d thread.task).1
        (run thread.id thread.limit d thread.task).2 ∧
      (run thread.id thread.limit d thread.task).2.IsIdle := by
  obtain ⟨id, task, wait, limit⟩ := thread
  obtain ⟨hruns, hidle⟩ := runs_run id limit d task
  refine ⟨?_, hidle⟩
  cases wait with
  | nothing => exact hruns
  | moment time => exact .step (.wakes (by simpa [isReady] using h)) hruns
  | lock station => exact .step (.obtains h) hruns

lemma isIdle_of_not_isReady (h : thread.isReady d = false) : thread.IsIdle := by
  obtain ⟨id, task, wait, limit⟩ := thread
  cases wait with
  | nothing => exact .inl (by simpa [isReady, Option.isNone_eq_false_iff] using h)
  | moment | lock => exact .inr (by simp)

/-- A thread keeps its number. -/
lemma Moves.id_eq {deed : Option (Nat × Deed)} (h : Moves d thread deed d' thread') :
    thread'.id = thread.id := by
  cases h <;> rfl

/-- A thread whose time is up goes on with what it has for that case. -/
lemma runs_of_late {late : Task α} (h : thread.late? d = some late) :
    Runs d thread (run thread.id none (d.abandonLocks thread.id) late).1
        (run thread.id none (d.abandonLocks thread.id) late).2 ∧
      (run thread.id none (d.abandonLocks thread.id) late).2.IsIdle := by
  obtain ⟨hruns, hidle⟩ := runs_run thread.id none (d.abandonLocks thread.id) late
  obtain ⟨id, task, wait, limit⟩ := thread
  unfold late? at h
  split_ifs at h with hresult
  cases limit with
  | none => cases h
  | some limit =>
    obtain ⟨time, found⟩ := limit
    dsimp only at h
    split_ifs at h with hdue
    cases h
    exact ⟨.step (.lapses (by simpa using hresult) hdue) hruns, hidle⟩

/-- To take a thread as far as it gets is to let it move until it is done or has to wait. -/
lemma runs_advance (d : Deployment) (thread : Thread α) :
    Runs d thread (thread.advance d).2.1 (thread.advance d).2.2 ∧
      (thread.advance d).2.2.IsIdle := by
  unfold advance
  cases hready : thread.isReady d with
  | true =>
    obtain ⟨hruns, hidle⟩ := runs_of_isReady hready
    simp only [if_true]
    split
    · next late hlate =>
      obtain ⟨hlater, hlast⟩ := runs_of_late hlate
      exact ⟨hruns.trans hlater, hlast⟩
    · exact ⟨hruns, hidle⟩
  | false =>
    simp only [Bool.false_eq_true, if_false]
    split
    · next late hlate => exact runs_of_late hlate
    · exact ⟨.here, isIdle_of_not_isReady hready⟩

end Thread

namespace Scene

variable {d d' : Deployment} {jobs : List Job} {active : Nat → Bool} {i : Nat} {job : Job}

/-- A job whose threads are these, on a deployment. -/
abbrev running (jobs : List Job) (active : Nat → Bool) (i : Nat) (job : Job) (d : Deployment)
    (threads : List (Thread job.work.Part)) : Scene :=
  ⟨d, jobs.set i (job.withThreads threads), active⟩

lemma Next.of_moves {threads : List (Thread job.work.Part)} {k : Nat}
    {thread thread' : Thread job.work.Part} {deed : Option (Nat × Deed)} (hi : i < jobs.length)
    (hactive : active i = true) (hthread : threads[k]? = some thread)
    (hmoves : thread.Moves d deed d' thread') :
    Next (running jobs active i job d threads) (deed.map (.of i thread.id))
      (running jobs active i job d' (threads.set k thread')) := by
  have hjob : (jobs.set i (job.withThreads threads))[i]? = some (job.withThreads threads) :=
    List.getElem?_set_self hi
  have h := Next.moves hjob hactive rfl hthread hmoves
  rwa [List.set_set] at h

lemma reaches_of_runs (hi : i < jobs.length) (hactive : active i = true)
    {thread thread' : Thread job.work.Part} (h : Thread.Runs d thread d' thread')
    (earlier rest : List (Thread job.work.Part)) :
    Reaches (running jobs active i job d (earlier ++ thread :: rest))
      (running jobs active i job d' (earlier ++ thread' :: rest)) := by
  induction h with
  | here => exact .refl _
  | @step _ thread _ _ _ _ _ hmoves _ ih =>
    have hthread : (earlier ++ thread :: rest)[earlier.length]? = some thread := by simp
    have hnext := Next.of_moves hi hactive hthread hmoves
    rw [List.set_append_right _ _ (Nat.le_refl _), Nat.sub_self, List.set_cons_zero] at hnext
    exact (Reaches.of_next hnext).trans ih

lemma reaches_advanceAll (hi : i < jobs.length) (hactive : active i = true) (d : Deployment)
    (earlier threads : List (Thread job.work.Part)) :
    Reaches (running jobs active i job d (earlier ++ threads))
        (running jobs active i job (Thread.advanceAll d threads).2.1
          (earlier ++ (Thread.advanceAll d threads).2.2)) ∧
      ∀ thread ∈ (Thread.advanceAll d threads).2.2, thread.IsIdle := by
  induction threads generalizing d earlier with
  | nil => exact ⟨.refl _, by simp [Thread.advanceAll]⟩
  | cons thread rest ih =>
    obtain ⟨hruns, hidle⟩ := Thread.runs_advance d thread
    obtain ⟨hreaches, hothers⟩ := ih (thread.advance d).2.1 (earlier ++ [(thread.advance d).2.2])
    simp only [List.append_assoc, List.cons_append, List.nil_append] at hreaches
    refine ⟨(reaches_of_runs hi hactive hruns earlier rest).trans hreaches, ?_⟩
    simp only [Thread.advanceAll, List.mem_cons, forall_eq_or_imp]
    exact ⟨hidle, hothers⟩

/-- No job of the scene is active. -/
abbrev atRest (d : Deployment) (jobs : List Job) : Scene :=
  ⟨d, jobs, fun _ => false⟩

/-- A job that goes on does so until it ends, or each of its threads has to wait. -/
lemma reaches_runThreads (hi : i < jobs.length) (d : Deployment)
    (threads : List (Thread job.work.Part)) :
    Reaches (running jobs (Function.update (fun _ => false) i true) i job d threads)
      (atRest (job.runThreads d threads).2.1 (jobs.set i (job.runThreads d threads).2.2)) := by
  have hactive : Function.update (fun _ => false) i true i = true := Function.update_self ..
  have hrests : Function.update (Function.update (fun _ : Nat => false) i true) i false =
      fun _ => false := by simp
  obtain ⟨hreaches, hidle⟩ := reaches_advanceAll hi hactive d [] threads
  simp only [List.nil_append] at hreaches
  refine hreaches.trans ?_
  simp only [Job.runThreads, Job.conclude]
  generalize (Thread.advanceAll d threads).2.1 = d', (Thread.advanceAll d threads).2.2 = threads'
    at hidle ⊢
  have hjob : (jobs.set i (job.withThreads threads'))[i]? = some (job.withThreads threads') :=
    List.getElem?_set_self hi
  cases hparts : threads'.mapM Thread.result? with
  | none =>
    have hnext := Next.rests (d := d') hjob hactive rfl hparts hidle
    rw [hrests] at hnext
    exact .of_next hnext
  | some parts =>
    have hnext := Next.ends (d := d') hjob hactive rfl hparts
    rw [hrests, List.set_set] at hnext
    exact .of_next hnext

/-- The work that can be cancelled is the work with a name for it. -/
lemma isSome_cancelled (d : Deployment) (work : Work) :
    (work.cancelled d).isSome = work.cancelName.isSome := by
  cases work with
  | serve action => cases action <;> rfl
  | _ => rfl

/-- To visit a job is to take it up and let it go on, or to notice that it is cancelled. -/
lemma reaches_visit (hjob : jobs[i]? = some job) (d : Deployment) :
    Reaches (atRest d jobs) (atRest (job.visit d).2.1 (jobs.set i (job.visit d).2.2)) := by
  obtain ⟨hi, hget⟩ := List.getElem?_eq_some_iff.1 hjob
  have hself : jobs.set i job = jobs := by rw [← hget, List.set_getElem_self]
  have hactive (hgoes : ¬job.IsStopped d) : Reaches (atRest d jobs)
      (atRest (job.visitActive d).2.1 (jobs.set i (job.visitActive d).2.2)) := by
    unfold Job.visitActive
    split
    · rw [hself]
      exact .refl _
    · next threads hrunning =>
      have hnext : Next (atRest d jobs) none ⟨d, jobs, Function.update (fun _ => false) i true⟩ :=
        .resumes hjob rfl hgoes hrunning
      have hwith : job = job.withThreads threads := by
        simp [Job.withThreads, ← hrunning]
      refine (Reaches.of_next hnext).trans ?_
      have hreaches : Reaches (running jobs _ i job d threads) _ := reaches_runThreads hi d threads
      rwa [running, ← hwith, hself] at hreaches
    · next hwaiting =>
      refine (Reaches.of_next (.begins ⟨hjob, rfl, hgoes, hwaiting, rfl⟩)).trans ?_
      exact reaches_runThreads hi _ _
  unfold Job.visit
  split_ifs with hfinished hcancelled
  · rw [hself]
    exact .refl _
  · split
    · next d' answer hcancel =>
      have hname := isSome_cancelled (Thread.abandonAll d job.threads) job.work
      rw [hcancel] at hname
      exact .of_next (.gives hjob rfl (by simpa using hfinished) ⟨hcancelled, hname.symm⟩ hcancel)
    · next hnone =>
      have hname := isSome_cancelled (Thread.abandonAll d job.threads) job.work
      rw [hnone] at hname
      exact hactive fun hstopped => Bool.false_ne_true (hname.trans hstopped.2)
  · exact hactive fun hstopped => hcancelled hstopped.1

lemma reaches_pass (d : Deployment) (earlier jobs : List Job) :
    Reaches (atRest d (earlier ++ jobs))
      (atRest (d.pass jobs).2.1 (earlier ++ (d.pass jobs).2.2)) := by
  induction jobs generalizing d earlier with
  | nil => exact .refl _
  | cons job rest ih =>
    have hjob : (earlier ++ job :: rest)[earlier.length]? = some job := by simp
    have hvisit := reaches_visit hjob d
    rw [List.set_append_right _ _ (Nat.le_refl _), Nat.sub_self, List.set_cons_zero] at hvisit
    have hrest := ih (job.visit d).2.1 (earlier ++ [(job.visit d).2.2])
    simp only [List.append_assoc, List.cons_append, List.nil_append] at hrest
    exact hvisit.trans hrest

lemma reaches_passes (fuel : Nat) (d : Deployment) (jobs : List Job) :
    Reaches (atRest d jobs)
      (atRest (Deployment.passes fuel d jobs).1 (Deployment.passes fuel d jobs).2) := by
  induction fuel generalizing d jobs with
  | zero => exact .refl _
  | succ fuel ih =>
    have hpass := reaches_pass d [] jobs
    simp only [List.nil_append] at hpass
    unfold Deployment.passes
    split
    · next d' jobs' heq =>
      rw [heq] at hpass
      exact hpass.trans (ih d' jobs')
    · next d' jobs' heq =>
      rwa [heq] at hpass

lemma reaches_runJobs (fuel : Nat) (d : Deployment) (jobs : List Job) :
    Reaches (atRest d jobs)
      (atRest (Deployment.runJobs fuel d jobs).1 (Deployment.runJobs fuel d jobs).2) := by
  induction fuel generalizing d jobs with
  | zero => exact .refl _
  | succ fuel ih =>
    have hpasses := reaches_passes Number.max64 d jobs
    unfold Deployment.runJobs
    generalize Deployment.passes Number.max64 d jobs = state at hpasses ⊢
    obtain ⟨d', jobs'⟩ := state
    dsimp only at hpasses ⊢
    split
    · next clock hnext =>
      have hlater : d'.clock ≤ clock := by
        have hmem := List.min?_mem hnext
        simp only [List.mem_filter, decide_eq_true_eq] at hmem
        exact Nat.le_of_lt hmem.2
      exact hpasses.trans ((Reaches.of_next (.waits hlater)).trans (ih _ jobs'))
    · exact hpasses

/-- What the schedule of a deployment does is one course of steps. -/
theorem reaches_runAll (d : Deployment) (jobs : List Job) :
    Reaches (atRest d jobs) (atRest (d.runAll jobs).1 (d.runAll jobs).2) :=
  reaches_runJobs _ d jobs

end Scene
end StorageFleet
