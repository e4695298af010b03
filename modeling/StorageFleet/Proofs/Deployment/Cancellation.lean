import Mathlib
import StorageFleet.Proofs.Deployment.Outside
import StorageFleet.Proofs.Deployment.Peace
import StorageFleet.Proofs.Rack.Filing

/-!
# Cancellation

Work that is to be cancelled is over at once, unless it goes on at this very moment: work that has
not begun, and work whose threads all wait, for an answer, for a login lock or between two looks at
a job.  The next look at it gives the answer, and in every course of steps its threads do nothing
any more (`Next.stopped`).

What it leaves behind is in order (`Leads.leaves`).  Behind the stations there is what the deeds so
far have made of it.  A login that was under way has changed nothing of the session, and its lock
goes to the first in line that is not cancelled too.  Whoever waits for a lock has decided what to
do with it: to log in, or to share the outcome of a login attempt that has ended since it last read
the session (`Thread.takes_over`).
-/

namespace StorageFleet

/-! ## The answer -/

namespace Work

variable {d d' : Deployment} {work : Work}

/-- The answer of work that is cancelled, if it can be. -/
def cancellation : (work : Work) → Option work.Answer
  | .operate operation => some (.error (.cancelled operation.name))
  | .reload _ => some (.error (.cancelled "reload"))
  | .serve (.operate operation) bodiless =>
    some (trimReply bodiless (.ofFault (.cancelled operation.name)))
  | _ => none

/-- The answer does not depend on the deployment. -/
lemma map_cancelled (d : Deployment) (work : Work) :
    (work.cancelled d).map Prod.snd = work.cancellation := by
  cases work with
  | serve action => cases action <;> rfl
  | _ => rfl

lemma exists_cancelled {answer : work.Answer} (h : work.cancellation = some answer)
    (d : Deployment) : ∃ log, work.cancelled d = some ({ d with log }, answer) := by
  rw [← map_cancelled d] at h
  obtain ⟨⟨d', found⟩, hcancelled, rfl⟩ := Option.map_eq_some_iff.1 h
  obtain ⟨log, rfl⟩ := cancelled_eq hcancelled
  exact ⟨log, hcancelled⟩

/-- The names that stand in these answers. -/
example (request : CreateVolumeRequest) (id name : String) (count : Nat) (text : Option String)
    (mount : Option MountType) :
    [.createVolume request, .deleteVolume id, .expandVolume id count, .validateVolume id,
      .listVolumes count text, .getCapacity text text text, .prepareShare id mount text,
      .createSnapshot id name, .deleteSnapshot id, .listSnapshots text text count text,
      .checkBackends].map Operation.name =
    ["create_volume", "delete_volume", "expand_volume", "validate_volume", "list_volumes",
      "get_capacity", "prepare_share", "create_snapshot", "delete_snapshot", "list_snapshots",
      "check_backends"] := rfl

lemma exists_cancellation (h : work.cancelName.isSome = true) :
    ∃ answer, work.cancellation = some answer := by
  rw [← Option.isSome_iff_exists, ← map_cancelled {}, Option.isSome_map,
    Scene.isSome_cancelled {} work]
  exact h

end Work

namespace Job

variable {d d' : Deployment} {job : Job}

/-- What is left of a deployment when a job that is cancelled has been visited. -/
lemma visit_stopped (hopen : job.isFinished = false) (hstopped : job.isCancelled d = true)
    {answer : job.work.Answer} (hanswer : job.work.cancellation = some answer) :
    ∃ log, job.visit d = (true, { Thread.abandonAll d job.threads with log },
      job.withAnswer answer d.clock) := by
  obtain ⟨log, hcancelled⟩ := Work.exists_cancelled hanswer (Thread.abandonAll d job.threads)
  have hclock := (d.keeps_abandonAll job.threads).clock_eq
  refine ⟨log, ?_⟩
  unfold visit
  rw [if_neg (by simp [hopen]), if_pos hstopped, hcancelled]
  simp only [withAnswer, hclock]

/-- What is to be cancelled stays so. -/
lemma IsStopped.mono (h : job.IsStopped d) (hclosed : d.closed = true → d'.closed = true)
    (hclock : d.clock ≤ d'.clock) : job.IsStopped d' := by
  obtain ⟨hcancelled, hname⟩ := h
  refine ⟨?_, hname⟩
  unfold isCancelled at hcancelled ⊢
  split at hcancelled
  · next hserved => rw [if_pos hserved, hclosed hcancelled]
  · next hserved =>
    rw [if_neg hserved]
    split at hcancelled
    · exact hcancelled
    · rcases Bool.or_eq_true_iff.1 hcancelled with hflag | htime
      · exact Bool.or_eq_true_iff.2 (.inl hflag)
      · refine Bool.or_eq_true_iff.2 (.inr ?_)
        cases hat : job.cancelAt with
        | none => simp [hat] at htime
        | some time =>
          have hdue : time ≤ d.clock := by simpa [hat] using htime
          exact decide_eq_true (Nat.le_trans hdue hclock)
    · cases hcancelled

end Job

/-! ## No more deeds -/

namespace Scene

variable {start scene later : Scene} {entry : Option Entry} {entries : List Entry} {i : Nat}

/-- The job at a place has this answer. -/
def Answered (jobs : List Job) (i : Nat) (work : Work) (answer : work.Answer) : Prop :=
  ∃ cancelled cancelAt time, jobs[i]? = some ⟨work, cancelled, cancelAt, .finished answer time⟩

/-- The job at a place has this answer, or the next look at it gives it this answer. -/
def Halted (scene : Scene) (i : Nat) (work : Work) (answer : work.Answer) : Prop :=
  Answered scene.jobs i work answer ∨ ∃ cancelled cancelAt progress d,
    scene.jobs[i]? = some ⟨work, cancelled, cancelAt, progress⟩ ∧
    Job.visit scene.deployment ⟨work, cancelled, cancelAt, progress⟩ =
      (true, d, ⟨work, cancelled, cancelAt, .finished answer scene.deployment.clock⟩)

/-- The job at a place has this answer, or it rests and is to be cancelled. -/
def Stopped (scene : Scene) (i : Nat) (work : Work) (answer : work.Answer) : Prop :=
  scene.active i = false ∧ ∃ cancelled cancelAt progress,
    scene.jobs[i]? = some ⟨work, cancelled, cancelAt, progress⟩ ∧
    ((∃ time, progress = .finished answer time) ∨
      Job.isFinished ⟨work, cancelled, cancelAt, progress⟩ = false ∧
      Job.IsStopped scene.deployment ⟨work, cancelled, cancelAt, progress⟩)

lemma Stopped.halted {work : Work} {answer : work.Answer} (h : scene.Stopped i work answer)
    (hanswer : work.cancellation = some answer) : scene.Halted i work answer := by
  obtain ⟨-, cancelled, cancelAt, progress, hjob, ⟨time, rfl⟩ | ⟨hopen, hstopped, -⟩⟩ := h
  · exact .inl ⟨cancelled, cancelAt, time, hjob⟩
  · obtain ⟨log, hvisit⟩ := Job.visit_stopped hopen hstopped hanswer
    exact .inr ⟨cancelled, cancelAt, progress, _, hjob, hvisit⟩

/-- Time goes on, and what is closed remains so. -/
lemma Next.goes_on (h : Next scene entry later) :
    scene.deployment.clock ≤ later.deployment.clock ∧
      (scene.deployment.closed = true → later.deployment.closed = true) := by
  have hkeeps : ∀ {d d' : Deployment}, d.Keeps d' →
      d.clock ≤ d'.clock ∧ (d.closed = true → d'.closed = true) := fun h =>
    ⟨Nat.le_of_eq h.clock_eq.symm, fun hclosed => h.closed_eq.trans hclosed⟩
  cases h with
  | begins hbegins =>
    obtain ⟨connections, hbegun⟩ := hbegins.deployment_eq
    rw [hbegun]
    exact ⟨Nat.le_refl _, id⟩
  | resumes | rests | cancels => exact ⟨Nat.le_refl _, id⟩
  | moves _ _ _ _ hmoves => exact hkeeps hmoves.keeps
  | @ends d jobs active j job threads parts =>
    obtain ⟨fleet, log, hfinish⟩ := job.work.finish_eq d parts
    dsimp only
    rw [hfinish]
    exact ⟨Nat.le_refl _, id⟩
  | gives _ _ _ _ hcancelled =>
    exact hkeeps ((Deployment.keeps_abandonAll _ _).trans (Work.keeps_cancelled hcancelled))
  | waits hlater => exact ⟨hlater, id⟩
  | closes => exact ⟨Nat.le_refl _, fun _ => rfl⟩
  | turns station link => exact hkeeps (Deployment.keeps_turn _ station link)

/-- Work that is to be cancelled while it rests does nothing any more. -/
lemma Next.stopped (h : Next scene entry later) {work : Work} {answer : work.Answer}
    (hanswer : work.cancellation = some answer) (hstopped : scene.Stopped i work answer) :
    later.Stopped i work answer ∧ ∀ done ∈ entry, done.job ≠ i := by
  obtain ⟨hclock, hclosed⟩ := h.goes_on
  obtain ⟨hrests, cancelled, cancelAt, progress, hjob, hhow⟩ := hstopped
  have hstays : (∃ time, progress = .finished answer time) ∨
      Job.isFinished ⟨work, cancelled, cancelAt, progress⟩ = false ∧
      Job.IsStopped later.deployment ⟨work, cancelled, cancelAt, progress⟩ :=
    hhow.imp_right fun hopen => ⟨hopen.1, hopen.2.mono hclosed hclock⟩
  have hother : ∀ {j : Nat} {job : Job}, j ≠ i →
      (scene.jobs.set j job)[i]? = some ⟨work, cancelled, cancelAt, progress⟩ := by
    intro j job hne
    rw [List.getElem?_set_ne hne, hjob]
  have hself : ∀ {job : Job}, (scene.jobs.set i job)[i]? = some job := by
    intro job
    exact List.getElem?_set_self (List.getElem?_eq_some_iff.1 hjob).1
  -- it is not taken up again
  have hgone : ∀ {job : Job}, scene.jobs[i]? = some job → ¬job.IsStopped scene.deployment →
      (job.isFinished = false) → False := by
    intro job hfound hgoes hopen
    rw [hjob] at hfound
    cases hfound
    rcases hhow with ⟨time, rfl⟩ | ⟨-, hstopped⟩
    · cases hopen
    · exact hgoes hstopped
  cases h with
  | @begins _ _ j job hbegins =>
    obtain ⟨hbegun, -, hgoes, hwaiting, rfl⟩ := hbegins
    have hj : j ≠ i := by
      rintro rfl
      exact hgone hbegun hgoes (by rw [Job.isFinished, hwaiting])
    refine ⟨⟨?_, cancelled, cancelAt, progress, hother hj, hstays⟩, by simp⟩
    dsimp only
    rw [Function.update_of_ne (Ne.symm hj), hrests]
  | @resumes d jobs active j job threads hfound _ hgoes hrunning =>
    have hj : j ≠ i := by
      rintro rfl
      exact hgone hfound hgoes (by rw [Job.isFinished, hrunning])
    refine ⟨⟨?_, cancelled, cancelAt, progress, hjob, hstays⟩, by simp⟩
    dsimp only
    rw [Function.update_of_ne (Ne.symm hj)]
    exact hrests
  | @moves d jobs active j job threads k thread deed d' thread' _ hactive =>
    have hj : j ≠ i := by
      rintro rfl
      exact Bool.false_ne_true (hrests.symm.trans hactive)
    refine ⟨⟨hrests, cancelled, cancelAt, progress, hother hj, hstays⟩, fun done hdone => ?_⟩
    obtain ⟨said, -, rfl⟩ := Option.map_eq_some_iff.1 hdone
    exact hj
  | @rests d jobs active j =>
    refine ⟨⟨?_, cancelled, cancelAt, progress, hjob, hstays⟩, by simp⟩
    by_cases hj : i = j
    · simp [hj]
    · dsimp only
      rw [Function.update_of_ne hj]
      exact hrests
  | @ends d jobs active j job threads parts _ hactive =>
    have hj : j ≠ i := by
      rintro rfl
      exact Bool.false_ne_true (hrests.symm.trans hactive)
    refine ⟨⟨?_, cancelled, cancelAt, progress, hother hj, hstays⟩, by simp⟩
    dsimp only
    rw [Function.update_of_ne (Ne.symm hj)]
    exact hrests
  | @gives d jobs active j job d' found hgiven _ hopen _ hcancelled =>
    by_cases hj : j = i
    · subst hj
      rw [hjob] at hgiven
      cases hgiven
      have hfound : some found = work.cancellation := by
        rw [← work.map_cancelled, hcancelled]
        rfl
      rw [hanswer] at hfound
      cases hfound
      exact ⟨⟨hrests, cancelled, cancelAt, _, hself, .inl ⟨_, rfl⟩⟩, by simp⟩
    · exact ⟨⟨hrests, cancelled, cancelAt, progress, hother hj, hstays⟩, by simp⟩
  | @cancels d jobs active j job hfound =>
    by_cases hj : j = i
    · subst hj
      rw [hjob] at hfound
      cases hfound
      refine ⟨⟨hrests, true, cancelAt, progress, hself, hhow.imp_right ?_⟩, by simp⟩
      rintro ⟨hopen, hcancelled, hname⟩
      cases progress with
      | finished => cases hopen
      | waiting | running =>
        refine ⟨rfl, ?_, hname⟩
        unfold Job.isCancelled at hcancelled ⊢
        split <;> simp_all
    · exact ⟨⟨hrests, cancelled, cancelAt, progress, hother hj, hstays⟩, by simp⟩
  | waits | closes | turns =>
    exact ⟨⟨hrests, cancelled, cancelAt, progress, hjob, hstays⟩, by simp⟩

lemma Leads.stopped (h : scene.Leads entries later) {work : Work} {answer : work.Answer}
    (hanswer : work.cancellation = some answer) (hstopped : scene.Stopped i work answer) :
    later.Stopped i work answer ∧ ∀ done ∈ entries, done.job ≠ i := by
  induction h with
  | here => exact ⟨hstopped, by simp⟩
  | step _ hnext ih =>
    obtain ⟨hbetween, hearlier⟩ := ih
    obtain ⟨hlater, hlast⟩ := hnext.stopped hanswer hbetween
    refine ⟨hlater, fun done hmem => ?_⟩
    rcases List.mem_append.1 hmem with hin | hin
    · exact hearlier done hin
    · exact hlast done (Option.mem_toList.1 hin)

/-- The schedule looks at every job in each of its passes, so one pass gives the answer. -/
lemma Stopped.pass {d : Deployment} {earlier jobs : List Job} {work : Work} {answer : work.Answer}
    (hanswer : work.cancellation = some answer)
    (h : (atRest d (earlier ++ jobs)).Stopped (earlier.length + i) work answer) :
    Answered (d.pass jobs).2.2 i work answer := by
  induction jobs generalizing d earlier i with
  | nil =>
    obtain ⟨-, cancelled, cancelAt, progress, hjob, -⟩ := h
    rw [List.append_nil, List.getElem?_eq_none (Nat.le_add_right _ _)] at hjob
    cases hjob
  | cons job rest ih =>
    cases i with
    | zero =>
      obtain ⟨-, cancelled, cancelAt, progress, hjob, hhow⟩ := h
      obtain rfl : job = ⟨work, cancelled, cancelAt, progress⟩ := by simpa using hjob
      rcases hhow with ⟨time, rfl⟩ | ⟨hopen, hstopped, -⟩
      · exact ⟨cancelled, cancelAt, time, rfl⟩
      · obtain ⟨log, hvisit⟩ := Job.visit_stopped hopen hstopped hanswer
        refine ⟨cancelled, cancelAt, d.clock, ?_⟩
        rw [Deployment.pass, hvisit]
        rfl
    | succ i =>
      have hjob : (earlier ++ job :: rest)[earlier.length]? = some job := by simp
      obtain ⟨entries, hvisit⟩ := reaches_visit hjob d
      rw [List.set_append_right _ _ (Nat.le_refl _), Nat.sub_self, List.set_cons_zero] at hvisit
      have hlater := (hvisit.stopped hanswer h).1
      rw [show earlier ++ (job.visit d).2.2 :: rest = (earlier ++ [(job.visit d).2.2]) ++ rest by
        simp, show earlier.length + (i + 1) = (earlier ++ [(job.visit d).2.2]).length + i by
        simp only [List.length_append, List.length_singleton]; omega] at hlater
      exact ih hlater

/-- Work that has not been taken up has done nothing. -/
lemma Next.untouched (h : Next scene entry later) {job : Job} (hjob : later.jobs[i]? = some job)
    (hwaiting : job.progress = .waiting) :
    (∃ job', scene.jobs[i]? = some job' ∧ job'.progress = .waiting) ∧
      ∀ done ∈ entry, done.job ≠ i := by
  cases h with
  | @begins _ _ j other hbegins =>
    obtain ⟨hbegun, -, -, -, rfl⟩ := hbegins
    rcases Job.of_set hbegun hjob with ⟨rfl, rfl⟩ | ⟨-, hsame⟩
    · cases hwaiting
    · exact ⟨⟨job, hsame, hwaiting⟩, by simp⟩
  | resumes | rests | waits | closes | turns => exact ⟨⟨job, hjob, hwaiting⟩, by simp⟩
  | @moves d jobs active j other threads k thread deed d' thread' hmoved =>
    rcases Job.of_set hmoved hjob with ⟨rfl, rfl⟩ | ⟨hj, hsame⟩
    · cases hwaiting
    · refine ⟨⟨job, hsame, hwaiting⟩, fun done hdone => ?_⟩
      obtain ⟨said, -, rfl⟩ := Option.map_eq_some_iff.1 hdone
      exact Ne.symm hj
  | ends hended =>
    rcases Job.of_set hended hjob with ⟨rfl, rfl⟩ | ⟨-, hsame⟩
    · cases hwaiting
    · exact ⟨⟨job, hsame, hwaiting⟩, by simp⟩
  | gives hgiven =>
    rcases Job.of_set hgiven hjob with ⟨rfl, rfl⟩ | ⟨-, hsame⟩
    · cases hwaiting
    · exact ⟨⟨job, hsame, hwaiting⟩, by simp⟩
  | @cancels d jobs active j other hfound =>
    rcases Job.of_set hfound hjob with ⟨rfl, rfl⟩ | ⟨-, hsame⟩
    · exact ⟨⟨other, hfound, hwaiting⟩, by simp⟩
    · exact ⟨⟨job, hsame, hwaiting⟩, by simp⟩

lemma Leads.untouched (h : start.Leads entries scene) {job : Job}
    (hjob : scene.jobs[i]? = some job) (hwaiting : job.progress = .waiting) :
    ∀ done ∈ entries, done.job ≠ i := by
  induction h generalizing job with
  | here => simp
  | step _ hnext ih =>
    obtain ⟨⟨job', hbefore, hopen⟩, hlast⟩ := hnext.untouched hjob hwaiting
    intro done hmem
    rcases List.mem_append.1 hmem with hin | hin
    · exact ih hbefore hopen done hin
    · exact hlast done (Option.mem_toList.1 hin)

end Scene

/-! ## What stations receive -/

namespace Deployment

variable {d : Deployment}

lemma received_adjust (d : Deployment) (id : Nat) (change : Connected → Connected) :
    (d.adjust id change).received = d.received := by
  unfold adjust
  cases d.connected? id <;> rfl

lemma received_send {appliance : ApplianceRef} (hthere : (d.connected? appliance.id).isSome = true)
    (request : Request) : (d.send appliance request).2.2.received =
      d.received ++ [(appliance.id, .request d.clock request)] := by
  obtain ⟨connected, hconnected⟩ := Option.isSome_iff_exists.1 hthere
  unfold send
  rw [hconnected]
  rfl

end Deployment

namespace Thread

variable {d d' : Deployment} {thread thread' : Thread α} {station seen : Nat}

/-- Nothing that was received is forgotten. -/
lemma Moves.received {deed : Option (Nat × Deed)} (h : thread.Moves d deed d' thread') :
    ∃ more, d'.received = d.received ++ more := by
  cases h with
  | @performs id appliance call =>
    unfold Deployment.perform
    cases d.simulated? appliance.id with
    | none => exact ⟨[], (List.append_nil _).symm⟩
    | some simulated => exact ⟨_, rfl⟩
  | @sends id appliance request =>
    unfold Deployment.send
    cases d.connected? appliance.id with
    | none => exact ⟨[], (List.append_nil _).symm⟩
    | some connected => exact ⟨_, rfl⟩
  | acquires | queues | releases | settles =>
    exact ⟨[], (d.received_adjust _ _).trans (List.append_nil _).symm⟩
  | reads | sleeps | limits | unlimits | counts | warns | done | wakes | obtains | lapses =>
    exact ⟨[], (List.append_nil _).symm⟩

lemma Runs.received (h : Runs d thread d' thread') : ∃ more, d'.received = d.received ++ more := by
  induction h with
  | here => exact ⟨[], (List.append_nil _).symm⟩
  | step hmoves _ ih =>
    obtain ⟨first, hfirst⟩ := hmoves.received
    obtain ⟨more, hmore⟩ := ih
    exact ⟨first ++ more, by rw [hmore, hfirst, List.append_assoc]⟩

lemma received_run (id : Nat) (limit : Option (Nat × Task α)) (d : Deployment) (task : Task α) :
    ∃ more, (run id limit d task).1.received = d.received ++ more :=
  (runs_run id limit d task).1.received

/-- A thread that is ready first does what it has waited to do. -/
lemma received_advance (h : thread.isReady d = true) : ∃ more, (thread.advance d).2.1.received =
    (run thread.id thread.limit d thread.task).1.received ++ more := by
  unfold advance
  rw [h]
  simp only [if_true]
  split
  · next late hlate => exact (runs_of_late hlate).1.received
  · exact ⟨[], (List.append_nil _).symm⟩

/-! ## The next in line -/

/-- As the thread goes on, the first that anybody receives is its request to log in at the
station. -/
def LogsIn (d : Deployment) (station : Nat) (thread : Thread α) : Prop :=
  ∃ (client : Client) (more : List (Nat × Received)), client.appliance.id = station ∧
    (thread.advance d).2.1.received =
      d.received ++ (station, .request d.clock client.loginRequest) :: more

/-- The thread gives the lock of the station back and goes on with the outcome of the last login
attempt there. -/
def Shares (d : Deployment) (station : Nat) (thread : Thread α) : Prop :=
  ∃ (client : Client) (seen : Nat) (k : Except Fault Unit → Task α),
    client.appliance.id = station ∧
    thread.task = .session client.appliance (client.afterLook seen k) ∧
    Runs d thread (d.releaseLock station thread.id)
      ⟨thread.id, k (client.shared (d.session station)), .nothing, thread.limit⟩

lemma logsIn_of_run (hready : thread.isReady d = true) {client : Client}
    (hclient : client.appliance.id = station)
    (hthere : (d.connected? station).isSome = true) (between : Deployment)
    {k : Except Fault Unit → Task α}
    (hbetween : between.received = d.received ∧ between.clock = d.clock ∧
      between.connected? station = d.connected? station)
    (hrun : run thread.id thread.limit d thread.task =
      run thread.id thread.limit between (client.loggingIn k)) : thread.LogsIn d station := by
  subst hclient
  obtain ⟨hreceived, hclock, hconnected⟩ := hbetween
  have hsent := between.received_send (hconnected ▸ hthere) client.loginRequest
  have hfirst : ∃ more, (run thread.id thread.limit between (client.loggingIn k)).1.received =
      (between.send client.appliance client.loginRequest).2.2.received ++ more := by
    unfold Client.loggingIn
    simp only [run]
    split
    · exact received_run _ _ _ _
    · exact ⟨[], (List.append_nil _).symm⟩
  obtain ⟨first, hfirst⟩ := hfirst
  obtain ⟨more, hmore⟩ := received_advance hready
  refine ⟨client, first ++ more, rfl, ?_⟩
  rw [hmore, hrun, hfirst, hsent, hreceived, hclock]
  simp

/-- A thread that has waited for a lock and gets it logs in, or shares the outcome of a login
attempt that has ended since it last read the session. -/
lemma takes_over (hdecides : thread.task.Decides station seen)
    (hwait : thread.wait = .lock station) (hlock : (d.lock station).owner = some thread.id) :
    ((d.session station).generation = seen → thread.LogsIn d station) ∧
      ((d.session station).generation ≠ seen →
        thread.LogsIn d station ∨ thread.Shares d station) := by
  have hthere : (d.connected? station).isSome = true := by
    unfold Deployment.lock at hlock
    cases hconnected : d.connected? station with
    | none => simp [hconnected] at hlock
    | some connected => rfl
  have hhas := Deployment.hasLock_iff_lock.2 hlock
  have hready : thread.isReady d = true := by
    rw [isReady, hwait]
    exact hhas
  obtain ⟨client, hclient, ⟨k, htask⟩ | ⟨k, htask⟩⟩ := hdecides
  · have hlogs : thread.LogsIn d station :=
      logsIn_of_run hready hclient hthere d ⟨rfl, rfl, rfl⟩ (by rw [htask])
    exact ⟨fun _ => hlogs, fun _ => .inl hlogs⟩
  · refine ⟨fun hsame => ?_, fun hended => .inr ⟨client, seen, k, hclient, htask, ?_⟩⟩
    · let counted := d.count (.relogin client.endpoint)
      have hrun : run thread.id thread.limit d thread.task =
          run thread.id thread.limit counted (client.loggingIn k) := by
        rw [htask, run, hclient, Client.afterLook, if_pos hsame, run]
      exact logsIn_of_run hready hclient hthere counted ⟨rfl, rfl, rfl⟩ hrun
    · obtain ⟨id, task, wait, limit⟩ := thread
      obtain rfl : task = _ := htask
      obtain rfl : wait = _ := hwait
      have hafter : client.afterLook seen k (d.session client.appliance.id) =
          .release client.appliance (k (client.shared (d.session client.appliance.id))) :=
        if_neg (hclient ▸ hended)
      subst hclient
      refine .step (.obtains hhas) (.step .reads ?_)
      rw [hafter]
      exact .step .releases .here

end Thread

/-! ## What is left behind -/

/-- What a job that is cancelled in a scene leaves behind: the appliances as they are, sessions as
they were before the login attempts that have been cut off, and login locks that go to the next in
line. -/
structure Scene.Leaves (start : Scene) (entries : List Entry) (scene : Scene) (i : Nat) (job : Job)
    (after : Deployment) : Prop where
  outside : ∀ station, after.outside station = scene.deployment.outside station
  session : ∀ thread ∈ job.threads, ∀ station,
    (scene.deployment.lock station).owner = some thread.id → thread.wait ≠ .lock station →
    ∃ earlier since before, entries = earlier ++ ⟨i, thread.id, station, .acquired⟩ :: since ∧
      start.Leads earlier before ∧ after.session station = before.deployment.session station
  owner : ∀ station, (after.lock station).owner =
    ((scene.deployment.lock station).line.filter (· ∉ job.threads.map Thread.id)).head?
  next : ∀ station id, (after.lock station).owner = some id →
    (scene.deployment.lock station).owner ≠ some id →
    ∃ j other, j ≠ i ∧ scene.jobs[j]? = some other ∧ ∃ thread ∈ other.threads, thread.id = id ∧
      thread.wait = .lock station ∧
      seenBy entries station id ≤ (after.session station).generation ∧
      ((after.session station).generation = seenBy entries station id →
        thread.LogsIn after station) ∧
      ((after.session station).generation ≠ seenBy entries station id →
        thread.LogsIn after station ∨ thread.Shares after station)

namespace Scene

variable {start scene : Scene} {entries : List Entry} {i : Nat} {job : Job}

/-- Whoever is in a line, and goes on only with the lock, waits for it. -/
lemma Peaceful.waits (h : scene.Peaceful entries) (hjob : scene.jobs[i]? = some job)
    {thread : Thread job.work.Part} (hthread : thread ∈ job.threads) {station : Nat}
    (hline : thread.id ∈ (scene.deployment.lock station).line)
    (howner : (scene.deployment.lock station).owner ≠ some thread.id) :
    thread.wait = .lock station := by
  by_contra hwait
  rw [Lock.line, List.mem_append, Option.mem_toList] at hline
  rcases hline with hhas | hqueue
  · exact howner hhas
  · exact ((h.fits hjob thread hthread station).goes hwait).1 hqueue

lemma Leads.leaves (h : start.Leads entries scene) (hfresh : start.Fresh)
    (hjob : scene.jobs[i]? = some job) (hrests : scene.active i = false) (log : List LogLine) :
    start.Leaves entries scene i job
      { Thread.abandonAll scene.deployment job.threads with log } := by
  have hpeaceful := h.peaceful hfresh
  have hlock : ∀ station,
      ({ Thread.abandonAll scene.deployment job.threads with log } : Deployment).lock station =
        (job.threads.map Thread.id).foldl Lock.abandon (scene.deployment.lock station) :=
    fun station => scene.deployment.lock_abandonAll job.threads station
  have hsession : ∀ station,
      ({ Thread.abandonAll scene.deployment job.threads with log } : Deployment).session station =
        scene.deployment.session station :=
    fun station => scene.deployment.session_abandonAll job.threads station
  have hline := fun station =>
    (hpeaceful.ordered station).abandonAll (job.threads.map Thread.id)
  refine ⟨fun station => ?_, fun thread hthread station howner hwait => ?_, fun station => ?_,
    fun station id howner hbefore => ?_⟩
  · exact scene.deployment.outside_abandonAll job.threads station
  · obtain ⟨earlier, since, before, hentries, hleads, hheld⟩ :=
      h.holding hfresh _ _ hjob thread hthread station howner hwait
    refine ⟨earlier, since, before, hentries, hleads, (hsession station).trans ?_⟩
    -- a thread that rests is not about to give the lock back
    refine hheld.resolve_right ?_
    rintro ⟨hgoes, appliance, next, -, htask⟩
    rcases h.rested hfresh hjob hrests thread hthread with hdone | hwaits
    · rw [Thread.result?, htask] at hdone
      cases hdone
    · exact hwaits hgoes
  · rw [hlock, ← (hline station).1.head?_line, (hline station).2]
  · have hmem : id ∈ ((job.threads.map Thread.id).foldl Lock.abandon
        (scene.deployment.lock station)).line := by
      rw [Lock.line, ← hlock, howner]
      exact List.mem_cons_self
    rw [(hline station).2, List.mem_filter] at hmem
    obtain ⟨hin, hother⟩ := hmem
    obtain ⟨j, k, hplace⟩ := hpeaceful.known station id hin
    obtain ⟨other, hfound, hids⟩ := Option.bind_eq_some_iff.1 hplace
    obtain ⟨thread, hthread, rfl⟩ := List.mem_map.1 (List.mem_of_getElem? hids)
    have hwait := hpeaceful.waits hfound hthread hin hbefore
    have hj : j ≠ i := by
      rintro rfl
      rw [hjob] at hfound
      cases hfound
      exact of_decide_eq_true hother (List.mem_map_of_mem hthread)
    have hdecides := ((hpeaceful.fits hfound thread hthread station).waits hwait).1
    have hseen := h.seenBy_le station thread.id
    rw [← hsession] at hseen
    exact ⟨j, other, hj, hfound, thread, hthread, rfl, hwait, hseen,
      Thread.takes_over hdecides hwait howner⟩

end Scene

/-- Cancellation stops everything.  Consider any course of steps from a fresh start to a point where
a job rests that is to be cancelled: it has not begun, in which case it has done nothing so far, or
each of its threads is done or waits for an answer, for a login lock or for a moment.  Its answer is
that it was cancelled: the next look at it gives this answer, whatever happens until then, and it
does nothing any more at any station.  Unless a link turns, what is behind the stations is what the
deeds up to this point, and those of other jobs after it, have made of it.  Sessions are as they
were before the login attempts that have been cut off, and whoever is next in line for a login lock
logs in by itself, unless a login attempt has ended since it last read the session; then it may
share the outcome of that.

Once the HTTP interface is closed, each request that would run an operation is answered in this way
before anything is done for it: with status 503, and with the error `cancelled` unless the head
alone is asked for, which is what `HEAD` does; then there is no content. -/
theorem cancellation_stops {start scene : Scene} {entries : List Entry} {i : Nat} {job : Job}
    (hfresh : start.Fresh) (hcourse : start.Leads entries scene)
    (hjob : scene.jobs[i]? = some job) (hrests : scene.active i = false)
    (hopen : job.isFinished = false) (hstopped : job.IsStopped scene.deployment) :
    ((job.progress = .waiting ∧ ∀ done ∈ entries, done.job ≠ i) ∨
      ∃ threads, job.progress = .running threads ∧ ∀ thread ∈ threads, thread.IsIdle) ∧
    (∃ answer, job.work.cancellation = some answer ∧
      ∀ more later, scene.Leads more later → later.Halted i job.work answer ∧
        ((∀ j, later.active j = false) →
          Scene.Answered (later.deployment.pass later.jobs).2.2 i job.work answer) ∧
        (∀ done ∈ more, done.job ≠ i) ∧
        (start.Quiet entries scene → scene.Quiet more later → ∀ station,
          later.deployment.outside station = (deedsAt (entries ++ more) station).foldl
            Outside.after (start.deployment.outside station))) ∧
    start.Leaves entries scene i job (job.visit scene.deployment).2.1 ∧
    (∀ (d : Deployment) (message : Api.Message) (operation : Operation) (bodiless : Bool),
      d.closed = true → Api.route message = .operate operation →
      ∃ (log : List LogLine) (reply : Api.Reply),
        Job.visit d { work := .serve (Api.route message) bodiless } =
          (true, { d with log },
            { work := .serve (Api.route message) bodiless, progress := .finished reply d.clock }) ∧
        reply.status = 503 ∧
        (bodiless = false → reply.content = .json (.object [("error", .string "cancelled"),
          ("message", .string ("Operation cancelled: " ++ operation.name))])) ∧
        (bodiless = true → reply.content = .text "")) ∧
    ∀ message : Api.Message, ∃ bodiless, Work.ofMessage message =
      .serve (Api.route message) bodiless ∧ (bodiless = true ↔ message.method = "HEAD") := by
  obtain ⟨answer, hanswer⟩ := Work.exists_cancellation hstopped.2
  have hhalts : scene.Stopped i job.work answer :=
    ⟨hrests, job.cancelled, job.cancelAt, job.progress, hjob, .inr ⟨hopen, hstopped⟩⟩
  refine ⟨?_, ⟨answer, hanswer, fun more later hmore => ?_⟩, ?_, ?_,
    fun message => ⟨_, rfl, beq_iff_eq⟩⟩
  · cases hprogress : job.progress with
    | waiting => exact .inl ⟨rfl, hcourse.untouched hjob hprogress⟩
    | running threads =>
      refine .inr ⟨threads, rfl, fun thread hthread => ?_⟩
      rw [← Job.threads_of_running hprogress] at hthread
      exact hcourse.rested hfresh hjob hrests thread hthread
    | finished => simp [Job.isFinished, hprogress] at hopen
  · obtain ⟨hlater, hnone⟩ := hmore.stopped hanswer hhalts
    refine ⟨hlater.halted hanswer, fun hrest => ?_, hnone, fun hearlier hafter station => ?_⟩
    · obtain ⟨d, jobs, active⟩ := later
      obtain rfl : active = fun _ => false := funext hrest
      have hpass : (Scene.atRest d ([] ++ jobs)).Stopped (([] : List Job).length + i) job.work
          answer := by simpa using hlater
      exact Scene.Stopped.pass hanswer hpass
    · rw [hafter.outside, hearlier.outside, deedsAt_append, List.foldl_append]
  · obtain ⟨log, hvisit⟩ := Job.visit_stopped hopen hstopped.1 hanswer
    rw [hvisit]
    exact hcourse.leaves hfresh hjob hrests log
  · intro d message operation bodiless hclosed hroute
    rw [hroute]
    let job : Job := { work := .serve (.operate operation) bodiless }
    have hvisited : job.isCancelled d = true := hclosed
    obtain ⟨log, hvisit⟩ := Job.visit_stopped rfl hvisited rfl
    refine ⟨log, _, hvisit, ?_, ?_, ?_⟩
    · cases bodiless <;> rfl
    · rintro rfl
      rfl
    · rintro rfl
      rfl

namespace Relay

def client : Client where
  appliance := Pools.appliance 0
  username := "admin"
  password := "secret"

def token (value : String) : Except Fault Response :=
  .ok ⟨200, .json (.object [("token", .string value)])⟩

def expired : Except Fault Response :=
  .ok ⟨401, .json (.object [("name", .string "AuthError"), ("message", .string "expired"),
    ("code", .string "EAUTH")])⟩

/-- An appliance with these rules first, that takes its time for everything else: 100 milliseconds
to refuse a request without a token, and a second for a login. -/
def deployment (rules : List Rule) : Deployment where
  stations := [.connected { client, link := .scripted (rules ++
    [{ path := some "auth/login", delay := 1000, answer := token "T2" },
      { token := some none, delay := 100, answer := expired },
      { answer := expired }]) }]
  fleet := { backends := [Pools.backend "west" "pool" 0] }

/-- An operation that is to be cancelled after 150 milliseconds. -/
def checking : Job where
  work := .operate .checkBackends
  cancelAt := some 150

/-- A request that nobody cancels. -/
def asking : Job where
  work := .submit client { method := "GET", path := "settings" }

/-- A login by itself. -/
def entering : Job where
  work := .ask client.appliance .logIn

/-- The jobs as the schedule has taken them up to this moment. -/
def upTo (clock : Nat) (scene : Scene) : Scene :=
  let state := Deployment.passes 3 scene.deployment scene.jobs
  .atRest { state.1 with clock } state.2

/-- The jobs when the cancellation of the operation is due. -/
def suspended (rules : List Rule) (jobs : List Job) : Scene :=
  upTo 150 (upTo 100 (.atRest (deployment rules) jobs))

lemma fresh (rules : List Rule) {jobs : List Job}
    (hwaiting : ∀ job ∈ jobs, job.progress = .waiting) :
    (Scene.atRest (deployment rules) jobs).Fresh :=
  ⟨hwaiting, fun station => by cases station <;> rfl⟩

lemma reaches_suspended {rules : List Rule} {jobs : List Job}
    (hpasses : (Deployment.passes 3 (deployment rules) jobs).1.clock ≤ 100)
    (hlater : (Deployment.passes 3 (upTo 100 (.atRest (deployment rules) jobs)).deployment
      (upTo 100 (.atRest (deployment rules) jobs)).jobs).1.clock ≤ 150) :
    (Scene.atRest (deployment rules) jobs).Reaches (suspended rules jobs) :=
  ((Scene.reaches_passes 3 _ _).trans (.of_next (.waits hpasses))).trans
    ((Scene.reaches_passes 3 _ _).trans (.of_next (.waits hlater)))

/-- The job at a place rests and is to be cancelled, and this holds of what it leaves behind. -/
def cutsOff (i : Nat) (test : Scene → Deployment → Bool) (scene : Scene) : Bool :=
  !scene.active i && scene.jobs[i]?.any fun job => !job.isFinished &&
    job.isCancelled scene.deployment && job.work.cancelName.isSome &&
    test scene (job.visit scene.deployment).2.1

lemma exists_of_any {found : Option α} {test : α → Bool} (h : found.any test = true) :
    ∃ value, found = some value ∧ test value = true := by
  cases found with
  | none => cases h
  | some value => exact ⟨value, rfl, h⟩

lemma exists_of_cutsOff {scene : Scene} {i : Nat} {test : Scene → Deployment → Bool}
    (h : cutsOff i test scene = true) : scene.active i = false ∧ ∃ job,
      scene.jobs[i]? = some job ∧ job.isFinished = false ∧ job.IsStopped scene.deployment ∧
      test scene (job.visit scene.deployment).2.1 = true := by
  simp only [cutsOff, Bool.and_eq_true, Bool.not_eq_true'] at h
  obtain ⟨hrests, hjob⟩ := h
  obtain ⟨job, hjob, hfacts⟩ := exists_of_any hjob
  simp only [Bool.and_eq_true, Bool.not_eq_true'] at hfacts
  obtain ⟨⟨⟨hopen, hcancelled⟩, hname⟩, htest⟩ := hfacts
  exact ⟨hrests, job, hjob, hopen, ⟨hcancelled, hname⟩, htest⟩

/-- The lock of station 0 goes from thread 0 to thread 1, and nobody has ever logged in there. -/
def handsOver (scene : Scene) (after : Deployment) : Bool :=
  (scene.deployment.lock 0).owner == some 0 && (after.lock 0).owner == some 1 &&
    (after.session 0).generation == 0

/-- An operation is cancelled in the middle of a login; the request that waits for the lock logs in
by itself. -/
theorem cancellation_relay : ∃ start scene : Scene,
    start = .atRest (deployment []) [checking, asking] ∧
    scene = suspended [] [checking, asking] ∧ start.Fresh ∧
    ∃ (entries : List Entry) (job : Job), start.Leads entries scene ∧
      scene.jobs[0]? = some job ∧ scene.active 0 = false ∧ job.isFinished = false ∧
      job.IsStopped scene.deployment ∧
      ∃ (j : Nat) (other : Job), scene.jobs[j]? = some other ∧ ∃ thread ∈ other.threads,
        thread.id = 1 ∧ thread.LogsIn (job.visit scene.deployment).2.1 0 := by
  have hfresh : (Scene.atRest (deployment []) [checking, asking]).Fresh :=
    fresh [] (by simp [checking, asking])
  obtain ⟨entries, hcourse⟩ : (Scene.atRest (deployment []) [checking, asking]).Reaches
    (suspended [] [checking, asking]) := reaches_suspended (by cbv) (by cbv)
  have hfound : cutsOff 0 handsOver (suspended [] [checking, asking]) = true := by cbv
  -- from here on the scene is any that has these properties
  generalize suspended [] [checking, asking] = scene at hcourse hfound
  obtain ⟨hrests, job, hjob, hopen, hstopped, htest⟩ := exists_of_cutsOff hfound
  simp only [handsOver, Bool.and_eq_true, beq_iff_eq] at htest
  obtain ⟨⟨hbefore, hafter⟩, hsession⟩ := htest
  obtain ⟨-, -, hleaves, -⟩ := cancellation_stops hfresh hcourse hjob hrests hopen hstopped
  obtain ⟨j, other, -, hother, thread, hthread, hid, -, hseen, hlogs, -⟩ :=
    hleaves.next 0 1 hafter (by rw [hbefore]; decide)
  rw [hsession] at hseen hlogs
  exact ⟨_, scene, rfl, rfl, hfresh, entries, job, hcourse, hjob, hrests, hopen, hstopped,
    j, other, hother, thread, hthread, hid, hlogs (Nat.le_zero.1 hseen).symm⟩

/-- The paths of the requests that were received. -/
def paths (received : List (Nat × Received)) : List String :=
  received.filterMap fun entry =>
    match entry.2 with
    | .request _ request => some request.path
    | .call _ => none

lemma not_logsIn {d : Deployment} {station : Nat} {thread : Thread α}
    (h : paths (thread.advance d).2.1.received = paths d.received ++ ["settings"]) :
    ¬thread.LogsIn d station := by
  rintro ⟨client, more, -, hreceived⟩
  have hpaths := congrArg paths hreceived
  rw [h] at hpaths
  simp only [paths, List.filterMap_append, List.filterMap_cons, List.append_cancel_left_eq,
    List.cons.injEq] at hpaths
  exact absurd hpaths.1 (by simp [Client.loginRequest])

/-- A login that is over at once, and after it the others. -/
def swift : List Rule :=
  [{ path := some "auth/login", times := some 1, answer := token "T1" }]

/-- A thread of the first job gets the lock of station 0, and asks for something else than a
login. -/
def takesOver (scene : Scene) (after : Deployment) : Bool :=
  scene.jobs[0]?.any fun other => other.threads.any fun thread =>
    (scene.deployment.lock 0).owner != some thread.id && (after.lock 0).owner == some thread.id &&
      paths (thread.advance after).2.1.received == paths after.received ++ ["settings"]

/-- A request for the head of a listing. -/
def head : Api.Message where
  method := "HEAD"
  address := "/v1/volumes"

/-- The next in line need not log in by itself: a request that was refused for want of any session
waits behind an operation that logs in since a later session has expired, and once that operation is
cancelled it takes the later session over.  And a reply of the closed HTTP interface need not name
an error: it has no content where the head alone is asked for. -/
theorem next_in_line_shares : (∃ start scene : Scene,
    start = .atRest (deployment swift) [asking, entering, checking] ∧
    scene = suspended swift [asking, entering, checking] ∧ start.Fresh ∧ start.Reaches scene ∧
    ∃ job other : Job, scene.jobs[2]? = some job ∧ scene.active 2 = false ∧
      job.isFinished = false ∧ job.IsStopped scene.deployment ∧ scene.jobs[0]? = some other ∧
      ∃ thread ∈ other.threads, (scene.deployment.lock 0).owner ≠ some thread.id ∧
        ((job.visit scene.deployment).2.1.lock 0).owner = some thread.id ∧
        ¬thread.LogsIn (job.visit scene.deployment).2.1 0) ∧
    Api.route head = .operate (.listVolumes 0 none) ∧
    Work.ofMessage head = .serve (Api.route head) true ∧
    ∃ (log : List LogLine) (reply : Api.Reply),
      Job.visit { closed := true } { work := .serve (Api.route head) true } =
        (true, { closed := true, log },
          { work := .serve (Api.route head) true, progress := .finished reply 0 }) ∧
      reply.content = .text "" := by
  constructor
  · have hfresh : (Scene.atRest (deployment swift) [asking, entering, checking]).Fresh :=
      fresh swift (by simp [checking, asking, entering])
    have hreaches : (Scene.atRest (deployment swift) [asking, entering, checking]).Reaches
        (suspended swift [asking, entering, checking]) := reaches_suspended (by cbv) (by cbv)
    have hfound : cutsOff 2 takesOver (suspended swift [asking, entering, checking]) = true := by
      cbv
    generalize suspended swift [asking, entering, checking] = scene at hreaches hfound
    obtain ⟨hrests, job, hjob, hopen, hstopped, htest⟩ := exists_of_cutsOff hfound
    obtain ⟨other, hother, hthreads⟩ := exists_of_any htest
    obtain ⟨thread, hthread, hfacts⟩ := List.any_eq_true.1 hthreads
    simp only [Bool.and_eq_true, bne_iff_ne, beq_iff_eq] at hfacts
    obtain ⟨⟨hbefore, hafter⟩, hpaths⟩ := hfacts
    exact ⟨_, scene, rfl, rfl, hfresh, hreaches, job, other, hjob, hrests, hopen, hstopped,
      hother, thread, hthread, hbefore, hafter, not_logsIn hpaths⟩
  · have hroute : Api.route head = .operate (.listVolumes 0 none) := by cbv
    have hwork : Work.ofMessage head = .serve (Api.route head) true := rfl
    refine ⟨hroute, hwork, ?_⟩
    rw [hroute]
    exact ⟨_, _, rfl, rfl⟩

end Relay
end StorageFleet
