import StorageFleet.Proofs.Deployment.Scene
import StorageFleet.Proofs.Secrecy.Runs

/-!
# Courses with other passwords

Whatever can happen to a scene can happen to the rekeyed scene, and leads to the later scene,
rekeyed: each move of a thread (`Thread.Moves.rekey`), each step (`Scene.Next.rekey`), each course
of steps (`Scene.Leads.rekey`).  This goes for any order of the threads, for cancellations at any
time, and for appliances outside that answer in any way at all, as long as they would have answered
a login with another password in the same way.
-/

namespace StorageFleet

variable (f : String → String)

/-- The deed with another password, if it is a login. -/
def Deed.rekey : Deed → Deed
  | .sent request => .sent (request.rekey f)
  | deed => deed

/-- The entry with another password. -/
def Entry.rekey (entry : Entry) : Entry :=
  { entry with deed := entry.deed.rekey f }

/-- The scene with other passwords. -/
def Scene.rekey (scene : Scene) : Scene where
  deployment := scene.deployment.rekey f
  jobs := scene.jobs.map (Job.rekey f)
  active := scene.active

/-! ## Moves -/

namespace Thread

variable {d d' : Deployment} {thread thread' : Thread α} {deed : Option (Nat × Deed)}

/-- A rekeyed thread can make the same move. -/
theorem Moves.rekey (h : thread.Moves d deed d' thread') (g : α → β) :
    (thread.rekey f g).Moves (d.rekey f) (deed.map fun deed => (deed.1, deed.2.rekey f))
      (d'.rekey f) (thread'.rekey f g) := by
  cases h with
  | @performs number appliance call next limit =>
    have hmoves := @Moves.performs (d.rekey f) β number appliance call
      (fun outcome => (next outcome).rekey f g) (limit.map (Task.rekeyLimit f g))
    rwa [Deployment.perform_rekey] at hmoves
  | @sends number appliance request next limit =>
    have hmoves := @Moves.sends (d.rekey f) β number appliance (request.rekey f)
      (fun answer => (next answer).rekey f g) (limit.map (Task.rekeyLimit f g))
    rwa [Deployment.send_rekey] at hmoves
  | @reads number appliance next limit =>
    have hmoves := @Moves.reads (d.rekey f) β number appliance
      (fun session => (next session).rekey f g) (limit.map (Task.rekeyLimit f g))
    rwa [Deployment.session_rekey] at hmoves
  | @acquires number appliance next limit hfree =>
    rw [← Deployment.requestLock_rekey]
    rw [← Deployment.hasLock_rekey f, ← Deployment.requestLock_rekey] at hfree
    exact .acquires hfree
  | @queues number appliance next limit hbusy =>
    rw [← Deployment.requestLock_rekey]
    rw [← Deployment.hasLock_rekey f, ← Deployment.requestLock_rekey] at hbusy
    exact .queues hbusy
  | releases =>
    rw [← Deployment.releaseLock_rekey]
    exact .releases
  | settles =>
    rw [← Deployment.settle_rekey]
    exact .settles
  | sleeps => exact .sleeps
  | limits => exact .limits
  | unlimits => exact .unlimits
  | counts => exact .counts
  | warns => exact .warns
  | done => exact .done
  | wakes hdue => exact .wakes hdue
  | obtains hlock => exact .obtains (by rwa [Deployment.hasLock_rekey])
  | @lapses number task wait time late hresult hdue =>
    have hrekeyed := Thread.result?_rekey f g ⟨number, task, wait, some (time, late)⟩
    rw [hresult] at hrekeyed
    rw [← Deployment.abandonLocks_rekey]
    exact .lapses hrekeyed hdue

lemma IsIdle.rekey (h : thread.IsIdle) (g : α → β) : (thread.rekey f g).IsIdle := by
  rw [IsIdle, result?_rekey, Option.isSome_map]
  exact h

end Thread

/-! ## Steps -/

namespace Scene

variable {d : Deployment} {jobs : List Job} {job : Job} {i : Nat}

lemma getElem?_rekey (hjob : jobs[i]? = some job) :
    (jobs.map (Job.rekey f))[i]? = some (job.rekey f) := by
  rw [List.getElem?_map, hjob]
  rfl

lemma isStopped_rekey (d : Deployment) (job : Job) :
    (job.rekey f).IsStopped (d.rekey f) ↔ job.IsStopped d := by
  have hname : (job.rekey f).work.cancelName = job.work.cancelName := job.work.cancelName_rekey f
  rw [Job.IsStopped, Job.isCancelled_rekey, hname]
  rfl

/-- One job of a rekeyed scene is put in place of another. -/
lemma set_rekey {d d' : Deployment} {job' : Job} (hd : d' = d.rekey f) (hjob : job' = job.rekey f)
    (jobs : List Job) (i : Nat) (active : Nat → Bool) :
    (⟨d', (jobs.map (Job.rekey f)).set i job', active⟩ : Scene) =
      (⟨d, jobs.set i job, active⟩ : Scene).rekey f := by
  rw [hd, hjob, rekey, List.map_set]

lemma running_rekey {threads : List (Thread job.work.Part)}
    (h : job.progress = .running threads) : (job.rekey f).progress =
      .running (threads.map (Thread.rekey f (job.work.rekeyPart f))) :=
  congrArg (Progress.rekey f) h

lemma Next.of_eq {scene later later' : Scene} {entry entry' : Option Entry}
    (h : Next scene entry later) (hentry : entry = entry') (hlater : later = later') :
    Next scene entry' later' :=
  hentry ▸ hlater ▸ h

/-- The same step can be taken with other passwords. -/
theorem Next.rekey {scene later : Scene} {entry : Option Entry} (h : Next scene entry later) :
    Next (scene.rekey f) (entry.map (Entry.rekey f)) (later.rekey f) := by
  cases h with
  | @begins scene begun i job h =>
    obtain ⟨hjob, hrests, hgoes, hwaiting, rfl⟩ := h
    have hthreads := Job.startThreads_begin_rekey f scene.deployment job.work
    refine .begins ⟨getElem?_rekey f hjob, hrests, mt (isStopped_rekey f _ _).1 hgoes,
      congrArg (Progress.rekey f) hwaiting, (set_rekey f ?_ ?_ scene.jobs i _).symm⟩
    · exact congrArg Prod.fst hthreads
    · exact congrArg (fun started : Deployment × List (Thread (job.work.rekey f).Part) =>
        (job.rekey f).withThreads started.2) hthreads
  | resumes hjob hrests hgoes hrunning =>
    exact .resumes (getElem?_rekey f hjob) hrests (mt (isStopped_rekey f _ _).1 hgoes)
      (running_rekey f hrunning)
  | @moves d jobs active i job threads k thread deed d' thread' hjob hactive hrunning hthread
      hmoves =>
    have hrekeyed : (threads.map (Thread.rekey f (job.work.rekeyPart f)))[k]? =
        some (thread.rekey f (job.work.rekeyPart f)) := by
      rw [List.getElem?_map, hthread]
      rfl
    refine (Next.moves (getElem?_rekey f hjob) hactive (running_rekey f hrunning) hrekeyed
      (hmoves.rekey f (job.work.rekeyPart f))).of_eq ?_ ?_
    · cases deed <;> rfl
    · refine set_rekey f rfl ?_ jobs i active
      exact congrArg (job.rekey f).withThreads (List.map_set ..).symm
  | @rests d jobs active i job threads hjob hactive hrunning hparts hidle =>
    refine .rests (getElem?_rekey f hjob) hactive (running_rekey f hrunning) ?_ ?_
    · exact (Job.mapM_result?_rekey f (job.work.rekeyPart f) threads).trans
        (congrArg (Option.map _) hparts)
    · exact List.forall_mem_map.2 fun thread hmem => (hidle thread hmem).rekey f _
  | @ends d jobs active i job threads parts hjob hactive hrunning hparts =>
    have hrekeyed : (threads.map (Thread.rekey f (job.work.rekeyPart f))).mapM Thread.result? =
        some (parts.map (job.work.rekeyPart f)) :=
      (Job.mapM_result?_rekey f (job.work.rekeyPart f) threads).trans
        (congrArg (Option.map _) hparts)
    refine (Next.ends (getElem?_rekey f hjob) hactive (running_rekey f hrunning)
      hrekeyed).of_eq rfl ?_
    have hfinish := job.work.finish_rekey f d parts
    refine set_rekey f (congrArg Prod.fst hfinish) ?_ jobs i _
    exact congrArg (fun done : Deployment × (job.work.rekey f).Answer =>
      (job.rekey f).withAnswer done.2 done.1.clock) hfinish
  | @gives d jobs active i job d' answer hjob hrests hunfinished hstopped hcancelled =>
    have hrekeyed : (job.rekey f).work.cancelled
        (Thread.abandonAll (d.rekey f) (job.rekey f).threads) =
        some (d'.rekey f, job.work.rekeyAnswer f answer) :=
      (job.cancelled_rekey f d).trans (congrArg (Option.map _) hcancelled)
    refine (Next.gives (getElem?_rekey f hjob) hrests ((job.isFinished_rekey f).trans hunfinished)
      ((isStopped_rekey f d job).2 hstopped) hrekeyed).of_eq rfl ?_
    exact set_rekey f (by rfl) (by rfl) jobs i active
  | @cancels d jobs active i job hjob =>
    refine (Next.cancels (getElem?_rekey f hjob)).of_eq rfl ?_
    exact set_rekey f (by rfl) (by rfl) jobs i active
  | waits hlater => exact .waits hlater
  | closes => exact .closes
  | @turns d jobs active station link =>
    exact (Next.turns station link).of_eq rfl
      (congrArg (Scene.mk · _ active) (d.adjust_link_rekey f station link))

/-- The same course can be taken with other passwords. -/
theorem Leads.rekey {scene later : Scene} {entries : List Entry} (h : Leads scene entries later) :
    Leads (scene.rekey f) (entries.map (Entry.rekey f)) (later.rekey f) := by
  induction h with
  | here => exact .here
  | @step entries between entry later _ hnext ih =>
    have hentry : (entry.toList).map (Entry.rekey f) = (entry.map (Entry.rekey f)).toList := by
      cases entry <;> rfl
    rw [List.map_append, hentry]
    exact ih.step (hnext.rekey f)

end Scene
end StorageFleet
