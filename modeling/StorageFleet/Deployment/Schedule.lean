import StorageFleet.Deployment.Thread
import StorageFleet.Deployment.Work

/-!
# The schedule

Several pieces of work run side by side on one deployment.  At any moment they are visited in
order, again and again, until none can move; then the clock goes to the first moment that anything
waits for.  Work itself takes no time.

A piece of work that can be cancelled looks for that before each visit.
-/

namespace StorageFleet

/-- How far a piece of work has come. -/
inductive Progress (work : Work) where
  | waiting
  | running (threads : List (Thread work.Part))
  | finished (answer : work.Answer) (time : Nat)

/-- A piece of work under way. -/
structure Job where
  work : Work
  /-- Whether the work is cancelled before it starts. -/
  cancelled : Bool := false
  /-- When the work is cancelled while it runs. -/
  cancelAt : Option Nat := none
  progress : Progress work := .waiting

namespace Job

/-- Whether there is an answer. -/
def isFinished (job : Job) : Bool :=
  match job.progress with
  | .finished .. => true
  | _ => false

/-- Whether the work is to be cancelled now. -/
def isCancelled (d : Deployment) (job : Job) : Bool :=
  if job.work.isServed then d.closed
  else match job.progress with
    | .waiting => job.cancelled
    | .running _ => job.cancelled || job.cancelAt.any (· ≤ d.clock)
    | .finished .. => false

/-- The threads that are under way. -/
def threads (job : Job) : List (Thread job.work.Part) :=
  match job.progress with
  | .running threads => threads
  | _ => []

/-- Starts threads for tasks. -/
def startThreads (d : Deployment) (tasks : List (Task α)) : Deployment × List (Thread α) :=
  ({ d with nextThread := d.nextThread + tasks.length },
    tasks.mapIdx fun i task => { id := d.nextThread + i, task })

/-- Makes the answer if all threads are done. -/
def conclude (d : Deployment) (job : Job) (threads : List (Thread job.work.Part)) :
    Deployment × Job :=
  match threads.mapM Thread.result? with
  | some parts =>
    let (d, answer) := job.work.finish d parts
    (d, { job with progress := .finished answer d.clock })
  | none => (d, { job with progress := .running threads })

/-- Takes the threads of a job as far as they get. -/
def runThreads (d : Deployment) (job : Job) (threads : List (Thread job.work.Part)) :
    Bool × Deployment × Job :=
  let (moved, d, threads) := Thread.advanceAll d threads
  let (d, job) := job.conclude d threads
  (moved, d, job)

/-- Visits a job, and tells whether it moved. -/
def visitActive (d : Deployment) (job : Job) : Bool × Deployment × Job :=
  match job.progress with
  | .finished .. => (false, d, job)
  | .running threads => job.runThreads d threads
  | .waiting =>
    let (d, tasks) := job.work.begin d
    let (d, threads) := startThreads d tasks
    let (_, d, job) := job.runThreads d threads
    (true, d, job)

/-- Visits a job after looking whether it is cancelled, and tells whether it moved. -/
def visit (d : Deployment) (job : Job) : Bool × Deployment × Job :=
  if job.isFinished then (false, d, job)
  else if job.isCancelled d then
    match job.work.cancelled (Thread.abandonAll d job.threads) with
    | some (d, answer) => (true, d, { job with progress := .finished answer d.clock })
    | none => job.visitActive d
  else job.visitActive d

/-- The moments that a job waits for. -/
def moments (job : Job) : List Nat :=
  match job.progress with
  | .running threads =>
    let cancel := if job.work.cancelName.isSome && !job.work.isServed then job.cancelAt.toList
      else []
    cancel ++ threads.flatMap Thread.moments
  | _ => []

end Job

namespace Deployment

/-- Visits every job once, in order, and tells whether any moved. -/
def pass (d : Deployment) : List Job → Bool × Deployment × List Job
  | [] => (false, d, [])
  | job :: rest =>
    let (moved, d, job) := job.visit d
    let (others, d, rest) := d.pass rest
    (moved || others, d, job :: rest)

/-- Visits the jobs until none moves; `fuel` bounds the passes. -/
def passes : Nat → Deployment → List Job → Deployment × List Job
  | 0, d, jobs => (d, jobs)
  | fuel + 1, d, jobs =>
    match d.pass jobs with
    | (true, d, jobs) => passes fuel d jobs
    | (false, d, jobs) => (d, jobs)

/-- The first moment after now that a job waits for. -/
def nextMoment (d : Deployment) (jobs : List Job) : Option Nat :=
  ((jobs.flatMap Job.moments).filter (d.clock < ·)).min?

/-- Runs jobs until nothing is left to wait for; `fuel` bounds the moments. -/
def runJobs : Nat → Deployment → List Job → Deployment × List Job
  | 0, d, jobs => (d, jobs)
  | fuel + 1, d, jobs =>
    let (d, jobs) := passes Number.max64 d jobs
    match d.nextMoment jobs with
    | some clock => runJobs fuel { d with clock } jobs
    | none => (d, jobs)

/-- Runs several pieces of work side by side. -/
def runAll (d : Deployment) (jobs : List Job) : Deployment × List Job :=
  runJobs Number.max64 d jobs

end Deployment
end StorageFleet
