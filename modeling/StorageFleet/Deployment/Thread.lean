import StorageFleet.Deployment.Basic

/-!
# Threads

A thread is a task that is under way.  It runs until it has to wait: for an answer, for a moment,
or for a login lock.  `Thread.advance` takes it as far as it gets at the current time.  If its time
limit passes while it waits, it goes on with what it has for that case; work that falls due at the
very moment of the limit is still done first.
-/

namespace StorageFleet

/-- What a thread waits for. -/
inductive Wait where
  | nothing
  | moment (time : Nat)
  | lock (station : Nat)
  deriving Repr, DecidableEq, Inhabited

/-- A task that is under way. -/
structure Thread (α : Type) where
  id : Nat
  task : Task α
  wait : Wait := .nothing
  /-- When time is up, and how the thread then goes on. -/
  limit : Option (Nat × Task α) := none

namespace Thread

/-- The result, once the task is done and there is nothing left to wait for. -/
def result? (thread : Thread α) : Option α :=
  match thread.task, thread.wait with
  | .done result, .nothing => some result
  | _, _ => none

/-- Runs a task until it is done or has to wait. -/
def run (id : Nat) (limit : Option (Nat × Task α)) (d : Deployment) :
    Task α → Deployment × Thread α
  | .done result => (d, { id, task := .done result })
  | .perform appliance call next =>
    let (outcome, d) := d.perform appliance call
    run id limit d (next outcome)
  | .send appliance request next =>
    let (answer, delay, d) := d.send appliance request
    if delay = 0 then run id limit d (next answer)
    else (d, { id, task := next answer, wait := .moment (d.clock + delay), limit })
  | .session appliance next => run id limit d (next (d.session appliance.id))
  | .acquire appliance next =>
    let d := d.requestLock appliance.id id
    if d.hasLock appliance.id id then run id limit d next
    else (d, { id, task := next, wait := .lock appliance.id, limit })
  | .release appliance next => run id limit (d.releaseLock appliance.id id) next
  | .settle appliance outcome next => run id limit (d.settle appliance.id outcome) next
  | .sleep span next =>
    (d, { id, task := next, wait := .moment (d.clock + span.milliseconds), limit })
  | .limit span late next => run id (some (d.clock + span.milliseconds, late)) d next
  | .unlimit next => run id none d next
  | .count counter next => run id limit (d.count counter) next
  | .warn line next => run id limit (d.warn line) next

/-- Whether what the thread waits for has come. -/
def isReady (d : Deployment) (thread : Thread α) : Bool :=
  match thread.wait with
  | .nothing => thread.result?.isNone
  | .moment time => time ≤ d.clock
  | .lock station => d.hasLock station thread.id

/-- How a waiting thread goes on if its time is up. -/
def late? (d : Deployment) (thread : Thread α) : Option (Task α) :=
  if thread.result?.isSome then none
  else match thread.limit with
    | some (time, late) => if time ≤ d.clock then some late else none
    | none => none

/-- Takes a thread as far as it gets, and tells whether it moved. -/
def advance (d : Deployment) (thread : Thread α) : Bool × Deployment × Thread α :=
  let ready := thread.isReady d
  let (d, thread) := if ready then run thread.id thread.limit d thread.task else (d, thread)
  match thread.late? d with
  | some late =>
    let (d, thread) := run thread.id none (d.abandonLocks thread.id) late
    (true, d, thread)
  | none => (ready, d, thread)

/-- Takes several threads as far as they get, in order. -/
def advanceAll (d : Deployment) :
    List (Thread α) → Bool × Deployment × List (Thread α)
  | [] => (false, d, [])
  | thread :: rest =>
    let (moved, d, thread) := thread.advance d
    let (others, d, rest) := advanceAll d rest
    (moved || others, d, thread :: rest)

/-- The moments that a thread waits for. -/
def moments (thread : Thread α) : List Nat :=
  if thread.result?.isSome then []
  else
    let due := match thread.wait with
      | .moment time => [time]
      | _ => []
    due ++ (thread.limit.map Prod.fst).toList

/-- Takes threads away from the locks that they have or wait for. -/
def abandonAll (d : Deployment) (threads : List (Thread α)) : Deployment :=
  threads.foldl (fun d thread => d.abandonLocks thread.id) d

end Thread
end StorageFleet
