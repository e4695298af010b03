import StorageFleet.Appliance.Request
import StorageFleet.Metrics
import StorageFleet.Plan

/-!
# Tasks

A `Task` is a program at the level where time passes and several run side by side: it sends
requests, reads and settles the session of an appliance, holds its login lock, sleeps, and sets
itself a time limit.  A plan becomes a task once every call to an appliance that is reached over a
network is replaced by the task that carries it out.

`Exchange` is a task that may fail.
-/

namespace StorageFleet

/-- The session with an appliance. -/
structure Session where
  /-- The token of the last login that succeeded. -/
  token : Option String := none
  /-- The number of login attempts that ended. -/
  generation : Nat := 0
  /-- Why the last login attempt failed, if it did. -/
  failure : Option String := none
  deriving Repr, DecidableEq, Inhabited

/-- The session after a login attempt: a token, or why there is none. -/
def Session.settle (session : Session) : Except String String → Session
  | .ok token => { token := some token, generation := session.generation + 1, failure := none }
  | .error reason =>
    { session with generation := session.generation + 1, failure := some reason }

/-- A program that runs beside others. -/
inductive Task (α : Type) where
  | done (result : α)
  /-- Calls an appliance in memory. -/
  | perform (appliance : ApplianceRef) (call : Call) (next : call.Outcome → Task α)
  /-- Sends a request and waits for the response. -/
  | send (appliance : ApplianceRef) (request : Request)
      (next : Except Fault Response → Task α)
  /-- Reads the session. -/
  | session (appliance : ApplianceRef) (next : Session → Task α)
  /-- Waits for the login lock. -/
  | acquire (appliance : ApplianceRef) (next : Task α)
  /-- Gives the login lock back. -/
  | release (appliance : ApplianceRef) (next : Task α)
  /-- Records how a login attempt ended. -/
  | settle (appliance : ApplianceRef) (outcome : Except String String) (next : Task α)
  | sleep (span : Span) (next : Task α)
  /-- From here to the matching `unlimit` the task may take `span`; then it goes on with `late`. -/
  | limit (span : Span) (late : Task α) (next : Task α)
  | unlimit (next : Task α)
  | count (counter : Counter) (next : Task α)
  | warn (line : String) (next : Task α)

namespace Task

/-- Runs one task and then another that depends on its result. -/
def bind (task : Task α) (next : α → Task β) : Task β :=
  match task with
  | .done result => next result
  | .perform appliance call rest => .perform appliance call fun outcome => (rest outcome).bind next
  | .send appliance request rest =>
    .send appliance request fun outcome => (rest outcome).bind next
  | .session appliance rest => .session appliance fun session => (rest session).bind next
  | .acquire appliance rest => .acquire appliance (rest.bind next)
  | .release appliance rest => .release appliance (rest.bind next)
  | .settle appliance outcome rest => .settle appliance outcome (rest.bind next)
  | .sleep span rest => .sleep span (rest.bind next)
  | .limit span late rest => .limit span (late.bind next) (rest.bind next)
  | .unlimit rest => .unlimit (rest.bind next)
  | .count counter rest => .count counter (rest.bind next)
  | .warn line rest => .warn line (rest.bind next)

instance : Monad Task where
  pure := .done
  bind := .bind

theorem bind_done (task : Task α) : task.bind .done = task := by
  induction task <;> simp_all [Task.bind]

theorem bind_assoc (task : Task α) (f : α → Task β) (g : β → Task γ) :
    (task.bind f).bind g = task.bind fun result => (f result).bind g := by
  induction task <;> simp_all [Task.bind]

instance : LawfulMonad Task :=
  LawfulMonad.mk' Task bind_done (fun _ _ => rfl) bind_assoc

/-- Runs a task that may take `span`, with `late` as the result if it takes longer. -/
def within (span : Span) (task : Task α) (late : α) : Task α :=
  .limit span (.done late) (task.bind fun result => .unlimit (.done result))

end Task

/-- A task that may fail. -/
abbrev Exchange := ExceptT Fault Task

namespace Exchange

/-- Sends a request. -/
def send (appliance : ApplianceRef) (request : Request) : Exchange Response :=
  ExceptT.mk (.send appliance request .done)

/-- Reads the session. -/
def session (appliance : ApplianceRef) : Exchange Session :=
  ExceptT.mk (.session appliance fun session => .done (.ok session))

/-- Counts. -/
def count (counter : Counter) : Exchange Unit :=
  ExceptT.mk (.count counter (.done (.ok ())))

/-- Runs an exchange under the login lock, which is given back however it ends. -/
def locked (appliance : ApplianceRef) (exchange : Exchange α) : Exchange α :=
  ExceptT.mk (.acquire appliance (exchange.run.bind fun outcome =>
    .release appliance (.done outcome)))

/-- A result that is known already. -/
def ofExcept (result : Except Fault α) : Exchange α :=
  ExceptT.mk (.done result)

end Exchange

/-- The task that a plan becomes when `carryOut` says which calls go through a client, and how;
the others are made in memory. -/
def Plan.toTask (carryOut : ApplianceRef → Option ((call : Call) → Task call.Outcome)) :
    Plan α → Task α
  | .done result => .done result
  | .call appliance asked next =>
    match carryOut appliance with
    | some client => (client asked).bind fun outcome => (next outcome).toTask carryOut
    | none => .perform appliance asked fun outcome => (next outcome).toTask carryOut
  | .warn line next => .warn line (next.toTask carryOut)

end StorageFleet
