import Mathlib.Data.List.Forall2
import StorageFleet.Deployment.Schedule
import StorageFleet.Proofs.Rack.Execution

/-!
# Operations on appliances in memory

On a rack the branches of an operation run to their ends one after the other: `Operation.exec` is
the outcome of the whole operation and the rack afterwards.  A deployment whose appliances are all
in memory does the same when it visits the operation for the first time (`Job.visit_operate`).

The first section takes runs of attempts apart.  An attempt that succeeded has succeeded in its
first part and then in the rest (`exec_bind_eq_ok`), so what an operation has found can be read off
its steps one by one.
-/

namespace StorageFleet

/-! ## Taking a run apart -/

namespace Attempt

variable {rack later middle : Rack} {attempt : Attempt α} {next : α → Attempt β} {found : α}
  {value : β} {fault : Fault}

lemma exec_ask (appliance : ApplianceRef) (call : Call) (rack : Rack) :
    (ask appliance call).run.exec rack = rack.answer appliance call := rfl

lemma exec_ofExcept (result : Except Fault α) (rack : Rack) :
    (ofExcept result).run.exec rack = (result, rack) := rfl

lemma exec_outcome_bind (attempt : Attempt α) (next : Except Fault α → Attempt β) (rack : Rack) :
    (attempt.outcome >>= next).run.exec rack =
      (next (attempt.run.exec rack).1).run.exec (attempt.run.exec rack).2 := by
  rw [run_outcome_bind, Plan.exec_bind]

lemma exec_bind_of_ok (h : attempt.run.exec rack = (.ok found, middle)) :
    (attempt >>= next).run.exec rack = (next found).run.exec middle := by
  rw [run_bind, Plan.exec_bind, h]
  rfl

lemma exec_bind_of_error (h : attempt.run.exec rack = (.error fault, middle)) :
    (attempt >>= next).run.exec rack = (.error fault, middle) := by
  rw [run_bind, Plan.exec_bind, h]
  rfl

/-- An attempt that succeeded has succeeded in its first part, and then in the rest. -/
lemma exec_bind_eq_ok (h : (attempt >>= next).run.exec rack = (.ok value, later)) :
    ∃ found middle, attempt.run.exec rack = (.ok found, middle) ∧
      (next found).run.exec middle = (.ok value, later) := by
  rcases hfirst : attempt.run.exec rack with ⟨outcome, middle⟩
  cases outcome with
  | error fault =>
    rw [exec_bind_of_error hfirst] at h
    cases h
  | ok found =>
    rw [exec_bind_of_ok hfirst] at h
    exact ⟨found, middle, rfl, h⟩

end Attempt

/-! ## Several plans -/

namespace Plan

/-- Runs plans one after the other: their results, and the rack afterwards. -/
def execAll : List (Plan α) → Rack → List α × Rack
  | [], rack => ([], rack)
  | plan :: rest, rack =>
    ((plan.exec rack).1 :: (execAll rest (plan.exec rack).2).1,
      (execAll rest (plan.exec rack).2).2)

/-- Plans that change nothing might as well run side by side. -/
lemma execAll_of_same {rack : Rack} {plans : List (Plan α)}
    (h : ∀ plan ∈ plans, (plan.exec rack).2 = rack) :
    execAll plans rack = (plans.map fun plan => (plan.exec rack).1, rack) := by
  induction plans with
  | nil => rfl
  | cons plan rest ih =>
    rw [execAll, h plan (by simp), ih fun other hmem => h other (List.mem_cons_of_mem _ hmem)]
    rfl

/-- What every call keeps is kept by a run. -/
lemma exec_keeps {holds : Rack → Prop}
    (keeps : ∀ rack appliance call, holds rack → holds (rack.answer appliance call).2)
    (plan : Plan α) {rack : Rack} (h : holds rack) : holds (plan.exec rack).2 := by
  induction plan generalizing rack with
  | done result => exact h
  | call appliance asked rest ih => exact ih _ (keeps rack appliance asked h)
  | warn line rest ih => exact ih h

lemma execAll_keeps {holds : Rack → Prop}
    (keeps : ∀ rack appliance call, holds rack → holds (rack.answer appliance call).2)
    (plans : List (Plan α)) {rack : Rack} (h : holds rack) : holds (execAll plans rack).2 := by
  induction plans generalizing rack with
  | nil => exact h
  | cons plan rest ih => exact ih (plan.exec_keeps keeps h)

end Plan

/-! ## Whole operations -/

namespace Operation

/-- Runs an operation on appliances in memory: its outcome, and the rack afterwards. -/
def exec (operation : Operation) (fleet : Fleet) (rack : Rack) : operation.Outcome × Rack :=
  (operation.conclude (Plan.execAll (operation.branches fleet) rack).1,
    (Plan.execAll (operation.branches fleet) rack).2)

end Operation

/-! ## Operations of a deployment -/

/-- A thread at the beginning of a plan none of whose calls goes through a client. -/
def Thread.Begins (thread : Thread α) (plan : Plan α) : Prop :=
  thread.task = plan.toTask (fun _ => none) ∧ thread.wait = .nothing ∧ thread.limit = none

lemma Thread.late?_of_result? {thread : Thread α} {result : α} (h : thread.result? = some result)
    (d : Deployment) : thread.late? d = none := by
  rw [late?, h]
  rfl

lemma Thread.Begins.advance {thread : Thread α} {plan : Plan α} (h : thread.Begins plan)
    (d : Deployment) :
    (thread.advance d).2.2.result? = some (plan.exec d.rack).1 ∧
      (thread.advance d).2.1.rack = (plan.exec d.rack).2 := by
  obtain ⟨id, task, wait, limit⟩ := thread
  obtain ⟨rfl, rfl, rfl⟩ := h
  obtain ⟨hresult, hrack⟩ := Thread.run_toTask plan id none d
  unfold Thread.advance
  cases plan with
  | done result => exact ⟨rfl, rfl⟩
  | call appliance asked next =>
    simp only [isReady, result?, Plan.toTask, Option.isNone_none, if_true]
    simp only [Plan.toTask] at hresult hrack
    rw [late?_of_result? hresult]
    exact ⟨hresult, hrack⟩
  | warn line next =>
    simp only [isReady, result?, Plan.toTask, Option.isNone_none, if_true]
    simp only [Plan.toTask] at hresult hrack
    rw [late?_of_result? hresult]
    exact ⟨hresult, hrack⟩

lemma Thread.advanceAll_of_begins {threads : List (Thread α)} {plans : List (Plan α)}
    (h : List.Forall₂ Thread.Begins threads plans) (d : Deployment) :
    (advanceAll d threads).2.2.mapM result? = some (Plan.execAll plans d.rack).1 ∧
      (advanceAll d threads).2.1.rack = (Plan.execAll plans d.rack).2 := by
  induction h generalizing d with
  | nil => exact ⟨rfl, rfl⟩
  | @cons thread plan threads plans hbegins _ ih =>
    obtain ⟨hresult, hrack⟩ := hbegins.advance d
    obtain ⟨hresults, hracks⟩ := ih (thread.advance d).2.1
    rw [hrack] at hresults hracks
    refine ⟨?_, hracks⟩
    simp only [advanceAll, Plan.execAll, List.mapM_cons, hresult, hresults]
    rfl

lemma Job.startThreads_begins (plans : List (Plan α)) (d : Deployment) :
    List.Forall₂ Thread.Begins
      (startThreads d (plans.map fun plan => plan.toTask fun _ => none)).2 plans := by
  have hfrom : ∀ number : Nat → Nat, List.Forall₂ Thread.Begins
      ((plans.map fun plan => plan.toTask fun _ => none).mapIdx fun i task =>
        ({ id := number i, task } : Thread α)) plans := by
    induction plans with
    | nil => exact fun _ => .nil
    | cons plan rest ih =>
      intro number
      rw [List.map_cons, List.mapIdx_cons]
      exact .cons ⟨rfl, rfl, rfl⟩ (ih fun i => number (i + 1))
  exact hfrom fun i => d.nextThread + i

/-- Where all appliances are in memory, work that makes tasks of plans is done at once. -/
lemma Job.visitActive_of_begin (d : Deployment) (inMemory : ∀ id, d.connected? id = none)
    {work : Work} {plans : List (Plan work.Part)} (cancelAt : Option Nat)
    (hbegin : work.begin d = (d, plans.map d.task)) :
    ∃ after : Deployment, after.rack = (Plan.execAll plans d.rack).2 ∧
      (Job.visitActive d { work, cancelAt }).2 =
        ((work.finish after (Plan.execAll plans d.rack).1).1,
          { work, cancelAt
            progress := .finished (work.finish after (Plan.execAll plans d.rack).1).2
              (work.finish after (Plan.execAll plans d.rack).1).1.clock }) := by
  have htasks : plans.map d.task = plans.map fun plan => plan.toTask fun _ => none := by
    rw [show d.task = fun plan : Plan work.Part => plan.toTask d.carryOut from rfl,
      d.carryOut_of_inMemory inMemory]
  have hbegins := startThreads_begins plans d
  rw [← htasks] at hbegins
  obtain ⟨hresults, hrack⟩ :=
    Thread.advanceAll_of_begins hbegins (startThreads d (plans.map d.task)).1
  refine ⟨_, hrack, ?_⟩
  simp only [visitActive, hbegin, runThreads, conclude]
  rw [hresults]
  rfl

/-- Where all appliances are in memory, an operation that was not cancelled before is done at its
first visit. -/
theorem Job.visit_operate (d : Deployment) (inMemory : ∀ id, d.connected? id = none)
    (operation : Operation) (cancelAt : Option Nat) :
    (∃ time, (Job.visit d { work := .operate operation, cancelAt }).2.2 =
      { work := .operate operation, cancelAt
        progress := .finished (operation.exec d.fleet d.rack).1 time }) ∧
    (Job.visit d { work := .operate operation, cancelAt }).2.1.rack =
      (operation.exec d.fleet d.rack).2 := by
  have hbegin : (Work.operate operation).begin d =
      (d, (operation.branches d.fleet).map d.task) := rfl
  obtain ⟨after, hrack, hactive⟩ := visitActive_of_begin d inMemory cancelAt hbegin
  have hvisit : Job.visit d { work := .operate operation, cancelAt } =
      Job.visitActive d { work := .operate operation, cancelAt } := rfl
  rw [hvisit, hactive]
  exact ⟨⟨_, rfl⟩, hrack⟩

/-- An operation that was cancelled before is refused, and calls nobody. -/
theorem Job.visit_operate_cancelled (d : Deployment) (operation : Operation)
    (cancelAt : Option Nat) :
    (∃ time, (Job.visit d { work := .operate operation, cancelled := true, cancelAt }).2.2 =
      { work := .operate operation, cancelled := true, cancelAt
        progress := .finished (.error (.cancelled operation.name)) time }) ∧
    (Job.visit d { work := .operate operation, cancelled := true, cancelAt }).2.1.rack = d.rack :=
  ⟨⟨_, rfl⟩, rfl⟩

end StorageFleet
