import StorageFleet.Deployment.Basic
import StorageFleet.Proofs.Client.Request

/-!
# Plans over a network

On a deployment a plan becomes a task, in which every call to a connected appliance is carried out
by the client of that appliance.  The task of a sequence is the sequence of the tasks
(`Deployment.task_bind`), and none of them leaves a time limit behind, so the run of an operation
can be read off its plan: `yields_task_bind` and `yields_attempt_bind` take a sequence apart,
`yields_ask` leads a call back to its client.

Calls to appliances in memory take no part here.  A runner does not perform them, so a task that
asks one of them never ends with a result (`not_yields_perform`).
-/

namespace StorageFleet
open StorageFleet.Task (Event Runner)

namespace Task

/-- Nobody here performs a call to an appliance in memory. -/
lemma not_yields_perform {appliance : ApplianceRef} {call : Call} {next : call.Outcome → Task α}
    {past : List Event} {result : α} : ¬ (Task.perform appliance call next).Yields past result := by
  have hstays : ∀ {past : List Event} {runner : Runner α},
      Runner.Path (.start (.perform appliance call next)) past runner →
      runner = .start (.perform appliance call next) := by
    intro past runner h
    induction h with
    | here => rfl
    | step _ does ih =>
      subst ih
      cases does with
      | cut suspended => exact absurd suspended (by simp [Stage.isSuspended])
  intro h
  have hrunner := hstays h
  simp [Runner.start] at hrunner

/-- A task that is decided ends with that result. -/
lemma Yields.eq_of_endsIn {task : Task α} {past : List Event} {result found : α}
    (h : task.Yields past found) (hends : task.EndsIn result) : found = result := by
  have hkept : ∀ {past : List Event} {runner : Runner α},
      Runner.Path (.start task) past runner → runner.EndsIn result := by
    intro past runner h
    induction h with
    | here => exact ⟨task, rfl, hends⟩
    | step _ does ih => exact ih.next does
  exact (hkept h).eq_of_result? rfl

end Task

/-- The task of a sequence is the sequence of the tasks. -/
lemma Plan.toTask_bind (carryOut : ApplianceRef → Option ((call : Call) → Task call.Outcome))
    (plan : Plan α) (next : α → Plan β) :
    (plan.bind next).toTask carryOut =
      (plan.toTask carryOut).bind fun result => (next result).toTask carryOut := by
  induction plan with
  | done result => rfl
  | call appliance asked rest ih =>
    simp only [Plan.bind, Plan.toTask]
    cases carryOut appliance with
    | none => simp only [Task.bind, ih]
    | some client => simp only [ih, Task.bind_assoc]
  | warn line rest ih => simp only [Plan.bind, Plan.toTask, Task.bind, ih]

namespace Deployment

variable {d : Deployment} {past : List Event}

lemma task_bind (d : Deployment) (plan : Plan α) (next : α → Plan β) :
    d.task (plan.bind next) = (d.task plan).bind fun result => d.task (next result) :=
  Plan.toTask_bind d.carryOut plan next

/-- The task of a plan lifts the time limits that it sets. -/
lemma tidy_task (d : Deployment) (plan : Plan α) : (d.task plan).Tidy false false := by
  induction plan with
  | done result => rfl
  | warn line rest ih => exact ih
  | call appliance asked rest ih =>
    rw [task, Plan.toTask, carryOut]
    cases d.connected? appliance.id with
    | none => exact ih
    | some connected => exact (connected.client.tidy_answer asked).bind ih

lemma yields_task_bind {plan : Plan α} {next : α → Plan β} {result : β}
    (h : (d.task (plan.bind next)).Yields past result) :
    ∃ later earlier value, past = later ++ earlier ∧ (d.task plan).Yields earlier value ∧
      (d.task (next value)).Yields later result := by
  rw [task_bind] at h
  exact Task.Yields.of_bind (d.tidy_task plan) h

/-- A sequence whose first part may fail, but is asked for its outcome only. -/
lemma yields_outcome_bind {attempt : Attempt α} {next : Except Fault α → Attempt β}
    {result : Except Fault β}
    (h : (d.task (attempt.outcome >>= next).run).Yields past result) :
    ∃ later earlier value, past = later ++ earlier ∧ (d.task attempt.run).Yields earlier value ∧
      (d.task (next value).run).Yields later result := by
  have hplan : (attempt.outcome >>= next).run = attempt.run.bind fun value => (next value).run := by
    exact Plan.bind_assoc attempt.run _ _
  rw [hplan] at h
  exact yields_task_bind h

/-- An attempt fails with its first part, or goes on with what that has found. -/
lemma yields_attempt_bind {attempt : Attempt α} {next : α → Attempt β}
    {result : Except Fault β} (h : (d.task (attempt >>= next).run).Yields past result) :
    (∃ fault, result = .error fault ∧ (d.task attempt.run).Yields past (.error fault)) ∨
    ∃ later earlier value, past = later ++ earlier ∧
      (d.task attempt.run).Yields earlier (.ok value) ∧
      (d.task (next value).run).Yields later result := by
  obtain ⟨later, earlier, found, rfl, hfirst, hnext⟩ := yields_task_bind h
  cases found with
  | error fault =>
    obtain ⟨rfl, rfl⟩ := Task.yields_done hnext
    exact .inl ⟨fault, rfl, hfirst⟩
  | ok value => exact .inr ⟨later, earlier, value, rfl, hfirst, hnext⟩

/-- A call that is answered was carried out by the client of its appliance. -/
lemma yields_ask {appliance : ApplianceRef} {call : Call} {outcome : call.Outcome}
    (h : (d.task (Attempt.ask appliance call).run).Yields past outcome) :
    ∃ connected, d.connected? appliance.id = some connected ∧
      (connected.client.answer call).run.Yields past outcome := by
  change (d.task (.call appliance call .done)).Yields past outcome at h
  rw [task, Plan.toTask, carryOut] at h
  cases hstation : d.connected? appliance.id with
  | none =>
    rw [hstation] at h
    exact absurd h Task.not_yields_perform
  | some connected =>
    rw [hstation] at h
    refine ⟨connected, rfl, ?_⟩
    rw [← Task.bind_done (connected.client.answer call).run]
    exact h

end Deployment
end StorageFleet
