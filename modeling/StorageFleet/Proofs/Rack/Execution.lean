import Mathlib.Logic.Function.Basic
import Mathlib.Tactic.Common
import StorageFleet.Deployment.Thread

/-!
# Plans on appliances in memory

A `Rack` is a set of appliances in memory.  A plan runs on it call by call: `Plan.exec` gives the
result of a whole run and the rack after it, and `Plan.upTo` the rack that a run leaves behind when
it is cut off after some of its calls.  A thread of a deployment whose appliances are all in memory
does the same (`Thread.run_task`).

Most of a plan only looks.  `Plan.Leads` says so of a part of a plan: wherever the rack stays within
a given set, the part changes nothing and its answers, so what remains of the plan too, are known
beforehand.  A plan that leads to its end on a single rack `Rests` there.
-/

namespace StorageFleet

/-- Appliances in memory by their identity; `none` where there is none. -/
abbrev Rack : Type := Nat → Option Simulated

namespace Rack

variable {rack : Rack} {id : Nat} {a b : Simulated}

/-- Puts an appliance in place of another. -/
def set (rack : Rack) (id : Nat) (a : Simulated) : Rack :=
  Function.update rack id (some a)

@[simp] lemma set_self (rack : Rack) (id : Nat) (a : Simulated) : rack.set id a id = some a :=
  Function.update_self ..

lemma set_of_ne {other : Nat} (h : other ≠ id) (rack : Rack) (a : Simulated) :
    rack.set id a other = rack other :=
  Function.update_of_ne h ..

@[simp] lemma set_set (rack : Rack) (id : Nat) (a b : Simulated) :
    (rack.set id a).set id b = rack.set id b :=
  Function.update_idem ..

lemma set_eq_self (h : rack id = some a) : rack.set id a = rack := by
  rw [set, ← h]
  exact Function.update_eq_self id rack

/-- Calls an appliance: its answer, and the rack afterwards. -/
def answer (rack : Rack) (appliance : ApplianceRef) (call : Call) : call.Outcome × Rack :=
  match rack appliance.id with
  | some a => ((a.step call).1, rack.set appliance.id (a.step call).2)
  | none => (.error (Deployment.nobodyThere appliance), rack)

variable {appliance : ApplianceRef} {call : Call}

lemma answer_of_some (h : rack appliance.id = some a) :
    rack.answer appliance call = ((a.step call).1, rack.set appliance.id (a.step call).2) := by
  simp only [answer, h]

/-- A call touches no other appliance. -/
lemma answer_of_ne (h : id ≠ appliance.id) : (rack.answer appliance call).2 id = rack id := by
  unfold answer
  split
  · exact set_of_ne h ..
  · rfl

end Rack

namespace Plan

/-! ## Whole runs -/

/-- Runs a plan: its result, and the rack afterwards. -/
def exec : Plan α → Rack → α × Rack
  | .done result, rack => (result, rack)
  | .call appliance asked next, rack =>
    (next (rack.answer appliance asked).1).exec (rack.answer appliance asked).2
  | .warn _ next, rack => next.exec rack

lemma exec_bind (plan : Plan α) (next : α → Plan β) (rack : Rack) :
    (plan.bind next).exec rack = (next (plan.exec rack).1).exec (plan.exec rack).2 := by
  induction plan generalizing rack with
  | done result => rfl
  | call appliance asked rest ih => exact ih _ _
  | warn line rest ih => exact ih _

/-- The rack after the first `k` calls of a plan, or after all if there are fewer. -/
def upTo : Plan α → Nat → Rack → Rack
  | .done _, _, rack => rack
  | .warn _ next, k, rack => next.upTo k rack
  | .call .., 0, rack => rack
  | .call appliance asked next, k + 1, rack =>
    (next (rack.answer appliance asked).1).upTo k (rack.answer appliance asked).2

/-- How many calls a run of a plan makes. -/
def calls : Plan α → Rack → Nat
  | .done _, _ => 0
  | .warn _ next, rack => next.calls rack
  | .call appliance asked next, rack =>
    (next (rack.answer appliance asked).1).calls (rack.answer appliance asked).2 + 1

/-- Cut off after its last call, a run has changed all that it would. -/
lemma upTo_calls (plan : Plan α) (rack : Rack) :
    plan.upTo (plan.calls rack) rack = (plan.exec rack).2 := by
  induction plan generalizing rack with
  | done result => rfl
  | call appliance asked rest ih => exact ih _ _
  | warn line rest ih => exact ih _

/-! ## Parts that only look -/

/-- As long as the rack is one of `racks`, the plan changes nothing until only the second plan
remains of it. -/
inductive Leads (racks : Rack → Prop) : Plan α → Plan α → Prop where
  | here {plan} : Leads racks plan plan
  | call {appliance asked next goal} (outcome : asked.Outcome)
      (same : ∀ rack, racks rack → rack.answer appliance asked = (outcome, rack))
      (rest : Leads racks (next outcome) goal) : Leads racks (.call appliance asked next) goal
  | warn {line next goal} (rest : Leads racks next goal) : Leads racks (.warn line next) goal

namespace Leads

variable {racks : Rack → Prop} {rack : Rack} {plan goal : Plan α} {next : α → Plan β}

lemma exec_eq (h : plan.Leads racks goal) (hrack : racks rack) :
    plan.exec rack = goal.exec rack := by
  induction h with
  | here => rfl
  | call outcome same _ ih =>
    rw [Plan.exec, same rack hrack]
    exact ih
  | warn _ ih => exact ih

lemma bind (h : plan.Leads racks goal) : (plan.bind next).Leads racks (goal.bind next) := by
  induction h with
  | here => exact .here
  | call outcome same _ ih => exact .call outcome same ih
  | warn _ ih => exact .warn ih

lemma trans {last : Plan α} (h : plan.Leads racks goal) (hgoal : goal.Leads racks last) :
    plan.Leads racks last := by
  induction h with
  | here => exact hgoal
  | call outcome same _ ih => exact .call outcome same (ih hgoal)
  | warn _ ih => exact .warn (ih hgoal)

lemma mono {fewer : Rack → Prop} (h : plan.Leads racks goal)
    (hfewer : ∀ rack, fewer rack → racks rack) : plan.Leads fewer goal := by
  induction h with
  | here => exact .here
  | call outcome same _ ih =>
    exact .call outcome (fun rack hrack => same rack (hfewer rack hrack)) ih
  | warn _ ih => exact .warn ih

end Leads

/-- The plan changes nothing on this rack. -/
def Rests (rack : Rack) (plan : Plan α) : Prop :=
  plan.Leads (· = rack) (.done (plan.exec rack).1)

variable {rack : Rack} {plan : Plan α} {next : α → Plan β} {result : α}

lemma Leads.rests (h : plan.Leads (· = rack) (.done result)) : plan.Rests rack := by
  rw [Rests, h.exec_eq rfl]
  exact h

lemma Rests.exec_eq (h : plan.Rests rack) : plan.exec rack = ((plan.exec rack).1, rack) :=
  Leads.exec_eq h rfl

lemma Rests.bind (h : plan.Rests rack) (hnext : (next (plan.exec rack).1).Rests rack) :
    (plan.bind next).Rests rack := by
  have hfirst : (plan.bind next).Leads (· = rack) (next (plan.exec rack).1) := Leads.bind h
  exact (hfirst.trans hnext).rests

lemma rests_done (rack : Rack) (result : α) : (Plan.done result).Rests rack := Leads.here

lemma rests_call {appliance : ApplianceRef} {asked : Call} {next : asked.Outcome → Plan α}
    (same : (rack.answer appliance asked).2 = rack)
    (h : (next (rack.answer appliance asked).1).Rests rack) :
    (Plan.call appliance asked next).Rests rack := by
  have hanswer : ∀ other, other = rack →
      other.answer appliance asked = ((rack.answer appliance asked).1, other) := by
    rintro _ rfl
    exact Prod.ext rfl same
  exact (Leads.call _ hanswer h).rests

/-- A single call rests where the appliance stays as it is. -/
lemma rests_single {appliance : ApplianceRef} {asked : Call} {a : Simulated}
    (h : rack appliance.id = some a) (same : (a.step asked).2 = a) (read : asked.Outcome → α) :
    (Plan.call appliance asked fun outcome => .done (read outcome)).Rests rack := by
  refine rests_call ?_ (rests_done rack _)
  rw [Rack.answer_of_some h, same, Rack.set_eq_self h]

/-- A plan that leads to one that rests here rests here too. -/
lemma Rests.of_leads {goal : Plan α} {racks : Rack → Prop} (h : plan.Leads racks goal)
    (hrack : racks rack) (hgoal : goal.Rests rack) : plan.Rests rack := by
  have hhere : plan.Leads (· = rack) goal := h.mono fun _ heq => heq ▸ hrack
  exact (hhere.trans hgoal).rests

end Plan

/-! ## Attempts -/

namespace Attempt

variable {rack : Rack} {racks : Rack → Prop} {attempt : Attempt α} {next : α → Attempt β}
  {outcome : Except Fault α}

/-- An attempt goes on if its first part succeeds. -/
def andThen (next : α → Attempt β) : Except Fault α → Plan (Except Fault β)
  | .ok value => (next value).run
  | .error fault => .done (.error fault)

lemma run_bind (attempt : Attempt α) (next : α → Attempt β) :
    (attempt >>= next).run = attempt.run.bind (andThen next) := by
  change attempt.run.bind _ = _
  congr 1
  funext outcome
  cases outcome <;> rfl

lemma run_outcome_bind (attempt : Attempt α) (next : Except Fault α → Attempt β) :
    (attempt.outcome >>= next).run = attempt.run.bind fun outcome => (next outcome).run :=
  Plan.bind_assoc attempt.run _ _

lemma leads_bind (h : attempt.run.Leads racks (.done outcome)) :
    (attempt >>= next).run.Leads racks (andThen next outcome) := by
  rw [run_bind]
  exact h.bind

end Attempt

/-! ## Threads -/

/-- The appliances in memory of a deployment. -/
def Deployment.rack (d : Deployment) : Rack := d.simulated?

lemma Deployment.rack_setStation {d : Deployment} {id : Nat} {a : Simulated}
    (h : d.simulated? id = some a) (b : Simulated) :
    (d.setStation id (.simulated b)).rack = d.rack.set id b := by
  have hlt : id < d.stations.length := by
    by_contra hge
    have hnone : d.stations[id]? = none := List.getElem?_eq_none (Nat.le_of_not_lt hge)
    simp [simulated?, station?, hnone] at h
  funext other
  by_cases hother : other = id
  · subst hother
    rw [Rack.set_self]
    simp [rack, simulated?, station?, setStation, hlt, Station.simulated?]
  · rw [Rack.set_of_ne hother]
    simp [rack, simulated?, station?, setStation, List.getElem?_set_ne (Ne.symm hother)]

lemma Deployment.perform_eq (d : Deployment) (appliance : ApplianceRef) (call : Call) :
    (d.perform appliance call).1 = (d.rack.answer appliance call).1 ∧
    (d.perform appliance call).2.rack = (d.rack.answer appliance call).2 := by
  unfold perform
  cases hstation : d.simulated? appliance.id with
  | none =>
    have hnone : d.rack appliance.id = none := hstation
    simp only [Rack.answer, hnone, and_self]
  | some a =>
    have hsome : d.rack appliance.id = some a := hstation
    have hreceived : (d.receive appliance.id (.call call)).simulated? appliance.id = some a :=
      hstation
    rw [Rack.answer_of_some hsome]
    exact ⟨rfl, rack_setStation hreceived _⟩

/-- Where no call goes through a client, a thread runs its plan to the end at once. -/
lemma Thread.run_toTask (plan : Plan α) (id : Nat) (limit : Option (Nat × Task α))
    (d : Deployment) :
    (Thread.run id limit d (plan.toTask fun _ => none)).2.result? = some (plan.exec d.rack).1 ∧
    (Thread.run id limit d (plan.toTask fun _ => none)).1.rack = (plan.exec d.rack).2 := by
  induction plan generalizing d with
  | done result => exact ⟨rfl, rfl⟩
  | warn line rest ih => exact ih (d.warn line)
  | call appliance asked rest ih =>
    obtain ⟨houtcome, hrack⟩ := d.perform_eq appliance asked
    obtain ⟨hresult, hafter⟩ := ih (d.perform appliance asked).1 (d.perform appliance asked).2
    rw [houtcome, hrack] at hresult hafter
    simp only [Plan.toTask, Thread.run, Plan.exec, houtcome]
    exact ⟨hresult, hafter⟩

lemma Deployment.carryOut_of_inMemory {d : Deployment} (inMemory : ∀ id, d.connected? id = none) :
    d.carryOut = fun _ => none := by
  funext appliance
  simp [Deployment.carryOut, inMemory]

/-- Where all appliances are in memory, a thread runs its plan to the end at once. -/
theorem Thread.run_task (d : Deployment) (inMemory : ∀ id, d.connected? id = none)
    (plan : Plan α) (id : Nat) (limit : Option (Nat × Task α)) :
    (Thread.run id limit d (d.task plan)).2.result? = some (plan.exec d.rack).1 ∧
    (Thread.run id limit d (d.task plan)).1.rack = (plan.exec d.rack).2 := by
  rw [Deployment.task, d.carryOut_of_inMemory inMemory]
  exact Thread.run_toTask plan id limit d

end StorageFleet
