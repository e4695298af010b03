import Mathlib.Data.List.FinRange
import StorageFleet.Proofs.Rack.Execution

/-!
# Plans side by side

In a `Concert` any number of plans run on one rack.  A schedule names, step by step, the plan that
goes on; a step is one call, and calls are atomic.  What holds of `Concert.run` for every schedule
holds for every interleaving.  A plan that a schedule no longer names was cut off
(`exists_schedule_resumed`), and from anywhere some schedule brings all plans to their end
(`exists_schedule_done`).

A concert is `Settled` when no whole plan of it would change the rack any more, and each plan is
bound for the result that it would have here from its beginning.  `Settled.step` says that it stays
so, and `Settled.serial` that the plans, once they are done, might as well have run one after the
other.
-/

namespace StorageFleet

/-- The filesystem that a call makes. -/
def Call.target? : Call → Option String
  | .createFilesystem path .. => some path
  | .cloneSnapshot _ target _ => some target
  | _ => none

namespace Simulated

lemma contains_addFilesystem (a : Simulated) (path : String) (quota : Option Nat) :
    (a.addFilesystem path quota).filesystems.contains path = true := by
  simp [addFilesystem, Catalog.contains, Catalog.find?_insert]

/-- Making a filesystem changes the appliance. -/
lemma step_ne_of_target {a : Simulated} {call : Call} (htarget : call.target?.isSome = true)
    (hok : (a.step call).1.isOk = true) : (a.step call).2 ≠ a := by
  unfold step at hok ⊢
  split at hok
  · cases hok
  · next honline =>
    rw [if_neg honline]
    cases call with
    | createFilesystem path quota reservation =>
      simp only [answer, createFilesystem] at hok ⊢
      split at hok
      · cases hok
      · next hfree =>
        rw [if_neg hfree]
        intro heq
        rw [← heq] at hfree
        exact hfree (contains_addFilesystem a path quota)
    | cloneSnapshot path target quota =>
      simp only [answer, cloneSnapshot] at hok ⊢
      split at hok
      · cases hok
      · split at hok
        · cases hok
        · next hfree =>
          rw [if_neg hfree]
          intro heq
          rw [← heq] at hfree
          exact hfree (contains_addFilesystem a target quota)
    | _ => cases htarget

end Simulated

/-- A call that changes nothing makes no filesystem. -/
lemma Rack.isOk_of_same {rack : Rack} {appliance : ApplianceRef} {call : Call}
    {outcome : call.Outcome} (htarget : call.target?.isSome = true)
    (same : rack.answer appliance call = (outcome, rack)) : outcome.isOk = false := by
  cases h : rack appliance.id with
  | none =>
    simp only [answer, h, Prod.mk.injEq, and_true] at same
    rw [← same]
    rfl
  | some a =>
    rw [answer_of_some h] at same
    obtain ⟨houtcome, hrack⟩ := Prod.mk.inj same
    rw [← houtcome, ← Bool.not_eq_true]
    intro hok
    apply Simulated.step_ne_of_target htarget hok
    have hself := congrFun hrack appliance.id
    rw [set_self, h] at hself
    exact Option.some.inj hself

/-- A call that was made in a concert, and whether it succeeded. -/
structure Concert.Entry (ι : Type) where
  who : ι
  appliance : ApplianceRef
  call : Call
  succeeded : Bool

/-- Plans side by side on one rack. -/
structure Concert (ι α : Type) where
  rack : Rack
  plans : ι → Plan α
  /-- The calls so far, the latest first. -/
  history : List (Concert.Entry ι) := []

namespace Concert

variable {ι α : Type} [DecidableEq ι]

/-- The next step of one of the plans. -/
def step (concert : Concert ι α) (i : ι) : Concert ι α :=
  match concert.plans i with
  | .done _ => concert
  | .warn _ next => { concert with plans := Function.update concert.plans i next }
  | .call appliance asked next =>
    let outcome := (concert.rack.answer appliance asked).1
    { rack := (concert.rack.answer appliance asked).2
      plans := Function.update concert.plans i (next outcome)
      history := ⟨i, appliance, asked, outcome.isOk⟩ :: concert.history }

/-- The steps of a schedule, one after the other. -/
def run (concert : Concert ι α) (schedule : List ι) : Concert ι α :=
  schedule.foldl step concert

/-- The calls that made a filesystem. -/
def creations (concert : Concert ι α) : List (Entry ι) :=
  concert.history.filter fun entry => entry.call.target?.isSome && entry.succeeded

omit [DecidableEq ι] in
lemma creations_cons (concert : Concert ι α) (rack : Rack) (plans : ι → Plan α) (entry : Entry ι) :
    (Concert.mk rack plans (entry :: concert.history)).creations =
      if entry.call.target?.isSome && entry.succeeded then entry :: concert.creations
      else concert.creations :=
  List.filter_cons

variable {concert : Concert ι α} {i : ι} {racks : Rack → Prop} {goal : Plan α}

/-- A step of a plan that only looks changes nothing but the plan. -/
lemma step_of_leads (h : (concert.plans i).Leads racks goal) (hrack : racks concert.rack) :
    concert.plans i = goal ∨ ∃ after, after.Leads racks goal ∧
      (concert.step i).plans = Function.update concert.plans i after ∧
      (concert.step i).rack = concert.rack ∧ (concert.step i).creations = concert.creations := by
  unfold step
  generalize hplan : concert.plans i = plan at h
  cases h with
  | here => exact .inl rfl
  | warn rest => exact .inr ⟨_, rest, rfl, rfl, rfl⟩
  | @call appliance asked next _ outcome same rest =>
    refine .inr ⟨next outcome, rest, ?_⟩
    have hsame := same concert.rack hrack
    simp only [hsame, true_and, creations_cons]
    rw [if_neg]
    intro hmade
    obtain ⟨htarget, hok⟩ := Bool.and_eq_true_iff.1 hmade
    rw [Rack.isOk_of_same htarget hsame] at hok
    cases hok

/-- A step of a plan that begins with a single call. -/
lemma step_of_call {first : Plan β} {next : β → Plan α} {appliance : ApplianceRef} {call : Call}
    {read : call.Outcome → β} (hplan : concert.plans i = first.bind next)
    (hfirst : first = .call appliance call fun outcome => .done (read outcome)) :
    concert.step i = ⟨(first.exec concert.rack).2,
      Function.update concert.plans i (next (first.exec concert.rack).1),
      ⟨i, appliance, call, (concert.rack.answer appliance call).1.isOk⟩ :: concert.history⟩ := by
  subst hfirst
  rw [step, hplan]
  rfl

/-! ## Concerts that have settled -/

/-- None of the whole plans would change the rack any more, and each plan is bound for its result
here.  This may be the rack at the beginning, or one that a single plan leads to. -/
structure Settled (start : Rack) (whole : ι → Plan α) (concert : Concert ι α) : Prop where
  rests : ∀ i, (whole i).Rests concert.rack
  bound : ∀ i, (concert.plans i).Leads (· = concert.rack)
    (.done ((whole i).exec concert.rack).1)
  reached : concert.rack = start ∨ ∃ i, (whole i).exec start = (whole i).exec concert.rack

variable {start : Rack} {whole : ι → Plan α}

lemma Settled.step (h : concert.Settled start whole) (i : ι) :
    (concert.step i).Settled start whole ∧ (concert.step i).rack = concert.rack ∧
      (concert.step i).creations = concert.creations := by
  rcases step_of_leads (h.bound i) rfl with hdone | ⟨after, hleads, hplans, hrack, hcreations⟩
  · have hstep : concert.step i = concert := by rw [Concert.step, hdone]
    rw [hstep]
    exact ⟨h, rfl, rfl⟩
  · refine ⟨⟨?_, ?_, ?_⟩, hrack, hcreations⟩
    · rw [hrack]
      exact h.rests
    · intro j
      rw [hrack, hplans]
      by_cases hj : j = i
      · subst hj
        rw [Function.update_self]
        exact hleads
      · rw [Function.update_of_ne hj]
        exact h.bound j
    · rw [hrack]
      exact h.reached

lemma Settled.run (h : concert.Settled start whole) (schedule : List ι) :
    (concert.run schedule).Settled start whole ∧ (concert.run schedule).rack = concert.rack ∧
      (concert.run schedule).creations = concert.creations := by
  induction schedule generalizing concert with
  | nil => exact ⟨h, rfl, rfl⟩
  | cons i rest ih =>
    obtain ⟨hstep, hrack, hcreations⟩ := h.step i
    obtain ⟨hrun, hrack', hcreations'⟩ := ih hstep
    exact ⟨hrun, hrack'.trans hrack, hcreations'.trans hcreations⟩

end Concert

/-! ## One after the other -/

/-- Runs plans one after the other: their results, and the rack at the end. -/
def Plan.serially (plans : ι → Plan α) : List ι → Rack → List (ι × α) × Rack
  | [], rack => ([], rack)
  | i :: rest, rack =>
    ((i, ((plans i).exec rack).1) :: (serially plans rest ((plans i).exec rack).2).1,
      (serially plans rest ((plans i).exec rack).2).2)

lemma Plan.serially_of_rests {plans : ι → Plan α} {rack : Rack} (h : ∀ i, (plans i).Rests rack)
    (order : List ι) :
    serially plans order rack = (order.map fun i => (i, ((plans i).exec rack).1), rack) := by
  induction order with
  | nil => rfl
  | cons i rest ih =>
    have hrack : ((plans i).exec rack).2 = rack := congrArg Prod.snd (h i).exec_eq
    rw [serially, hrack, ih]
    rfl

lemma Plan.Leads.eq_of_done {racks : Rack → Prop} {result : α} {goal : Plan α}
    (h : (Plan.done result).Leads racks goal) : goal = .done result := by
  cases h
  rfl

/-- What a plan of a settled concert comes to, it would come to here from its beginning. -/
lemma Concert.Settled.result_eq {start : Rack} {whole : ι → Plan α}
    {concert : Concert ι α} (h : concert.Settled start whole) {i : ι} {result : α}
    (hdone : concert.plans i = .done result) : ((whole i).exec concert.rack).1 = result := by
  have hbound := h.bound i
  rw [hdone] at hbound
  exact Plan.done.inj hbound.eq_of_done

/-- Once all plans of a settled concert are done, they might have run one after the other. -/
theorem Concert.Settled.serial {n : Nat} {start : Rack} {whole : Fin n → Plan α}
    {concert : Concert (Fin n) α} (h : concert.Settled start whole) {results : Fin n → α}
    (finished : ∀ i, concert.plans i = .done (results i)) :
    ∃ order : List (Fin n), order.Perm (List.finRange n) ∧
      Plan.serially whole order start = (order.map fun i => (i, results i), concert.rack) := by
  have hresult : ∀ i, ((whole i).exec concert.rack).1 = results i :=
    fun i => h.result_eq (finished i)
  have hrest : ∀ order, Plan.serially whole order concert.rack =
      (order.map fun i => (i, results i), concert.rack) := by
    intro order
    rw [Plan.serially_of_rests h.rests]
    simp only [hresult]
  rcases h.reached with heq | ⟨first, hfirst⟩
  · refine ⟨List.finRange n, .refl _, ?_⟩
    rw [← heq]
    exact hrest _
  · refine ⟨first :: (List.finRange n).erase first,
      (List.perm_cons_erase (List.mem_finRange first)).symm, ?_⟩
    have hrack : ((whole first).exec concert.rack).2 = concert.rack :=
      congrArg Prod.snd (h.rests first).exec_eq
    rw [Plan.serially, hfirst, hrack, hrest, hresult]
    rfl

/-! ## One plan by itself -/

namespace Concert

variable {ι α : Type} [DecidableEq ι] {concert : Concert ι α}

lemma run_append (concert : Concert ι α) (first second : List ι) :
    concert.run (first ++ second) = (concert.run first).run second :=
  List.foldl_append

lemma step_plans_of_ne {i j : ι} (h : j ≠ i) : (concert.step i).plans j = concert.plans j := by
  unfold step
  cases concert.plans i with
  | done result => rfl
  | warn line next => exact Function.update_of_ne h ..
  | call appliance asked next => exact Function.update_of_ne h ..

/-- A schedule of one plan comes to such a state and leaves the other plans alone. -/
def Alone (concert : Concert ι α) (i : ι) (goal : Rack → Plan α → Prop) : Prop :=
  ∃ schedule, goal (concert.run schedule).rack ((concert.run schedule).plans i) ∧
    ∀ j, j ≠ i → (concert.run schedule).plans j = concert.plans j

lemma Alone.of_step {i : ι} {goal : Rack → Plan α → Prop} (h : (concert.step i).Alone i goal) :
    concert.Alone i goal := by
  obtain ⟨schedule, hgoal, hothers⟩ := h
  exact ⟨i :: schedule, hgoal, fun j hj => (hothers j hj).trans (step_plans_of_ne hj)⟩

/-- The first calls of a plan are a schedule. -/
lemma alone_upTo {plan : Plan α} {i : ι} (hplan : concert.plans i = plan) (k : Nat) :
    concert.Alone i fun rack _ => rack = plan.upTo k concert.rack := by
  induction plan generalizing concert k with
  | done result => exact ⟨[], rfl, fun _ _ => rfl⟩
  | warn line next ih =>
    have hstep : concert.step i =
        { concert with plans := Function.update concert.plans i next } := by
      rw [step, hplan]
    apply Alone.of_step
    rw [hstep]
    exact ih (Function.update_self ..) k
  | call appliance asked next ih =>
    cases k with
    | zero => exact ⟨[], rfl, fun _ _ => rfl⟩
    | succ k =>
      apply Alone.of_step
      have hnext : (concert.step i).plans i = next (concert.rack.answer appliance asked).1 := by
        rw [step, hplan]
        exact Function.update_self ..
      have hrack : (concert.step i).rack = (concert.rack.answer appliance asked).2 := by
        rw [step, hplan]
      rw [Plan.upTo, ← hrack]
      exact ih _ hnext k

/-- So is a whole plan. -/
lemma alone_done {plan : Plan α} {i : ι} (hplan : concert.plans i = plan) :
    concert.Alone i fun _ rest => ∃ result, rest = .done result := by
  induction plan generalizing concert with
  | done result => exact ⟨[], ⟨result, hplan⟩, fun _ _ => rfl⟩
  | warn line next ih =>
    apply Alone.of_step
    apply ih
    rw [step, hplan]
    exact Function.update_self ..
  | call appliance asked next ih =>
    apply Alone.of_step
    apply ih (concert.rack.answer appliance asked).1
    rw [step, hplan]
    exact Function.update_self ..

/-- Wherever a concert is, it can be brought to its end. -/
theorem exists_schedule_done {n : Nat} (concert : Concert (Fin n) α) :
    ∃ schedule, ∀ i, ∃ result, (concert.run schedule).plans i = .done result := by
  have hsome : ∀ some : List (Fin n), ∃ schedule, ∀ i ∈ some, ∃ result,
      (concert.run schedule).plans i = .done result := by
    intro some
    induction some with
    | nil => exact ⟨[], by simp⟩
    | cons i rest ih =>
      obtain ⟨schedule, hrest⟩ := ih
      have halone : (concert.run schedule).Alone i fun _ rest => ∃ result, rest = .done result :=
        alone_done rfl
      obtain ⟨last, hdone, hothers⟩ := halone
      refine ⟨schedule ++ last, fun j hj => ?_⟩
      rw [run_append]
      by_cases hji : j = i
      · rw [hji]
        exact hdone
      · rw [hothers j hji]
        exact hrest j (List.mem_of_ne_of_mem hji hj)
  obtain ⟨schedule, hall⟩ := hsome (List.finRange n)
  exact ⟨schedule, fun i => hall i (List.mem_finRange i)⟩

/-- Runs of one plan that are cut off, one after the other, are a schedule of copies of it. -/
theorem exists_schedule_resumed {plan : Plan α} (concert : Concert Nat α) (next : Nat)
    (hplans : ∀ i, next ≤ i → concert.plans i = plan) (stops : List Nat) :
    ∃ schedule, (concert.run schedule).rack =
      stops.foldl (fun rack k => plan.upTo k rack) concert.rack := by
  induction stops generalizing concert next with
  | nil => exact ⟨[], rfl⟩
  | cons k rest ih =>
    obtain ⟨schedule, hrack, hothers⟩ := alone_upTo (hplans next (Nat.le_refl _)) k
    have hfresh : ∀ i, next + 1 ≤ i → (concert.run schedule).plans i = plan := by
      intro i hi
      rw [hothers i (by omega)]
      exact hplans i (by omega)
    obtain ⟨later, hlater⟩ := ih (concert.run schedule) (next + 1) hfresh
    refine ⟨schedule ++ later, ?_⟩
    rw [run_append, hlater, hrack]
    rfl

end Concert
end StorageFleet
