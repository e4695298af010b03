import StorageFleet.Proofs.Rack.Execution

/-!
# Transcripts of plans

A plan decides what it asks next by the answers it gets.  `Plan.Transcript` says which calls it
makes if it is answered in a certain way, and what it comes to.  Nothing is assumed about the
answers: they may come from appliances in memory or over a network, and the appliances may change
between two calls.  Every way to answer gives one transcript (`exists_transcript`).

A run on a rack has the transcript that the appliances there answer (`transcript_exec`), and what it
leaves behind is the rack after those calls (`exec_eq_after`).

`Plan.Ensures` is what is known of all transcripts beforehand: which calls can occur in them, and
which results.
-/

namespace StorageFleet

/-- A call that was answered. -/
structure Asked where
  appliance : ApplianceRef
  call : Call
  outcome : call.Outcome

/-- The rack after a call. -/
def Rack.after (rack : Rack) (asked : Asked) : Rack :=
  (rack.answer asked.appliance asked.call).2

namespace Plan

/-- The plan makes these calls, one after the other, is answered so, and comes to the result. -/
inductive Transcript : Plan α → List Asked → α → Prop where
  | done {result} : Transcript (.done result) [] result
  | call {appliance asked next later result} (outcome : asked.Outcome)
      (rest : Transcript (next outcome) later result) :
      Transcript (.call appliance asked next) (⟨appliance, asked, outcome⟩ :: later) result
  | warn {line next said result} (rest : Transcript next said result) :
      Transcript (.warn line next) said result

variable {plan : Plan α} {next : α → Plan β} {said : List Asked} {result : α} {value : β}

lemma transcript_done {found : α} :
    (Plan.done result).Transcript said found ↔ said = [] ∧ found = result := by
  constructor
  · rintro ⟨⟩
    exact ⟨rfl, rfl⟩
  · rintro ⟨rfl, rfl⟩
    exact .done

lemma transcript_warn {line : String} {rest : Plan α} :
    (Plan.warn line rest).Transcript said result ↔ rest.Transcript said result := by
  constructor
  · rintro (_ | _ | h)
    exact h
  · exact .warn

/-- The transcript of a sequence is that of its first part, then that of what follows. -/
lemma transcript_bind : (plan.bind next).Transcript said value ↔ ∃ first later result,
    said = first ++ later ∧ plan.Transcript first result ∧
      (next result).Transcript later value := by
  induction plan generalizing said with
  | done result =>
    constructor
    · exact fun h => ⟨[], said, result, rfl, .done, h⟩
    · rintro ⟨first, later, _, rfl, ⟨⟩, h⟩
      exact h
  | call appliance asked rest ih =>
    constructor
    · rintro (_ | ⟨outcome, h⟩)
      obtain ⟨first, later, result, rfl, hfirst, hlater⟩ := (ih outcome).1 h
      exact ⟨_ :: first, later, result, rfl, .call outcome hfirst, hlater⟩
    · rintro ⟨_, later, result, rfl, _ | ⟨outcome, hfirst⟩, hlater⟩
      exact .call outcome ((ih outcome).2 ⟨_, later, result, rfl, hfirst, hlater⟩)
  | warn line rest ih =>
    constructor
    · rintro (_ | _ | h)
      obtain ⟨first, later, result, rfl, hfirst, hlater⟩ := ih.1 h
      exact ⟨first, later, result, rfl, .warn hfirst, hlater⟩
    · rintro ⟨first, later, result, rfl, _ | _ | hfirst, hlater⟩
      exact .warn (ih.2 ⟨first, later, result, rfl, hfirst, hlater⟩)

/-- However the calls are answered, the plan comes to an end. -/
theorem exists_transcript (answers : Nat → (call : Call) → call.Outcome) (plan : Plan α) :
    ∃ said result, plan.Transcript said result ∧
      ∀ i asked, said[i]? = some asked → asked.outcome = answers i asked.call := by
  have hfrom : ∀ n, ∃ said result, plan.Transcript said result ∧
      ∀ i asked, said[i]? = some asked → asked.outcome = answers (n + i) asked.call := by
    induction plan with
    | done result => exact fun n => ⟨[], result, .done, by simp⟩
    | call appliance asked rest ih =>
      intro n
      obtain ⟨later, result, hlater, hanswers⟩ := ih (answers n asked) (n + 1)
      refine ⟨_ :: later, result, .call (answers n asked) hlater, ?_⟩
      rintro (_ | i) found hfound
      · cases hfound
        rfl
      · rw [hanswers i found hfound, Nat.add_right_comm, Nat.add_assoc]
    | warn line rest ih =>
      intro n
      obtain ⟨said, result, hsaid, hanswers⟩ := ih n
      exact ⟨said, result, .warn hsaid, hanswers⟩
  simpa using hfrom 0

/-! ## What is known beforehand -/

/-- All calls of the plan are of this kind, and so are its results, whatever the answers are. -/
def Ensures (calls : ApplianceRef → Call → Prop) (results : α → Prop) : Plan α → Prop
  | .done result => results result
  | .call appliance asked next =>
    calls appliance asked ∧ ∀ outcome, (next outcome).Ensures calls results
  | .warn _ next => next.Ensures calls results

variable {calls : ApplianceRef → Call → Prop} {results : α → Prop} {values : β → Prop}

lemma Ensures.bind (h : plan.Ensures calls results)
    (hnext : ∀ result, results result → (next result).Ensures calls values) :
    (plan.bind next).Ensures calls values := by
  induction plan with
  | done result => exact hnext result h
  | call appliance asked rest ih => exact ⟨h.1, fun outcome => ih outcome (h.2 outcome)⟩
  | warn line rest ih => exact ih h

lemma Ensures.mono {other : ApplianceRef → Call → Prop} {others : α → Prop}
    (h : plan.Ensures calls results)
    (hcalls : ∀ appliance call, calls appliance call → other appliance call)
    (hresults : ∀ result, results result → others result) : plan.Ensures other others := by
  induction plan with
  | done result => exact hresults result h
  | call appliance asked rest ih =>
    exact ⟨hcalls _ _ h.1, fun outcome => ih outcome (h.2 outcome)⟩
  | warn line rest ih => exact ih h

lemma Ensures.transcript (h : plan.Ensures calls results) (hsaid : plan.Transcript said result) :
    (∀ asked ∈ said, calls asked.appliance asked.call) ∧ results result := by
  induction hsaid with
  | done => exact ⟨by simp, h⟩
  | call outcome _ ih =>
    obtain ⟨hlater, hresult⟩ := ih (h.2 outcome)
    exact ⟨List.forall_mem_cons.2 ⟨h.1, hlater⟩, hresult⟩
  | warn _ ih => exact ih h

/-- Only calls of this kind are made. -/
abbrev Asks (calls : ApplianceRef → Call → Prop) (plan : Plan α) : Prop :=
  plan.Ensures calls fun _ => True

/-- What holds of the calls in all transcripts is known beforehand. -/
lemma asks_iff : plan.Asks calls ↔ ∀ said result, plan.Transcript said result →
    ∀ asked ∈ said, calls asked.appliance asked.call := by
  refine ⟨fun h said result hsaid => (h.transcript hsaid).1, fun h => ?_⟩
  induction plan with
  | done result => trivial
  | call appliance asked rest ih =>
    have hcall : ∀ outcome, calls appliance asked ∧ (rest outcome).Asks calls := by
      intro outcome
      refine ⟨?_, ih outcome fun said result hsaid found hmem =>
        h _ result (.call outcome hsaid) found (List.mem_cons_of_mem _ hmem)⟩
      obtain ⟨said, result, hsaid, -⟩ :=
        exists_transcript (fun _ _ => .error default) (rest outcome)
      exact h _ result (.call outcome hsaid) _ List.mem_cons_self
    exact ⟨(hcall (.error default)).1, fun outcome => (hcall outcome).2⟩
  | warn line rest ih => exact ih fun said result hsaid => h said result (.warn hsaid)

/-! ## Transcripts on a rack -/

/-- The calls of a run on a rack. -/
def asked : Plan α → Rack → List Asked
  | .done _, _ => []
  | .call appliance asked next, rack =>
    ⟨appliance, asked, (rack.answer appliance asked).1⟩ ::
      (next (rack.answer appliance asked).1).asked (rack.answer appliance asked).2
  | .warn _ next, rack => next.asked rack

lemma transcript_exec (plan : Plan α) (rack : Rack) :
    plan.Transcript (plan.asked rack) (plan.exec rack).1 := by
  induction plan generalizing rack with
  | done result => exact .done
  | call appliance asked rest ih => exact .call _ (ih _ _)
  | warn line rest ih => exact .warn (ih rack)

/-- Appliances that answer so, and do not change, have a plan come to the same. -/
lemma Transcript.exec_eq {rack : Rack} (h : plan.Transcript said result)
    (hrack : ∀ asked ∈ said, rack.answer asked.appliance asked.call = (asked.outcome, rack)) :
    plan.exec rack = (result, rack) := by
  induction h with
  | done => rfl
  | warn _ ih => exact ih hrack
  | call outcome _ ih =>
    obtain ⟨hfirst, hlater⟩ := List.forall_mem_cons.1 hrack
    rw [exec, hfirst]
    exact ih hlater

lemma exec_eq_after (plan : Plan α) (rack : Rack) :
    (plan.exec rack).2 = (plan.asked rack).foldl Rack.after rack := by
  induction plan generalizing rack with
  | done result => rfl
  | call appliance asked rest ih => exact ih _ _
  | warn line rest ih => exact ih rack

end Plan

/-! ## Attempts -/

namespace Attempt

variable {attempt : Attempt α} {said : List Asked}

/-- An attempt fails with its first part, or goes on with what that has found. -/
lemma transcript_bind {next : α → Attempt β} {result : Except Fault β} :
    (attempt >>= next).run.Transcript said result ↔
      (∃ fault, result = .error fault ∧ attempt.run.Transcript said (.error fault)) ∨
      ∃ first later value, said = first ++ later ∧ attempt.run.Transcript first (.ok value) ∧
        (next value).run.Transcript later result := by
  rw [run_bind, Plan.transcript_bind]
  constructor
  · rintro ⟨first, later, outcome, rfl, hfirst, hlater⟩
    cases outcome with
    | error fault =>
      obtain ⟨rfl, rfl⟩ := Plan.transcript_done.1 hlater
      exact .inl ⟨fault, rfl, by simpa using hfirst⟩
    | ok value => exact .inr ⟨first, later, value, rfl, hfirst, hlater⟩
  · rintro (⟨fault, rfl, hsaid⟩ | ⟨first, later, value, rfl, hfirst, hlater⟩)
    · exact ⟨said, [], .error fault, by simp, hsaid, .done⟩
    · exact ⟨first, later, .ok value, rfl, hfirst, hlater⟩

lemma transcript_outcome_bind {next : Except Fault α → Attempt β} {result : Except Fault β} :
    (attempt.outcome >>= next).run.Transcript said result ↔ ∃ first later outcome,
      said = first ++ later ∧ attempt.run.Transcript first outcome ∧
        (next outcome).run.Transcript later result := by
  rw [run_outcome_bind, Plan.transcript_bind]

lemma transcript_ask {appliance : ApplianceRef} {call : Call} {outcome : call.Outcome} :
    (ask appliance call).run.Transcript said outcome ↔ said = [⟨appliance, call, outcome⟩] := by
  constructor
  · rintro (_ | ⟨found, ⟨⟩⟩)
    rfl
  · rintro rfl
    exact .call outcome .done

variable {calls : ApplianceRef → Call → Prop}

/-- What the results of an attempt are known to be if it succeeds. -/
def Found (found : α → Prop) : Except Fault α → Prop
  | .ok value => found value
  | .error _ => True

lemma ensures_bind {found : α → Prop} {values : β → Prop} {next : α → Attempt β}
    (h : attempt.run.Ensures calls (Found found))
    (hnext : ∀ value, found value → (next value).run.Ensures calls (Found values)) :
    (attempt >>= next).run.Ensures calls (Found values) := by
  rw [run_bind]
  refine h.bind fun outcome hfound => ?_
  cases outcome with
  | ok value => exact hnext value hfound
  | error fault => trivial

lemma ensures_outcome_bind {found : α → Prop} {values : β → Prop}
    {next : Except Fault α → Attempt β} (h : attempt.run.Ensures calls (Found found))
    (hnext : ∀ outcome, Found found outcome → (next outcome).run.Ensures calls (Found values)) :
    (attempt.outcome >>= next).run.Ensures calls (Found values) := by
  rw [run_outcome_bind]
  exact h.bind hnext

lemma asks_bind {next : α → Attempt β} (h : attempt.run.Asks calls)
    (hnext : ∀ value, (next value).run.Asks calls) : (attempt >>= next).run.Asks calls := by
  rw [run_bind]
  refine h.bind fun outcome _ => ?_
  cases outcome with
  | ok value => exact hnext value
  | error fault => trivial

lemma asks_outcome_bind {next : Except Fault α → Attempt β} (h : attempt.run.Asks calls)
    (hnext : ∀ outcome, (next outcome).run.Asks calls) :
    (attempt.outcome >>= next).run.Asks calls := by
  rw [run_outcome_bind]
  exact h.bind fun outcome _ => hnext outcome

lemma asks_ask {appliance : ApplianceRef} {call : Call} (h : calls appliance call) :
    (ask appliance call).run.Asks calls :=
  ⟨h, fun _ => trivial⟩

lemma asks_ofExcept (result : Except Fault α) : (ofExcept result).run.Asks calls := trivial

end Attempt
end StorageFleet
