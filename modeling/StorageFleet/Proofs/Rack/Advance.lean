import Mathlib.Data.Finset.Lattice.Fold
import StorageFleet.Proofs.Rack.Concert
import StorageFleet.Proofs.Rack.Selection

/-!
# Plans that only add

Some plans do nothing to a rack but add to it: what they add is still there whatever else is added,
and adding it twice is adding it once.  Then the racks that can occur are the values of a function
`world` on a semilattice, in which `s ⊔ gain` is what is there after `gain` was added.

`Plan.Advances` is a precondition in this sense.  It says of a plan that knows of some additions,
and may find any others, that no call adds more than a bound, and what holds of the result in the
end.  `Plan.Advances.bind` composes plans, and `Plan.Advances.exec` is about a plan that runs alone.
In a concert of such plans it does not matter who is first: `Concert.Advancing` holds at every point
of every schedule (`Advancing.step`, `Advancing.run`), and once all plans are done, exactly what
they were bound to add is there (`Advancing.eq_of_finished`).

A search is such a plan that adds nothing.  It asks for filesystems only to learn whether they are
there, so it is not disturbed by what changes about them: `Plan.Probing`.
-/

namespace StorageFleet

variable {σ α β : Type} [SemilatticeSup σ] [OrderBot σ] {world : σ → Rack} {bound known s : σ}
  {post : α → σ → Prop} {plan : Plan α}

/-! ## One plan -/

namespace Plan

/-- Wherever at least `known` was added, each call of the plan adds at most `bound`, and `post`
holds of its result and of what it knows in the end. -/
def Advances (world : σ → Rack) (bound : σ) (post : α → σ → Prop) : Plan α → σ → Prop
  | .done result, known => post result known
  | .warn _ next, known => next.Advances world bound post known
  | .call appliance asked next, known => ∀ s, known ≤ s → ∃ gain, gain ≤ bound ∧
      ((world s).answer appliance asked).2 = world (s ⊔ gain) ∧
      (next ((world s).answer appliance asked).1).Advances world bound post (s ⊔ gain)

namespace Advances

omit [OrderBot σ] in
lemma bind {next : α → Plan β} {values : β → σ → Prop} (h : plan.Advances world bound post known)
    (hnext : ∀ result k, post result k → (next result).Advances world bound values k) :
    (plan.bind next).Advances world bound values known := by
  induction plan generalizing known with
  | done result => exact hnext result known h
  | warn line rest ih => exact ih h
  | call appliance asked rest ih =>
    intro s hs
    obtain ⟨gain, hgain, hrack, hrest⟩ := h s hs
    exact ⟨gain, hgain, hrack, ih _ hrest⟩

omit [OrderBot σ] in
/-- A plan that runs alone. -/
lemma exec (h : plan.Advances world bound post known) (hs : known ≤ s) :
    ∃ k, post (plan.exec (world s)).1 k := by
  induction plan generalizing known s with
  | done result => exact ⟨known, h⟩
  | warn line rest ih => exact ih h hs
  | call appliance asked rest ih =>
    obtain ⟨gain, -, hrack, hrest⟩ := h s hs
    rw [Plan.exec, hrack]
    exact ih _ hrest le_rfl

end Advances
end Plan

namespace Attempt

variable {appliance : ApplianceRef} {call : Call} {post : Except Fault β → σ → Prop}

omit [OrderBot σ] in
/-- An attempt that begins with a call. -/
lemma advances_ask_bind {next : call.Answer → Attempt β}
    (h : ∀ s, known ≤ s → ∃ gain outcome, gain ≤ bound ∧
      (world s).answer appliance call = (outcome, world (s ⊔ gain)) ∧
      (andThen next outcome).Advances world bound post (s ⊔ gain)) :
    (ask appliance call >>= next).run.Advances world bound post known := by
  rw [run_bind]
  intro s hs
  obtain ⟨gain, outcome, hgain, hanswer, hnext⟩ := h s hs
  rw [hanswer]
  exact ⟨gain, hgain, rfl, hnext⟩

omit [OrderBot σ] in
lemma advances_ask_outcome_bind {next : Except Fault call.Answer → Attempt β}
    (h : ∀ s, known ≤ s → ∃ gain outcome, gain ≤ bound ∧
      (world s).answer appliance call = (outcome, world (s ⊔ gain)) ∧
      (next outcome).run.Advances world bound post (s ⊔ gain)) :
    ((ask appliance call).outcome >>= next).run.Advances world bound post known := by
  rw [run_outcome_bind]
  intro s hs
  obtain ⟨gain, outcome, hgain, hanswer, hnext⟩ := h s hs
  rw [hanswer]
  exact ⟨gain, hgain, rfl, hnext⟩

end Attempt

/-! ## Searches -/

/-- The plan asks for filesystems, and only to learn whether they are there. -/
inductive Plan.Probing {α : Type} : Plan α → Prop where
  | done (result : α) : Probing (.done result)
  | warn {line next} (rest : Probing next) : Probing (.warn line next)
  | call {appliance path next} (same : ∀ fs fs', next (.ok fs) = next (.ok fs'))
      (rest : ∀ outcome, Probing (next outcome)) :
      Probing (.call appliance (.getFilesystem path) next)

namespace Plan.Probing

lemma bind {next : α → Plan β} (h : plan.Probing) (hnext : ∀ result, (next result).Probing) :
    (plan.bind next).Probing := by
  induction h with
  | done result => exact hnext result
  | warn _ ih => exact .warn ih
  | call same _ ih => exact .call (fun fs fs' => by rw [same fs fs']) ih

/-- Where the same filesystems are there in all worlds, it finds the same, and adds nothing. -/
lemma advances {rack : Rack} (h : plan.Probing)
    (alike : ∀ s path appliance, ((world s).probe path appliance).map (fun _ => ()) =
      (rack.probe path appliance).map fun _ => ()) (bound known : σ) :
    plan.Advances world bound (fun found _ => found = (plan.exec rack).1) known := by
  induction h generalizing known with
  | done result => rfl
  | warn _ ih => exact ih known
  | @call appliance path next same rest ih =>
    intro s _
    refine ⟨⊥, bot_le, by rw [Rack.answer_getFilesystem, sup_bot_eq], ?_⟩
    rw [Plan.exec, Rack.answer_getFilesystem, Rack.answer_getFilesystem]
    have hlook := alike s path appliance
    cases hhere : rack.probe path appliance with
    | error fault =>
      cases hthere : (world s).probe path appliance with
      | error fault' =>
        rw [hhere, hthere] at hlook
        cases hlook
        exact ih _ _
      | ok fs =>
        rw [hhere, hthere] at hlook
        cases hlook
    | ok fs =>
      cases hthere : (world s).probe path appliance with
      | error fault' =>
        rw [hhere, hthere] at hlook
        cases hlook
      | ok fs' =>
        dsimp only
        rw [same fs' fs]
        exact ih _ _

end Plan.Probing

namespace Attempt

lemma probing_bind {attempt : Attempt α} {next : α → Attempt β} (h : attempt.run.Probing)
    (hnext : ∀ value, (next value).run.Probing) : (attempt >>= next).run.Probing := by
  rw [run_bind]
  refine h.bind fun outcome => ?_
  cases outcome with
  | ok value => exact hnext value
  | error fault => exact .done _

lemma probing_outcome_bind {attempt : Attempt α} {next : Except Fault α → Attempt β}
    (h : attempt.run.Probing) (hnext : ∀ outcome, (next outcome).run.Probing) :
    (attempt.outcome >>= next).run.Probing := by
  rw [run_outcome_bind]
  exact h.bind hnext

end Attempt

lemma Backend.probing_locateAmong (path : String) (last : Fault) (appliances : List ApplianceRef) :
    (locateAmong path last appliances).run.Probing := by
  induction appliances generalizing last with
  | nil => exact .done _
  | cons appliance rest ih =>
    unfold locateAmong
    rw [Attempt.run_outcome_bind]
    refine .call (fun _ _ => rfl) fun outcome => ?_
    cases outcome with
    | ok fs => exact .done _
    | error fault => exact ih fault

lemma Backend.probing_locate (backend : Backend) (path : String) :
    (backend.locate path).run.Probing := by
  unfold locate
  split_ifs
  · exact .done _
  · refine Attempt.probing_outcome_bind (probing_locateAmong _ _ _) fun outcome => ?_
    cases outcome <;> exact .done _

namespace Fleet

lemma probing_selectOn (backend : Backend) (path : Option String) :
    (selectOn backend path).run.Probing :=
  Attempt.probing_bind (.done _) fun _ =>
    Attempt.probing_bind (backend.probing_locate _) fun _ => .done _

lemma probing_selectAmong (zone path : Option String) (last : Option Fault) (skipped : List String)
    (backends : List Backend) : (selectAmong zone path last skipped backends).run.Probing := by
  induction backends generalizing last skipped with
  | nil => exact .done _
  | cons backend rest ih =>
    unfold selectAmong
    split_ifs
    · exact ih _ _
    · cases backend.datasetOrDefault path with
      | error fault => exact ih _ _
      | ok dataset =>
        refine Attempt.probing_outcome_bind (backend.probing_locate dataset) fun outcome => ?_
        cases outcome with
        | ok appliance => exact .done _
        | error fault => exact ih _ _

/-- A search only probes. -/
theorem probing_select (fleet : Fleet) (name zone path : Option String) :
    (fleet.select name zone path).run.Probing := by
  unfold select
  split
  · unfold selectNamed
    split
    · exact .done _
    · split
      · exact .done _
      · exact probing_selectOn _ path
  · exact probing_selectAmong _ _ _ _ _

end Fleet

/-! ## Plans side by side -/

namespace Concert

variable {ι : Type} {goal : ι → σ} {holds : ι → α → Prop} {concert : Concert ι α} {i : ι}

/-- What was added is `s`; each plan knows of part of it, and is bound to add its goal and to have
a result of which something holds. -/
structure Advancing [Fintype ι] (world : σ → Rack) (goal : ι → σ) (holds : ι → α → Prop)
    (concert : Concert ι α) (s : σ) : Prop where
  rack_eq : concert.rack = world s
  le : s ≤ Finset.univ.sup goal
  plans : ∀ i, ∃ known, known ≤ s ∧ (concert.plans i).Advances world (goal i)
    (fun result k => holds i result ∧ goal i ≤ k) known

variable [Fintype ι]

/-- Whose plan is done has added its goal. -/
lemma Advancing.of_done (h : concert.Advancing world goal holds s) {result : α}
    (hdone : concert.plans i = .done result) : holds i result ∧ goal i ≤ s := by
  obtain ⟨known, hknown, hplan⟩ := h.plans i
  rw [hdone] at hplan
  exact ⟨hplan.1, hplan.2.trans hknown⟩

/-- Once all are done, what they had to add was added, and nothing else. -/
theorem Advancing.eq_of_finished (h : concert.Advancing world goal holds s)
    (finished : ∀ i, ∃ result, concert.plans i = .done result) : s = Finset.univ.sup goal := by
  refine le_antisymm h.le (Finset.sup_le fun i _ => ?_)
  obtain ⟨result, hdone⟩ := finished i
  exact (h.of_done hdone).2

variable [DecidableEq ι]

/-- A step adds no more than the goal of the plan that goes on. -/
theorem Advancing.step (h : concert.Advancing world goal holds s) (i : ι) :
    ∃ gain, gain ≤ goal i ∧ (concert.step i).Advancing world goal holds (s ⊔ gain) := by
  -- the others know what they knew, and there is no less of it
  have hothers : ∀ (gain : σ) (plan : Plan α), (∃ known, known ≤ s ⊔ gain ∧
      plan.Advances world (goal i) (fun result k => holds i result ∧ goal i ≤ k) known) →
      ∀ j, ∃ known, known ≤ s ⊔ gain ∧ (Function.update concert.plans i plan j).Advances world
        (goal j) (fun result k => holds j result ∧ goal j ≤ k) known := by
    intro gain plan hplan j
    by_cases hj : j = i
    · subst hj
      rw [Function.update_self]
      exact hplan
    · obtain ⟨known, hknown, hold⟩ := h.plans j
      rw [Function.update_of_ne hj]
      exact ⟨known, hknown.trans le_sup_left, hold⟩
  obtain ⟨known, hknown, hplan⟩ := h.plans i
  unfold Concert.step
  cases heq : concert.plans i with
  | done result =>
    refine ⟨⊥, bot_le, ?_⟩
    rw [sup_bot_eq]
    exact h
  | warn line next =>
    rw [heq] at hplan
    have hnext := hothers ⊥ next ⟨known, hknown.trans le_sup_left, hplan⟩
    rw [sup_bot_eq] at hnext
    refine ⟨⊥, bot_le, ?_⟩
    rw [sup_bot_eq]
    exact ⟨h.rack_eq, h.le, hnext⟩
  | call appliance asked next =>
    rw [heq] at hplan
    obtain ⟨gain, hgain, hrack, hnext⟩ := hplan s hknown
    refine ⟨gain, hgain, ?_, ?_, ?_⟩
    · rw [h.rack_eq]
      exact hrack
    · exact sup_le h.le (hgain.trans (Finset.le_sup (Finset.mem_univ i)))
    · rw [h.rack_eq]
      exact hothers gain _ ⟨_, le_rfl, hnext⟩

/-- A whole run. -/
theorem Advancing.run (h : concert.Advancing world goal holds s) (schedule : List ι) :
    ∃ s, (concert.run schedule).Advancing world goal holds s := by
  induction schedule generalizing concert s with
  | nil => exact ⟨s, h⟩
  | cons i rest ih =>
    obtain ⟨gain, -, hstep⟩ := h.step i
    exact ih hstep

/-- A plan without a goal changes nothing. -/
lemma Advancing.step_rack_of_bot (h : concert.Advancing world goal holds s) (hgoal : goal i = ⊥) :
    (concert.step i).rack = concert.rack := by
  obtain ⟨gain, hgain, hstep⟩ := h.step i
  rw [hgoal, le_bot_iff] at hgain
  rw [hstep.rack_eq, hgain, sup_bot_eq, h.rack_eq]

end Concert
end StorageFleet
