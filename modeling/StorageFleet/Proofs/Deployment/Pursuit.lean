import StorageFleet.Proofs.Deployment.Cancellation
import StorageFleet.Proofs.Deployment.Publication

/-!
# Threads that follow a plan

An operation makes plans, and each of them becomes the task of a thread.  Over a network the task
has many steps for each call of the plan, other threads do theirs in between, and a time limit may
cut some of them short.  Still the thread does what the plan says.  `Thread.Follows` tells at any
time how far it has come: which calls of the plan have been answered, with which outcomes, and what
is left of the plan.  The outcomes are those that the appliances gave on the way (`Deployment.Hears`).
Every move keeps this (`Follows.step`), and whatever is done at a station is done for a call of the
plan to the appliance there (`Plan.Visits`).

So each result of a thread is one that the plan has in some transcript, and the thread has been at
no stations but those of the appliances asked in it (`Follows.result`).  `Scene.Leads.follows` says
this for all threads of a job along every course of steps, whatever other jobs do.
-/

namespace StorageFleet

/-! ## Threads that go on -/

namespace Thread

variable {d d' : Deployment} {deed : Option (Nat × Deed)}

/-- A thread whose task goes on with `next`. -/
def bind (thread : Thread α) (next : α → Task β) : Thread β where
  id := thread.id
  task := thread.task.bind next
  wait := thread.wait
  limit := thread.limit.map fun limit => (limit.1, limit.2.bind next)

/-- A thread that goes on with `next` moves as it would alone, until its first task is done. -/
lemma Moves.of_bind {thread : Thread α} {next : α → Task β} {after : Thread β}
    (undone : ∀ result, thread.task ≠ .done result)
    (h : (thread.bind next).Moves d deed d' after) :
    ∃ inner, thread.Moves d deed d' inner ∧ after = inner.bind next := by
  obtain ⟨id, task, wait, limit⟩ := thread
  have hresult : (⟨id, task, wait, limit⟩ : Thread α).result? = none := by
    unfold result?
    split
    · next result _ htask _ => exact (undone _ htask).elim
    · rfl
  cases limit with
  | none =>
    cases task with
    | done result => exact (undone result rfl).elim
    | _ =>
      cases h
      all_goals exact ⟨_, by constructor <;> assumption, by rfl⟩
  | some limit =>
    cases task with
    | done result => exact (undone result rfl).elim
    | _ =>
      cases h
      case lapses => exact ⟨_, .lapses hresult ‹_›, rfl⟩
      all_goals exact ⟨_, by constructor <;> assumption, by rfl⟩

/-- The thread has its time limits in order: when its task is done there is none. -/
structure Tidy (thread : Thread α) : Prop where
  task : thread.task.Tidy false thread.limit.isSome
  late : ∀ limit, thread.limit = some limit → limit.2.Tidy false false

lemma Moves.tidy {thread thread' : Thread α} (h : thread.Moves d deed d' thread')
    (htidy : thread.Tidy) : thread'.Tidy := by
  obtain ⟨htask, hlate⟩ := htidy
  cases h with
  | performs | sends | reads => exact ⟨htask _, hlate⟩
  | limits =>
    refine ⟨htask.2, ?_⟩
    rintro _ ⟨⟩
    exact htask.1
  | unlimits => exact ⟨htask, by simp⟩
  | done => exact ⟨rfl, by simp⟩
  | lapses => exact ⟨hlate _ rfl, by simp⟩
  | _ => exact ⟨htask, hlate⟩

end Thread

/-! ## How far a thread has come -/

namespace Deployment

variable {appliance : ApplianceRef} {asked : Call}

/-- An appliance in memory is called at once. -/
lemma task_call_of_none (d : Deployment) (h : d.connected? appliance.id = none)
    (next : asked.Outcome → Plan α) : d.task (.call appliance asked next) =
      .perform appliance asked fun outcome => d.task (next outcome) := by
  rw [task, Plan.toTask, carryOut, h]
  rfl

/-- A call over a network is what the client of the appliance makes of it. -/
lemma task_call_of_some (d : Deployment) {connected : Connected}
    (h : d.connected? appliance.id = some connected) (next : asked.Outcome → Plan α) :
    d.task (.call appliance asked next) =
      (connected.client.answer asked).run.bind fun outcome => d.task (next outcome) := by
  rw [task, Plan.toTask, carryOut, h]
  rfl

end Deployment

/-- The thread moves from one to the other, each time on a deployment as it was then. -/
inductive Thread.Wanders (passed : Deployment → Prop) (first : Thread α) : Thread α → Prop where
  | here : Wanders passed first first
  | step {between d deed d' thread} (h : Wanders passed first between) (hpassed : passed d)
      (hmoves : between.Moves d deed d' thread) : Wanders passed first thread

/-- The call was answered so while the deployment passed through these states. -/
inductive Deployment.Hears (start : Deployment) (passed : Deployment → Prop) : Asked → Prop where
  /-- An appliance in memory answers at once. -/
  | memory {appliance call d} (hstation : start.connected? appliance.id = none)
      (hpassed : passed d) : Hears start passed ⟨appliance, call, (d.perform appliance call).1⟩
  /-- Over a network, the answer is what the client of the appliance makes of the call. -/
  | network {appliance call connected id thread outcome}
      (hstation : start.connected? appliance.id = some connected)
      (hwanders : Thread.Wanders passed ⟨id, (connected.client.answer call).run, .nothing, none⟩
        thread)
      (hdone : thread.task = .done outcome) : Hears start passed ⟨appliance, call, outcome⟩

/-- A client that has nothing to do for a call answers it at once. -/
lemma Deployment.hears_of_done {start : Deployment} {appliance : ApplianceRef} {call : Call}
    {connected : Connected} {outcome : call.Outcome} (passed : Deployment → Prop)
    (hstation : start.connected? appliance.id = some connected)
    (hanswer : (connected.client.answer call).run = .done outcome) :
    start.Hears passed ⟨appliance, call, outcome⟩ :=
  .network hstation (.here : Thread.Wanders passed
    ⟨0, (connected.client.answer call).run, .nothing, none⟩ _) hanswer

/-- What is left of a plan after these calls have been answered. -/
def Plan.Leaves (plan : Plan α) (said : List Asked) (rest : Plan α) : Prop :=
  ∀ later result, rest.Transcript later result → plan.Transcript (said ++ later) result

/-- The station belongs to an appliance that has been asked, or is asked next. -/
def Plan.Visits (said : List Asked) (rest : Plan α) (station : Nat) : Prop :=
  (∃ asked ∈ said, asked.appliance.id = station) ∨
    ∃ appliance call next, rest = .call appliance call next ∧ appliance.id = station

namespace Plan

variable {plan rest later : Plan α} {said : List Asked} {appliance : ApplianceRef} {asked : Call}
  {next : asked.Outcome → Plan α} {station : Nat}

lemma leaves_self (plan : Plan α) : plan.Leaves [] plan :=
  fun _ _ h => h

lemma Leaves.warned {line : String} (h : plan.Leaves said (.warn line rest)) :
    plan.Leaves said rest :=
  fun later result hlater => h later result (.warn hlater)

lemma Leaves.answered (h : plan.Leaves said (.call appliance asked next))
    (outcome : asked.Outcome) :
    plan.Leaves (said ++ [⟨appliance, asked, outcome⟩]) (next outcome) := by
  intro later result hlater
  have hwhole := h _ result (.call outcome hlater)
  rwa [List.append_assoc]

lemma Visits.warned {line : String} (h : Visits said (.warn line rest) station) :
    Visits said rest station := by
  rcases h with hsaid | ⟨_, _, _, hnext, -⟩
  · exact .inl hsaid
  · cases hnext

lemma Visits.answered (h : Visits said (.call appliance asked next) station)
    (outcome : asked.Outcome) : Visits (said ++ [⟨appliance, asked, outcome⟩]) later station := by
  left
  rcases h with ⟨found, hfound, hstation⟩ | ⟨_, _, _, hnext, hstation⟩
  · exact ⟨found, List.mem_append_left _ hfound, hstation⟩
  · cases hnext
    exact ⟨_, List.mem_append_right _ (List.mem_singleton_self _), hstation⟩

end Plan

namespace Thread

variable {start d d' : Deployment} {passed : Deployment → Prop} {deed : Option (Nat × Deed)}
  {plan rest : Plan α} {said : List Asked} {thread thread' : Thread α}

/-- Where a thread can be that has this plan before it: it has not begun with it yet, or it has begun
with the first call and the client is busy. -/
inductive Faces (start : Deployment) (passed : Deployment → Prop) (said : List Asked) :
    Plan α → Thread α → Prop where
  | fresh {plan id wait} (lock : ∀ station, wait = .lock station →
      ∃ asked ∈ said, asked.appliance.id = station) :
      Faces start passed said plan ⟨id, start.task plan, wait, none⟩
  | busy {appliance call next connected id} {inner : Thread call.Outcome}
      (station : start.connected? appliance.id = some connected)
      (wanders : Wanders passed ⟨id, (connected.client.answer call).run, .nothing, none⟩ inner)
      (tidy : inner.Tidy) (stays : inner.Ensures (· = appliance.id) fun _ => True) :
      Faces start passed said (.call appliance call next)
        (inner.bind fun outcome => start.task (next outcome))

/-- The thread carries out `plan`.  The calls `said` have been answered, and `rest` is left. -/
structure Follows (start : Deployment) (passed : Deployment → Prop) (plan : Plan α)
    (said : List Asked) (rest : Plan α) (thread : Thread α) : Prop where
  leaves : plan.Leaves said rest
  heard : ∀ asked ∈ said, start.Hears passed asked
  faces : thread.Faces start passed said rest

/-- What becomes of a thread that carries out a plan. -/
def Proceeds (start : Deployment) (passed : Deployment → Prop) (plan : Plan α) (said : List Asked)
    (rest : Plan α) (deed : Option (Nat × Deed)) (thread' : Thread α) : Prop :=
  ∃ said' rest', thread'.Follows start passed plan said' rest' ∧
    (∀ station, Plan.Visits said rest station → Plan.Visits said' rest' station) ∧
    ∀ done ∈ deed, Plan.Visits said' rest' done.1

/-- The client of an appliance stays at its station. -/
lemma ensures_answer (hwired : start.Wired) {appliance : ApplianceRef} {connected : Connected}
    (hstation : start.connected? appliance.id = some connected) (call : Call) :
    (connected.client.answer call).run.Ensures (· = appliance.id) fun _ => True := by
  have hclient : start.client? appliance.id = some connected.client := by
    rw [Deployment.client?, hstation, Option.map_some]
  refine (connected.client.civil_answer call).ensures ?_ fun _ => False.elim
  rintro _ rfl
  exact hwired _ _ hclient

/-- One more call has been answered. -/
lemma heard_append {asked : Asked} (hheard : ∀ asked ∈ said, start.Hears passed asked)
    (h : start.Hears passed asked) : ∀ found ∈ said ++ [asked], start.Hears passed found := by
  intro found hfound
  rcases List.mem_append.1 hfound with hearlier | hlast
  · exact hheard found hearlier
  · obtain rfl := List.mem_singleton.1 hlast
    exact h

/-- A busy client goes on. -/
lemma Follows.step_busy {appliance : ApplianceRef} {call : Call} {next : call.Outcome → Plan α}
    {connected : Connected} {id : Nat} {inner : Thread call.Outcome}
    (hleaves : plan.Leaves said (.call appliance call next))
    (hheard : ∀ asked ∈ said, start.Hears passed asked)
    (hstation : start.connected? appliance.id = some connected)
    (hwanders : Wanders passed ⟨id, (connected.client.answer call).run, .nothing, none⟩ inner)
    (htidy : inner.Tidy) (hstays : inner.Ensures (· = appliance.id) fun _ => True)
    (hundone : ∀ outcome, inner.task ≠ .done outcome) (hpassed : passed d)
    (hmoves : (inner.bind fun outcome => start.task (next outcome)).Moves d deed d' thread') :
    Proceeds start passed plan said (.call appliance call next) deed thread' := by
  obtain ⟨inner', hinner, rfl⟩ := hmoves.of_bind hundone
  obtain ⟨hstays', hdone⟩ := hinner.ensures hstays
  refine ⟨said, _, ⟨hleaves, hheard, .busy hstation (hwanders.step hpassed hinner)
    (hinner.tidy htidy) hstays'⟩, fun _ h => h, ?_⟩
  intro done hmem
  exact .inr ⟨appliance, call, next, rfl, (hdone done hmem).symm⟩

/-- A thread that waits goes on as it is. -/
lemma Moves.of_waiting {id : Nat} {task : Task α} {wait : Wait}
    (h : (⟨id, task, wait, none⟩ : Thread α).Moves d deed d' thread') (hwait : wait ≠ .nothing) :
    thread' = ⟨id, task, .nothing, none⟩ ∧ ∀ done ∈ deed, wait = .lock done.1 := by
  cases h with
  | wakes | obtains => exact ⟨rfl, by simp⟩
  | _ => exact absurd rfl hwait

/-- A thread that has not begun with what is left of its plan goes on with it. -/
lemma Follows.step_fresh (hwired : start.Wired) {id : Nat} {wait : Wait}
    (hleaves : plan.Leaves said rest) (hheard : ∀ asked ∈ said, start.Hears passed asked)
    (hlock : ∀ station, wait = .lock station → ∃ asked ∈ said, asked.appliance.id = station)
    (hpassed : passed d)
    (hmoves : (⟨id, start.task rest, wait, none⟩ : Thread α).Moves d deed d' thread') :
    Proceeds start passed plan said rest deed thread' := by
  by_cases hwait : wait = .nothing
  · subst hwait
    have hnone : ∀ {said : List Asked} (station : Nat), Wait.nothing = .lock station →
        ∃ asked ∈ said, asked.appliance.id = station := fun _ h => nomatch h
    induction rest generalizing said with
    | done result =>
      cases hmoves with
      | done => exact ⟨said, _, ⟨hleaves, hheard, .fresh hnone⟩, fun _ h => h, by simp⟩
    | warn line rest =>
      cases hmoves with
      | warns =>
        exact ⟨said, rest, ⟨hleaves.warned, hheard, .fresh hnone⟩, fun _ h => h.warned, by simp⟩
    | call appliance asked next ih =>
      cases hstation : start.connected? appliance.id with
      | none =>
        rw [start.task_call_of_none hstation] at hmoves
        cases hmoves with
        | performs =>
          refine ⟨_, _, ⟨hleaves.answered _, heard_append hheard (.memory hstation hpassed),
            .fresh hnone⟩, fun _ h => h.answered _, ?_⟩
          intro done hdone
          obtain rfl := Option.mem_some_iff.1 hdone
          exact .inl ⟨_, List.mem_append_right _ (List.mem_singleton_self _), rfl⟩
      | some connected =>
        rw [start.task_call_of_some hstation] at hmoves
        have hstays := ensures_answer hwired hstation asked
        have htidy := connected.client.tidy_answer asked
        by_cases hdone : ∃ outcome, (connected.client.answer asked).run = .done outcome
        · -- there was nothing to do for the call
          obtain ⟨outcome, hanswer⟩ := hdone
          rw [hanswer] at hmoves
          obtain ⟨said', rest', hfollows, hvisits, hdeed⟩ :=
            ih outcome (hleaves.answered outcome)
              (heard_append hheard (start.hears_of_done passed hstation hanswer)) hnone hmoves
          exact ⟨said', rest', hfollows, fun _ h => hvisits _ (h.answered outcome), hdeed⟩
        · push Not at hdone
          have hinner : (⟨id, (connected.client.answer asked).run, .nothing, none⟩ :
              Thread asked.Outcome).Tidy := ⟨htidy, fun _ h => nomatch h⟩
          exact Follows.step_busy hleaves hheard hstation .here hinner
            ⟨hstays, (fun _ h => nomatch h), fun _ h => nomatch h⟩ hdone hpassed hmoves
  · obtain ⟨rfl, hdeed⟩ := hmoves.of_waiting hwait
    refine ⟨said, rest, ⟨hleaves, hheard, .fresh fun _ h => nomatch h⟩, fun _ h => h, ?_⟩
    intro done hdone
    exact .inl (hlock done.1 (hdeed done hdone))

/-- A thread that carries out a plan does so with every move, and what it does at a station it does
for a call to the appliance there. -/
theorem Follows.step (hwired : start.Wired) (h : thread.Follows start passed plan said rest)
    (hpassed : passed d) (hmoves : thread.Moves d deed d' thread') :
    Proceeds start passed plan said rest deed thread' := by
  obtain ⟨hleaves, hheard, hfaces⟩ := h
  cases hfaces with
  | fresh hlock => exact step_fresh hwired hleaves hheard hlock hpassed hmoves
  | @busy appliance asked next connected _ inner hstation hwanders htidy hstays =>
    by_cases hdone : ∃ outcome, inner.task = .done outcome
    · obtain ⟨outcome, htask⟩ := hdone
      have hanswered := Deployment.Hears.network hstation hwanders htask
      obtain ⟨id, task, wait, limit⟩ := inner
      obtain rfl : task = .done outcome := htask
      have hlimit : limit = none := by
        have htask := htidy.task
        simpa [Task.Tidy] using htask
      subst hlimit
      have hlock : ∀ station, wait = .lock station →
          ∃ found ∈ said ++ [⟨appliance, asked, outcome⟩], found.appliance.id = station := by
        intro station hwait
        exact ⟨_, List.mem_append_right _ (List.mem_singleton_self _),
          (hstays.lock station hwait).symm⟩
      obtain ⟨said', rest', hfollows, hvisits, hdeed⟩ := step_fresh hwired
        (hleaves.answered outcome) (heard_append hheard hanswered) hlock hpassed hmoves
      exact ⟨said', rest', hfollows, fun _ h => hvisits _ (h.answered outcome), hdeed⟩
    · push Not at hdone
      exact step_busy hleaves hheard hstation hwanders htidy hstays hdone hpassed hmoves

lemma task_of_result? {result : α} (h : thread.result? = some result) :
    thread.task = .done result := by
  unfold result? at h
  split at h
  · next found _ htask _ =>
    obtain rfl := Option.some.inj h
    exact htask
  · cases h

/-- The results of several threads are theirs, one by one. -/
lemma results_of_mapM {threads : List (Thread α)} {parts : List α}
    (h : threads.mapM Thread.result? = some parts) :
    parts.length = threads.length ∧ ∀ (k : Nat) (part : α), parts[k]? = some part →
      ∃ thread : Thread α, threads[k]? = some thread ∧ thread.result? = some part := by
  induction threads generalizing parts with
  | nil =>
    obtain rfl : parts = [] := by simpa using h.symm
    simp
  | cons first rest ih =>
    simp only [List.mapM_cons, Option.bind_eq_bind, Option.bind_eq_some_iff, Option.pure_def,
      Option.some.injEq] at h
    obtain ⟨result, hfirst, others, hothers, rfl⟩ := h
    obtain ⟨hlength, hresults⟩ := ih hothers
    refine ⟨by simp [hlength], fun k part hpart => ?_⟩
    cases k with
    | zero =>
      obtain rfl : result = part := by simpa using hpart
      exact ⟨first, rfl, hfirst⟩
    | succ k => exact hresults k part hpart

/-- What a task gives at once is what its plan comes to. -/
lemma exists_transcript_of_done {result : α} (passed : Deployment → Prop)
    (h : start.task rest = .done result) :
    ∃ later, rest.Transcript later result ∧ ∀ asked ∈ later, start.Hears passed asked := by
  induction rest with
  | done found =>
    obtain rfl : found = result := Task.done.inj h
    exact ⟨[], .done, by simp⟩
  | warn line rest => cases h
  | call appliance asked next ih =>
    cases hstation : start.connected? appliance.id with
    | none =>
      rw [start.task_call_of_none hstation] at h
      cases h
    | some connected =>
      rw [start.task_call_of_some hstation] at h
      cases hanswer : (connected.client.answer asked).run with
      | done outcome =>
        rw [hanswer] at h
        obtain ⟨later, hlater, hheard⟩ := ih outcome h
        exact ⟨_, .call outcome hlater, List.forall_mem_cons.2
          ⟨start.hears_of_done passed hstation hanswer, hheard⟩⟩
      | _ =>
        rw [hanswer] at h
        cases h

/-- The result of a thread is what its plan comes to in some transcript.  The calls there were
answered so on the way, and all stations that the thread has been at belong to appliances that are
asked there. -/
theorem Follows.result {result : α} (h : thread.Follows start passed plan said rest)
    (hresult : thread.result? = some result) :
    ∃ all, plan.Transcript all result ∧ (∀ asked ∈ all, start.Hears passed asked) ∧
      ∀ station, Plan.Visits said rest station → ∃ asked ∈ all, asked.appliance.id = station := by
  obtain ⟨hleaves, hheard, hfaces⟩ := h
  have hends : ∃ later, rest.Transcript later result ∧
      ∀ asked ∈ later, start.Hears passed asked := by
    have htask := task_of_result? hresult
    cases hfaces with
    | fresh => exact exists_transcript_of_done passed htask
    | @busy appliance asked next connected id inner hstation hwanders _ _ =>
      cases hinner : inner.task with
      | done outcome =>
        have hgoes : start.task (next outcome) = .done result := by
          rwa [bind, hinner] at htask
        obtain ⟨later, hlater, hanswered⟩ := exists_transcript_of_done passed hgoes
        exact ⟨_, .call outcome hlater, List.forall_mem_cons.2
          ⟨.network hstation hwanders hinner, hanswered⟩⟩
      | _ =>
        rw [bind, hinner] at htask
        cases htask
  obtain ⟨later, hlater, hanswered⟩ := hends
  refine ⟨said ++ later, hleaves later result hlater, ?_, ?_⟩
  · intro asked hasked
    exact (List.mem_append.1 hasked).elim (hheard asked) (hanswered asked)
  · rintro station (⟨asked, hasked, hstation⟩ | ⟨appliance, asked, next, rfl, hstation⟩)
    · exact ⟨asked, List.mem_append_left _ hasked, hstation⟩
    · cases hlater with
      | call outcome =>
        exact ⟨_, List.mem_append_right _ List.mem_cons_self, hstation⟩

end Thread

/-! ## The threads of a job -/

/-- Each thread follows its branch, the branches in order, and what it has done so far it has done
for calls of that branch. -/
def Progress.Follows {work : Work} (start : Deployment) (passed : Deployment → Prop)
    (branches : List (Plan work.Part)) (i : Nat) (entries : List Entry) : Progress work → Prop
  | .waiting => False
  | .running threads => threads.length = branches.length ∧
      (∀ done ∈ entries, done.job = i →
        ∃ k, k < branches.length ∧ done.thread = start.nextThread + k) ∧
      ∀ k thread branch, threads[k]? = some thread → branches[k]? = some branch →
        thread.id = start.nextThread + k ∧
        ∃ said rest, thread.Follows start passed branch said rest ∧
          ∀ done ∈ entries, done.job = i → done.thread = thread.id →
            Plan.Visits said rest done.station
  | .finished .. => True

lemma Progress.Follows.of_others {work : Work} {start : Deployment} {passed : Deployment → Prop}
    {branches : List (Plan work.Part)} {i : Nat} {entries others : List Entry}
    {progress : Progress work} (h : progress.Follows start passed branches i entries)
    (hothers : ∀ done ∈ others, done.job = i → done ∈ entries) :
    progress.Follows start passed branches i others := by
  cases progress with
  | waiting => exact h
  | finished => trivial
  | running threads =>
    obtain ⟨hlength, hthreads, hfollows⟩ := h
    refine ⟨hlength, fun done hmem hdone => hthreads done (hothers done hmem hdone) hdone, ?_⟩
    intro k thread branch hthread hbranch
    obtain ⟨hid, said, rest, hthreadFollows, hvisited⟩ := hfollows k thread branch hthread hbranch
    refine ⟨hid, said, rest, hthreadFollows, fun done hmem hdone => ?_⟩
    exact hvisited done (hothers done hmem hdone) hdone

/-- What the branches of a job have found, and what was done for it. -/
structure Gathers (start : Deployment) (passed : Deployment → Prop) (branches : List (Plan α))
    (i : Nat) (entries : List Entry) (parts : List α) : Prop where
  length_eq : parts.length = branches.length
  /-- Each part is the result of its branch in some transcript.  The calls there were answered so on the
  way, and the thread of the branch has been at no stations but those of the appliances asked. -/
  part : ∀ k branch part, branches[k]? = some branch → parts[k]? = some part →
    ∃ said, branch.Transcript said part ∧ (∀ asked ∈ said, start.Hears passed asked) ∧
      ∀ done ∈ entries, done.job = i → done.thread = start.nextThread + k →
        ∃ asked ∈ said, asked.appliance.id = done.station
  /-- There are no other threads. -/
  thread : ∀ done ∈ entries, done.job = i →
    ∃ k, k < branches.length ∧ done.thread = start.nextThread + k

namespace Scene

variable {scene begun before later after : Scene} {entry : Option Entry} {entries : List Entry}
  {i : Nat} {job : Job} {start : Deployment} {passed : Deployment → Prop}

/-- The states of the deployment on a course. -/
def Passes (scene : Scene) (entries : List Entry) (later : Scene) (d : Deployment) : Prop :=
  ∃ between earlier rest, scene.Leads earlier between ∧ between.Leads rest later ∧
    entries = earlier ++ rest ∧ between.deployment = d

lemma Leads.passes (h : scene.Leads entries later) :
    scene.Passes entries later later.deployment :=
  ⟨later, entries, [], h, .here, (List.append_nil _).symm, rfl⟩

lemma Passes.step {d : Deployment} (h : scene.Passes entries before d)
    (hnext : before.Next entry after) : scene.Passes (entries ++ entry.toList) after d := by
  obtain ⟨between, earlier, rest, hearlier, hrest, rfl, hd⟩ := h
  exact ⟨between, earlier, rest ++ entry.toList, hearlier, hrest.step hnext,
    List.append_assoc .., hd⟩

lemma Begins.follows (h : scene.Begins i job begun) {branches : List (Plan job.work.Part)}
    (hbegin : job.work.begin scene.deployment =
      (scene.deployment, branches.map scene.deployment.task)) :
    begun.Tracks i job.work (Progress.Follows scene.deployment passed branches i []) := by
  obtain ⟨hjob, -, -, -, rfl⟩ := h
  refine ⟨job.cancelled, job.cancelAt, _,
    List.getElem?_set_self (List.getElem?_eq_some_iff.1 hjob).1, ?_⟩
  rw [hbegin]
  refine ⟨by simp [Job.startThreads], by simp, fun k thread branch hthread hbranch => ?_⟩
  simp only [Job.startThreads, List.getElem?_mapIdx, List.getElem?_map, hbranch, Option.map_some,
    Option.some.injEq] at hthread
  subst hthread
  exact ⟨rfl, [], branch, ⟨branch.leaves_self, by simp, .fresh (by simp)⟩, by simp⟩

lemma Next.follows {work : Work} {branches : List (Plan work.Part)} (hwired : start.Wired)
    (h : Next scene entry later) (hpassed : passed scene.deployment)
    (htracks : scene.Tracks i work (Progress.Follows start passed branches i entries)) :
    later.Tracks i work (Progress.Follows start passed branches i (entries ++ entry.toList)) := by
  obtain ⟨cancelled, cancelAt, progress, hjob, hknown⟩ := htracks
  have hbegun : progress ≠ .waiting := by
    rintro rfl
    exact hknown
  rcases h.of_begun hjob hbegun with ⟨flag, hlater, hentry⟩ |
    ⟨threads, k, thread, deed, thread', rfl, hthread, hmoves, rfl, hlater⟩ |
    ⟨answer, time, hlater, rfl⟩
  · refine ⟨_, _, _, hlater, hknown.of_others fun done hmem hdone => ?_⟩
    rcases List.mem_append.1 hmem with hearlier | hlast
    · exact hearlier
    · exact absurd hdone (hentry done (Option.mem_toList.1 hlast))
  · obtain ⟨hlength, hthreads, hfollows⟩ := hknown
    have hk : k < branches.length := hlength ▸ (List.getElem?_eq_some_iff.1 hthread).1
    obtain ⟨hid, said, rest, hthreadFollows, hvisited⟩ :=
      hfollows k thread branches[k] hthread (List.getElem?_eq_getElem hk)
    obtain ⟨said', rest', hfollows', hvisits, hdeed⟩ := hthreadFollows.step hwired hpassed hmoves
    -- what this step does at a station is done by this thread
    have hentry : ∀ done ∈ (deed.map (Entry.of i thread.id)).toList,
        done.thread = thread.id ∧ Plan.Visits said' rest' done.station := by
      intro done hmem
      obtain ⟨found, hfound, rfl⟩ := Option.map_eq_some_iff.1 (Option.mem_toList.1 hmem)
      exact ⟨rfl, hdeed found hfound⟩
    refine ⟨_, _, _, hlater, by rw [List.length_set, hlength], fun done hmem hdone => ?_, ?_⟩
    · rcases List.mem_append.1 hmem with hearlier | hlast
      · exact hthreads done hearlier hdone
      · exact ⟨k, hk, (hentry done hlast).1.trans hid⟩
    · intro k' thread'' branch hthread'' hbranch
      by_cases hk' : k' = k
      · subst hk'
        rw [List.getElem?_set_self (List.getElem?_eq_some_iff.1 hthread).1] at hthread''
        obtain rfl := Option.some.inj hthread''
        obtain rfl : branches[k'] = branch := by
          rw [List.getElem?_eq_getElem hk] at hbranch
          exact Option.some.inj hbranch
        refine ⟨hmoves.id_eq.trans hid, said', rest', hfollows', fun done hmem hdone hthread => ?_⟩
        rcases List.mem_append.1 hmem with hearlier | hlast
        · exact hvisits _ (hvisited done hearlier hdone (hthread.trans hmoves.id_eq))
        · exact (hentry done hlast).2
      · rw [List.getElem?_set_ne (Ne.symm hk')] at hthread''
        obtain ⟨hid', said'', rest'', hother, hvisited'⟩ :=
          hfollows k' thread'' branch hthread'' hbranch
        refine ⟨hid', said'', rest'', hother, fun done hmem hdone hthread => ?_⟩
        rcases List.mem_append.1 hmem with hearlier | hlast
        · exact hvisited' done hearlier hdone hthread
        · have hsame := (hentry done hlast).1
          omega
  · exact ⟨_, _, _, hlater, trivial⟩

/-- The threads of a job follow their branches along every course whose states are among these. -/
theorem Leads.follows {work : Work} {branches : List (Plan work.Part)} {others : List Entry}
    (hwired : start.Wired) (h : scene.Leads others later)
    (hpassed : ∀ d, scene.Passes others later d → passed d)
    (htracks : scene.Tracks i work (Progress.Follows start passed branches i entries)) :
    later.Tracks i work (Progress.Follows start passed branches i (entries ++ others)) := by
  induction h with
  | here => rwa [List.append_nil]
  | step hleads hnext ih =>
    rw [← List.append_assoc]
    have hearlier := ih fun d hd => hpassed d (hd.step hnext)
    exact hnext.follows hwired (hpassed _ (hleads.passes.step hnext)) hearlier

/-- When all threads are done, the job has what its branches have found. -/
lemma gathers_of_follows {work : Work} {branches : List (Plan work.Part)}
    {threads : List (Thread work.Part)} {parts : List work.Part}
    (h : Progress.Follows start passed branches i entries (.running threads))
    (hparts : threads.mapM Thread.result? = some parts) :
    Gathers start passed branches i entries parts := by
  obtain ⟨hlength, hthreads, hfollows⟩ := h
  obtain ⟨hcount, hresults⟩ := Thread.results_of_mapM hparts
  refine ⟨hcount.trans hlength, fun k branch part hbranch hpart => ?_, hthreads⟩
  obtain ⟨thread, hthread, hresult⟩ := hresults k part hpart
  obtain ⟨hid, said, rest, hthreadFollows, hvisited⟩ := hfollows k thread branch hthread hbranch
  obtain ⟨all, hall, hheard, hasked⟩ := hthreadFollows.result hresult
  refine ⟨all, hall, hheard, fun done hmem hdone hown => hasked _ ?_⟩
  exact hvisited done hmem hdone (hown.trans hid.symm)

/-- **What an operation finds.**  A job that makes tasks of plans is under way, among any others.  If it
gets an answer then the answer is made of what its plans come to in some transcripts, as the appliances
answered on the way, and for none of them anything was done but at appliances that are asked there; or
the job was to be cancelled. -/
theorem Next.gathers {branches : List (Plan job.work.Part)} {answer : job.work.Answer}
    (hwired : scene.deployment.Wired) (hbegins : scene.Begins i job begun)
    (hbegin : job.work.begin scene.deployment =
      (scene.deployment, branches.map scene.deployment.task))
    (hcourse : begun.Leads entries before) (hnext : before.Next entry after)
    (hopen : ∀ answer, ¬Answered before.jobs i job.work answer)
    (hanswer : Answered after.jobs i job.work answer) :
    (∃ parts, Gathers scene.deployment (begun.Passes entries before) branches i entries parts ∧
      answer = (job.work.finish before.deployment parts).2) ∨
    job.work.cancellation = some answer ∧
      ∃ now, before.jobs[i]? = some now ∧ now.IsStopped before.deployment := by
  have htracks := hcourse.follows hwired (fun _ h => h) (hbegins.follows hbegin)
  rw [List.nil_append] at htracks
  obtain ⟨cancelled, cancelAt, progress, hjob, hknown⟩ := htracks
  obtain ⟨flag, moment, time, hafter⟩ := hanswer
  have hunfinished : Job.isFinished ⟨job.work, cancelled, cancelAt, progress⟩ = false := by
    cases progress with
    | waiting | running => rfl
    | finished earlier time => exact (hopen earlier ⟨_, _, _, hjob⟩).elim
  rcases hnext.answered hjob hunfinished hafter rfl with
    ⟨threads, parts, hrunning, hparts, -, hjob'⟩ | ⟨hstopped, found, hcancelled, hjob'⟩
  · left
    rw [show progress = .running threads from hrunning] at hknown
    refine ⟨parts, gathers_of_follows hknown hparts, ?_⟩
    cases hjob'
    rfl
  · right
    refine ⟨?_, _, hjob, hstopped⟩
    have hmap := Work.map_cancelled (Thread.abandonAll before.deployment
      (Job.threads ⟨job.work, cancelled, cancelAt, progress⟩)) job.work
    rw [hcancelled] at hmap
    cases hjob'
    exact hmap.symm

end Scene
end StorageFleet
