import StorageFleet.Proofs.Deployment.Life
import StorageFleet.Proofs.Deployment.View
import StorageFleet.Proofs.Session.Attempts

/-!
# Companies of threads

A `Company` is any number of threads on one deployment.  `Company.Reaches` lets them be visited in
any order, each as often as it may be (`Thread.advance`), lets any of them be dropped, as a job that
is cancelled drops its threads, and lets everything else on the deployment happen in between: the
clock goes on, other threads work at other appliances, fleets are published.

If the threads work at one appliance (`Task.Attends`), the company is a crowd: `exists_schedule`
finds a schedule whose crowd has the same session, the same owner of the login lock, the same
requests in the same order, the same count of renewals, and the same results
(`Company.Pictures`).  So what every schedule of a crowd keeps is kept by the threads.

A visit is followed move by move (`pictured_run`, by induction on the task), with the lock's queue
out of sight (`Lock.Suits`): a task of the crowd that waits for the lock is simply not moved.
-/

namespace StorageFleet
open StorageFleet.Task (Event Move Runner Stage)

/-! ## Tasks at one appliance -/

namespace Task

/-- The task works at one appliance only, and never asks for the login lock while it has it.
`held` says whether it has the lock when it begins, `ending` whether it has it in the end. -/
def Attends (appliance : ApplianceRef) : Task α → (held ending : Bool) → Prop
  | .done _, held, ending => held = ending
  | .perform .., _, _ => False
  | .send target _ next, held, ending =>
    target = appliance ∧ ∀ answer, (next answer).Attends appliance held ending
  | .session target next, held, ending =>
    target = appliance ∧ ∀ session, (next session).Attends appliance held ending
  | .acquire target next, held, ending =>
    target = appliance ∧ held = false ∧ next.Attends appliance true ending
  | .release target next, _, ending => target = appliance ∧ next.Attends appliance false ending
  | .settle target _ next, held, ending => target = appliance ∧ next.Attends appliance held ending
  | .limit _ late next, held, ending =>
    late.Attends appliance false ending ∧ next.Attends appliance held ending
  | .sleep _ next, held, ending | .unlimit next, held, ending | .count _ next, held, ending
  | .warn _ next, held, ending => next.Attends appliance held ending

lemma Attends.bind {appliance : ApplianceRef} {task : Task α} {next : α → Task β}
    {held between ending : Bool} (h : task.Attends appliance held between)
    (hnext : ∀ result, (next result).Attends appliance between ending) :
    (task.bind next).Attends appliance held ending := by
  induction task generalizing held with
  | done result =>
    obtain rfl : held = between := h
    exact hnext result
  | perform => exact h.elim
  | send _ _ rest ih => exact ⟨h.1, fun answer => ih answer (h.2 answer)⟩
  | session _ rest ih => exact ⟨h.1, fun session => ih session (h.2 session)⟩
  | acquire _ _ ih => exact ⟨h.1, h.2.1, ih h.2.2⟩
  | release _ _ ih | settle _ _ _ ih => exact ⟨h.1, ih h.2⟩
  | limit _ _ _ ihLate ih => exact ⟨ihLate h.1, ih h.2⟩
  | sleep _ _ ih | unlimit _ ih | count _ _ ih | warn _ _ ih => exact ih h

end Task

namespace Client

variable {client : Client}

lemma attends_locked {exchange : Exchange α}
    (h : exchange.run.Attends client.appliance true true) :
    (Exchange.locked client.appliance exchange).run.Attends client.appliance false false :=
  ⟨rfl, rfl, h.bind fun _ => ⟨rfl, rfl⟩⟩

lemma attends_logInLocked : client.logInLocked.run.Attends client.appliance true true := by
  have hlogin : client.authenticate.run.Attends client.appliance true true :=
    ⟨rfl, fun answer => by cases answer <;> rfl⟩
  exact hlogin.bind fun _ => ⟨rfl, rfl⟩

lemma attends_logIn : client.logIn.run.Attends client.appliance false false :=
  attends_locked attends_logInLocked

lemma attends_renew (seen : Nat) :
    (client.renew seen).run.Attends client.appliance false false := by
  refine attends_locked ⟨rfl, fun session => ?_⟩
  show Task.Attends _ (ExceptT.run (if _ then _ else _)) _ _
  split
  · cases session.failure <;> rfl
  · exact attends_logInLocked

lemma attends_sendAuthenticated (request : Request) :
    (client.sendAuthenticated request).run.Attends client.appliance false false := by
  refine ⟨rfl, fun session => ⟨rfl, fun answer => ?_⟩⟩
  cases answer with
  | error fault => rfl
  | ok response =>
    show Task.Attends _ (ExceptT.run (if _ then _ else _)) _ _
    split
    · rfl
    · refine (attends_renew session.generation).bind fun outcome => ?_
      cases outcome with
      | error fault => rfl
      | ok _ =>
        refine ⟨rfl, fun session => ⟨rfl, fun answer => ?_⟩⟩
        cases answer with
        | error fault => rfl
        | ok response =>
          show Task.Attends _ (ExceptT.run (if _ then _ else _)) _ _
          split <;> rfl

lemma Orderly.attends {errand : Errand} {task : Task (Except Fault α)}
    (h : client.Orderly errand task) : task.Attends client.appliance false false := by
  induction h with
  | done => rfl
  | talk _ _ _ ih => exact (attends_sendAuthenticated _).bind ih
  | limit _ _ ihLate ih => exact ⟨ihLate, ih⟩
  | sleep _ ih | unlimit _ ih | count _ ih | warn _ ih => exact ih

lemma attends_carryOut (errand : Errand) :
    (client.carryOut errand).Attends client.appliance false false := by
  cases errand with
  | submit request => exact (orderly_carryOut request).attends
  | logIn => exact attends_logIn.bind fun _ => rfl

end Client

/-! ## One task of a crowd at a time -/

namespace Crowd

/-- The requests that were sent, in order. -/
def requests (crowd : Crowd α) : List Request :=
  (crowd.history.filterMap fun entry => entry.2.sent?).reverse

/-- One task has moved, and no other. -/
structure Alone (i : Nat) (before after : Crowd α) : Prop where
  moves : ∃ moves : List Move, after = before.run (moves.map fun move => (i, move))
  runners : ∀ j, j ≠ i → after.runners j = before.runners j
  owner : ∀ j, j ≠ i → (after.commons.owner = some j ↔ before.commons.owner = some j)

lemma Alone.refl (i : Nat) (crowd : Crowd α) : Alone i crowd crowd :=
  ⟨⟨[], rfl⟩, fun _ _ => rfl, fun _ _ => Iff.rfl⟩

lemma Alone.step {i : Nat} {before after : Crowd α} {move : Move} {event : Event}
    {runner : Runner α}
    (taken : (before.runners i).next before.commons.session before.commons.owner.isNone move =
      some (event, runner))
    (h : Alone i (before.record i event runner) after) : Alone i before after where
  moves := by
    obtain ⟨moves, rfl⟩ := h.moves
    have hstep : before.step i move = before.record i event runner := by
      simp [Crowd.step, taken]
    exact ⟨move :: moves, by simp [run, hstep]⟩
  runners j hj := (h.runners j hj).trans (Function.update_of_ne hj _ _)
  owner j hj := by
    rw [h.owner j hj]
    simp only [record, Commons.owner_after]
    cases event with
    | acquired =>
      have hfree : before.commons.owner = none := by
        simpa using (Runner.does_of_next taken).free_of_acquired
      simp [hfree, Ne.symm hj]
    | _ => simp [hj]

lemma run_append (crowd : Crowd α) (schedule later : List (Nat × Move)) :
    crowd.run (schedule ++ later) = (crowd.run schedule).run later := by
  simp [run]

lemma Alone.trans {i : Nat} {before between after : Crowd α} (h : Alone i before between)
    (hlater : Alone i between after) : Alone i before after where
  moves := by
    obtain ⟨moves, rfl⟩ := h.moves
    obtain ⟨later, rfl⟩ := hlater.moves
    exact ⟨moves ++ later, by rw [List.map_append, run_append]⟩
  runners j hj := (hlater.runners j hj).trans (h.runners j hj)
  owner j hj := (hlater.owner j hj).trans (h.owner j hj)

end Crowd

/-! ## Views of a crowd -/

/-- What an event makes of the view of an appliance, but for the lock. -/
def View.after (view : View) (endpoint : String) : Event → View
  | .sent request => { view with requests := view.requests ++ [request] }
  | .settled outcome => { view with session := view.session.settle outcome }
  | .counted counter =>
    { view with relogins := view.relogins + if counter = .relogin endpoint then 1 else 0 }
  | _ => view

/-- A view shows what the tasks of a crowd have made of an appliance that had received `earlier`
before; `queues` says which of them wait for the lock. -/
structure View.Fits (view : View) (endpoint : String) (earlier : List Request) (crowd : Crowd α)
    (queues : Nat → Prop) : Prop where
  session : view.session = crowd.commons.session
  lock : view.lock.Suits crowd.commons.owner queues
  requests : view.requests = earlier ++ crowd.requests
  relogins : view.relogins = crowd.commons.counters.reloginsOf endpoint

/-- A deployment shows of an appliance what the tasks of a crowd have made of it. -/
def Deployment.Agrees (d : Deployment) (appliance : ApplianceRef) (earlier : List Request)
    (crowd : Crowd α) (queues : Nat → Prop) : Prop :=
  ∃ view, d.view? appliance = some view ∧ view.Fits appliance.endpoint earlier crowd queues

section
variable {appliance : ApplianceRef} {earlier : List Request} {d d' : Deployment}
  {crowd : Crowd α} {queues queues' : Nat → Prop} {i : Nat}

lemma queues_iff (hi : ¬ queues i) (p : Prop) (j : Nat) :
    queues j ↔ (queues j ∨ (j = i ∧ p)) ∧ j ≠ i := by
  constructor
  · intro hj
    refine ⟨.inl hj, ?_⟩
    rintro rfl
    exact hi hj
  · rintro ⟨hj | ⟨rfl, -⟩, hne⟩
    · exact hj
    · exact absurd rfl hne

namespace Deployment

lemma Agrees.congr (h : d.Agrees appliance earlier crowd queues)
    (hqueues : ∀ j, queues' j ↔ queues j) : d.Agrees appliance earlier crowd queues' := by
  obtain ⟨view, hview, hfits⟩ := h
  exact ⟨view, hview, hfits.session, hfits.lock.congr hqueues, hfits.requests, hfits.relogins⟩

/-- An event does the same to the deployment and to the crowd; what it does to the lock is seen to
apart. -/
lemma Agrees.record (h : d.Agrees appliance earlier crowd queues) (event : Event)
    (runner : Runner α)
    (hview : ∀ view, d.view? appliance = some view → view.lock.Suits crowd.commons.owner queues →
      ∃ lock, d'.view? appliance = some { view.after appliance.endpoint event with lock := lock } ∧
        lock.Suits (crowd.commons.after i event).owner queues') :
    d'.Agrees appliance earlier (crowd.record i event runner) queues' := by
  obtain ⟨view, hbefore, hfits⟩ := h
  obtain ⟨lock, hafter, hlock⟩ := hview view hbefore hfits.lock
  refine ⟨_, hafter, ?_, hlock, ?_, ?_⟩
  · show (view.after appliance.endpoint event).session = (crowd.commons.after i event).session
    rw [Commons.session_after]
    cases event with
    | settled outcome => exact congrArg (Session.settle · outcome) hfits.session
    | _ => exact hfits.session
  · show (view.after appliance.endpoint event).requests =
      earlier ++ (crowd.record i event runner).requests
    have hrequests := hfits.requests
    cases event with
    | sent request => simp [View.after, Crowd.requests, hrequests]
    | _ => simpa [View.after, Crowd.requests] using hrequests
  · show (view.after appliance.endpoint event).relogins =
      (crowd.commons.after i event).counters.reloginsOf appliance.endpoint
    rw [Commons.counters_after]
    cases event with
    | counted counter =>
      rw [Counters.reloginsOf_add, ← hfits.relogins]
      rfl
    | _ => exact hfits.relogins

/-- An event that has nothing to do with the lock. -/
lemma Agrees.quiet (h : d.Agrees appliance earlier crowd queues) (event : Event)
    (runner : Runner α) (howner : (crowd.commons.after i event).owner = crowd.commons.owner)
    (hview : ∀ view, d.view? appliance = some view →
      d'.view? appliance = some (view.after appliance.endpoint event))
    (hlock : ∀ view : View, (view.after appliance.endpoint event).lock = view.lock) :
    d'.Agrees appliance earlier (crowd.record i event runner) queues :=
  h.record event runner fun view hbefore hsuits =>
    ⟨view.lock, by rw [hview view hbefore, ← hlock view], howner ▸ hsuits⟩

lemma Agrees.session_eq (h : d.Agrees appliance earlier crowd queues) :
    d.session appliance.id = crowd.commons.session := by
  obtain ⟨view, hview, hfits⟩ := h
  rw [Deployment.session_eq hview, hfits.session]

/-- A task that gives the lock back, or is cut off. -/
lemma Agrees.left (h : d.Agrees appliance earlier crowd queues) (event : Event)
    (runner : Runner α)
    (hevent : crowd.commons.after i event = crowd.commons.leave i)
    (hquiet : ∀ view : View, view.after appliance.endpoint event = view)
    (hview : ∀ view, d.view? appliance = some view →
      d'.view? appliance = some { view with lock := view.lock.abandon i }) :
    d'.Agrees appliance earlier (crowd.record i event runner) fun j => queues j ∧ j ≠ i := by
  refine h.record event runner fun view hbefore hsuits => ⟨view.lock.abandon i, ?_, ?_⟩
  · rw [hquiet]
    exact hview view hbefore
  · have howner : (crowd.commons.after i event).owner =
        if crowd.commons.owner = some i then none else crowd.commons.owner := by
      rw [hevent, Commons.leave]
      split <;> rfl
    rw [howner]
    exact hsuits.abandon i

end Deployment

/-! ## Threads as tasks of a crowd -/

/-- What a thread waits for, with its task, as the stage of a task of a crowd; the last argument
tells whether the task has the login lock.  A thread that was handed the lock still waits for it
until it is visited. -/
inductive Wait.Poses (appliance : ApplianceRef) : Wait → Task α → Stage α → Bool → Prop where
  | ready {task} (attends : task.Attends appliance false false) :
      Poses appliance .nothing task (.ready task) false
  | asking {time request next answer held} (attends : (next answer).Attends appliance held false) :
      Poses appliance (.moment time) (next answer) (.waiting request next) held
  | sleeping {time span task held} (attends : task.Attends appliance held false) :
      Poses appliance (.moment time) task (.ready (.sleep span task)) held
  | queuing {task} (attends : task.Attends appliance true false) :
      Poses appliance (.lock appliance.id) task (.ready (.acquire appliance task)) false

lemma Wait.Poses.isSuspended {wait : Wait} {task : Task α} {stage : Stage α} {held : Bool}
    (h : wait.Poses appliance task stage held) (hwait : wait ≠ .nothing) :
    stage.isSuspended = true := by
  cases h with
  | ready => exact absurd rfl hwait
  | asking | sleeping | queuing => rfl

lemma Wait.Poses.eq_false {wait : Wait} {task : Task α} {stage : Stage α} {held : Bool}
    (h : wait.Poses appliance task stage held) (hwait : wait = .nothing) : held = false := by
  cases h with
  | ready => rfl
  | asking | sleeping | queuing => cases hwait

/-- A thread is what a task of a crowd has become. -/
structure Thread.Embodies (thread : Thread α) (appliance : ApplianceRef) (crowd : Crowd α)
    (i : Nat) : Prop where
  id : thread.id = i
  poses : ∃ held, thread.wait.Poses appliance thread.task (crowd.runners i).stage held ∧
    (crowd.commons.owner = some i ↔ held = true)
  late : thread.result? = none → (crowd.runners i).late = thread.limit.map Prod.snd
  attendsLate : ∀ limit ∈ thread.limit, limit.2.Attends appliance false false

lemma Thread.Embodies.of_alone {thread : Thread α} {after : Crowd α} {j : Nat}
    (h : thread.Embodies appliance crowd j) (halone : Crowd.Alone i crowd after) (hj : j ≠ i) :
    thread.Embodies appliance after j := by
  have hrunner := halone.runners j hj
  obtain ⟨held, hposes, howner⟩ := h.poses
  exact
    { id := h.id
      poses := ⟨held, hrunner ▸ hposes, (halone.owner j hj).trans howner⟩
      late := fun hresult => hrunner ▸ h.late hresult
      attendsLate := h.attendsLate }

/-! ## Visits -/

/-- By moves of its own, a task of a crowd comes to what a thread has come to. -/
def Crowd.Copies (crowd : Crowd α) (appliance : ApplianceRef) (earlier : List Request)
    (queues : Nat → Prop) (i : Nat) (after : Deployment × Thread α) : Prop :=
  ∃ crowd', Crowd.Alone i crowd crowd' ∧ after.2.Embodies appliance crowd' i ∧
    after.1.Agrees appliance earlier crowd' fun j =>
      queues j ∨ (j = i ∧ after.2.wait = .lock appliance.id)

lemma Crowd.Copies.step {after : Deployment × Thread α} {before runner : Runner α} {event : Event}
    (move : Move) (hrunner : crowd.runners i = before)
    (taken : before.next crowd.commons.session crowd.commons.owner.isNone move =
      some (event, runner))
    (h : (crowd.record i event runner).Copies appliance earlier queues i after) :
    crowd.Copies appliance earlier queues i after := by
  obtain ⟨crowd', halone, hembodies, hagrees⟩ := h
  exact ⟨crowd', .step (hrunner ▸ taken) halone, hembodies, hagrees⟩

namespace Thread

/-- A thread is left waiting. -/
lemma copies_wait {thread : Thread α} {stage : Stage α} {held : Bool} (hid : thread.id = i)
    (hrunner : crowd.runners i = ⟨stage, thread.limit.map Prod.snd⟩)
    (hposes : thread.wait.Poses appliance thread.task stage held)
    (attendsLate : ∀ limit ∈ thread.limit, limit.2.Attends appliance false false)
    (howner : crowd.commons.owner = some i ↔ held = true)
    (hagrees : d.Agrees appliance earlier crowd fun j =>
      queues j ∨ (j = i ∧ thread.wait = .lock appliance.id)) :
    crowd.Copies appliance earlier queues i (d, thread) := by
  refine ⟨crowd, .refl i crowd, ?_, hagrees⟩
  exact
    { id := hid
      poses := ⟨held, by rw [hrunner]; exact hposes, howner⟩
      late := fun _ => by rw [hrunner]
      attendsLate := attendsLate }

lemma copies_run (i : Nat) (task : Task α) (limit : Option (Nat × Task α)) (d : Deployment)
    (crowd : Crowd α) (held : Bool)
    (hrunner : crowd.runners i = ⟨.ready task, limit.map Prod.snd⟩)
    (attends : task.Attends appliance held false)
    (attendsLate : ∀ passed ∈ limit, passed.2.Attends appliance false false)
    (howner : crowd.commons.owner = some i ↔ held = true) (hi : ¬ queues i)
    (hagrees : d.Agrees appliance earlier crowd queues) :
    crowd.Copies appliance earlier queues i (run i limit d task) := by
  induction task generalizing limit d crowd held with
  | done result =>
    obtain rfl : held = false := attends
    refine ⟨crowd, .refl i crowd, ?_, hagrees.congr fun j => by simp [run]⟩
    exact
      { id := rfl
        poses := ⟨false, by rw [hrunner]; exact .ready rfl, howner⟩
        late := by simp [run, result?]
        attendsLate := by simp [run] }
  | perform => exact attends.elim
  | session target next ih =>
    obtain ⟨rfl, attends⟩ := attends
    rw [run, hagrees.session_eq]
    refine .step .go hrunner rfl
      (ih _ limit d _ held (Function.update_self ..) (attends _) attendsLate howner ?_)
    exact hagrees.quiet _ _ rfl (fun _ h => h) fun _ => rfl
  | send target request next ih =>
    obtain ⟨rfl, attends⟩ := attends
    refine .step .go hrunner rfl ?_
    have hsent : (d.send target request).2.2.Agrees target earlier
        (crowd.record i (.sent request) ⟨.waiting request next, limit.map Prod.snd⟩) queues :=
      hagrees.quiet _ _ rfl (fun _ h => Deployment.view?_send h request) fun _ => rfl
    rcases hanswer : d.send target request with ⟨answer, delay, sent⟩
    rw [hanswer] at hsent
    simp only [run, hanswer]
    split
    · refine .step (.answer answer) (Function.update_self ..) rfl
        (ih answer limit sent _ held (Function.update_self ..) (attends _) attendsLate howner ?_)
      exact hsent.quiet _ _ rfl (fun _ h => h) fun _ => rfl
    · refine copies_wait rfl (Function.update_self ..) (.asking (attends answer)) attendsLate
        howner ?_
      exact hsent.congr fun j => by simp
  | acquire target next ih =>
    obtain ⟨rfl, rfl, attends⟩ := attends
    obtain ⟨view, hview, hfits⟩ := hagrees
    have hrequested := Deployment.view?_requestLock hview i
    by_cases hfree : view.lock.owner = none
    · have hnone : crowd.commons.owner = none := hfits.lock.owner_eq_none (by simp [hfree])
      have hhas : (d.requestLock target.id i).hasLock target.id i = true := by
        rw [Deployment.hasLock_iff hrequested]
        simp [Lock.request, hfree]
      rw [run, if_pos hhas]
      refine .step .go hrunner (by rw [hnone]; rfl)
        (ih limit _ _ true (Function.update_self ..) attends attendsLate ?_ ?_)
      · exact ⟨fun _ => rfl, fun _ => rfl⟩
      · refine Deployment.Agrees.record ⟨view, hview, hfits⟩ _ _ fun found hfound hsuits => ?_
        obtain rfl : view = found := Option.some.inj (hview.symm.trans hfound)
        exact ⟨_, hrequested, hsuits.request_free hfree hi⟩
    · have hnot : crowd.commons.owner ≠ some i := by simp [howner]
      obtain ⟨hsuits, hother⟩ := hfits.lock.request_busy hfree hi hnot
      have hhas : ¬ (d.requestLock target.id i).hasLock target.id i = true := by
        rw [Deployment.hasLock_iff hrequested]
        exact hother
      rw [run, if_neg hhas]
      refine copies_wait rfl hrunner (.queuing attends) attendsLate howner ?_
      refine ⟨_, hrequested, hfits.session, hsuits.congr fun j => ?_, hfits.requests,
        hfits.relogins⟩
      simp
  | release target next ih =>
    obtain ⟨rfl, attends⟩ := attends
    refine .step .go hrunner rfl
      (ih limit _ _ false (Function.update_self ..) attends attendsLate ?_ ?_)
    · simp [Crowd.record, Commons.owner_after]
    · have hleft := hagrees.left .released ⟨.ready next, limit.map Prod.snd⟩ rfl (fun _ => rfl)
        fun _ h => Deployment.view?_releaseLock h i
      exact hleft.congr fun j => by simpa using queues_iff hi False j
  | settle target outcome next ih =>
    obtain ⟨rfl, attends⟩ := attends
    refine .step .go hrunner rfl
      (ih limit _ _ held (Function.update_self ..) attends attendsLate howner ?_)
    exact hagrees.quiet _ _ rfl (fun _ h => Deployment.view?_settle h outcome) fun _ => rfl
  | sleep span next ih =>
    rw [run]
    exact copies_wait rfl hrunner (.sleeping attends) attendsLate howner
      (hagrees.congr fun j => by simp)
  | limit span late next ihLate ih =>
    refine .step .go hrunner rfl
      (ih (some (d.clock + span.milliseconds, late)) d _ held (Function.update_self ..) attends.2
        ?_ howner ?_)
    · rintro passed ⟨⟩
      exact attends.1
    · exact hagrees.quiet _ _ rfl (fun _ h => h) fun _ => rfl
  | unlimit next ih =>
    refine .step .go hrunner rfl
      (ih none d _ held (Function.update_self ..) attends (by simp) howner ?_)
    exact hagrees.quiet _ _ rfl (fun _ h => h) fun _ => rfl
  | count counter next ih =>
    refine .step .go hrunner rfl
      (ih limit _ _ held (Function.update_self ..) attends attendsLate howner ?_)
    exact hagrees.quiet _ _ rfl (fun _ h => Deployment.view?_count h counter) fun _ => rfl
  | warn line next ih =>
    refine .step .go hrunner rfl
      (ih limit _ _ held (Function.update_self ..) attends attendsLate howner ?_)
    exact hagrees.quiet _ _ rfl (fun _ h => h) fun _ => rfl

lemma result?_eq_none {thread : Thread α} (hwait : thread.wait ≠ .nothing) :
    thread.result? = none := by
  unfold result?
  split
  · next h => exact absurd h hwait
  · rfl

lemma result?_of_isReady {thread : Thread α} (h : thread.isReady d = true) :
    thread.result? = none := by
  by_cases hwait : thread.wait = .nothing
  · simpa [isReady, hwait] using h
  · exact result?_eq_none hwait

lemma result?_run (i : Nat) (task : Task α) (limit : Option (Nat × Task α)) (d : Deployment)
    (hwait : (run i limit d task).2.wait = .nothing) : (run i limit d task).2.result? ≠ none := by
  induction task generalizing limit d with
  | done => simp [run, result?]
  | perform _ _ _ ih | session _ _ ih => exact ih _ limit _ hwait
  | send target request next ih =>
    simp only [run] at hwait ⊢
    split
    · next hdelay =>
      rw [if_pos hdelay] at hwait
      exact ih _ limit _ hwait
    · next hdelay => simp [hdelay] at hwait
  | acquire target next ih =>
    simp only [run] at hwait ⊢
    split
    · next hhas =>
      rw [if_pos hhas] at hwait
      exact ih limit _ hwait
    · next hhas => simp [hhas] at hwait
  | sleep => simp [run] at hwait
  | release _ _ ih | settle _ _ _ ih | limit _ _ _ _ ih | unlimit _ ih | count _ _ ih
  | warn _ _ ih => exact ih _ _ hwait

end Thread

/-- A thread that has just gone on looks at its time limit. -/
lemma Crowd.Copies.lapse {state : Deployment × Thread α}
    (h : crowd.Copies appliance earlier queues i state) (hi : ¬ queues i)
    (hwait : state.2.wait = .nothing → state.2.result? ≠ none) :
    crowd.Copies appliance earlier queues i (Thread.lapse state) := by
  unfold Thread.lapse
  split
  · next late hlate =>
    obtain ⟨hresult, time, hlimit, -⟩ := Thread.late?_eq_some hlate
    obtain ⟨crowd', halone, hembodies, hagrees⟩ := h
    obtain ⟨held, hposes, -⟩ := hembodies.poses
    have hsuspended := hposes.isSuspended fun hnothing => hwait hnothing hresult
    have taken : (crowd'.runners i).next crowd'.commons.session crowd'.commons.owner.isNone
        .timeUp = some (.late, ⟨.ready late, none⟩) := by
      simp [Runner.next, hembodies.late hresult, hlimit, hsuspended]
    have hleft := hagrees.left .late ⟨.ready late, none⟩ rfl (fun _ => rfl)
      fun _ hview => Deployment.view?_abandonLocks hview i
    have hlate : (crowd'.record i .late ⟨.ready late, none⟩).Copies appliance earlier queues i
        (Thread.run i none (state.1.abandonLocks i) late) := by
      refine Thread.copies_run i late none _ _ false (Function.update_self ..)
        (hembodies.attendsLate _ hlimit) (by simp) ?_ hi
        (hleft.congr fun j => queues_iff hi _ j)
      simp [Crowd.record, Commons.owner_after]
    rw [hembodies.id]
    obtain ⟨after, hon, hdone⟩ := hlate.step .timeUp rfl taken
    exact ⟨after, halone.trans hon, hdone⟩
  · exact h

/-- A visit to a thread is some moves of a task. -/
lemma Thread.Embodies.copies_advance {thread : Thread α}
    (h : thread.Embodies appliance crowd i) (hi : ¬ queues i)
    (hagrees : d.Agrees appliance earlier crowd fun j =>
      queues j ∨ (j = i ∧ thread.wait = .lock appliance.id)) :
    crowd.Copies appliance earlier queues i (thread.advance d).2 := by
  rw [Thread.advance_eq]
  split
  · next hready =>
    refine Crowd.Copies.lapse ?_ hi fun hwait => Thread.result?_run _ _ _ _ hwait
    obtain ⟨held, hposes, howner⟩ := h.poses
    have hlate := h.late (Thread.result?_of_isReady hready)
    have hid := h.id
    have attendsLate := h.attendsLate
    clear h
    obtain ⟨id, task, wait, limit⟩ := thread
    obtain rfl : id = i := hid
    obtain ⟨stage, hstage⟩ : ∃ stage, (crowd.runners id).stage = stage := ⟨_, rfl⟩
    have hrunner : crowd.runners id = ⟨stage, limit.map Prod.snd⟩ := by
      rw [← hstage, ← hlate]
    rw [hstage] at hposes
    cases hposes with
    | ready attends =>
      exact Thread.copies_run id _ limit d crowd false hrunner attends attendsLate howner hi
        (hagrees.congr fun j => by simp)
    | @asking time request next answer held attends =>
      refine .step (.answer answer) hrunner rfl (Thread.copies_run id _ limit d _ held
        (Function.update_self ..) attends attendsLate howner hi ?_)
      have hfree : d.Agrees appliance earlier crowd queues := hagrees.congr fun j => by simp
      exact hfree.quiet _ _ rfl (fun _ h => h) fun _ => rfl
    | sleeping attends =>
      refine .step .go hrunner rfl (Thread.copies_run id _ limit d _ held
        (Function.update_self ..) attends attendsLate howner hi ?_)
      have hfree : d.Agrees appliance earlier crowd queues := hagrees.congr fun j => by simp
      exact hfree.quiet _ _ rfl (fun _ h => h) fun _ => rfl
    | queuing attends =>
      obtain ⟨view, hview, hfits⟩ := hagrees
      have hlock : view.lock.owner = some id := (Deployment.hasLock_iff hview id).1 hready
      have hnone : crowd.commons.owner = none := by
        apply hfits.lock.owner_eq_none
        intro j hj
        rw [hlock] at hj
        cases hj
        exact .inr ⟨rfl, rfl⟩
      refine .step .go hrunner (by rw [hnone]; rfl) (Thread.copies_run id _ limit d _ true
        (Function.update_self ..) attends attendsLate ⟨fun _ => rfl, fun _ => rfl⟩ hi ?_)
      refine Deployment.Agrees.record ⟨view, hview, hfits⟩ _ _ fun found hfound hsuits => ?_
      obtain rfl : view = found := Option.some.inj (hview.symm.trans hfound)
      exact ⟨_, hview, (hsuits.grant hlock).congr fun j => queues_iff hi _ j⟩
  · next hready =>
    refine Crowd.Copies.lapse ⟨crowd, .refl i crowd, h, hagrees⟩ hi ?_
    intro (hwait : thread.wait = .nothing) (hnone : thread.result? = none)
    exact hready (by simp [Thread.isReady, hwait, hnone])

end

/-! ## Companies -/

/-- Threads side by side on a deployment; a thread that was dropped is there no more. -/
structure Company (α : Type) where
  deployment : Deployment
  threads : Nat → Option (Thread α)

namespace Company

/-- Threads that have not begun. -/
def start (d : Deployment) (tasks : Nat → Task α) : Company α where
  deployment := d
  threads i := some { id := i, task := tasks i }

/-- Something has become of one thread, and with it of the deployment. -/
def replace (company : Company α) (d : Deployment) (i : Nat) (found : Option (Thread α)) :
    Company α where
  deployment := d
  threads := Function.update company.threads i found

/-- Takes a thread as far as it gets. -/
def visit (company : Company α) (i : Nat) (thread : Thread α) : Company α :=
  company.replace (thread.advance company.deployment).2.1 i
    (some (thread.advance company.deployment).2.2)

/-- Drops a thread. -/
def drop (company : Company α) (i : Nat) : Company α :=
  company.replace (company.deployment.abandonLocks i) i none

/-- The companies that a company can become.  What happens `elsewhere` may change all but what the
deployment shows of the appliance. -/
inductive Reaches (appliance : ApplianceRef) (start : Company α) : Company α → Prop where
  | here : Reaches appliance start start
  | visit {company : Company α} {i : Nat} {thread : Thread α}
      (before : Reaches appliance start company) (present : company.threads i = some thread) :
      Reaches appliance start (company.visit i thread)
  | drop {company : Company α} (i : Nat) (before : Reaches appliance start company) :
      Reaches appliance start (company.drop i)
  | elsewhere {company : Company α} {d : Deployment} (before : Reaches appliance start company)
      (same : d.view? appliance = company.deployment.view? appliance) :
      Reaches appliance start { company with deployment := d }

/-- Whether a thread waits for the login lock. -/
def Queues (company : Company α) (appliance : ApplianceRef) (i : Nat) : Prop :=
  ∃ thread, company.threads i = some thread ∧ thread.wait = .lock appliance.id

/-- A company is, at one appliance, what a crowd is; `earlier` are the requests that the appliance
had received before. -/
structure Resembles (company : Company α) (appliance : ApplianceRef) (earlier : List Request)
    (crowd : Crowd α) : Prop where
  agrees : company.deployment.Agrees appliance earlier crowd (company.Queues appliance)
  embodies : ∀ i thread, company.threads i = some thread → thread.Embodies appliance crowd i
  gone : ∀ i, company.threads i = none → crowd.commons.owner ≠ some i

variable {company : Company α} {appliance : ApplianceRef} {earlier : List Request}
  {crowd : Crowd α}

lemma Resembles.replace (h : company.Resembles appliance earlier crowd) {crowd' : Crowd α}
    {i : Nat} {d : Deployment} {found : Option (Thread α)} (halone : Crowd.Alone i crowd crowd')
    (hagrees : d.Agrees appliance earlier crowd' fun j => (company.Queues appliance j ∧ j ≠ i) ∨
      (j = i ∧ ∃ thread, found = some thread ∧ thread.wait = .lock appliance.id))
    (hembodies : ∀ thread, found = some thread → thread.Embodies appliance crowd' i)
    (hgone : found = none → crowd'.commons.owner ≠ some i) :
    (company.replace d i found).Resembles appliance earlier crowd' where
  agrees := hagrees.congr fun j => by
    by_cases hj : j = i
    · subst hj
      simp [Queues, Company.replace]
    · simp [hj, Queues, Company.replace]
  embodies j thread hthread := by
    by_cases hj : j = i
    · subst hj
      exact hembodies thread (by simpa [Company.replace] using hthread)
    · refine (h.embodies j thread ?_).of_alone halone hj
      simpa [Company.replace, hj] using hthread
  gone j hnone := by
    by_cases hj : j = i
    · subst hj
      exact hgone (by simpa [Company.replace] using hnone)
    · rw [Ne, halone.owner j hj]
      exact h.gone j (by simpa [Company.replace, hj] using hnone)

/-- The threads that wait for the lock, one of them apart. -/
lemma queues_iff_apart {i : Nat} {thread : Thread α} (present : company.threads i = some thread)
    (j : Nat) : (company.Queues appliance j ∧ j ≠ i) ∨
      (j = i ∧ thread.wait = .lock appliance.id) ↔ company.Queues appliance j := by
  by_cases hj : j = i
  · subst hj
    simp [Queues, present]
  · simp [hj]

lemma Resembles.visit (h : company.Resembles appliance earlier crowd) {i : Nat}
    {thread : Thread α} (present : company.threads i = some thread) :
    ∃ crowd', Crowd.Alone i crowd crowd' ∧
      (company.visit i thread).Resembles appliance earlier crowd' := by
  obtain ⟨crowd', halone, hembodies, hagrees⟩ :=
    (h.embodies i thread present).copies_advance (fun hi => hi.2 rfl)
      (h.agrees.congr fun j => queues_iff_apart present j)
  refine ⟨crowd', halone, h.replace halone (hagrees.congr fun j => by simp) ?_ (by simp)⟩
  rintro found ⟨⟩
  exact hembodies

lemma Resembles.drop (h : company.Resembles appliance earlier crowd) (i : Nat) :
    ∃ crowd', Crowd.Alone i crowd crowd' ∧
      (company.drop i).Resembles appliance earlier crowd' := by
  have habandon : ∀ view, company.deployment.view? appliance = some view →
      (company.deployment.abandonLocks i).view? appliance =
        some { view with lock := view.lock.abandon i } :=
    fun _ hview => Deployment.view?_abandonLocks hview i
  -- a thread that does not wait has no lock to give back, and its task is not moved
  have hidle : crowd.commons.owner ≠ some i → ∃ crowd', Crowd.Alone i crowd crowd' ∧
      (company.drop i).Resembles appliance earlier crowd' := by
    intro howner
    refine ⟨crowd, .refl i crowd, h.replace (.refl i crowd) ?_ (by simp) fun _ => howner⟩
    obtain ⟨view, hview, hfits⟩ := h.agrees
    have hlock := hfits.lock.abandon i
    rw [if_neg howner] at hlock
    exact ⟨_, habandon view hview, hfits.session, hlock.congr fun j => by simp, hfits.requests,
      hfits.relogins⟩
  cases hthread : company.threads i with
  | none => exact hidle (h.gone i hthread)
  | some thread =>
    obtain ⟨held, hposes, howner⟩ := (h.embodies i thread hthread).poses
    by_cases hwait : thread.wait = .nothing
    · refine hidle fun hown => ?_
      have hheld := howner.1 hown
      rw [hposes.eq_false hwait] at hheld
      cases hheld
    · have taken : (crowd.runners i).next crowd.commons.session crowd.commons.owner.isNone .drop =
          some (.dropped, ⟨.gone, none⟩) := by
        simp [Runner.next, hposes.isSuspended hwait]
      have hleft := h.agrees.left .dropped ⟨.gone, none⟩ rfl (fun _ => rfl) habandon
      refine ⟨_, .step taken (.refl i _), h.replace (.step taken (.refl i _))
        (hleft.congr fun j => by simp) (by simp) fun _ => ?_⟩
      simp [Crowd.record, Commons.owner_after]

lemma resembles_start {d : Deployment} {view : View} {tasks : Nat → Task α}
    (hview : d.view? appliance = some view) (free : view.lock = {})
    (attends : ∀ i, (tasks i).Attends appliance false false) :
    (start d tasks).Resembles appliance view.requests
      (.start view.session d.counters tasks) where
  agrees := by
    obtain ⟨connected, hconnected, rfl⟩ := Deployment.view?_eq_some hview
    refine ⟨_, hview, rfl, ?_, by simp [Crowd.requests, Crowd.start], rfl⟩
    rw [free]
    exact ⟨by simp [Crowd.start], by simp, List.nodup_nil⟩
  embodies i thread hthread := by
    cases hthread
    exact ⟨rfl, ⟨false, .ready (attends i), by simp [Crowd.start]⟩, fun _ => rfl, by simp⟩
  gone i hnone := by cases hnone

/-- Threads at one appliance are a crowd: for whatever they can become side by side there is a
schedule that leads the crowd of their tasks to the same. -/
theorem exists_schedule {d : Deployment} {view : View} {tasks : Nat → Task α}
    (hview : d.view? appliance = some view) (free : view.lock = {})
    (attends : ∀ i, (tasks i).Attends appliance false false)
    (reaches : Reaches appliance (start d tasks) company) :
    ∃ schedule, company.Resembles appliance view.requests
      ((Crowd.start view.session d.counters tasks).run schedule) := by
  have later : ∀ {schedule : List (Nat × Move)} {i : Nat} {company : Company α},
      (∃ crowd', Crowd.Alone i ((Crowd.start view.session d.counters tasks).run schedule) crowd' ∧
        company.Resembles appliance view.requests crowd') →
      ∃ schedule, company.Resembles appliance view.requests
        ((Crowd.start view.session d.counters tasks).run schedule) := by
    rintro schedule i company ⟨crowd', halone, hresembles⟩
    obtain ⟨moves, rfl⟩ := halone.moves
    exact ⟨_, by rwa [Crowd.run_append]⟩
  induction reaches with
  | here => exact ⟨[], resembles_start hview free attends⟩
  | visit _ present ih =>
    obtain ⟨schedule, hresembles⟩ := ih
    exact later (hresembles.visit present)
  | drop i _ ih =>
    obtain ⟨schedule, hresembles⟩ := ih
    exact later (hresembles.drop i)
  | elsewhere _ same ih =>
    obtain ⟨schedule, ⟨found, hfound, hfits⟩, hembodies, hgone⟩ := ih
    exact ⟨schedule, ⟨found, same.trans hfound, hfits⟩, hembodies, hgone⟩

end Company

/-- The threads of the errands of a client are a crowd of that client. -/
theorem Client.exists_schedule (client : Client) {d : Deployment} {view : View}
    {errands : Nat → Errand} {company : Company (Except Fault (Option Response))}
    (hview : d.view? client.appliance = some view) (free : view.lock = {})
    (reaches : Company.Reaches client.appliance
      (.start d fun i => client.carryOut (errands i)) company) :
    ∃ schedule, company.Resembles client.appliance view.requests
      ((client.crowd view.session d.counters errands).run schedule) :=
  Company.exists_schedule hview free (fun i => attends_carryOut (errands i)) reaches

end StorageFleet
