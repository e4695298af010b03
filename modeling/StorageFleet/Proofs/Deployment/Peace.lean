import StorageFleet.Proofs.Deployment.Locks

/-!
# Peace among jobs

`Scene.Peaceful` is what holds of the login locks of a deployment while jobs are under way: each
thread fits to the line of every station, and whoever is in a line is a thread that is under way.
Every step keeps it (`Next.peaceful`), so it holds along every course from a fresh start
(`Leads.peaceful`).  Two facts go with it: no two threads have the same number (`Next.numbered`),
and the threads of a job that rests are done or have to wait (`Next.rested`).

`Scene.HoldsSince` says of a thread that has a lock and goes on that it got the lock at some point of
the course, and that the session of the station is what it was then, up to the moment at which the
thread gives the lock back after a login attempt (`Leads.holding`).
-/

namespace StorageFleet

/-- If there are results of all threads then there is one of each. -/
lemma Thread.exists_result? {threads : List (Thread α)} {results : List α}
    (h : threads.mapM Thread.result? = some results) :
    ∀ thread ∈ threads, ∃ result, thread.result? = some result := by
  induction threads generalizing results with
  | nil => simp
  | cons thread rest ih =>
    simp only [List.mapM_cons, Option.bind_eq_bind, Option.bind_eq_some_iff] at h
    obtain ⟨result, hresult, others, hothers, -⟩ := h
    exact List.forall_mem_cons.2 ⟨⟨result, hresult⟩, ih hothers⟩

/-! ## The numbers of threads -/

namespace Job

/-- The number of a thread, by the place of its job and its own place among the threads there. -/
def idAt (jobs : List Job) (i k : Nat) : Option Nat :=
  jobs[i]?.bind fun job => (job.threads.map Thread.id)[k]?

variable {jobs : List Job} {i : Nat} {job job' : Job}

/-- The job at a place is the one that was put there, or as it was. -/
lemma of_set (hjob : jobs[i]? = some job) {j : Nat} {found : Job}
    (hfound : (jobs.set i job')[j]? = some found) :
    (j = i ∧ found = job') ∨ (j ≠ i ∧ jobs[j]? = some found) := by
  by_cases hj : j = i
  · rw [hj, List.getElem?_set_self (List.getElem?_eq_some_iff.1 hjob).1] at hfound
    exact .inl ⟨hj, (Option.some.inj hfound).symm⟩
  · rw [List.getElem?_set_ne (Ne.symm hj)] at hfound
    exact .inr ⟨hj, hfound⟩

lemma idAt_eq (hjob : jobs[i]? = some job) (k : Nat) :
    idAt jobs i k = (job.threads.map Thread.id)[k]? := by
  rw [idAt, hjob, Option.bind_some]

lemma idAt_set (hjob : jobs[i]? = some job) (j k : Nat) :
    idAt (jobs.set i job') j k = if j = i then (job'.threads.map Thread.id)[k]?
      else idAt jobs j k := by
  unfold idAt
  split
  · next hj =>
    rw [hj, List.getElem?_set_self (List.getElem?_eq_some_iff.1 hjob).1, Option.bind_some]
  · next hj => rw [List.getElem?_set_ne (Ne.symm hj)]

/-- A job whose threads keep their numbers. -/
lemma idAt_set_same (hjob : jobs[i]? = some job)
    (hids : job'.threads.map Thread.id = job.threads.map Thread.id) :
    idAt (jobs.set i job') = idAt jobs := by
  funext j k
  rw [idAt_set hjob]
  split
  · next hj => rw [hj, idAt_eq hjob, hids]
  · rfl

/-- A job that is over has no threads. -/
lemma idAt_set_nil (hjob : jobs[i]? = some job) (hnone : job'.threads = []) {j k id : Nat}
    (hid : idAt (jobs.set i job') j k = some id) : j ≠ i ∧ idAt jobs j k = some id := by
  rw [idAt_set hjob] at hid
  split at hid
  · simp [hnone] at hid
  · next hj => exact ⟨hj, hid⟩

lemma threads_cancel (job : Job) : { job with cancelled := true }.threads = job.threads := by
  obtain ⟨work, cancelled, cancelAt, progress⟩ := job
  cases progress <;> rfl

lemma idAt_cancel (hjob : jobs[i]? = some job) :
    idAt (jobs.set i { job with cancelled := true }) = idAt jobs :=
  idAt_set_same hjob (by rw [threads_cancel])

lemma threads_of_running {threads : List (Thread job.work.Part)}
    (hrunning : job.progress = .running threads) : job.threads = threads := by
  rw [Job.threads, hrunning]

/-- A thread that moves keeps its number. -/
lemma ids_set (job : Job) {threads : List (Thread job.work.Part)} {k : Nat}
    {thread thread' : Thread job.work.Part} {d d' : Deployment} {deed : Option (Nat × Deed)}
    (hrunning : job.progress = .running threads) (hthread : threads[k]? = some thread)
    (hmoves : thread.Moves d deed d' thread') :
    (job.withThreads (threads.set k thread')).threads.map Thread.id = job.threads.map Thread.id := by
  rw [threads_of_running hrunning]
  refine List.ext_getElem? fun l => ?_
  show ((threads.set k thread').map Thread.id)[l]? = _
  rw [List.getElem?_map, List.getElem?_map]
  by_cases hl : k = l
  · subst hl
    rw [List.getElem?_set_self (List.getElem?_eq_some_iff.1 hthread).1, hthread, Option.map_some,
      Option.map_some, hmoves.id_eq]
  · rw [List.getElem?_set_ne hl]

lemma idAt_of_mem (hjob : jobs[i]? = some job) {thread : Thread job.work.Part}
    (hthread : thread ∈ job.threads) : ∃ k, idAt jobs i k = some thread.id := by
  obtain ⟨k, hk⟩ := List.getElem?_of_mem (List.mem_map_of_mem hthread)
  exact ⟨k, (idAt_eq hjob k).trans hk⟩

end Job

namespace Scene

variable {scene later : Scene} {entry : Option Entry} {entries : List Entry}

/-- Each thread has a number of its own, and the numbers yet to come are new. -/
structure Numbered (scene : Scene) : Prop where
  fresh : ∀ {i k id}, Job.idAt scene.jobs i k = some id → id < scene.deployment.nextThread
  distinct : ∀ {i j k l id}, Job.idAt scene.jobs i k = some id →
    Job.idAt scene.jobs j l = some id → i = j ∧ k = l

lemma Numbered.of_le (h : scene.Numbered)
    (hnext : scene.deployment.nextThread ≤ later.deployment.nextThread)
    (hids : ∀ i k id, Job.idAt later.jobs i k = some id → Job.idAt scene.jobs i k = some id) :
    later.Numbered :=
  ⟨fun hid => Nat.lt_of_lt_of_le (h.fresh (hids _ _ _ hid)) hnext,
    fun hid hother => h.distinct (hids _ _ _ hid) (hids _ _ _ hother)⟩

/-- The threads that a job begins with are numbered on from the next number. -/
lemma Begins.idAt {i : Nat} {job : Job} (h : scene.Begins i job later) (j k : Nat) :
    Job.idAt later.jobs j k = if j = i then
      (if k < (job.work.begin scene.deployment).2.length
        then some (scene.deployment.nextThread + k) else none)
      else Job.idAt scene.jobs j k := by
  obtain ⟨hjob, -, -, -, rfl⟩ := h
  obtain ⟨connections, hbegin⟩ := Work.begin_employs scene.deployment job.work
  dsimp only
  rw [Job.idAt_set hjob]
  congr 1
  simp only [Job.threads, Job.withThreads, Job.startThreads, List.getElem?_map,
    List.getElem?_mapIdx, hbegin]
  split
  · next hk => rw [List.getElem?_eq_getElem hk]; rfl
  · next hk => rw [List.getElem?_eq_none (Nat.le_of_not_lt hk)]; rfl

lemma Begins.nextThread {i : Nat} {job : Job} (h : scene.Begins i job later) :
    later.deployment.nextThread =
      scene.deployment.nextThread + (job.work.begin scene.deployment).2.length := by
  obtain ⟨connections, hbegun⟩ := h.deployment_eq
  rw [hbegun]

lemma Next.numbered (h : Next scene entry later) (hnumbered : scene.Numbered) :
    later.Numbered := by
  cases h with
  | @begins _ _ i job hbegins =>
    have hnext := hbegins.nextThread
    -- a thread is as it was, or new
    have hcases : ∀ {j k id}, Job.idAt later.jobs j k = some id →
        (j = i ∧ id = scene.deployment.nextThread + k ∧ id < later.deployment.nextThread) ∨
        (j ≠ i ∧ Job.idAt scene.jobs j k = some id ∧ id < scene.deployment.nextThread) := by
      intro j k id hid
      rw [hbegins.idAt] at hid
      split at hid
      · split at hid
        · cases hid
          exact .inl ⟨‹_›, rfl, by omega⟩
        · cases hid
      · exact .inr ⟨‹_›, hid, hnumbered.fresh hid⟩
    refine ⟨fun hid => ?_, fun hid hother => ?_⟩
    · rcases hcases hid with ⟨-, -, hlt⟩ | ⟨-, -, hlt⟩ <;> omega
    · rcases hcases hid with ⟨rfl, hnew, -⟩ | ⟨-, hold, hlt⟩ <;>
        rcases hcases hother with ⟨rfl, hnew', -⟩ | ⟨-, hold', hlt'⟩
      · exact ⟨rfl, by omega⟩
      · omega
      · omega
      · exact hnumbered.distinct hold hold'
  | resumes | rests | waits | closes => exact hnumbered.of_le (Nat.le_refl _) fun _ _ _ => id
  | turns station link =>
    exact hnumbered.of_le (Nat.le_of_eq (Deployment.keeps_turn _ station link).nextThread_eq.symm)
      fun _ _ _ => id
  | @moves d jobs active i job threads k thread deed d' thread' hjob _ hrunning hthread hmoves =>
    refine hnumbered.of_le (Nat.le_of_eq hmoves.keeps.nextThread_eq.symm) fun j l id hid => ?_
    rwa [Job.idAt_set_same hjob (job.ids_set hrunning hthread hmoves)] at hid
  | @ends d jobs active i job threads parts hjob =>
    obtain ⟨fleet, log, hfinish⟩ := job.work.finish_eq d parts
    exact hnumbered.of_le (Nat.le_of_eq (congrArg Deployment.nextThread hfinish).symm)
      fun j k id hid => (Job.idAt_set_nil hjob rfl hid).2
  | gives hjob _ _ _ hcancelled =>
    have hkeeps := (Deployment.keeps_abandonAll _ _).trans (Work.keeps_cancelled hcancelled)
    exact hnumbered.of_le (Nat.le_of_eq hkeeps.nextThread_eq.symm)
      fun j k id hid => (Job.idAt_set_nil hjob rfl hid).2
  | cancels hjob =>
    exact hnumbered.of_le (Nat.le_refl _) fun j k id hid => by rwa [← Job.idAt_cancel hjob]

lemma Leads.numbered (h : scene.Leads entries later) (hnumbered : scene.Numbered) :
    later.Numbered := by
  induction h with
  | here => exact hnumbered
  | step _ hnext ih => exact hnext.numbered ih

/-! ## Rest -/

/-- The threads of a job that rests are done, or have to wait. -/
def Rested (scene : Scene) : Prop :=
  ∀ {i job}, scene.jobs[i]? = some job → scene.active i = false →
    ∀ thread ∈ job.threads, thread.IsIdle

lemma Next.rested (h : Next scene entry later) (hrested : scene.Rested) : later.Rested := by
  intro i job hjob hrests thread hthread
  cases h with
  | @begins _ _ j other hbegins =>
    obtain ⟨-, -, -, -, rfl⟩ := hbegins
    by_cases hj : i = j
    · simp [hj] at hrests
    · dsimp only at hjob hrests
      rw [List.getElem?_set_ne (Ne.symm hj)] at hjob
      rw [Function.update_of_ne hj] at hrests
      exact hrested hjob hrests thread hthread
  | @resumes _ _ _ j =>
    by_cases hj : i = j
    · simp [hj] at hrests
    · dsimp only at hrests
      rw [Function.update_of_ne hj] at hrests
      exact hrested hjob hrests thread hthread
  | @rests d jobs active j other threads hother hactive hrunning _ hidle =>
    by_cases hj : i = j
    · subst hj
      rw [hother] at hjob
      cases hjob
      rw [Job.threads_of_running hrunning] at hthread
      exact hidle thread hthread
    · dsimp only at hrests
      rw [Function.update_of_ne hj] at hrests
      exact hrested hjob hrests thread hthread
  | @moves d jobs active j other threads k moving deed d' moved hother hactive =>
    have hj : i ≠ j := by
      rintro rfl
      exact Bool.false_ne_true (hrests.symm.trans hactive)
    dsimp only at hjob
    rw [List.getElem?_set_ne (Ne.symm hj)] at hjob
    exact hrested hjob hrests thread hthread
  | @ends d jobs active j other threads parts hother =>
    rcases Job.of_set hother hjob with ⟨rfl, rfl⟩ | ⟨hj, hjob⟩
    · cases hthread
    · dsimp only at hrests
      rw [Function.update_of_ne hj] at hrests
      exact hrested hjob hrests thread hthread
  | @gives d jobs active j other d' answer hother =>
    rcases Job.of_set hother hjob with ⟨rfl, rfl⟩ | ⟨hj, hjob⟩
    · cases hthread
    · exact hrested hjob hrests thread hthread
  | @cancels d jobs active j other hother =>
    rcases Job.of_set hother hjob with ⟨rfl, rfl⟩ | ⟨hj, hjob⟩
    · exact hrested hother hrests thread (by rwa [Job.threads_cancel] at hthread)
    · exact hrested hjob hrests thread hthread
  | waits | closes | turns => exact hrested hjob hrests thread hthread

/-! ## Peace -/

/-- The generation of the session of a station that a thread has last read. -/
def seenBy (entries : List Entry) (station thread : Nat) : Nat :=
  entries.foldl (fun seen entry =>
    if entry.thread = thread then Thread.seenAfter station seen (some (entry.station, entry.deed))
    else seen) 0

lemma seenBy_deed (entries : List Entry) (station i id thread : Nat) (deed : Option (Nat × Deed)) :
    seenBy (entries ++ (deed.map (.of i id)).toList) station thread =
      if id = thread then Thread.seenAfter station (seenBy entries station thread) deed
      else seenBy entries station thread := by
  cases deed with
  | none => simp [Thread.seenAfter]
  | some deed => simp [seenBy, Entry.of]

/-- What holds of the login locks after a course of steps: all threads fit to the lines of all
stations, and whoever is in a line is a thread under way. -/
structure Peaceful (entries : List Entry) (scene : Scene) : Prop where
  fits : ∀ {i : Nat} {job : Job}, scene.jobs[i]? = some job → ∀ thread ∈ job.threads, ∀ station,
    thread.Fits station (scene.deployment.lock station) (seenBy entries station thread.id)
  known : ∀ station, ∀ id ∈ (scene.deployment.lock station).line,
    ∃ i k, Job.idAt scene.jobs i k = some id
  ordered : ∀ station, (scene.deployment.lock station).Ordered

/-- Steps that touch neither threads nor locks. -/
lemma Peaceful.of_eq (h : scene.Peaceful entries)
    (hlock : ∀ station, later.deployment.lock station = scene.deployment.lock station)
    (hjobs : later.jobs = scene.jobs) : later.Peaceful entries := by
  refine ⟨fun hjob thread hthread station => ?_, fun station id hid => ?_, fun station => ?_⟩
  · rw [hjobs] at hjob
    rw [hlock]
    exact h.fits hjob thread hthread station
  · rw [hlock] at hid
    rw [hjobs]
    exact h.known station id hid
  · rw [hlock]
    exact h.ordered station

section

variable {i : Nat} {job : Job}

lemma Begins.lock (h : scene.Begins i job later) (station : Nat) :
    later.deployment.lock station = scene.deployment.lock station := by
  obtain ⟨connections, hbegun⟩ := h.deployment_eq
  rw [hbegun]
  exact scene.deployment.lock_employ _ station

lemma Begins.session (h : scene.Begins i job later) (station : Nat) :
    later.deployment.session station = scene.deployment.session station := by
  obtain ⟨connections, hbegun⟩ := h.deployment_eq
  rw [hbegun]
  exact scene.deployment.session_employ _ station

/-- A job begins with civil tasks that are not in any line. -/
lemma Begins.peaceful (h : scene.Begins i job later) (hnumbered : scene.Numbered)
    (hpeaceful : scene.Peaceful entries) : later.Peaceful entries := by
  have hlock := h.lock
  have hids := h.idAt
  have hnew : ∀ {id station}, id ∈ (scene.deployment.lock station).line →
      id < scene.deployment.nextThread := by
    intro id station hid
    obtain ⟨j, k, hfound⟩ := hpeaceful.known station id hid
    exact hnumbered.fresh hfound
  obtain ⟨hbegun, -, -, hwaiting, hlater⟩ := h
  have hjobs := congrArg Scene.jobs hlater
  refine ⟨fun {j other} hother thread hthread station => ?_, fun station id hid => ?_,
    fun station => ?_⟩
  · rw [hlock]
    rw [hjobs] at hother
    rcases Job.of_set hbegun hother with ⟨-, rfl⟩ | ⟨-, hother⟩
    · obtain ⟨connections, hbegin⟩ := Work.begin_employs scene.deployment job.work
      obtain ⟨k, hk, rfl⟩ := List.mem_mapIdx.1 hthread
      have hcivil := job.work.civil_begin scene.deployment _ (List.getElem_mem hk)
      refine Thread.fits_of_minds rfl rfl (fun hline => ?_) (hcivil.minds station _)
      have hlt := hnew hline
      rw [hbegin] at hlt
      exact absurd hlt (by simp [Deployment.employ])
    · exact hpeaceful.fits hother thread hthread station
  · rw [hlock] at hid
    obtain ⟨j, k, hfound⟩ := hpeaceful.known station id hid
    refine ⟨j, k, ?_⟩
    rw [hids, if_neg ?_, hfound]
    rintro rfl
    rw [Job.idAt_eq hbegun, Job.threads, hwaiting] at hfound
    cases hfound
  · rw [hlock]
    exact hpeaceful.ordered station

end

section

variable {d d' : Deployment} {jobs : List Job} {active : Nat → Bool} {i k : Nat} {job : Job}
  {threads : List (Thread job.work.Part)} {thread thread' : Thread job.work.Part}
  {deed : Option (Nat × Deed)}

/-- After a move there is the thread that has moved, and all others have other numbers. -/
lemma Numbered.forall_moved (h : (⟨d, jobs, active⟩ : Scene).Numbered) (hjob : jobs[i]? = some job)
    (hrunning : job.progress = .running threads) (hthread : threads[k]? = some thread)
    {p : Nat → (α : Type) → Thread α → Prop} (hmoved : p i _ thread')
    (hothers : ∀ {j other}, jobs[j]? = some other → ∀ found ∈ other.threads,
      found.id ≠ thread.id → p j _ found) :
    ∀ {j other}, (jobs.set i (job.withThreads (threads.set k thread')))[j]? = some other →
      ∀ found ∈ other.threads, p j _ found := by
  have hthreads := Job.threads_of_running hrunning
  have hplace : Job.idAt jobs i k = some thread.id := by
    rw [Job.idAt_eq hjob, hthreads, List.getElem?_map, hthread, Option.map_some]
  have hother : ∀ {j l : Nat} {other : Job} {found : Thread other.work.Part},
      jobs[j]? = some other → other.threads[l]? = some found → (i = j → k ≠ l) →
      p j _ found := by
    intro j l other found hother hfound hne
    have hid : Job.idAt jobs j l = some found.id := by
      rw [Job.idAt_eq hother, List.getElem?_map, hfound, Option.map_some]
    refine hothers hother found (List.mem_of_getElem? hfound) fun heq => ?_
    rw [heq] at hid
    obtain ⟨hi, hk⟩ := h.distinct hplace hid
    exact hne hi hk
  intro j other hlater found hfound
  obtain ⟨l, hl⟩ := List.getElem?_of_mem hfound
  rcases Job.of_set hjob hlater with ⟨rfl, rfl⟩ | ⟨hj, hlater⟩
  · have hset : (threads.set k thread')[l]? = some found := hl
    by_cases hlk : k = l
    · subst hlk
      rw [List.getElem?_set_self (List.getElem?_eq_some_iff.1 hthread).1] at hset
      cases hset
      exact hmoved
    · rw [List.getElem?_set_ne hlk] at hset
      have hbefore : job.threads[l]? = some found := hthreads ▸ hset
      have hkept := hother hjob hbefore fun _ => hlk
      exact hkept
  · exact hother hlater hl fun hi => absurd hi.symm hj

/-- A move keeps peace. -/
lemma peaceful_moves (hjob : jobs[i]? = some job) (hrunning : job.progress = .running threads)
    (hthread : threads[k]? = some thread) (hmoves : thread.Moves d deed d' thread')
    (hnumbered : (⟨d, jobs, active⟩ : Scene).Numbered)
    (hpeaceful : (⟨d, jobs, active⟩ : Scene).Peaceful entries) :
    (⟨d', jobs.set i (job.withThreads (threads.set k thread')), active⟩ : Scene).Peaceful
      (entries ++ (deed.map (.of i thread.id)).toList) := by
  have hmem : thread ∈ job.threads :=
    Job.threads_of_running hrunning ▸ List.mem_of_getElem? hthread
  have hfits := hpeaceful.fits hjob thread hmem
  refine ⟨?_, fun station id hid => ?_, fun station => ?_⟩
  · refine hnumbered.forall_moved hjob hrunning hthread
      (p := fun _ _ found => ∀ station, found.Fits station (d'.lock station)
        (seenBy (entries ++ (deed.map (.of i thread.id)).toList) station found.id))
      (fun station => ?_) fun hother found hfound hne station => ?_
    · rw [seenBy_deed, if_pos hmoves.id_eq.symm, hmoves.id_eq]
      exact hmoves.fits (hpeaceful.ordered station) (hfits station)
    · rw [seenBy_deed, if_neg (Ne.symm hne)]
      exact (hpeaceful.fits hother found hfound station).of_moves hmoves (hfits station) hne
  · dsimp only
    rw [Job.idAt_set_same hjob (job.ids_set hrunning hthread hmoves)]
    dsimp only at hid
    rcases hmoves.lock_cases (hfits station) with hlock | ⟨hlock, -⟩ | hlock
    · rw [hlock] at hid
      exact hpeaceful.known station id hid
    · rw [hlock, (hpeaceful.ordered station).line_request] at hid
      rcases List.mem_append.1 hid with hbefore | hnew
      · exact hpeaceful.known station id hbefore
      · obtain rfl := List.mem_singleton.1 hnew
        obtain ⟨k, hplace⟩ := Job.idAt_of_mem hjob hmem
        exact ⟨i, k, hplace⟩
    · rw [hlock, (hpeaceful.ordered station).line_abandon] at hid
      exact hpeaceful.known station id (List.mem_of_mem_erase hid)
  · rcases hmoves.lock_cases (hfits station) with hlock | ⟨hlock, hnew⟩ | hlock
    · rw [hlock]
      exact hpeaceful.ordered station
    · rw [hlock]
      exact (hpeaceful.ordered station).request hnew
    · rw [hlock]
      exact (hpeaceful.ordered station).abandon _

end

section

variable {d d' : Deployment} {jobs : List Job} {active active' : Nat → Bool} {i : Nat}
  {job job' : Job}

/-- A thread of another job has another number. -/
lemma Numbered.not_mem (h : (⟨d, jobs, active⟩ : Scene).Numbered) (hjob : jobs[i]? = some job)
    {j : Nat} {other : Job} (hj : j ≠ i) (hother : jobs[j]? = some other)
    {thread : Thread other.work.Part} (hthread : thread ∈ other.threads) :
    thread.id ∉ job.threads.map Thread.id := by
  intro hmem
  obtain ⟨k, hk⟩ := List.getElem?_of_mem hmem
  obtain ⟨l, hl⟩ := Job.idAt_of_mem hother hthread
  exact hj (h.distinct hl ((Job.idAt_eq hjob k).trans hk)).1

/-- A job that is over leaves peace behind if none of its threads remains in a line. -/
lemma Peaceful.over (h : (⟨d, jobs, active⟩ : Scene).Peaceful entries)
    (hjob : jobs[i]? = some job) (hnone : job'.threads = [])
    (hfits : ∀ {j other}, j ≠ i → jobs[j]? = some other → ∀ thread ∈ other.threads, ∀ station,
      thread.Fits station (d'.lock station) (seenBy entries station thread.id))
    (hline : ∀ station, ∀ id ∈ (d'.lock station).line,
      id ∈ (d.lock station).line ∧ id ∉ job.threads.map Thread.id)
    (hordered : ∀ station, (d'.lock station).Ordered) :
    (⟨d', jobs.set i job', active'⟩ : Scene).Peaceful entries := by
  refine ⟨fun hother thread hthread station => ?_, fun station id hid => ?_, hordered⟩
  · rcases Job.of_set hjob hother with ⟨-, rfl⟩ | ⟨hj, hother⟩
    · rw [hnone] at hthread
      cases hthread
    · exact hfits hj hother thread hthread station
  · obtain ⟨hbefore, hgone⟩ := hline station id hid
    obtain ⟨j, k, hfound⟩ := h.known station id hbefore
    have hj : j ≠ i := by
      rintro rfl
      rw [Job.idAt_eq hjob] at hfound
      exact hgone (List.mem_of_getElem? hfound)
    exact ⟨j, k, by rwa [Job.idAt_set hjob, if_neg hj]⟩

/-- Whoever is done is in no line. -/
lemma Peaceful.not_mem_line (h : (⟨d, jobs, active⟩ : Scene).Peaceful entries)
    (hjob : jobs[i]? = some job) {thread : Thread job.work.Part} (hthread : thread ∈ job.threads)
    {result : job.work.Part} (hresult : thread.result? = some result) (station : Nat) :
    thread.id ∉ (d.lock station).line := by
  have hfits := h.fits hjob thread hthread station
  obtain ⟨id, task, wait, limit⟩ := thread
  unfold Thread.result? at hresult
  split at hresult
  · next htask hwait =>
    obtain rfl : task = _ := htask
    obtain rfl : wait = _ := hwait
    obtain ⟨hqueue, howner⟩ := hfits.goes (by simp)
    rw [Lock.line, List.mem_append, Option.mem_toList, not_or]
    exact ⟨by simpa [Task.Minds] using howner, hqueue⟩
  · cases hresult

lemma Peaceful.ended (h : (⟨d, jobs, active⟩ : Scene).Peaceful entries)
    (hjob : jobs[i]? = some job) {threads : List (Thread job.work.Part)}
    (hrunning : job.progress = .running threads) {parts : List job.work.Part}
    (hparts : threads.mapM Thread.result? = some parts) {answer : job.work.Answer} {time : Nat} :
    (⟨(job.work.finish d parts).1, jobs.set i (job.withAnswer answer time), active'⟩ :
      Scene).Peaceful entries := by
  have hlock : ∀ station, (job.work.finish d parts).1.lock station = d.lock station := by
    intro station
    obtain ⟨fleet, log, hfinish⟩ := job.work.finish_eq d parts
    rw [hfinish]
    rfl
  have hthreads := Job.threads_of_running hrunning
  refine h.over hjob rfl (fun _ hother thread hthread station => ?_) (fun station id hid => ?_)
    fun station => ?_
  · rw [hlock]
    exact h.fits hother thread hthread station
  · rw [hlock] at hid
    refine ⟨hid, fun hmem => ?_⟩
    obtain ⟨thread, hthread, rfl⟩ := List.mem_map.1 hmem
    obtain ⟨result, hresult⟩ := Thread.exists_result? hparts thread (hthreads ▸ hthread)
    exact h.not_mem_line hjob hthread hresult station hid
  · rw [hlock]
    exact h.ordered station

lemma Peaceful.given (h : (⟨d, jobs, active⟩ : Scene).Peaceful entries)
    (hnumbered : (⟨d, jobs, active⟩ : Scene).Numbered) (hjob : jobs[i]? = some job)
    {answer : job.work.Answer} {time : Nat}
    (hcancelled : job.work.cancelled (Thread.abandonAll d job.threads) = some (d', answer)) :
    (⟨d', jobs.set i (job.withAnswer answer time), active'⟩ : Scene).Peaceful entries := by
  have hlock : ∀ station, d'.lock station =
      (job.threads.map Thread.id).foldl Lock.abandon (d.lock station) := by
    intro station
    obtain ⟨log, rfl⟩ := Work.cancelled_eq hcancelled
    exact d.lock_abandonAll job.threads station
  have hline := fun station => (h.ordered station).abandonAll (job.threads.map Thread.id)
  refine h.over hjob rfl (fun hj hother thread hthread station => ?_) (fun station id hid => ?_)
    fun station => ?_
  · rw [hlock]
    exact (h.fits hother thread hthread station).abandonAll (hnumbered.not_mem hjob hj hother hthread)
  · rw [hlock, (hline station).2] at hid
    simpa using List.mem_filter.1 hid
  · rw [hlock]
    exact (hline station).1

end

/-- Every step keeps peace. -/
theorem Next.peaceful (h : Next scene entry later) (hnumbered : scene.Numbered)
    (hpeaceful : scene.Peaceful entries) : later.Peaceful (entries ++ entry.toList) := by
  cases h with
  | moves hjob _ hrunning hthread hmoves =>
    exact peaceful_moves hjob hrunning hthread hmoves hnumbered hpeaceful
  | begins hbegins =>
    rw [Option.toList_none, List.append_nil]
    exact hbegins.peaceful hnumbered hpeaceful
  | ends hjob _ hrunning hparts =>
    rw [Option.toList_none, List.append_nil]
    exact hpeaceful.ended hjob hrunning hparts
  | gives hjob _ _ _ hcancelled =>
    rw [Option.toList_none, List.append_nil]
    exact hpeaceful.given hnumbered hjob hcancelled
  | @cancels d jobs active i job hjob =>
    rw [Option.toList_none, List.append_nil]
    refine ⟨fun hother thread hthread station => ?_, fun station id hid => ?_, hpeaceful.ordered⟩
    · rcases Job.of_set hjob hother with ⟨-, rfl⟩ | ⟨-, hother⟩
      · exact hpeaceful.fits hjob thread (by rwa [Job.threads_cancel] at hthread) station
      · exact hpeaceful.fits hother thread hthread station
    · dsimp only
      rw [Job.idAt_cancel hjob]
      exact hpeaceful.known station id hid
  | turns station link =>
    rw [Option.toList_none, List.append_nil]
    exact hpeaceful.of_eq (Deployment.lock_adjust_of_eq (by intro; rfl)) rfl
  | resumes | rests | waits | closes =>
    rw [Option.toList_none, List.append_nil]
    exact hpeaceful.of_eq (fun _ => rfl) rfl

/-- No job has been taken up yet, and nobody has a lock or waits for one. -/
structure Fresh (scene : Scene) : Prop where
  waiting : ∀ job ∈ scene.jobs, job.progress = .waiting
  locks : ∀ station, scene.deployment.lock station = {}

namespace Fresh

lemma threads_eq (h : scene.Fresh) {i : Nat} {job : Job} (hjob : scene.jobs[i]? = some job) :
    job.threads = [] := by
  rw [Job.threads, h.waiting job (List.mem_of_getElem? hjob)]

lemma idAt_eq (h : scene.Fresh) (i k : Nat) : Job.idAt scene.jobs i k = none := by
  cases hjob : scene.jobs[i]? with
  | none => rw [Job.idAt, hjob, Option.bind_none]
  | some job => rw [Job.idAt_eq hjob, h.threads_eq hjob, List.map_nil, List.getElem?_nil]

lemma numbered (h : scene.Fresh) : scene.Numbered := by
  refine ⟨fun hid => ?_, fun hid => ?_⟩ <;>
  · rw [h.idAt_eq] at hid
    cases hid

lemma rested (h : scene.Fresh) : scene.Rested := by
  intro i job hjob _ thread hthread
  rw [h.threads_eq hjob] at hthread
  cases hthread

lemma peaceful (h : scene.Fresh) : scene.Peaceful [] := by
  refine ⟨fun hjob thread hthread => ?_, fun station id hid => ?_, fun station => ?_⟩
  · rw [h.threads_eq hjob] at hthread
    cases hthread
  · rw [h.locks] at hid
    cases hid
  · rw [h.locks]
    exact Lock.ordered_empty

end Fresh

lemma Leads.rested (h : scene.Leads entries later) (hfresh : scene.Fresh) : later.Rested := by
  induction h with
  | here => exact hfresh.rested
  | step _ hnext ih => exact hnext.rested ih

/-- From a fresh start there is always peace. -/
theorem Leads.peaceful (h : scene.Leads entries later) (hfresh : scene.Fresh) :
    later.Peaceful entries := by
  induction h with
  | here => exact hfresh.peaceful
  | step h hnext ih => exact hnext.peaceful (h.numbered hfresh.numbered) ih

/-! ## Generations -/

/-- No thread has read a generation that is yet to come. -/
lemma Next.seenBy_le (h : Next scene entry later) {station : Nat}
    (hle : ∀ thread, seenBy entries station thread ≤ (scene.deployment.session station).generation)
    (thread : Nat) : seenBy (entries ++ entry.toList) station thread ≤
      (later.deployment.session station).generation := by
  cases h with
  | begins hbegins =>
    rw [Option.toList_none, List.append_nil, hbegins.session]
    exact hle thread
  | @moves d jobs active i job threads k moving deed d' moved _ _ _ _ hmoves =>
    have hlater := hmoves.generation_le station
    refine Nat.le_trans ?_ hlater
    rw [seenBy_deed]
    split
    · -- what a thread reads is the generation of this moment
      cases hmoves with
      | @reads id appliance =>
        simp only [Thread.seenAfter]
        split
        · next hplace => exact Nat.le_of_eq (by rw [hplace])
        · exact hle thread
      | _ => exact hle thread
    · exact hle thread
  | turns place link =>
    rw [Option.toList_none, List.append_nil, Deployment.session_adjust_of_eq (by intro; rfl)]
    exact hle thread
  | @ends d jobs active i job threads parts =>
    obtain ⟨fleet, log, hfinish⟩ := job.work.finish_eq d parts
    rw [Option.toList_none, List.append_nil]
    dsimp only
    rw [hfinish]
    exact hle thread
  | @gives d jobs active i job d' answer _ _ _ _ hcancelled =>
    obtain ⟨log, rfl⟩ := Work.cancelled_eq hcancelled
    rw [Option.toList_none, List.append_nil]
    refine Nat.le_trans (hle thread) (Nat.le_of_eq ?_)
    exact (congrArg Session.generation (d.session_abandonAll job.threads station)).symm
  | resumes | rests | waits | closes | cancels =>
    rw [Option.toList_none, List.append_nil]
    exact hle thread

lemma Leads.seenBy_le (h : scene.Leads entries later) (station thread : Nat) :
    seenBy entries station thread ≤ (later.deployment.session station).generation := by
  induction h generalizing thread with
  | here => exact Nat.zero_le _
  | step _ hnext ih => exact hnext.seenBy_le ih thread

/-! ## Since when a lock is held -/

/-- A thread has got the lock of a station in the course of steps, and the session there is as it
was then, unless the thread has just ended a login attempt and is about to give the lock back. -/
def HoldsSince (start : Scene) (entries : List Entry) (scene : Scene) (station i : Nat)
    (thread : Thread α) : Prop :=
  ∃ earlier later before, entries = earlier ++ ⟨i, thread.id, station, .acquired⟩ :: later ∧
    start.Leads earlier before ∧
    (scene.deployment.session station = before.deployment.session station ∨
      thread.wait = .nothing ∧ thread.task.Releases station)

variable {start : Scene} {station i : Nat}

lemma HoldsSince.step {thread : Thread α} (h : start.HoldsSince entries scene station i thread)
    (entry : Option Entry)
    (hsession : later.deployment.session station = scene.deployment.session station) :
    start.HoldsSince (entries ++ entry.toList) later station i thread := by
  obtain ⟨earlier, after, before, rfl, hleads, hheld⟩ := h
  refine ⟨earlier, after ++ entry.toList, before, by simp, hleads, ?_⟩
  rwa [hsession]

/-- What a thread that goes on with a lock in its hands has done before. -/
def Holding (start : Scene) (entries : List Entry) (scene : Scene) : Prop :=
  ∀ (i : Nat) (job : Job), scene.jobs[i]? = some job → ∀ thread ∈ job.threads, ∀ station,
    (scene.deployment.lock station).owner = some thread.id → thread.wait ≠ .lock station →
    start.HoldsSince entries scene station i thread

lemma Begins.holding {job : Job} (hbegins : scene.Begins i job later) (hnumbered : scene.Numbered)
    (hpeaceful : scene.Peaceful entries) (h : start.Holding entries scene) :
    start.Holding entries later := by
  intro j other hother thread hthread station howner hwait
  rw [hbegins.lock] at howner
  have hsession := hbegins.session station
  have hids := hbegins.idAt
  obtain ⟨hbegun, -, -, -, hlater⟩ := hbegins
  have hset := hother
  rw [congrArg Scene.jobs hlater] at hset
  rcases Job.of_set hbegun hset with ⟨rfl, rfl⟩ | ⟨-, hold⟩
  · -- a new thread has a new number, and whoever has a lock has an old one
    have hline : thread.id ∈ (scene.deployment.lock station).line := by
      rw [Lock.line, howner]
      exact List.mem_cons_self
    obtain ⟨k, l, hfound⟩ := hpeaceful.known station _ hline
    have hlt := hnumbered.fresh hfound
    obtain ⟨k, hk⟩ := Job.idAt_of_mem hother hthread
    rw [hids, if_pos rfl] at hk
    split at hk
    · have hid := Option.some.inj hk
      omega
    · cases hk
  · have hheld := (h _ _ hold thread hthread station howner hwait).step none hsession
    rwa [Option.toList_none, List.append_nil] at hheld

lemma holding_moves {d d' : Deployment} {jobs : List Job} {active : Nat → Bool} {k : Nat}
    {job : Job} {threads : List (Thread job.work.Part)} {thread thread' : Thread job.work.Part}
    {deed : Option (Nat × Deed)} (hleads : start.Leads entries ⟨d, jobs, active⟩)
    (hjob : jobs[i]? = some job) (hrunning : job.progress = .running threads)
    (hthread : threads[k]? = some thread) (hmoves : thread.Moves d deed d' thread')
    (hnumbered : (⟨d, jobs, active⟩ : Scene).Numbered)
    (hpeaceful : (⟨d, jobs, active⟩ : Scene).Peaceful entries)
    (h : start.Holding entries ⟨d, jobs, active⟩) :
    start.Holding (entries ++ (deed.map (.of i thread.id)).toList)
      ⟨d', jobs.set i (job.withThreads (threads.set k thread')), active⟩ := by
  have hmem : thread ∈ job.threads :=
    Job.threads_of_running hrunning ▸ List.mem_of_getElem? hthread
  have hfits := hpeaceful.fits hjob thread hmem
  intro j other hlater
  refine hnumbered.forall_moved hjob hrunning hthread
    (p := fun j _ found => ∀ station, (d'.lock station).owner = some found.id →
      found.wait ≠ .lock station →
      start.HoldsSince (entries ++ (deed.map (.of i thread.id)).toList)
        ⟨d', jobs.set i (job.withThreads (threads.set k thread')), active⟩ station j found)
    (fun station howner hwait => ?_) (fun hother found hfound hne station howner hwait => ?_) hlater
  · rcases hmoves.holds (hpeaceful.ordered station) (hfits station) howner hwait with
      ⟨rfl, hsession⟩ | ⟨hbefore, hwaited, hgoes, hsession⟩
    · refine ⟨entries, [], _, ?_, hleads, .inl hsession⟩
      rw [hmoves.id_eq]
      rfl
    · obtain ⟨earlier, after, before, rfl, hstart, hheld⟩ :=
        h _ _ hjob thread hmem station hbefore hwaited
      refine ⟨earlier, after ++ (deed.map (.of i thread.id)).toList, before, ?_, hstart, ?_⟩
      · rw [hmoves.id_eq]
        simp
      · exact hsession.imp_left fun hsame => hsame.trans (hheld.resolve_right hgoes)
  · have hbefore := (hpeaceful.fits hother found hfound station).owner_of_moves hwait hmoves
      (hfits station) hne howner
    refine (h _ _ hother found hfound station hbefore hwait).step _
      (hmoves.session_eq (hfits station) ?_)
    dsimp only at hbefore
    rw [hbefore]
    exact fun heq => hne (Option.some.inj heq)

/-- What a thread has done for the lock that it has is known along every course. -/
theorem Leads.holding (h : start.Leads entries scene) (hfresh : start.Fresh) :
    start.Holding entries scene := by
  induction h with
  | here =>
    intro i job hjob thread hthread
    rw [hfresh.threads_eq hjob] at hthread
    cases hthread
  | @step entries between entry later hleads hnext ih =>
    have hnumbered := hleads.numbered hfresh.numbered
    have hpeaceful := hleads.peaceful hfresh
    cases hnext with
    | begins hbegins =>
      rw [Option.toList_none, List.append_nil]
      exact hbegins.holding hnumbered hpeaceful ih
    | moves hjob _ hrunning hthread hmoves =>
      exact holding_moves hleads hjob hrunning hthread hmoves hnumbered hpeaceful ih
    | resumes | rests | waits | closes =>
      intro i job hjob thread hthread station howner hwait
      exact (ih _ _ hjob thread hthread station howner hwait).step none rfl
    | turns station link =>
      intro i job hjob thread hthread other howner hwait
      rw [Deployment.lock_adjust_of_eq (by intro; rfl)] at howner
      exact (ih _ _ hjob thread hthread other howner hwait).step none
        (Deployment.session_adjust_of_eq (by intro; rfl) other)
    | @ends d jobs active i job threads parts hjob =>
      obtain ⟨fleet, log, hfinish⟩ := job.work.finish_eq d parts
      intro j other hother thread hthread station howner hwait
      rcases Job.of_set hjob hother with ⟨-, rfl⟩ | ⟨-, hother⟩
      · cases hthread
      · dsimp only at howner
        rw [hfinish] at howner
        refine (ih _ _ hother thread hthread station howner hwait).step none ?_
        dsimp only
        rw [hfinish]
        rfl
    | @gives d jobs active i job d' answer hjob _ _ _ hcancelled =>
      obtain ⟨log, rfl⟩ := Work.cancelled_eq hcancelled
      intro j other hother thread hthread station howner hwait
      rcases Job.of_set hjob hother with ⟨-, rfl⟩ | ⟨hj, hother⟩
      · cases hthread
      · have hbefore := (hpeaceful.fits hother thread hthread station).owner_of_abandonAll hwait
          (hnumbered.not_mem hjob hj hother hthread)
          ((congrArg Lock.owner (d.lock_abandonAll job.threads station)).symm.trans howner)
        exact (ih _ _ hother thread hthread station hbefore hwait).step none
          (d.session_abandonAll job.threads station)
    | @cancels d jobs active i job hjob =>
      intro j other hother thread hthread station howner hwait
      rcases Job.of_set hjob hother with ⟨rfl, rfl⟩ | ⟨-, hother⟩
      · rw [Job.threads_cancel] at hthread
        exact (ih _ _ hjob thread hthread station howner hwait).step none rfl
      · exact (ih _ _ hother thread hthread station howner hwait).step none rfl

end Scene
end StorageFleet
