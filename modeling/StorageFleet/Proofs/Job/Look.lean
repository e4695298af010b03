import StorageFleet.Proofs.Session.Talk
import StorageFleet.Proofs.Task.Playback

/-!
# Looks at a job

A *look* is one round trip of a client that waits for a job: a talk about the job's status.
`Client.look` plays it without a time limit, as often as the surroundings let it renew the session
and for as long as they let it wait.  `Client.verdict?` is what its outcome says of the job, if it
says that the job is over.

Looks follow one another at intervals.  `Client.lookStart?` is the timetable: look `0` begins one
interval after the wait has begun, and look `k + 1` one interval after look `k` was answered,
provided that it was answered and left the job open.  `Client.Decides` says that look `k` is the
one that finds the job over, and `Client.looks` lists what the first looks do up to a deadline.
-/

namespace StorageFleet
open StorageFleet.Task (Event Stage Runner Circumstance Moment Ending Playback Deadline)

namespace Client

variable (client : Client) (world : Nat → Circumstance) (job : String)

/-- Asks for the status of a job. -/
def statusRequest (job : String) : Request where
  method := "GET"
  path := "jobStatus/" ++ job

/-- What the outcome of a look says of the job, if it says that the job is over. -/
def verdict? : Except Fault Response → Option (Except Fault Unit)
  | .error fault => some (.error fault)
  | .ok response =>
    if response.status = 200 ∨ response.status = 201 then some (.ok ())
    else if response.status = 202 then none
    else some (.error (response.fault client.endpoint (statusRequest job)))

/-- A look that begins at a moment. -/
def look (start : Moment) : Playback (Except Fault Response) :=
  (client.sendAuthenticated (statusRequest job)).run.play world none start

/-- One interval later. -/
def rested (now : Moment) : Moment :=
  ⟨now.used, now.time + client.interval.milliseconds⟩

/-- When look `k` begins, for a client that waits from `now` on. -/
def lookStart? (now : Moment) : Nat → Option Moment
  | 0 => some (client.rested now)
  | k + 1 => (lookStart? now k).bind fun start =>
    (client.look world job start).ending.bind fun ending =>
      if client.verdict? job ending.result = none then some (client.rested ending.moment)
      else none

/-- Look `k` finds the job over: `ending` is its verdict at the moment of its answer. -/
def Decides (now : Moment) (k : Nat) (ending : Ending (Except Fault Unit)) : Prop :=
  ∃ start found, client.lookStart? world job now k = some start ∧
    (client.look world job start).ending = some found ∧
    client.verdict? job found.result = some ending.result ∧ found.moment = ending.moment

/-- What look `k` does up to a deadline, after the sleep before it. -/
def lookEvents (now : Moment) (deadline k : Nat) : List (Nat × Event) :=
  match client.lookStart? world job now k with
  | none => []
  | some start => (start.time, .slept) ::
    (client.look world job start).events.filter fun entry => entry.1 ≤ deadline

/-- What the first `count` looks do up to a deadline. -/
def looks (now : Moment) (deadline count : Nat) : List (Nat × Event) :=
  (List.range count).flatMap (client.lookEvents world job now deadline)

/-! ## One look -/

/-- What a client asks at a look. -/
lemma jobRequest_eq : jobRequest job = statusRequest job := rfl

lemma untimed_sendAuthenticated (request : Request) :
    (client.sendAuthenticated request).run.Untimed := by
  rw [← Task.bind_done (client.sendAuthenticated request).run, sendAuthenticated_bind]
  intro session answer
  cases answer with
  | error fault => trivial
  | ok response =>
    simp only [afterFirst]
    split
    · intro now
      simp only [afterLook]
      split
      · intro answer
        simp only [settling]
        cases client.loginOutcome answer with
        | error fault => trivial
        | ok _ => exact fun again answer => trivial
      · cases client.shared now with
        | error fault => trivial
        | ok _ => exact fun again answer => trivial
    · trivial

variable {client world job}

lemma look_since (start : Moment) : (client.look world job start).Since start.time :=
  Task.play_since_none world _ start

/-- A look sends its request at once. -/
lemma look_sends (start : Moment) : ∃ session rest, (client.look world job start).events =
    (start.time, .read session) ::
      (start.time, .sent ((statusRequest job).signed session)) :: rest := by
  rw [look, ← Task.bind_done (client.sendAuthenticated (statusRequest job)).run,
    sendAuthenticated_bind]
  exact ⟨_, _, rfl⟩

/-! ## What is said in a look -/

/-- The events of a talk: of requests it sends its own and logins, it counts renewals only, and
time limits and warnings do not occur. -/
def Utters (client : Client) (request : Request) : Event → Prop
  | .sent sent => sent = client.loginRequest ∨ ∃ session, sent = request.signed session
  | .counted counter => counter = .relogin client.endpoint
  | .slept | .limited | .unlimited | .warned _ | .late => False
  | .read _ | .answered _ | .acquired | .settled _ | .released | .dropped => True

section
variable {request : Request} {past : List Event}

lemma Due.utters {seen : Option Nat} (h : client.Due seen past) :
    ∀ event ∈ past, client.Utters request event := by
  cases h with
  | asked => simp [Utters]
  | unchanged => simp [Utters]

lemma Renewing.utters {α : Type} {seen : Option Nat} {k : Except Fault Unit → Task α}
    {stage : Stage α} (h : client.Renewing seen k past stage) :
    ∀ event ∈ past, client.Utters request event := by
  cases h with
  | entered | changed | unchanged => simp [Utters]
  | due hdue => exact hdue.utters
  | posting hdue | posted hdue | settled hdue => simpa [Utters] using hdue.utters

lemma Renewal.utters {seen : Option Nat} {outcome : Except Fault Unit}
    (h : client.Renewal seen past outcome) : ∀ event ∈ past, client.Utters request event := by
  cases h with
  | shared => simp [Utters]
  | own hdue => simpa [Utters] using hdue.utters

lemma utters_append {session : Session} {response : Response}
    (h : ∀ event ∈ past, client.Utters request event) :
    ∀ event ∈ past ++ refusal request session response, client.Utters request event := by
  have hrefusal : ∀ event ∈ refusal request session response, client.Utters request event := by
    simp [refusal, Utters]
  exact List.forall_mem_append.2 ⟨h, hrefusal⟩

lemma Talk.utters {α : Type} {k : Except Fault Response → Task α} {stage : Stage α}
    (h : client.Talk request k past stage) : ∀ event ∈ past, client.Utters request event := by
  cases h with
  | begun | looked | asked => simp [Utters]
  | refused => simp [refusal, Utters]
  | renewing _ hrenewing => exact utters_append hrenewing.utters
  | renewed _ hrenewal => exact utters_append hrenewal.utters
  | lookedAgain _ hrenewal =>
    exact List.forall_mem_cons.2 ⟨trivial, utters_append hrenewal.utters⟩
  | askedAgain _ hrenewal again =>
    refine List.forall_mem_cons.2 ⟨.inr ⟨again, rfl⟩, ?_⟩
    exact List.forall_mem_cons.2 ⟨trivial, utters_append hrenewal.utters⟩

lemma Conversation.utters {outcome : Except Fault Response}
    (h : client.Conversation request past outcome) :
    ∀ event ∈ past, client.Utters request event := by
  cases h with
  | failed => simp [Utters]
  | accepted => simp [refusal, Utters]
  | unrenewed _ hrenewal => exact utters_append hrenewal.utters
  | repeated _ hrenewal again answer =>
    refine List.forall_mem_cons.2 ⟨trivial, List.forall_mem_cons.2 ⟨.inr ⟨again, rfl⟩, ?_⟩⟩
    exact List.forall_mem_cons.2 ⟨trivial, utters_append hrenewal.utters⟩

end

/-- What a look does are events of a talk. -/
lemma look_utters (start : Moment) : ∀ entry ∈ (client.look world job start).events,
    client.Utters (statusRequest job) entry.2 := by
  have hsuits : Deadline.Suits none (none : Option (Task (Except Fault Response))) := by
    simp [Deadline.Suits]
  obtain ⟨runner, path, -⟩ := Task.play_follows world
    (client.sendAuthenticated (statusRequest job)).run none none start hsuits
  rw [← Task.bind_done (client.sendAuthenticated (statusRequest job)).run] at path
  suffices hpast : ∀ event ∈ ((client.look world job start).events.map Prod.snd).reverse,
      client.Utters (statusRequest job) event by
    intro entry hentry
    exact hpast _ (List.mem_reverse.2 (List.mem_map_of_mem hentry))
  rw [look, ← Task.bind_done (client.sendAuthenticated (statusRequest job)).run]
  rcases Talk.of_path path with ⟨talk, -⟩ | ⟨said, stage, hpast, talk, -⟩ |
    ⟨said, rest, outcome, hpast, hsaid, hrest⟩
  · exact talk.utters
  · rw [hpast]
    exact List.forall_mem_cons.2 ⟨trivial, talk.utters⟩
  · obtain ⟨rfl, -⟩ := hrest.of_done
    rw [hpast]
    exact hsaid.utters

/-! ## The timetable -/

/-- The timetable goes on from the answer to the first look. -/
lemma lookStart?_succ (now : Moment) (k : Nat) : client.lookStart? world job now (k + 1) =
    (client.look world job (client.rested now)).ending.bind fun ending =>
      if client.verdict? job ending.result = none
      then client.lookStart? world job ending.moment k else none := by
  induction k with
  | zero => rfl
  | succ k ih =>
    rw [lookStart?, ih]
    cases (client.look world job (client.rested now)).ending with
    | none => rfl
    | some ending =>
      simp only [Option.bind_some]
      split
      · rfl
      · rfl

/-- The job was left open by the look before. -/
lemma exists_of_lookStart?_succ {now next : Moment} {k : Nat}
    (h : client.lookStart? world job now (k + 1) = some next) :
    ∃ start ending, client.lookStart? world job now k = some start ∧
      (client.look world job start).ending = some ending ∧
      client.verdict? job ending.result = none ∧ next = client.rested ending.moment := by
  obtain ⟨start, hstart, h⟩ := Option.bind_eq_some_iff.1 h
  obtain ⟨ending, hending, h⟩ := Option.bind_eq_some_iff.1 h
  split at h
  · next hopen =>
    cases h
    exact ⟨start, ending, hstart, hending, hopen, rfl⟩
  · cases h

/-- Looks begin an interval or more apart. -/
lemma lookStart?_apart {now start next : Moment} {k : Nat}
    (hstart : client.lookStart? world job now k = some start)
    (hnext : client.lookStart? world job now (k + 1) = some next) :
    start.time + client.interval.milliseconds ≤ next.time := by
  obtain ⟨start', ending, hstart', hending, -, rfl⟩ := exists_of_lookStart?_succ hnext
  obtain rfl : start = start' := Option.some.inj (hstart.symm.trans hstart')
  have hle : start.time ≤ ending.moment.time := (look_since start).le_ending ending hending
  simp only [rested]
  omega

lemma lookStart?_le {now start : Moment} {k : Nat}
    (h : client.lookStart? world job now k = some start) :
    now.time + client.interval.milliseconds ≤ start.time := by
  induction k generalizing start with
  | zero =>
    cases h
    exact Nat.le_refl _
  | succ k ih =>
    obtain ⟨before, -, hbefore, -⟩ := exists_of_lookStart?_succ h
    have hfirst := ih hbefore
    have hapart := lookStart?_apart hbefore h
    omega

lemma Decides.le {now : Moment} {k : Nat} {ending : Ending (Except Fault Unit)}
    (h : client.Decides world job now k ending) :
    now.time + client.interval.milliseconds ≤ ending.moment.time := by
  obtain ⟨start, found, hstart, hfound, -, hmoment⟩ := h
  have hbegun : now.time + client.interval.milliseconds ≤ start.time := lookStart?_le hstart
  have hanswered := (look_since start).le_ending found hfound
  rw [← hmoment]
  omega

lemma decides_zero {now : Moment} {ending : Ending (Except Fault Unit)} :
    client.Decides world job now 0 ending ↔
      ∃ found, (client.look world job (client.rested now)).ending = some found ∧
        client.verdict? job found.result = some ending.result ∧ found.moment = ending.moment := by
  constructor
  · rintro ⟨start, found, hstart, hfound, hverdict, hmoment⟩
    cases hstart
    exact ⟨found, hfound, hverdict, hmoment⟩
  · rintro ⟨found, hfound, hverdict, hmoment⟩
    exact ⟨_, found, rfl, hfound, hverdict, hmoment⟩

/-- What a later look finds is found by the looks that begin with the first answer. -/
lemma decides_succ {now : Moment} {k : Nat} {ending : Ending (Except Fault Unit)} :
    client.Decides world job now (k + 1) ending ↔
      ∃ first, (client.look world job (client.rested now)).ending = some first ∧
        client.verdict? job first.result = none ∧
        client.Decides world job first.moment k ending := by
  simp only [Decides, lookStart?_succ]
  cases (client.look world job (client.rested now)).ending with
  | none => simp
  | some first =>
    simp only [Option.bind_some, Option.some.injEq, exists_eq_left']
    by_cases hopen : client.verdict? job first.result = none
    · simp [hopen]
    · simp [hopen]

/-! ## The first looks -/

lemma looks_one (now : Moment) (deadline : Nat) : client.looks world job now deadline 1 =
    ((client.rested now).time, .slept) ::
      (client.look world job (client.rested now)).events.filter fun entry =>
        entry.1 ≤ deadline := by
  simp [looks, lookEvents, lookStart?]

lemma looks_succ {now : Moment} {first : Ending (Except Fault Response)}
    (hfirst : (client.look world job (client.rested now)).ending = some first)
    (hopen : client.verdict? job first.result = none) (deadline count : Nat) :
    client.looks world job now deadline (count + 1) =
      client.looks world job now deadline 1 ++
        client.looks world job first.moment deadline count := by
  have hnext : ∀ k, client.lookEvents world job now deadline (k + 1) =
      client.lookEvents world job first.moment deadline k := by
    intro k
    rw [lookEvents, lookStart?_succ, hfirst, Option.bind_some, if_pos hopen]
    rfl
  simp only [looks, List.range_succ_eq_map, List.flatMap_cons, List.flatMap_map, hnext]
  simp

/-- Looks that begin by the deadline consist of sleeps and of what is said in a look. -/
lemma mem_looks {now : Moment} {deadline count : Nat} {entry : Nat × Event}
    (h : entry ∈ client.looks world job now deadline count) :
    entry.2 = .slept ∨ client.Utters (statusRequest job) entry.2 := by
  obtain ⟨k, -, hmem⟩ := List.mem_flatMap.1 h
  unfold lookEvents at hmem
  split at hmem
  · cases hmem
  · next start hstart =>
    rcases List.mem_cons.1 hmem with rfl | hmem
    · exact .inl rfl
    · exact .inr (look_utters start entry (List.mem_filter.1 hmem).1)

end Client
end StorageFleet
