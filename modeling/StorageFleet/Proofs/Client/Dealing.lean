import StorageFleet.Proofs.Client.Request
import StorageFleet.Proofs.Job.Polling
import StorageFleet.Proofs.Task.Succession

/-!
# Requests on a clock

`Client.dealing` is a submitted request on a clock, with all that the client does for it: the
request itself, a login and the request once more if its session is refused, and the job that it may
start.  Its ending is the response, or why there is none.

The two ways in which calls submit requests are led back to it (`play_order`, `play_fetch`).  A
dealing begins with the request, what else it sends are logins and looks at a job, and it succeeds
only when the job is done (`deals_dealing`).
-/

namespace StorageFleet
open StorageFleet.Task (Event Circumstance Moment Playback Deadline)

namespace Client

variable (client : Client) (world : Nat → Circumstance)

/-- A request that is submitted at a moment, and what comes of it. -/
def dealing (request : Request) (start : Moment) : Playback (Except Fault Response) :=
  (client.submit request).run.play world none start

/-- A request whose response does not matter. -/
def ordering (request : Request) (start : Moment) : Playback (Except Fault Unit) :=
  (client.dealing world request start).map fun outcome => outcome.map fun _ => ()

/-- What holds of a request that is submitted at a moment: it goes out at once, and all that is sent
for it is the request itself, logins, and looks at a job.  It has succeeded only when the job is
done that it may have started; the wait for the job is then the last thing that was done. -/
structure Deals (request : Request) (start : Moment) (run : Playback (Except Fault Response)) :
    Prop where
  sends : ∃ session rest, run.events =
    (start.time, .read session) :: (start.time, .sent (request.signed session)) :: rest
  sentFor : ∀ time sent, (time, .sent sent) ∈ run.events → client.SentFor request sent
  withJob : ∀ said later response, run = ⟨said, some ⟨later, .ok response⟩⟩ →
    response.status = 202 → ∃ job moment waited, client.NamesJob response job ∧
      (client.awaitJob job).run.play world none moment = ⟨waited, some ⟨later, .ok ()⟩⟩ ∧
      waited <:+ said

variable {client world} {request : Request} {start now : Moment}

lemma play_order (method path : String) (body : Option Json) :
    (client.order method path body).run.play world none now =
      client.ordering world { method, path, body } now :=
  Exchange.play_bind_ofExcept world _ (fun _ => .ok ()) now

lemma play_fetch (reader : Reader α) (path : String) :
    (client.fetch reader path).run.play world none now =
      (client.dealing world { method := "GET", path } now).map fun outcome =>
        outcome.bind fun response => response.decode reader client.endpoint :=
  Exchange.play_bind_ofExcept world _ _ now

/-- The request goes out at once. -/
lemma dealing_sends (request : Request) (start : Moment) :
    ∃ session rest, (client.dealing world request start).events =
      (start.time, .read session) :: (start.time, .sent (request.signed session)) :: rest := by
  obtain ⟨next, hsubmit⟩ : ∃ next, (client.submit request).run =
      (client.sendAuthenticated request).run.bind next := ⟨_, rfl⟩
  rw [dealing, hsubmit, sendAuthenticated_bind]
  exact ⟨_, _, rfl⟩

/-- All that is sent for the request is the request itself, logins, and looks at a job. -/
lemma sentFor_of_dealing {time : Nat} {sent : Request}
    (h : (time, .sent sent) ∈ (client.dealing world request start).events) :
    client.SentFor request sent := by
  have hsuits : Deadline.Suits none (none : Option (Task (Except Fault Response))) := by
    simp [Deadline.Suits]
  obtain ⟨runner, path, -⟩ := Task.play_follows world (client.submit request).run none none start
    hsuits
  refine (path.sends ⟨sends_submit request, by simp⟩).2 sent ?_
  rw [List.mem_reverse]
  exact List.mem_map_of_mem h

lemma dealing_eq (request : Request) (start : Moment) : client.dealing world request start =
    ((client.sendAuthenticated request).run.play world none start).andThen fun talked =>
      (client.afterAnswer request talked.result).play world none talked.moment := by
  rw [dealing, submit_run]
  exact Task.play_bind_of_tidy world _ none start (tidy_sendAuthenticated request false)

lemma namesJob_of_jobOf {response : Response} {job : String}
    (h : client.jobOf response = .ok job) : client.NamesJob response job := by
  rcases exists_namesJob_or_misnames client response with ⟨other, hnames⟩ | ⟨_, _, hfailed⟩
  · rw [jobOf_of_namesJob hnames] at h
    cases h
    exact hnames
  · rw [hfailed] at h
    cases h

lemma exists_wait_of_dealing {said : List (Nat × Event)} {later : Moment} {response : Response}
    (h : client.dealing world request start = ⟨said, some ⟨later, .ok response⟩⟩)
    (accepted : response.status = 202) : ∃ job moment waited, client.NamesJob response job ∧
      (client.awaitJob job).run.play world none moment = ⟨waited, some ⟨later, .ok ()⟩⟩ ∧
      waited <:+ said := by
  rw [dealing_eq] at h
  obtain ⟨talked, ⟨moment, outcome⟩, rest, -, hafter, rfl⟩ := Playback.exists_of_andThen h
  cases outcome with
  | error fault => simp [afterAnswer, Task.play] at hafter
  | ok answer =>
    simp only [afterAnswer] at hafter
    split at hafter
    · cases hjob : client.jobOf answer with
      | error fault => simp [hjob, Task.play] at hafter
      | ok job =>
        simp only [hjob] at hafter
        have hmap := Task.play_map world (fun outcome => outcome.map fun _ => answer)
          (client.awaitJob job).run none moment
        rw [Option.map_none] at hmap
        rw [hmap, Playback.map_eq_iff] at hafter
        obtain ⟨outcome, hwait, houtcome⟩ := hafter
        cases outcome with
        | error fault => cases houtcome
        | ok _ =>
          cases houtcome
          exact ⟨job, moment, rest, namesJob_of_jobOf hjob, hwait, talked, rfl⟩
    · next hstatus =>
      split at hafter
      · simp [Task.play] at hafter
      · cases hafter
        exact absurd accepted hstatus

theorem deals_dealing (client : Client) (world : Nat → Circumstance) (request : Request)
    (start : Moment) : client.Deals world request start (client.dealing world request start) where
  sends := dealing_sends request start
  sentFor _ _ hsent := sentFor_of_dealing hsent
  withJob _ _ _ ended accepted := exists_wait_of_dealing ended accepted

/-- A request that is done with its first answer. -/
lemma dealing_of_success {response : Response} (delay : Nat)
    (answered : (world (start.used + 1)).answer = .ok response)
    (delayed : (world (start.used + 1)).delay = some delay) (success : response.status < 300)
    (done : response.status ≠ 202) :
    client.dealing world request start =
      ⟨[(start.time, .read (world start.used).session),
        (start.time, .sent (request.signed (world start.used).session)),
        (start.time + delay, .answered (.ok response))],
        some ⟨⟨start.used + 2, start.time + delay⟩, .ok response⟩⟩ := by
  have hsession : response.wantsSession = false := by
    simp only [Response.wantsSession, Bool.and_eq_false_imp, beq_iff_eq]
    omega
  have hafter : client.afterAnswer request (.ok response) = .done (.ok response) := by
    simp only [afterAnswer, if_neg done, if_neg (Nat.not_le.2 success)]
  rw [dealing, submit_run, sendAuthenticated_bind]
  simp only [Task.play, answered, delayed, Task.await, afterFirst, hsession, hafter]
  rfl

end Client
end StorageFleet
