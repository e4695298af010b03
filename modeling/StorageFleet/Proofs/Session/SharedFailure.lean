import StorageFleet.Proofs.Session.SingleFlight
import StorageFleet.Proofs.Session.Submission

/-!
# Failed logins that are shared

When a login attempt fails, the task that made it and the tasks that share its outcome fail with
it.  The first keeps the fault of the attempt.  The others have only the text that was recorded, and
make it an authentication failure.

`shared_failure` says so for every run: the two faults agree in status, and in whether a retry may
help, just if the attempt failed for want of authentication; an answer of the appliance does that
just if it describes an error with the code `EAUTH`.  `shared_failure_differs` is a run in which a
transport error reaches one task as temporary and the other as final.
-/

namespace StorageFleet
open StorageFleet.Task (Event Stage Runner EndsIn)

/-- Task `i` shares the outcome of the attempt that `before` ends with: after it, and before any
other attempt ended, the task looked at the session under the lock and found that it had changed
since its request was refused. -/
def SharedBy (i : Nat) (later before : List (Nat × Event)) : Prop :=
  ∃ after now middle response sent seen prior, later = after ++ (i, .read now) :: middle ∧
    attempts middle = [] ∧
    own i (middle ++ before) =
      .acquired :: .answered (.ok response) :: .sent sent :: .read seen :: prior ∧
    now.generation ≠ seen.generation

namespace Fault

/-- Two faults are the same to the orchestrator. -/
def Alike (fault other : Fault) : Prop :=
  fault.status = other.status ∧ fault.isRetryable = other.isRetryable

lemma isRetryable_of_unauthenticated {fault : Fault} (h : fault.status = .unauthenticated) :
    fault.isRetryable = false := by
  have hbusy : fault.isBusy = false := by
    cases fault with
    | appliance error =>
      cases hbusy : isBusy (.appliance error) with
      | false => rfl
      | true =>
        simp only [status, applianceStatus, hbusy] at h
        split_ifs at h
    | _ => rfl
  simp [isRetryable, h, hbusy]

lemma applianceStatus_ne {fault : Fault} (h : fault.isUnauthenticated = false) :
    fault.applianceStatus ≠ .unauthenticated := by
  unfold applianceStatus
  rw [h]
  split_ifs <;> simp_all

/-- A fault is like an authentication failure just if it has the status of one. -/
lemma alike_authenticationFailed_iff (fault : Fault) (endpoint reason : String) :
    fault.Alike (.authenticationFailed endpoint reason) ↔ fault.status = .unauthenticated := by
  constructor
  · exact fun h => h.1
  · intro h
    exact ⟨h, isRetryable_of_unauthenticated h⟩

end Fault

namespace Client

variable {client : Client} {errand : Errand}

/-- Which answers of the appliance fail a login for want of authentication. -/
lemma loginResult_unauthenticated_iff {response : Response} {fault : Fault}
    (h : client.loginResult (.ok response) = .error fault) :
    fault.status = .unauthenticated ↔ response.isSuccess = false ∧
      ∃ body, response.json? = some body ∧ body.DescribesError ∧ body.errorCode = "EAUTH" := by
  have htoken : client.tokenOf response = .error fault := h
  unfold tokenOf at htoken
  cases hsuccess : response.isSuccess with
  | true =>
    rw [hsuccess, if_pos rfl] at htoken
    split at htoken
    · cases htoken
    · cases htoken
      simp [Fault.status]
  | false =>
    rw [hsuccess, if_neg (by simp)] at htoken
    have hreports := response.reports_fault client client.loginRequest
    generalize response.fault client.endpoint client.loginRequest = found at htoken hreports
    cases hbody : response.json? with
    | none =>
      have hfound := hreports.2 (by simp [hbody])
      subst hfound
      cases htoken
      simp [Fault.isUnauthenticated, Fault.code?, Fault.status]
    | some body =>
      by_cases hdescribes : body.DescribesError
      · obtain ⟨message, rfl⟩ := hreports.1 body hbody hdescribes
        dsimp only at htoken
        by_cases hcode : body.errorCode = "EAUTH"
        · have hwants : Fault.isUnauthenticated (.appliance ⟨message, body.errorCode⟩) = true := by
            simp [Fault.isUnauthenticated, Fault.code?, hcode, ApplianceError.codeUnauthenticated]
          rw [hwants, if_pos rfl] at htoken
          cases htoken
          simp [Fault.status, refused, hdescribes, hcode]
        · have hwants : Fault.isUnauthenticated (.appliance ⟨message, body.errorCode⟩) = false := by
            simp [Fault.isUnauthenticated, Fault.code?, hcode, ApplianceError.codeUnauthenticated]
          rw [hwants, if_neg (by simp)] at htoken
          cases htoken
          simp [Fault.status, Fault.applianceStatus_ne hwants, hcode]
      · have hfound := hreports.2 (by simpa [hbody] using hdescribes)
        subst hfound
        cases htoken
        simp [Fault.isUnauthenticated, Fault.code?, Fault.status, hdescribes]

/-- Once a failed attempt is recorded, the task that made it fails with its fault. -/
lemma Afoot.endsIn_of_settled {past : List Event} {outcome : Except String String}
    {answer : Except Fault Response} {fault : Fault}
    {runner : Runner (Except Fault (Option Response))}
    (h : client.Afoot errand (.settled outcome :: .answered answer :: past) runner)
    (holds : holdsLock past = true) (failed : client.loginResult answer = .error fault) :
    runner.EndsIn (.error fault) := by
  have houtcome : client.loginOutcome answer = .error fault := by rw [loginOutcome, failed]; rfl
  obtain ⟨stage, late⟩ := runner
  have hinside := h.inside holds
  generalize hpast : Event.settled outcome :: .answered answer :: past = whole at hinside
  have hrenewing : ∀ {seen k part rest}, client.Renewing seen k part stage →
      .settled outcome :: .answered answer :: past = part ++ rest →
      stage = .ready (.release client.appliance (k (.error fault))) := by
    intro seen k part rest renewing hpart
    cases renewing with
    | settled hdue answer' =>
      cases hpart
      rw [houtcome]
    | due hdue => cases hdue <;> simp at hpart
    | _ => simp at hpart
  cases hinside with
  | forRequest _ failing _ renewing => exact ⟨_, hrenewing renewing hpast, failing fault⟩
  | forCaller _ renewing =>
    exact ⟨_, hrenewing renewing (hpast.trans (List.append_nil _).symm), rfl⟩

end Client

section
variable {client : Client} {session : Session} {counters : Counters} {errands : Nat → Errand}
  {crowd : Crowd (Except Fault (Option Response))}

namespace Crowd

/-- The task that made a failed attempt fails with its fault. -/
lemma Reaches.endsIn_of_attempt (h : Reaches (client.crowd session counters errands) crowd)
    {later earlier : List (Nat × Event)} {p : Nat} {answer : Except Fault Response}
    {rest : List Event} {outcome : Except String String} {fault : Fault}
    (ended : crowd.history = later ++ (p, .settled outcome) :: earlier)
    (answered : own p earlier = .answered answer :: rest)
    (failed : client.loginResult answer = .error fault) :
    (crowd.runners p).EndsIn (.error fault) := by
  obtain ⟨moment, after, before, rfl, does, hon⟩ := h.at_event rfl ended
  obtain ⟨holds, -, -⟩ := before.settles_at does
  have hafoot := (Reaches.step before does).afoot p
  rw [history_record, own_cons_self, answered] at hafoot
  rw [answered] at holds
  exact hon.endsIn (hafoot.endsIn_of_settled holds failed)

/-- The tasks that share a failed attempt fail with its text. -/
lemma Reaches.endsIn_of_sharedBy (h : Reaches (client.crowd session counters errands) crowd)
    {later earlier : List (Nat × Event)} {p i : Nat} {reason : String}
    (ended : crowd.history = later ++ (p, .settled (.error reason)) :: earlier)
    (shared : SharedBy i later ((p, .settled (.error reason)) :: earlier)) :
    (crowd.runners i).EndsIn (.error (.authenticationFailed client.endpoint reason)) := by
  obtain ⟨after, now, middle, response, sent, seen, prior, rfl, hmiddle, hown, changed⟩ := shared
  rw [List.append_assoc, List.cons_append] at ended
  obtain ⟨moment, runner, before, hhistory, does, hon⟩ := h.at_event rfl ended
  have hafoot := (Reaches.step before does).afoot i
  rw [history_record, own_cons_self, hhistory, hown] at hafoot
  obtain ⟨asked, k, -, -, failing, hstage⟩ := hafoot.sharing changed
  have hfailure : now.failure = some reason := by
    rw [h.read_eq ended, attempts_append, hmiddle]
    rfl
  refine hon.endsIn ⟨_, hstage, ?_⟩
  simp only [Client.shared, hfailure]
  exact failing _

end Crowd

end

/-! ## A run -/

namespace TransportFailure

def errands : Nat → Errand
  | 0 => .submit { method := "GET", path := "storage/pools" }
  | _ => .submit { method := "GET", path := "settings/license" }

/-- Two requests are refused.  The first logs in and gets no answer while the second waits for the
lock, and then the second shares the outcome. -/
def schedule : List (Nat × Task.Move) :=
  [(0, .go), (0, .go), (1, .go), (1, .go),
    (0, .answer (.ok Sample.expired)), (1, .answer (.ok Sample.expired)),
    (0, .go), (0, .go), (0, .go), (0, .go), (0, .answer (.error (.http "no connection"))),
    (0, .go), (0, .go), (1, .go), (1, .go), (1, .go)]

/-- The crowd at the end. -/
def crowd : Crowd (Except Fault (Option Response)) :=
  (Sample.client.crowd {} {} errands).run schedule

/-- The history up to the end of the attempt, which is the fifth last event. -/
def ended : List (Nat × Event) :=
  crowd.history.drop 4

lemma sharedBy : SharedBy 1 (crowd.history.take 4) ended :=
  ⟨[(1, .released)], _, [(1, .acquired), (0, .released)], _, _, _, _, rfl, rfl, rfl, by decide⟩

end TransportFailure

/-! ## The result -/

/-- When a login attempt fails, the task that made it fails with the fault of the attempt, and the
tasks that share it with an authentication failure that has its text.  The two are alike just if
the attempt failed for want of authentication. -/
theorem shared_failure (client : Client) (session : Session) (counters : Counters)
    (errands : Nat → Errand) (schedule : List (Nat × Task.Move))
    {later earlier : List (Nat × Event)} {p : Nat} {outcome : Except String String}
    {answer : Except Fault Response} {rest : List Event} {fault : Fault}
    (ended : ((client.crowd session counters errands).run schedule).history =
      later ++ (p, .settled outcome) :: earlier)
    (answered : own p earlier = .answered answer :: rest)
    (failed : client.loginResult answer = .error fault) :
    (∀ result,
      (((client.crowd session counters errands).run schedule).runners p).result? = some result →
        result = .error fault) ∧
    (∀ i, SharedBy i later ((p, .settled outcome) :: earlier) → ∀ result,
      (((client.crowd session counters errands).run schedule).runners i).result? = some result →
        result = .error (.authenticationFailed client.endpoint fault.message)) ∧
    (fault.Alike (.authenticationFailed client.endpoint fault.message) ↔
      fault.status = .unauthenticated) ∧
    ∀ response, answer = .ok response → (fault.status = .unauthenticated ↔
      response.isSuccess = false ∧ ∃ body, response.json? = some body ∧ body.DescribesError ∧
        body.errorCode = "EAUTH") := by
  have h := Crowd.reaches_run (client.crowd session counters errands) schedule
  have houtcome : outcome = .error fault.message := by
    obtain ⟨moment, after, before, rfl, does, -⟩ := h.at_event rfl ended
    obtain ⟨-, ⟨answer', rest', hown, rfl⟩, -⟩ := before.settles_at does
    rw [answered] at hown
    cases hown
    simp [Client.recorded, failed]
  subst houtcome
  refine ⟨fun result => (h.endsIn_of_attempt ended answered failed).eq_of_result?,
    fun i shared result => (h.endsIn_of_sharedBy ended shared).eq_of_result?,
    fault.alike_authenticationFailed_iff _ _, ?_⟩
  rintro response rfl
  exact Client.loginResult_unauthenticated_iff failed

/-- The run of `TransportFailure`, in which both requests fail because of one attempt. -/
theorem shared_failure_transportFailure :
    (∀ result, (TransportFailure.crowd.runners 0).result? = some result →
      result = .error (.http "no connection")) ∧
    (∀ i, SharedBy i (TransportFailure.crowd.history.take 4) TransportFailure.ended →
      ∀ result, (TransportFailure.crowd.runners i).result? = some result →
        result = .error (.authenticationFailed "https://appliance"
          "HTTP transport error: no connection")) := by
  obtain ⟨own, shared, -⟩ := shared_failure Sample.client {} {} TransportFailure.errands
    TransportFailure.schedule
    (show TransportFailure.crowd.history = TransportFailure.crowd.history.take 4 ++
      (0, .settled (.error "HTTP transport error: no connection")) ::
        TransportFailure.crowd.history.drop 5 from rfl)
    (show own 0 (TransportFailure.crowd.history.drop 5) =
      .answered (.error (.http "no connection")) :: _ from rfl) rfl
  exact ⟨own, shared⟩

/-- A login that fails in transport: the first request may be tried again, the second is told that
its credentials are wrong. -/
theorem shared_failure_differs :
    ∃ own shared : Fault,
      (TransportFailure.crowd.runners 0).result? = some (.error own) ∧
      (TransportFailure.crowd.runners 1).result? = some (.error shared) ∧
      SharedBy 1 (TransportFailure.crowd.history.take 4) TransportFailure.ended ∧
      own.status = .unavailable ∧ own.isRetryable = true ∧
      shared.status = .unauthenticated ∧ shared.isRetryable = false :=
  ⟨.http "no connection", .authenticationFailed "https://appliance"
    "HTTP transport error: no connection", rfl, rfl, TransportFailure.sharedBy, rfl, rfl, rfl, rfl⟩

end StorageFleet
