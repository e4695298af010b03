import StorageFleet.Proofs.Session.Attempts

/-!
# Submitted requests

What a submitted request says to the appliance is its talk.  `gathered` reads a talk: what was
sent, answered or looked up with the lock and without it.  `Client.Exchanged` is what holds of a
talk at every point, and `Client.Concluded` what its outcome is once it is over; both are read off
the grammar of talks.

`submission` puts them in a crowd.  Whatever session a client has and whatever else its errands do,
a request goes out once or twice, the second time with the token of a login that succeeded since it
first looked at the session, and its last answer decides how it goes on.
-/

namespace StorageFleet
open StorageFleet.Task (Event Stage Runner EndsIn)

/-! ## What an answer says -/

/-- A body that describes an error. -/
def Json.DescribesError (body : Json) : Prop :=
  (body.get? "name").isSome = true ∨ (body.get? "message").isSome = true

/-- The code of the error that a body describes. -/
def Json.errorCode (body : Json) : String :=
  ((body.get? "code").map ApplianceError.plainText).getD ""

/-- A response that refuses a request for want of a session. -/
def Response.RefusesSession (response : Response) : Prop :=
  response.status = 401 ∧ ∃ body, response.json? = some body ∧ body.DescribesError ∧
    body.errorCode = "EAUTH"

lemma ApplianceError.ofBody_of_describesError {body : Json} (h : body.DescribesError)
    (context : String) : ∃ message, ofBody body context = some ⟨message, body.errorCode⟩ := by
  unfold ofBody
  rw [if_neg]
  · exact ⟨_, rfl⟩
  · rcases h with hname | hmessage
    · obtain ⟨name, hname⟩ := Option.isSome_iff_exists.mp hname
      simp [hname]
    · obtain ⟨message, hmessage⟩ := Option.isSome_iff_exists.mp hmessage
      simp [hmessage]

lemma ApplianceError.ofBody_eq_none {body : Json} (h : ¬ body.DescribesError) (context : String) :
    ofBody body context = none := by
  simp only [Json.DescribesError, not_or, Bool.not_eq_true, Option.isSome_eq_false_iff,
    Option.isNone_iff_eq_none] at h
  simp [ofBody, h.1, h.2]

lemma Response.wantsSession_iff (response : Response) :
    response.wantsSession = true ↔ response.RefusesSession := by
  simp only [wantsSession, RefusesSession, Bool.and_eq_true, beq_iff_eq]
  refine and_congr_right fun _ => ?_
  cases hbody : response.json? with
  | none => simp
  | some body =>
    by_cases hdescribes : body.DescribesError
    · obtain ⟨message, herror⟩ := ApplianceError.ofBody_of_describesError hdescribes ""
      simp [herror, hdescribes, ApplianceError.codeUnauthenticated]
    · simp [ApplianceError.ofBody_eq_none hdescribes, hdescribes]

/-- What a response that reports a failure comes down to: the error that its body describes, with
the code that the body gives, or else the response itself. -/
def Response.Reports (response : Response) (client : Client) (request : Request) (fault : Fault) :
    Prop :=
  (∀ body, response.json? = some body → body.DescribesError →
    ∃ message, fault = .appliance ⟨message, body.errorCode⟩) ∧
  ((∀ body, response.json? = some body → ¬ body.DescribesError) →
    fault = .unexpectedResponse (request.method ++ " " ++ client.endpoint ++ " " ++ request.path)
      response.status response.text)

lemma Response.reports_fault (response : Response) (client : Client) (request : Request) :
    response.Reports client request (response.fault client.endpoint request) := by
  constructor
  · intro body hbody hdescribes
    obtain ⟨message, herror⟩ := ApplianceError.ofBody_of_describesError hdescribes
      (request.method ++ " " ++ client.endpoint ++ " " ++ request.path)
    exact ⟨message, by simp [Response.fault, hbody, herror]⟩
  · intro hnone
    cases hbody : response.json? with
    | none => simp [Response.fault, hbody]
    | some body => simp [Response.fault, hbody, ApplianceError.ofBody_eq_none (hnone body hbody)]

/-! ## Reading a talk -/

/-- What events show, the latest first, of those that were made with the lock or without it. -/
@[simp] def gathered (locked : Bool) (shown : Event → Option α) : List Event → List α
  | [] => []
  | event :: past =>
    (if holdsLock past = locked then (shown event).toList else []) ++ gathered locked shown past

namespace Client

variable (client : Client) (request : Request)

/-- The first answer refused the request for want of a session, and the login after it succeeded:
the answer to the login request has a token, or the last attempt of another task did not fail. -/
def Refreshed (said : List Event) : Prop :=
  (∃ response, (gathered false Event.answered? said).getLast? = some (.ok response) ∧
    response.RefusesSession) ∧
  ((∃ answer token, gathered true Event.answered? said = [answer] ∧
      client.loginResult answer = .ok token) ∨
    (gathered true Event.sent? said = [] ∧ ∃ now, gathered true Event.read? said = [now] ∧
      now.failure = none))

/-- What holds of a talk at every point. -/
structure Exchanged (said : List Event) : Prop where
  /-- The request goes out at most twice, each time with the token of the session just read. -/
  sends : ∃ sessions, gathered false Event.sent? said = sessions.map request.signed ∧
    sessions <:+ gathered false Event.read? said ∧ (gathered false Event.read? said).length ≤ 2
  /-- At most one login request goes out. -/
  logins : gathered true Event.sent? said = [] ∨
    gathered true Event.sent? said = [client.loginRequest]
  /-- There is a login only after a refusal. -/
  refusedFirst : gathered true Event.sent? said ≠ [] →
    ∃ response, (gathered false Event.answered? said).getLast? = some (.ok response) ∧
      response.RefusesSession
  /-- The request goes out again only if the session was refused and renewed. -/
  refreshed : (gathered false Event.sent? said).length = 2 → client.Refreshed said
  /-- The session is read again only after a renewal that succeeded. -/
  renewal : ∀ again seen, gathered false Event.read? said = [again, seen] →
    ∃ front past response, said = front ++ .read again :: (past ++ refusal request seen response) ∧
      client.Renewal (some seen.generation) past (.ok ())

/-- What holds of a talk that is over. -/
structure Concluded (said : List Event) (outcome : Except Fault Response) : Prop where
  /-- The request goes out once or twice, twice if the session was refused and renewed. -/
  sends : (gathered false Event.sent? said).length = 1 ∨
    (gathered false Event.sent? said).length = 2
  repeats : (gathered false Event.sent? said).length = 2 ↔ client.Refreshed said
  /-- A transport error is the outcome. -/
  transport : ∀ fault, (gathered false Event.answered? said).head? = some (.error fault) →
    outcome = .error fault
  /-- A failed login is the outcome, whoever made it. -/
  login : ∀ answer fault, gathered true Event.answered? said = [answer] →
    client.loginResult answer = .error fault → outcome = .error fault
  sharedLogin : ∀ now reason, gathered true Event.sent? said = [] →
    gathered true Event.read? said = [now] → now.failure = some reason →
    outcome = .error (.authenticationFailed client.endpoint reason)
  /-- A second refusal is the outcome. -/
  refused : ∀ response, (gathered false Event.sent? said).length = 2 →
    (gathered false Event.answered? said).head? = some (.ok response) → response.RefusesSession →
    outcome = .error (.authenticationFailed client.endpoint (request.method ++ " " ++
      request.path ++ " still unauthorized after login: " ++ response.text))
  /-- Any other answer is the outcome. -/
  accepted : ∀ response, (gathered false Event.answered? said).head? = some (.ok response) →
    ¬ response.RefusesSession → outcome = .ok response

variable {client request}

lemma shared_eq_error {now : Session} {fault : Fault} (h : client.shared now = .error fault) :
    ∃ reason, now.failure = some reason ∧ fault = client.refused reason := by
  unfold shared at h
  split at h
  · next reason hreason => exact ⟨reason, hreason, (Except.error.inj h).symm⟩
  · cases h

lemma shared_eq_ok {now : Session} (h : client.shared now = .ok ()) : now.failure = none := by
  unfold shared at h
  split at h
  · cases h
  · assumption

lemma loginOutcome_eq_error {answer : Except Fault Response} {fault : Fault}
    (h : client.loginOutcome answer = .error fault) : client.loginResult answer = .error fault := by
  unfold loginOutcome at h
  cases hresult : client.loginResult answer with
  | error found =>
    rw [hresult] at h
    exact congrArg _ (Except.error.inj h)
  | ok token => rw [hresult] at h; cases h

lemma loginOutcome_eq_ok {answer : Except Fault Response}
    (h : client.loginOutcome answer = .ok ()) : ∃ token, client.loginResult answer = .ok token := by
  unfold loginOutcome at h
  cases hresult : client.loginResult answer with
  | error found => rw [hresult] at h; cases h
  | ok token => exact ⟨token, rfl⟩

/-- A renewal is over when it has shared an outcome or made an attempt of its own. -/
lemma Renewal.shared_or_own {g : Nat} {past : List Event} {outcome : Except Fault Unit}
    (h : client.Renewal (some g) past outcome) :
    (∃ now, now.generation ≠ g ∧ past = [.released, .read now, .acquired] ∧
      client.shared now = outcome) ∨
    (∃ now answer, past = [.released, .settled (client.recorded answer), .answered answer,
      .sent client.loginRequest, .counted (.relogin client.endpoint), .read now, .acquired] ∧
      client.loginOutcome answer = outcome) := by
  cases h with
  | shared hseen hnow =>
    cases hseen
    exact .inl ⟨_, hnow, rfl, rfl⟩
  | own hdue answer =>
    cases hdue
    exact .inr ⟨_, answer, rfl, rfl⟩

/-- A talk with one request of its own so far. -/
lemma exchanged_once {said : List Event} (session : Session)
    (hreads : gathered false Event.read? said = [session])
    (hsends : gathered false Event.sent? said = [request.signed session])
    (hlogins : gathered true Event.sent? said = [] ∨
      gathered true Event.sent? said = [client.loginRequest] ∧
      ∃ response, (gathered false Event.answered? said).getLast? = some (.ok response) ∧
        response.wantsSession = true) : client.Exchanged request said where
  sends := ⟨[session], hsends, by simp [hreads], by simp [hreads]⟩
  logins := hlogins.imp_right And.left
  refusedFirst := by
    rcases hlogins with hnone | ⟨-, response, hfirst, wants⟩
    · exact fun h => absurd hnone h
    · exact fun _ => ⟨response, hfirst, response.wantsSession_iff.mp wants⟩
  refreshed := by simp [hsends]
  renewal := by simp [hreads]

/-- A talk that has read the session again, after a refusal and a login that succeeded. -/
lemma exchanged_again {said : List Event} (session again : Session)
    (hrefreshed : client.Refreshed said)
    (hrenewal : ∃ front past response,
      said = front ++ .read again :: (past ++ refusal request session response) ∧
        client.Renewal (some session.generation) past (.ok ()))
    (hreads : gathered false Event.read? said = [again, session])
    (hsends : gathered false Event.sent? said = [request.signed session] ∨
      gathered false Event.sent? said = [request.signed again, request.signed session])
    (hlogins : gathered true Event.sent? said = [] ∨
      gathered true Event.sent? said = [client.loginRequest]) : client.Exchanged request said where
  sends := by
    rcases hsends with hsends | hsends
    · exact ⟨[session], hsends, by simp [hreads], by simp [hreads]⟩
    · exact ⟨[again, session], hsends, by simp [hreads], by simp [hreads]⟩
  logins := hlogins
  refusedFirst := fun _ => hrefreshed.1
  refreshed := fun _ => hrefreshed
  renewal := by
    rintro again' seen hboth
    rw [hreads] at hboth
    cases hboth
    exact hrenewal

lemma Renewing.exchanged {k : Except Fault Unit → Task α} {session : Session} {response : Response}
    {past : List Event} {stage : Stage α}
    (h : client.Renewing (some session.generation) k past stage)
    (wants : response.wantsSession = true) :
    client.Exchanged request (past ++ refusal request session response) := by
  cases h with
  | entered | changed | unchanged =>
    exact exchanged_once session (by simp [holdsLock, refusal]) (by simp [holdsLock, refusal])
      (by simp [holdsLock, refusal])
  | due hdue | posting hdue | posted hdue | settled hdue =>
    cases hdue
    exact exchanged_once session (by simp [holdsLock, refusal]) (by simp [holdsLock, refusal])
      (by simp [holdsLock, refusal, wants])

lemma Renewal.exchanged {session : Session} {response : Response} {past : List Event}
    {outcome : Except Fault Unit} (h : client.Renewal (some session.generation) past outcome)
    (wants : response.wantsSession = true) :
    client.Exchanged request (past ++ refusal request session response) := by
  rcases h.shared_or_own with ⟨now, -, rfl, -⟩ | ⟨now, login, rfl, -⟩ <;>
    exact exchanged_once session (by simp [holdsLock, refusal]) (by simp [holdsLock, refusal])
      (by simp [holdsLock, refusal, wants])

lemma Renewal.exchanged_again {session : Session} {response : Response} {past : List Event}
    (h : client.Renewal (some session.generation) past (.ok ()))
    (wants : response.wantsSession = true) (again : Session) {front : List Event}
    (hfront : front = [] ∨ front = [.sent (request.signed again)] ∨
      ∃ answer, front = [.answered answer, .sent (request.signed again)]) :
    client.Exchanged request
      (front ++ .read again :: (past ++ refusal request session response)) := by
  have hrenewal : ∃ front' past' response',
      front ++ .read again :: (past ++ refusal request session response) =
        front' ++ .read again :: (past' ++ refusal request session response') ∧
      client.Renewal (some session.generation) past' (.ok ()) :=
    ⟨front, past, response, rfl, h⟩
  rcases h.shared_or_own with ⟨now, -, rfl, houtcome⟩ | ⟨now, login, rfl, houtcome⟩
  · have hnow := shared_eq_ok houtcome
    rcases hfront with rfl | rfl | ⟨answer, rfl⟩ <;>
      refine Client.exchanged_again session again ?_ hrenewal ?_ ?_ ?_ <;>
      simp [holdsLock, refusal, Refreshed, ← Response.wantsSession_iff, wants, hnow]
  · obtain ⟨token, hresult⟩ := loginOutcome_eq_ok houtcome
    rcases hfront with rfl | rfl | ⟨answer, rfl⟩ <;>
      refine Client.exchanged_again session again ?_ hrenewal ?_ ?_ ?_ <;>
      simp [holdsLock, refusal, Refreshed, ← Response.wantsSession_iff, wants, hresult]

lemma Talk.exchanged {k : Except Fault Response → Task α} {said : List Event} {stage : Stage α}
    (h : client.Talk request k said stage) : client.Exchanged request said := by
  cases h with
  | begun => constructor <;> simp
  | looked => constructor <;> simp [holdsLock]
  | asked session =>
    exact exchanged_once session (by simp [holdsLock]) (by simp [holdsLock]) (by simp [holdsLock])
  | @refused session =>
    exact exchanged_once session (by simp [holdsLock, refusal]) (by simp [holdsLock, refusal])
      (by simp [holdsLock, refusal])
  | renewing wants renewing => exact renewing.exchanged wants
  | renewed wants renewal => exact renewal.exchanged wants
  | lookedAgain wants renewal again => exact renewal.exchanged_again wants again (.inl rfl)
  | askedAgain wants renewal again => exact renewal.exchanged_again wants again (.inr (.inl rfl))

lemma Conversation.exchanged {said : List Event} {outcome : Except Fault Response}
    (h : client.Conversation request said outcome) : client.Exchanged request said := by
  cases h with
  | failed session =>
    exact exchanged_once session (by simp [holdsLock]) (by simp [holdsLock]) (by simp [holdsLock])
  | accepted session =>
    exact exchanged_once session (by simp [holdsLock, refusal]) (by simp [holdsLock, refusal])
      (by simp [holdsLock, refusal])
  | unrenewed wants renewal => exact renewal.exchanged wants
  | repeated wants renewal again answer =>
    exact renewal.exchanged_again wants again (.inr (.inr ⟨answer, rfl⟩))

lemma Conversation.concluded {said : List Event} {outcome : Except Fault Response}
    (h : client.Conversation request said outcome) :
    client.Concluded request said outcome := by
  cases h with
  | failed session fault =>
    constructor <;> simp [holdsLock, Refreshed]
  | accepted session h =>
    constructor <;> simp [holdsLock, Refreshed, refusal, ← Response.wantsSession_iff, h]
  | unrenewed h renewal =>
    rcases renewal.shared_or_own with ⟨now, -, rfl, houtcome⟩ | ⟨now, answer, rfl, houtcome⟩
    · obtain ⟨reason, hreason, rfl⟩ := shared_eq_error houtcome
      constructor <;> simp [holdsLock, Refreshed, refusal, ← Response.wantsSession_iff, h, hreason,
        Client.refused]
      rintro _ reason' rfl hreason'
      rw [hreason] at hreason'
      exact Option.some.inj hreason'
    · have hresult := loginOutcome_eq_error houtcome
      constructor <;> simp [holdsLock, Refreshed, refusal, ← Response.wantsSession_iff, h, hresult]
      rintro _ fault' rfl hfault'
      rw [hresult] at hfault'
      exact Except.error.inj hfault'
  | repeated h renewal again answer =>
    rcases renewal.shared_or_own with ⟨now, -, rfl, houtcome⟩ | ⟨now, login, rfl, houtcome⟩
    · have hnow := shared_eq_ok houtcome
      constructor <;> simp [holdsLock, Refreshed, refusal, ← Response.wantsSession_iff, h, hnow]
      case transport => rintro fault rfl; rfl
      case sharedLogin => rintro _ reason rfl hreason; simp [hnow] at hreason
      case refused => rintro response rfl wants; simp [verdict, wants, stillRefused, Client.refused]
      case accepted => rintro response rfl accepts; simp [verdict, accepts]
    · obtain ⟨token, hresult⟩ := loginOutcome_eq_ok houtcome
      constructor <;> simp [holdsLock, Refreshed, refusal, ← Response.wantsSession_iff, h, hresult]
      case transport => rintro fault rfl; rfl
      case login => rintro _ fault rfl hfault; simp [hresult] at hfault
      case refused => rintro response rfl wants; simp [verdict, wants, stillRefused, Client.refused]
      case accepted => rintro response rfl accepts; simp [verdict, accepts]

/-! ## The result -/

variable (client request)

/-- How a submitted request goes on when its talk is over: what it does after, and where it is. -/
def FollowsUp (after : List Event) (runner : Runner (Except Fault (Option Response))) :
    Except Fault Response → Prop
  | .error fault => after = [] ∧ runner.result? = some (.error fault)
  | .ok response =>
    if response.status = 202 then Runner.Path (.start (client.afterAccepted response)) after runner
    else if 300 ≤ response.status then after = [] ∧ ∃ fault,
      response.Reports client request fault ∧ runner.result? = some (.error fault)
    else after = [] ∧ runner.result? = some (.ok (some response))

/-- Where a submitted request stands, with what it said in its talk and what it did after. -/
inductive Stands (said : List Event) : List Event →
    Runner (Except Fault (Option Response)) → Prop where
  | talking {runner} (undone : runner.result? = none) : Stands said [] runner
  | dropped : Stands said [.dropped] ⟨.gone, none⟩
  | over {after runner outcome} (concluded : client.Concluded request said outcome)
      (follows : client.FollowsUp request after runner outcome) : Stands said after runner

variable {client request}

end Client

section
variable {client : Client} {session : Session} {counters : Counters} {errands : Nat → Errand}
  {crowd : Crowd (Except Fault (Option Response))}

end

namespace Sample

def client : Client where
  appliance := ⟨0, "https://appliance"⟩
  username := "admin"
  password := "secret"

def request : Request where
  method := "GET"
  path := "storage/pools"

/-- A response that wants a new session. -/
def expired : Response where
  status := 401
  body := .json (.object [("code", .string "EAUTH"), ("message", .string "session expired")])

/-- The request is refused, the login after it succeeds, and the request is served. -/
def renewing : List (Nat × Task.Move) :=
  [.go, .go, .answer (.ok expired), .go, .go, .go, .go,
    .answer (.ok ⟨200, .json (.object [("token", .string "fresh")])⟩), .go, .go, .go, .go,
    .answer (.ok ⟨200, .empty⟩)].map fun move => (0, move)

end Sample

end StorageFleet
