import StorageFleet.Proofs.Task.Crowd

/-!
# How a request is talked over with an appliance

A *talk* is what `Client.sendAuthenticated` does: a request goes out with the session's token, and
if the appliance refuses it for want of a session, the session is renewed and the request goes out
once more.  A *renewal* is the part under the login lock.

This module lays the program open.  `sendAuthenticated_bind` and `logIn_bind` write it, with
whatever comes after it, as steps of a task.  `Renewing` and `Talk` list every point that a renewal
and a talk can have reached, each with the events so far, the latest first.  `Renewal` and
`Conversation` are the ones that are over, with their outcome: together they are the grammar of the
session protocol.  `Renewing.next` and `Talk.next` say that a step leads from point to point, or
ends the part with an outcome that is in the grammar, or cuts it off.
-/

namespace StorageFleet
open StorageFleet.Task (Event Stage Runner)

/-- A request with the token of a session. -/
def Request.signed (request : Request) (session : Session) : Request :=
  { request with token := session.token }

namespace Client

variable {α : Type} (client : Client) (request : Request)

/-! ## The program, laid open -/

/-- What the answer to a login request comes down to. -/
def loginResult (answer : Except Fault Response) : Except Fault String :=
  answer.bind client.tokenOf

/-- What is recorded of a login attempt. -/
def recorded (answer : Except Fault Response) : Except String String :=
  match client.loginResult answer with
  | .ok token => .ok token
  | .error fault => .error fault.message

/-- How a login attempt ends for the one that makes it. -/
def loginOutcome (answer : Except Fault Response) : Except Fault Unit :=
  (client.loginResult answer).map fun _ => ()

/-- How the last login attempt ends for those that share its outcome. -/
def shared (now : Session) : Except Fault Unit :=
  match now.failure with
  | some reason => .error (client.refused reason)
  | none => .ok ()

/-- Records a login attempt, gives the lock back and goes on. -/
def settling (k : Except Fault Unit → Task α) (answer : Except Fault Response) : Task α :=
  .settle client.appliance (client.recorded answer)
    (.release client.appliance (k (client.loginOutcome answer)))

/-- Makes a login attempt under the lock. -/
def loggingIn (k : Except Fault Unit → Task α) : Task α :=
  .send client.appliance client.loginRequest (client.settling k)

/-- Goes on under the lock, once the session is read there. -/
def afterLook (seen : Nat) (k : Except Fault Unit → Task α) (now : Session) : Task α :=
  if now.generation = seen then .count (.relogin client.endpoint) (client.loggingIn k)
  else .release client.appliance (k (client.shared now))

/-- Renews the session unless a login attempt has ended since generation `seen`. -/
def renewing (seen : Nat) (k : Except Fault Unit → Task α) : Task α :=
  .acquire client.appliance (.session client.appliance (client.afterLook seen k))

/-- What the second answer to a request comes down to. -/
def verdict : Except Fault Response → Except Fault Response
  | .error fault => .error fault
  | .ok response =>
    if response.wantsSession then .error (client.stillRefused request response) else .ok response

/-- Sends the request for the second time. -/
def repeating (k : Except Fault Response → Task α) : Task α :=
  .session client.appliance fun session =>
    .send client.appliance (request.signed session) fun answer => k (client.verdict request answer)

/-- Goes on after a renewal. -/
def afterRenewal (k : Except Fault Response → Task α) : Except Fault Unit → Task α
  | .error fault => k (.error fault)
  | .ok () => client.repeating request k

/-- Goes on after the first answer. -/
def afterFirst (seen : Nat) (k : Except Fault Response → Task α) :
    Except Fault Response → Task α
  | .error fault => k (.error fault)
  | .ok response =>
    if response.wantsSession then client.renewing seen (client.afterRenewal request k)
    else k (.ok response)

lemma logInLocked_bind (k : Except Fault Unit → Task α) :
    (client.logInLocked.run.bind fun outcome => .release client.appliance (k outcome)) =
      client.loggingIn k := by
  show Task.send _ _ _ = Task.send _ _ _
  congr 1
  funext answer
  cases answer <;> rfl

lemma logIn_bind (k : Except Fault Unit → Task α) :
    client.logIn.run.bind k = .acquire client.appliance (client.loggingIn k) := by
  rw [← client.logInLocked_bind k]
  show Task.acquire _ ((Task.bind _ _).bind _) = _
  rw [Task.bind_assoc]
  rfl

lemma renew_bind (seen : Nat) (k : Except Fault Unit → Task α) :
    (client.renew seen).run.bind k = client.renewing seen k := by
  show Task.acquire _ (Task.session _ _) = Task.acquire _ (Task.session _ _)
  congr 2
  funext now
  simp only [Task.bind, ExceptT.bindCont, afterLook]
  by_cases h : now.generation = seen
  · rw [if_pos h, if_neg (fun hne => hne h), ← client.logInLocked_bind k]
    show Task.count _ ((Task.bind _ _).bind _) = _
    simp only [Task.bind_assoc, Task.bind, ExceptT.bindCont]
    rfl
  · rw [if_neg h, if_pos h, shared]
    cases now.failure <;> rfl

lemma renewed_bind (seen : Nat) (k : Except Fault Response → Task α) :
    ((ExceptT.run (do
      client.renew seen
      let session ← Exchange.session client.appliance
      let response ← Exchange.send client.appliance { request with token := session.token }
      if response.wantsSession then throw (client.stillRefused request response)
      return response) : Task (Except Fault Response)).bind k) =
      client.renewing seen (client.afterRenewal request k) := by
  rw [← client.renew_bind]
  show (Task.bind _ _).bind _ = _
  rw [Task.bind_assoc]
  congr 1
  funext outcome
  cases outcome with
  | error fault => rfl
  | ok _ =>
    show Task.session _ _ = Task.session _ _
    congr 1
    funext session
    show Task.send _ _ _ = Task.send _ _ _
    congr 1
    funext answer
    cases answer with
    | error fault => rfl
    | ok response =>
      simp only [verdict, Task.bind, ExceptT.bindCont]
      cases response.wantsSession <;> rfl

lemma sendAuthenticated_bind (k : Except Fault Response → Task α) :
    (client.sendAuthenticated request).run.bind k =
      .session client.appliance fun session =>
        .send client.appliance (request.signed session)
          (client.afterFirst request session.generation k) := by
  show Task.session _ _ = Task.session _ _
  congr 1
  funext session
  show Task.send _ _ _ = Task.send _ _ _
  congr 1
  funext answer
  cases answer with
  | error fault => rfl
  | ok response =>
    simp only [afterFirst, Task.bind, ExceptT.bindCont]
    cases response.wantsSession with
    | false => rfl
    | true => exact client.renewed_bind request session.generation k

/-! ## Renewals -/

/-- The events that lead up to a login attempt: the lock is held, and in a renewal of generation
`seen` the session was found unchanged and the renewal is counted. -/
inductive Due : Option Nat → List Event → Prop where
  | asked : Due none [.acquired]
  | unchanged {seen : Nat} {now : Session} (h : now.generation = seen) :
      Due (some seen) [.counted (.relogin client.endpoint), .read now, .acquired]

/-- The points of a renewal of generation `seen`, or of a login that is asked for (`none`). -/
inductive Renewing (seen : Option Nat) (k : Except Fault Unit → Task α) :
    List Event → Stage α → Prop where
  | entered {g} (hseen : seen = some g) : Renewing seen k [.acquired]
      (.ready (.session client.appliance (client.afterLook g k)))
  | changed {g now} (hseen : seen = some g) (hnow : now.generation ≠ g) :
      Renewing seen k [.read now, .acquired]
        (.ready (.release client.appliance (k (client.shared now))))
  | unchanged {g now} (hseen : seen = some g) (hnow : now.generation = g) :
      Renewing seen k [.read now, .acquired]
        (.ready (.count (.relogin client.endpoint) (client.loggingIn k)))
  | due {past} (h : client.Due seen past) : Renewing seen k past (.ready (client.loggingIn k))
  | posting {past} (h : client.Due seen past) :
      Renewing seen k (.sent client.loginRequest :: past)
        (.waiting client.loginRequest (client.settling k))
  | posted {past} (h : client.Due seen past) (answer) :
      Renewing seen k (.answered answer :: .sent client.loginRequest :: past)
        (.ready (client.settling k answer))
  | settled {past} (h : client.Due seen past) (answer) :
      Renewing seen k (.settled (client.recorded answer) :: .answered answer ::
          .sent client.loginRequest :: past)
        (.ready (.release client.appliance (k (client.loginOutcome answer))))

/-- The renewals that are over, with their outcome. -/
inductive Renewal (seen : Option Nat) : List Event → Except Fault Unit → Prop where
  | shared {g now} (hseen : seen = some g) (hnow : now.generation ≠ g) :
      Renewal seen [.released, .read now, .acquired] (client.shared now)
  | own {past} (h : client.Due seen past) (answer) :
      Renewal seen (.released :: .settled (client.recorded answer) :: .answered answer ::
        .sent client.loginRequest :: past) (client.loginOutcome answer)

variable {client request}

/-- A step of a renewal leads on, ends it, or cuts it off. -/
lemma Renewing.next {seen : Option Nat} {k : Except Fault Unit → Task α} {past : List Event}
    {stage : Stage α} (h : client.Renewing seen k past stage) {late : Option (Task α)}
    {session : Session} {free : Bool} {event : Event} {after : Runner α}
    (does : Runner.Does session free ⟨stage, late⟩ event after) :
    Runner.CutOff late event after ∨ after.late = late ∧
      (client.Renewing seen k (event :: past) after.stage ∨
        ∃ outcome, client.Renewal seen (event :: past) outcome ∧
          after.stage = .ready (k outcome)) := by
  cases h with
  | entered hseen =>
    cases does with
    | read =>
      refine .inr ⟨rfl, .inl ?_⟩
      simp only [afterLook]
      split
      · next hnow => exact .unchanged hseen hnow
      · next hnow => exact .changed hseen hnow
    | cut _ cutOff => exact .inl cutOff
  | changed hseen hnow =>
    cases does with
    | released => exact .inr ⟨rfl, .inr ⟨_, .shared hseen hnow, rfl⟩⟩
    | cut _ cutOff => exact .inl cutOff
  | unchanged hseen hnow =>
    cases does with
    | counted => exact .inr ⟨rfl, .inl (.due (hseen ▸ .unchanged hnow))⟩
    | cut _ cutOff => exact .inl cutOff
  | due hdue =>
    cases does with
    | sent => exact .inr ⟨rfl, .inl (.posting hdue)⟩
    | cut _ cutOff => exact .inl cutOff
  | posting hdue =>
    cases does with
    | answered answer => exact .inr ⟨rfl, .inl (.posted hdue answer)⟩
    | cut _ cutOff => exact .inl cutOff
  | posted hdue answer =>
    cases does with
    | settled => exact .inr ⟨rfl, .inl (.settled hdue answer)⟩
    | cut _ cutOff => exact .inl cutOff
  | settled hdue answer =>
    cases does with
    | released => exact .inr ⟨rfl, .inr ⟨_, .own hdue answer, rfl⟩⟩
    | cut _ cutOff => exact .inl cutOff

/-! ## Talks -/

variable (client request)

/-- The events, latest first, of a request that was refused for want of a session. -/
def refusal (session : Session) (response : Response) : List Event :=
  [.answered (.ok response), .sent (request.signed session), .read session]

/-- The points of a talk. -/
inductive Talk (k : Except Fault Response → Task α) : List Event → Stage α → Prop where
  | begun : Talk k [] (.ready ((client.sendAuthenticated request).run.bind k))
  | looked (session) : Talk k [.read session]
      (.ready (.send client.appliance (request.signed session)
        (client.afterFirst request session.generation k)))
  | asked (session) : Talk k [.sent (request.signed session), .read session]
      (.waiting (request.signed session) (client.afterFirst request session.generation k))
  | refused {session response} (h : response.wantsSession = true) :
      Talk k (refusal request session response)
        (.ready (client.renewing session.generation (client.afterRenewal request k)))
  | renewing {session response past stage} (h : response.wantsSession = true)
      (hrenewing : client.Renewing (some session.generation) (client.afterRenewal request k)
        past stage) :
      Talk k (past ++ refusal request session response) stage
  | renewed {session response past} (h : response.wantsSession = true)
      (hrenewal : client.Renewal (some session.generation) past (.ok ())) :
      Talk k (past ++ refusal request session response) (.ready (client.repeating request k))
  | lookedAgain {session response past} (h : response.wantsSession = true)
      (hrenewal : client.Renewal (some session.generation) past (.ok ())) (again) :
      Talk k (.read again :: (past ++ refusal request session response))
        (.ready (.send client.appliance (request.signed again)
          fun answer => k (client.verdict request answer)))
  | askedAgain {session response past} (h : response.wantsSession = true)
      (hrenewal : client.Renewal (some session.generation) past (.ok ())) (again) :
      Talk k (.sent (request.signed again) :: .read again ::
          (past ++ refusal request session response))
        (.waiting (request.signed again) fun answer => k (client.verdict request answer))

/-- The talks that are over, with their outcome. -/
inductive Conversation : List Event → Except Fault Response → Prop where
  | failed (session) (fault) : Conversation
      [.answered (.error fault), .sent (request.signed session), .read session] (.error fault)
  | accepted (session) {response} (h : response.wantsSession = false) :
      Conversation (refusal request session response) (.ok response)
  | unrenewed {session response past fault} (h : response.wantsSession = true)
      (hrenewal : client.Renewal (some session.generation) past (.error fault)) :
      Conversation (past ++ refusal request session response) (.error fault)
  | repeated {session response past} (h : response.wantsSession = true)
      (hrenewal : client.Renewal (some session.generation) past (.ok ())) (again) (answer) :
      Conversation (.answered answer :: .sent (request.signed again) :: .read again ::
        (past ++ refusal request session response)) (client.verdict request answer)

variable {client request}

/-- A step of a talk leads on, ends it, or cuts it off. -/
lemma Talk.next {k : Except Fault Response → Task α} {past : List Event} {stage : Stage α}
    (h : client.Talk request k past stage) {late : Option (Task α)} {session : Session}
    {free : Bool} {event : Event} {after : Runner α}
    (does : Runner.Does session free ⟨stage, late⟩ event after) :
    Runner.CutOff late event after ∨ after.late = late ∧
      (client.Talk request k (event :: past) after.stage ∨
        ∃ outcome, client.Conversation request (event :: past) outcome ∧
          after.stage = .ready (k outcome)) := by
  cases h with
  | begun =>
    rw [sendAuthenticated_bind] at does
    cases does with
    | read => exact .inr ⟨rfl, .inl (.looked _)⟩
    | cut _ cutOff => exact .inl cutOff
  | looked session =>
    cases does with
    | sent => exact .inr ⟨rfl, .inl (.asked session)⟩
    | cut _ cutOff => exact .inl cutOff
  | asked session =>
    cases does with
    | answered answer =>
      refine .inr ⟨rfl, ?_⟩
      cases answer with
      | error fault => exact .inr ⟨_, .failed session fault, rfl⟩
      | ok response =>
        simp only [afterFirst]
        cases h : response.wantsSession with
        | false => exact .inr ⟨_, .accepted session h, rfl⟩
        | true => exact .inl (.refused h)
    | cut _ cutOff => exact .inl cutOff
  | refused h =>
    cases does with
    | acquired => exact .inr ⟨rfl, .inl (.renewing h (.entered rfl))⟩
    | cut _ cutOff => exact .inl cutOff
  | renewing h hrenewing =>
    refine (hrenewing.next does).imp_right fun ⟨hlate, hnext⟩ => ⟨hlate, ?_⟩
    rcases hnext with hnext | ⟨outcome, hrenewal, hstage⟩
    · exact .inl (.renewing h hnext)
    · cases outcome with
      | error fault => exact .inr ⟨_, .unrenewed h hrenewal, hstage⟩
      | ok _ => exact .inl (hstage ▸ .renewed h hrenewal)
  | renewed h hrenewal =>
    cases does with
    | read => exact .inr ⟨rfl, .inl (.lookedAgain h hrenewal _)⟩
    | cut _ cutOff => exact .inl cutOff
  | lookedAgain h hrenewal again =>
    cases does with
    | sent => exact .inr ⟨rfl, .inl (.askedAgain h hrenewal again)⟩
    | cut _ cutOff => exact .inl cutOff
  | askedAgain h hrenewal again =>
    cases does with
    | answered answer => exact .inr ⟨rfl, .inr ⟨_, .repeated h hrenewal again answer, rfl⟩⟩
    | cut _ cutOff => exact .inl cutOff

/-- A talk under way has no result yet. -/
lemma Talk.result?_eq_none {k : Except Fault Response → Task α}
    {past : List Event} {runner : Runner α} (h : client.Talk request k past runner.stage) :
    runner.result? = none := by
  obtain ⟨stage, late⟩ := runner
  cases h with
  | begun => rw [sendAuthenticated_bind]; rfl
  | renewing _ renewing => cases renewing <;> rfl
  | _ => rfl

/-- What a task that begins with a talk has come to, if no time limit is set: it is at a point of
the talk, it was dropped there, or the talk is over and the task goes on with its outcome. -/
theorem Talk.of_path {k : Except Fault Response → Task α} {past : List Event} {runner : Runner α}
    (h : Runner.Path (.start ((client.sendAuthenticated request).run.bind k)) past runner) :
    (client.Talk request k past runner.stage ∧ runner.late = none) ∨
    (∃ said stage, past = .dropped :: said ∧ client.Talk request k said stage ∧
      stage.isSuspended = true ∧ runner = ⟨.gone, none⟩) ∨
    (∃ said rest outcome, past = rest ++ said ∧ client.Conversation request said outcome ∧
      Runner.Path (.start (k outcome)) rest runner) := by
  induction h with
  | here => exact .inl ⟨.begun, rfl⟩
  | @step past runner after session free event before does ih =>
    rcases ih with ⟨talk, hlate⟩ | ⟨said, stage, rfl, -, -, rfl⟩ |
      ⟨said, rest, outcome, rfl, hsaid, path⟩
    · obtain ⟨stage, late⟩ := runner
      obtain ⟨stage', late'⟩ := after
      obtain rfl : late = none := hlate
      rcases talk.next does with hcut | ⟨rfl, htalk | ⟨outcome, hsaid, rfl⟩⟩
      · refine .inr (.inl ⟨past, stage, ?_⟩)
        cases hcut with
        | late hlate => cases hlate
        | dropped =>
          cases does with
          | cut suspended => exact ⟨rfl, talk, suspended, rfl⟩
      · exact .inl ⟨htalk, rfl⟩
      · exact .inr (.inr ⟨_, [], outcome, rfl, hsaid, .here⟩)
    · cases does with
      | cut suspended => exact absurd suspended (by simp [Stage.isSuspended])
    · exact .inr (.inr ⟨said, event :: rest, outcome, rfl, hsaid, .step path does⟩)

end Client
end StorageFleet
