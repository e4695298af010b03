import StorageFleet.Proofs.Session.Talk

/-!
# Errands: what callers ask of a client

A caller submits a request or asks for a login.  `Client.carryOut` is the task of either.

A submitted request is `Orderly`: it touches the session only in talks, has at most one talk at a
time, and a talk that fails is the end of it.  `Afoot` lists the points that an errand can have
reached: between talks, in a talk, in a login that the caller asked for, or cut off.
`Afoot.next` is preserved by every step, so it holds along every path (`afoot_of_path`), and
`Afoot.inside` says what is left of it for an errand that has the login lock.
-/

namespace StorageFleet
open StorageFleet.Task (Event Stage Runner EndsIn)

/-- What a caller asks of a client. -/
inductive Errand where
  | submit (request : Request)
  | logIn

/-- The requests that an errand may send with a session: its own, and looks at a job. -/
def Errand.Asks : Errand → Request → Prop
  | .submit own, request => request = own ∨ ∃ job, request = Client.jobRequest job
  | .logIn, _ => False

namespace Client

variable {α β : Type} (client : Client)

/-- The task of an errand; a login has no response to give. -/
def carryOut : Errand → Task (Except Fault (Option Response))
  | .submit request => (client.submit request).run.bind fun outcome => .done (outcome.map some)
  | .logIn => client.logIn.run.bind fun outcome => .done (outcome.map fun _ => none)

/-- How a submitted request goes on if it was accepted for later. -/
def afterAccepted (response : Response) : Task (Except Fault (Option Response)) :=
  match client.jobOf response with
  | .error fault => .done (.error fault)
  | .ok job => (client.awaitJob job).run.bind fun outcome =>
    .done (outcome.map fun _ => some response)

/-- How a submitted request goes on after its talk. -/
def followUp (request : Request) :
    Except Fault Response → Task (Except Fault (Option Response))
  | .error fault => .done (.error fault)
  | .ok response =>
    if response.status = 202 then client.afterAccepted response
    else if 300 ≤ response.status then .done (.error (response.fault client.endpoint request))
    else .done (.ok (some response))

lemma carryOut_submit (request : Request) : client.carryOut (.submit request) =
    (client.sendAuthenticated request).run.bind (client.followUp request) := by
  show (Task.bind _ _).bind _ = _
  rw [Task.bind_assoc]
  congr 1
  funext outcome
  cases outcome with
  | error fault => rfl
  | ok response =>
    simp only [followUp, afterAccepted, ExceptT.bindCont]
    split
    · cases client.jobOf response with
      | error fault => rfl
      | ok job =>
        show ((client.awaitJob job).run.bind _).bind _ = _
        rw [Task.bind_assoc]
        congr 1
        funext outcome
        cases outcome <;> rfl
    · split <;> rfl

/-! ## Orderly tasks -/

/-- Tasks that touch the session in talks only, and in which a talk that fails is the end.  Of
their own they count the ends of jobs. -/
inductive Orderly (errand : Errand) : Task (Except Fault α) → Prop where
  | done (result) : Orderly errand (.done result)
  | talk {request k} (asks : errand.Asks request)
      (failing : ∀ fault, (k (.error fault)).EndsIn (.error fault))
      (orderly : ∀ outcome, Orderly errand (k outcome)) :
      Orderly errand ((client.sendAuthenticated request).run.bind k)
  | sleep {span next} (orderly : Orderly errand next) : Orderly errand (.sleep span next)
  | limit {span late next} (orderlyLate : Orderly errand late) (orderly : Orderly errand next) :
      Orderly errand (.limit span late next)
  | unlimit {next} (orderly : Orderly errand next) : Orderly errand (.unlimit next)
  | count {ending next} (orderly : Orderly errand next) : Orderly errand (.count (.job ending) next)
  | warn {line next} (orderly : Orderly errand next) : Orderly errand (.warn line next)

variable {client} {errand : Errand}

lemma Orderly.bind {task : Task (Except Fault α)} {next : Except Fault α → Task (Except Fault β)}
    (h : client.Orderly errand task) (hnext : ∀ outcome, client.Orderly errand (next outcome))
    (hfailing : ∀ fault, (next (.error fault)).EndsIn (.error fault)) :
    client.Orderly errand (task.bind next) := by
  induction h with
  | done result => exact hnext result
  | talk asks failing _ ih =>
    rw [Task.bind_assoc]
    exact .talk asks (fun fault => (failing fault).bind (hfailing fault)) ih
  | sleep _ ih => exact .sleep ih
  | limit _ _ ihLate ih => exact .limit ihLate ih
  | unlimit _ ih => exact .unlimit ih
  | count _ ih => exact .count ih
  | warn _ ih => exact .warn ih

lemma Orderly.exchange {first : Exchange α} {next : α → Exchange β}
    (h : client.Orderly errand first.run)
    (hnext : ∀ result, client.Orderly errand (next result).run) :
    client.Orderly errand (first >>= next).run := by
  apply Orderly.bind h
  · rintro (fault | result)
    · exact .done _
    · exact hnext result
  · exact fun _ => rfl

lemma orderly_sendAuthenticated {request : Request} (asks : errand.Asks request) :
    client.Orderly errand (client.sendAuthenticated request).run := by
  rw [← Task.bind_done (client.sendAuthenticated request).run]
  exact .talk asks (fun _ => rfl) fun outcome => .done outcome

lemma orderly_pollJob {request : Request} (job : String) (rounds : Nat) :
    client.Orderly (.submit request) (client.pollJob job rounds).run := by
  have asks : (Errand.submit request).Asks (jobRequest job) := Or.inr ⟨job, rfl⟩
  induction rounds with
  | zero => exact .done _
  | succ rounds ih =>
    refine .sleep (Orderly.exchange ?_ fun isDone => ?_)
    · exact (orderly_sendAuthenticated asks).exchange fun _ => .done _
    · cases isDone with
      | true => exact .done _
      | false => exact ih

lemma orderly_reportJob (job : String) (outcome : Except Fault Unit) :
    client.Orderly errand (client.reportJob job outcome) := by
  cases outcome with
  | error fault => exact .count (.warn (.done _))
  | ok _ => exact .count (.done _)

lemma orderly_awaitJob {request : Request} (job : String) :
    client.Orderly (.submit request) (client.awaitJob job).run := by
  refine .limit (orderly_reportJob job _) ?_
  refine Orderly.bind ?_ (orderly_reportJob job) fun fault => rfl
  exact (orderly_pollJob job _).bind (fun _ => .unlimit (.done _)) fun _ => rfl

lemma orderly_submit (request : Request) :
    client.Orderly (.submit request) (client.submit request).run := by
  have asks : (Errand.submit request).Asks request := Or.inl rfl
  refine (orderly_sendAuthenticated asks).exchange fun response => ?_
  split
  · refine Orderly.exchange (.done _) fun job => ?_
    exact (orderly_awaitJob job).exchange fun _ => .done _
  · split
    · exact .done _
    · exact .done _

lemma orderly_carryOut (request : Request) :
    client.Orderly (.submit request) (client.carryOut (.submit request)) :=
  (orderly_submit request).bind (fun _ => .done _) fun _ => rfl

/-! ## Where an errand can be -/

variable (client errand)

/-- The points of an errand, with its events so far, the latest first. -/
inductive Afoot : List Event → Runner (Except Fault (Option Response)) → Prop where
  | between {past task late} (free : holdsLock past = false)
      (orderly : client.Orderly errand task)
      (orderlyLate : ∀ task, late = some task → client.Orderly errand task) :
      Afoot past ⟨.ready task, late⟩
  | talking {past prior request k stage late} (free : holdsLock prior = false)
      (asks : errand.Asks request) (failing : ∀ fault, (k (.error fault)).EndsIn (.error fault))
      (orderly : ∀ outcome, client.Orderly errand (k outcome))
      (talk : client.Talk request k past stage)
      (orderlyLate : ∀ task, late = some task → client.Orderly errand task) :
      Afoot (past ++ prior) ⟨stage, late⟩
  | toLogIn (asked : errand = .logIn) : Afoot [] (.start (client.carryOut .logIn))
  | loggingIn {past stage} (asked : errand = .logIn)
      (renewing : client.Renewing none (fun outcome => .done (outcome.map fun _ => none))
        past stage) :
      Afoot past ⟨stage, none⟩
  | gone {past} (free : holdsLock past = false) : Afoot past ⟨.gone, none⟩

/-- The points of an errand that has the login lock. -/
inductive Inside : List Event → Stage (Except Fault (Option Response)) → Prop where
  | forRequest {past prior request k stage session response} (asks : errand.Asks request)
      (failing : ∀ fault, (k (.error fault)).EndsIn (.error fault))
      (wants : response.wantsSession = true)
      (renewing : client.Renewing (some session.generation) (client.afterRenewal request k)
        past stage) :
      Inside (past ++ (refusal request session response ++ prior)) stage
  | forCaller {past stage} (asked : errand = .logIn)
      (renewing : client.Renewing none (fun outcome => .done (outcome.map fun _ => none))
        past stage) :
      Inside past stage

variable {client errand}

lemma Renewal.holdsLock_append {seen : Option Nat} {past prior : List Event}
    {outcome : Except Fault Unit} (h : client.Renewal seen past outcome) :
    holdsLock (past ++ prior) = false := by
  cases h <;> rfl

lemma Conversation.holdsLock_append {request : Request} {past prior : List Event}
    {outcome : Except Fault Response} (h : client.Conversation request past outcome)
    (free : holdsLock prior = false) : holdsLock (past ++ prior) = false := by
  cases h with
  | failed => simpa [holdsLock] using free
  | accepted => simpa [refusal, holdsLock] using free
  | unrenewed _ hrenewal =>
    rw [List.append_assoc]
    exact hrenewal.holdsLock_append
  | repeated _ hrenewal =>
    simp only [List.cons_append, holdsLock, List.append_assoc]
    exact hrenewal.holdsLock_append

/-- What is cut off goes on between talks, or not at all. -/
lemma Afoot.of_cutOff {past : List Event} {late : Option (Task (Except Fault (Option Response)))}
    {event : Event} {after : Runner (Except Fault (Option Response))}
    (orderlyLate : ∀ task, late = some task → client.Orderly errand task)
    (h : Runner.CutOff late event after) : client.Afoot errand (event :: past) after := by
  cases h with
  | late hlate => exact .between rfl (orderlyLate _ hlate) (by simp)
  | dropped => exact .gone rfl

/-- A step of a talk under way. -/
lemma Afoot.next_talking {past prior : List Event} {request : Request}
    {k : Except Fault Response → Task (Except Fault (Option Response))}
    {stage : Stage (Except Fault (Option Response))}
    {late : Option (Task (Except Fault (Option Response)))} (free : holdsLock prior = false)
    (asks : errand.Asks request) (failing : ∀ fault, (k (.error fault)).EndsIn (.error fault))
    (orderly : ∀ outcome, client.Orderly errand (k outcome))
    (talk : client.Talk request k past stage)
    (orderlyLate : ∀ task, late = some task → client.Orderly errand task)
    {session : Session} {isFree : Bool} {event : Event}
    {after : Runner (Except Fault (Option Response))}
    (does : Runner.Does session isFree ⟨stage, late⟩ event after) :
    client.Afoot errand (event :: (past ++ prior)) after := by
  obtain ⟨stage', late'⟩ := after
  rcases talk.next does with hcut | ⟨rfl, htalk | ⟨outcome, hsaid, rfl⟩⟩
  · exact .of_cutOff orderlyLate hcut
  · exact .talking free asks failing orderly htalk orderlyLate
  · exact .between (hsaid.holdsLock_append free) (orderly outcome) orderlyLate

/-- Each step of an errand leads from point to point. -/
lemma Afoot.next {past : List Event} {runner after : Runner (Except Fault (Option Response))}
    (h : client.Afoot errand past runner) {session : Session} {free : Bool} {event : Event}
    (does : Runner.Does session free runner event after) :
    client.Afoot errand (event :: past) after := by
  cases h with
  | between hfree horderly orderlyLate =>
    cases horderly with
    | talk asks failing orderly =>
      exact next_talking hfree asks failing orderly .begun orderlyLate does
    | done =>
      cases does with
      | cut suspended => exact absurd suspended (by simp [Stage.isSuspended])
    | sleep orderly =>
      cases does with
      | slept => exact .between hfree orderly orderlyLate
      | cut _ cutOff => exact .of_cutOff orderlyLate cutOff
    | limit hlate orderly =>
      cases does with
      | limited => exact .between hfree orderly fun _ h => Option.some.inj h ▸ hlate
      | cut _ cutOff => exact .of_cutOff orderlyLate cutOff
    | unlimit orderly =>
      cases does with
      | unlimited => exact .between hfree orderly (by simp)
      | cut _ cutOff => exact .of_cutOff orderlyLate cutOff
    | count orderly =>
      cases does with
      | counted => exact .between hfree orderly orderlyLate
      | cut _ cutOff => exact .of_cutOff orderlyLate cutOff
    | warn orderly =>
      cases does with
      | warned => exact .between hfree orderly orderlyLate
      | cut _ cutOff => exact .of_cutOff orderlyLate cutOff
  | talking hfree asks failing orderly talk orderlyLate =>
    exact next_talking hfree asks failing orderly talk orderlyLate does
  | toLogIn asked =>
    simp only [Runner.start, carryOut, logIn_bind] at does
    cases does with
    | acquired => exact .loggingIn asked (.due .asked)
    | cut _ cutOff => exact .of_cutOff (by simp) cutOff
  | loggingIn asked renewing =>
    obtain ⟨stage', late'⟩ := after
    rcases renewing.next does with hcut | ⟨rfl, hrenewing | ⟨outcome, hrenewal, rfl⟩⟩
    · exact .of_cutOff (by simp) hcut
    · exact .loggingIn asked hrenewing
    · have hfree : holdsLock (event :: past ++ []) = false := hrenewal.holdsLock_append
      exact .between (by simpa using hfree) (.done _) (by simp)
  | gone hfree =>
    cases does with
    | cut suspended => exact absurd suspended (by simp [Stage.isSuspended])

/-- Along every path of an errand it is at one of its points. -/
lemma afoot_of_path {past : List Event} {runner : Runner (Except Fault (Option Response))}
    (h : Runner.Path (.start (client.carryOut errand)) past runner) :
    client.Afoot errand past runner := by
  induction h with
  | here =>
    cases errand with
    | submit request => exact .between rfl (orderly_carryOut request) (by simp)
    | logIn => exact .toLogIn rfl
  | step _ does ih => exact ih.next does

/-- The points under the login lock. -/
lemma Afoot.inside {past : List Event} {runner : Runner (Except Fault (Option Response))}
    (h : client.Afoot errand past runner) (holds : holdsLock past = true) :
    client.Inside errand past runner.stage := by
  cases h with
  | between free | gone free => simp [free] at holds
  | toLogIn => simp [holdsLock] at holds
  | loggingIn asked renewing => exact .forCaller asked renewing
  | talking free asks failing _ talk =>
    cases talk with
    | begun | looked | asked | refused => simp [refusal, holdsLock, free] at holds
    | renewing wants renewing =>
      rw [List.append_assoc]
      exact .forRequest asks failing wants renewing
    | renewed _ hrenewal | lookedAgain _ hrenewal | askedAgain _ hrenewal =>
      simp [holdsLock, hrenewal.holdsLock_append] at holds

end Client
end StorageFleet
