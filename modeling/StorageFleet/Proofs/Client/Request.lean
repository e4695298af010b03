import StorageFleet.Client.Answer
import StorageFleet.Proofs.Job.Look
import StorageFleet.Proofs.Task.Sequence

/-!
# The requests of a client

Every call to an appliance that is reached over a network comes down to submitted requests.
`Client.Submitted` is one of them with all that it said and its outcome, which counts the job that
it may have started.  `yields_order` and `yields_fetch` lead the helpers of a client back to it, and
`Submitted.sent` says that such a request has gone out.

Nothing that a client does leaves a time limit behind (`tidy_answer`), so a program can be taken
apart into its requests, one after the other.
-/

namespace StorageFleet
open StorageFleet.Task (Event)

namespace Client

variable {client : Client} {request : Request} {said : List Event}

/-! ## No time limit is left -/

lemma tidy_sendAuthenticated (request : Request) (limited : Bool) :
    (client.sendAuthenticated request).run.Tidy limited limited :=
  (untimed_sendAuthenticated client request).tidy limited

lemma tidy_pollJob (job : String) (rounds : Nat) (limited : Bool) :
    (client.pollJob job rounds).run.Tidy limited limited := by
  induction rounds with
  | zero => rfl
  | succ rounds ih =>
    have hcheck : (client.checkJob job).run.Tidy limited limited :=
      Exchange.tidy_bind (tidy_sendAuthenticated _ _) rfl fun _ => rfl
    refine Exchange.tidy_bind hcheck rfl fun isDone => ?_
    cases isDone with
    | true => rfl
    | false => exact ih

lemma tidy_reportJob (job : String) (outcome : Except Fault Unit) :
    (client.reportJob job outcome).Tidy false false := by
  cases outcome with
  | error fault => rfl
  | ok _ => rfl

/-- The time limit of a job is lifted when the job has ended. -/
lemma tidy_awaitJob (job : String) : (client.awaitJob job).run.Tidy false false := by
  have hwithin : (Task.within client.timeout (client.pollJob job client.jobRounds).run
      (.error (client.jobLate job))).Tidy false false := by
    refine ⟨rfl, ?_⟩
    exact (tidy_pollJob job client.jobRounds true).bind fun _ => rfl
  exact hwithin.bind (tidy_reportJob job)

lemma tidy_submit (request : Request) : (client.submit request).run.Tidy false false := by
  refine Exchange.tidy_bind (tidy_sendAuthenticated request false) rfl fun response => ?_
  split
  · have hjob : (Exchange.ofExcept (client.jobOf response)).run.Tidy false false := rfl
    refine Exchange.tidy_bind hjob rfl fun job => ?_
    exact Exchange.tidy_bind (tidy_awaitJob job) rfl fun _ => rfl
  · split
    · rfl
    · rfl

lemma tidy_order (method path : String) (body : Option Json) :
    (client.order method path body).run.Tidy false false :=
  Exchange.tidy_bind (tidy_submit _) rfl fun _ => rfl

lemma tidy_fetch (reader : Reader α) (path : String) :
    (client.fetch reader path).run.Tidy false false :=
  Exchange.tidy_bind (tidy_submit _) rfl fun _ => rfl

lemma tidy_fetchFirst (reader : Reader α) (kind path uri : String) :
    (client.fetchFirst reader kind path uri).run.Tidy false false := by
  refine Exchange.tidy_bind (tidy_fetch _ _) rfl fun found => ?_
  cases found <;> rfl

lemma tidy_childrenFrom (parent : String) (pages offset : Nat) :
    (client.childrenFrom parent pages offset).run.Tidy false false := by
  induction pages generalizing offset with
  | zero => rfl
  | succ pages ih =>
    refine Exchange.tidy_bind (tidy_fetch _ _) rfl fun page => ?_
    dsimp only
    split
    · rfl
    · exact Exchange.tidy_bind (ih _) rfl fun _ => rfl

lemma tidy_promoteNewestClone (path : String) :
    (client.promoteNewestClone path).run.Tidy false false := by
  refine Exchange.tidy_bind (tidy_fetch _ _) rfl fun snapshots => ?_
  split
  · exact tidy_order _ _ _
  · rfl

lemma tidy_destroyFilesystem (path : String) (snapshots promote : Bool) :
    (client.destroyFilesystem path snapshots promote).run.Tidy false false := by
  cases promote with
  | true => exact Exchange.tidy_bind (tidy_promoteNewestClone path) rfl fun _ => tidy_order _ _ _
  | false => exact tidy_order _ _ _

lemma tidy_logIn : client.logIn.run.Tidy false false := by
  rw [← Task.bind_done client.logIn.run, logIn_bind]
  exact fun answer => rfl

theorem tidy_answer (call : Call) : (client.answer call).run.Tidy false false := by
  cases call with
  | logIn => exact tidy_logIn
  | getFilesystems parent => exact tidy_childrenFrom parent _ _
  | getFilesystem | getSnapshot => exact tidy_fetchFirst _ _ _ _
  | destroyFilesystem path snapshots promote => exact tidy_destroyFilesystem path snapshots promote
  | getPools | getSnapshots | getLicense | getClusters => exact tidy_fetch _ _
  | getAvailable => exact Exchange.tidy_bind (tidy_fetchFirst _ _ _ _) rfl fun _ => rfl
  | getSmbShareName => exact Exchange.tidy_bind (tidy_fetch _ _) rfl fun _ => rfl
  | createFilesystem | updateFilesystem | promoteFilesystem | setAccess | createNfsShare
  | deleteNfsShare | createSmbShare | deleteSmbShare | createSnapshot | destroySnapshot
  | cloneSnapshot => exact tidy_order _ _ _

/-! ## What is sent -/

/-- What a client sends for a request: the request itself, logins, and looks at a job. -/
inductive SentFor (client : Client) (request : Request) : Request → Prop where
  | own (session) : SentFor client request (request.signed session)
  | login : SentFor client request client.loginRequest
  | look (job session) : SentFor client request ((statusRequest job).signed session)

lemma sends_sendAuthenticated {p : Request → Prop} {asked : Request}
    (hasked : ∀ session, p (asked.signed session)) (hlogin : p client.loginRequest) :
    (client.sendAuthenticated asked).run.Sends p := by
  rw [← Task.bind_done (client.sendAuthenticated asked).run, sendAuthenticated_bind]
  refine fun session => ⟨hasked session, fun answer => ?_⟩
  have hrenewed : ∀ outcome, (client.afterRenewal asked Task.done outcome).Sends p := by
    intro outcome
    cases outcome with
    | error fault => trivial
    | ok _ => exact fun again => ⟨hasked again, fun _ => trivial⟩
  cases answer with
  | error fault => trivial
  | ok response =>
    simp only [afterFirst]
    split
    · intro now
      simp only [afterLook]
      split
      · exact ⟨hlogin, fun answer => hrenewed _⟩
      · exact hrenewed _
    · trivial

lemma sends_submit (request : Request) :
    (client.submit request).run.Sends (client.SentFor request) := by
  have hpoll : ∀ job rounds, (client.pollJob job rounds).run.Sends (client.SentFor request) := by
    intro job rounds
    induction rounds with
    | zero => trivial
    | succ rounds ih =>
      have hcheck : (client.checkJob job).run.Sends (client.SentFor request) :=
        Exchange.sends_bind (sends_sendAuthenticated (.look job) .login) fun _ => trivial
      refine Exchange.sends_bind hcheck fun isDone => ?_
      cases isDone with
      | true => trivial
      | false => exact ih
  have hreport : ∀ job outcome, (client.reportJob job outcome).Sends (client.SentFor request) := by
    intro job outcome
    cases outcome <;> trivial
  have hawait : ∀ job, (client.awaitJob job).run.Sends (client.SentFor request) := by
    intro job
    have hwithin : (Task.within client.timeout (client.pollJob job client.jobRounds).run
        (.error (client.jobLate job))).Sends (client.SentFor request) :=
      ⟨trivial, (hpoll job _).bind fun _ => trivial⟩
    exact hwithin.bind (hreport job)
  refine Exchange.sends_bind (sends_sendAuthenticated .own .login) fun response => ?_
  split
  · have hjob : (Exchange.ofExcept (client.jobOf response)).run.Sends
        (client.SentFor request) := trivial
    refine Exchange.sends_bind hjob fun job => ?_
    exact Exchange.sends_bind (hawait job) fun _ => trivial
  · split
    · trivial
    · trivial

/-! ## Submitted requests -/

variable (client request said) in
/-- The client submitted a request; `said` is all that it did for it, the latest first, and
`outcome` the response, or why there is none. -/
def Submitted (outcome : Except Fault Response) : Prop :=
  (client.submit request).run.Yields said outcome

lemma Submitted.sentFor {outcome : Except Fault Response}
    (h : client.Submitted request said outcome) {sent : Request} (hsent : .sent sent ∈ said) :
    client.SentFor request sent :=
  Task.Yields.sends h (sends_submit request) sent hsent

/-- A talk that is over has sent the request. -/
lemma Conversation.sent {outcome : Except Fault Response}
    (h : client.Conversation request said outcome) :
    ∃ session, .sent (request.signed session) ∈ said := by
  cases h with
  | failed session => exact ⟨session, by simp⟩
  | accepted session => exact ⟨session, by simp [refusal]⟩
  | @unrenewed session => exact ⟨session, by simp [refusal]⟩
  | @repeated session => exact ⟨session, by simp [refusal]⟩

/-- A request that was submitted has gone out. -/
theorem Submitted.sent {outcome : Except Fault Response}
    (h : client.Submitted request said outcome) :
    ∃ session, .sent (request.signed session) ∈ said := by
  have htalk : ∀ {earlier found}, (client.sendAuthenticated request).run.Yields earlier found →
      ∃ session, .sent (request.signed session) ∈ earlier := by
    intro earlier found hyields
    rw [← Task.bind_done (client.sendAuthenticated request).run] at hyields
    rcases Talk.of_path hyields with ⟨talk, -⟩ | ⟨-, -, -, -, -, hgone⟩ |
      ⟨talked, rest, outcome, rfl, hsaid, -⟩
    · exact absurd talk.result?_eq_none (by simp [Task.Runner.result?])
    · cases hgone
    · obtain ⟨session, hsent⟩ := hsaid.sent
      exact ⟨session, List.mem_append_right _ hsent⟩
  rcases Exchange.yields_bind (tidy_sendAuthenticated request false) h with
    ⟨fault, -, hfailed⟩ | ⟨later, earlier, response, rfl, hanswered, -⟩
  · exact htalk hfailed
  · obtain ⟨session, hsent⟩ := htalk hanswered
    exact ⟨session, List.mem_append_right _ hsent⟩

/-- A request whose response does not matter. -/
lemma yields_order {method path : String} {body : Option Json} {outcome : Except Fault Unit}
    (h : (client.order method path body).run.Yields said outcome) :
    ∃ found, client.Submitted { method, path, body } said found ∧
      outcome = found.map fun _ => () := by
  rcases Exchange.yields_bind (tidy_submit _) h with
    ⟨fault, rfl, hfailed⟩ | ⟨later, earlier, response, rfl, hanswered, hdone⟩
  · exact ⟨.error fault, hfailed, rfl⟩
  · obtain ⟨rfl, rfl⟩ := Task.yields_done hdone
    exact ⟨.ok response, hanswered, rfl⟩

/-- A request for a resource. -/
lemma yields_fetch {reader : Reader α} {path : String} {outcome : Except Fault α}
    (h : (client.fetch reader path).run.Yields said outcome) :
    ∃ found, client.Submitted { method := "GET", path } said found ∧
      outcome = found.bind fun response => response.decode reader client.endpoint := by
  rcases Exchange.yields_bind (tidy_submit _) h with
    ⟨fault, rfl, hfailed⟩ | ⟨later, earlier, response, rfl, hanswered, hdone⟩
  · exact ⟨.error fault, hfailed, rfl⟩
  · obtain ⟨rfl, rfl⟩ := Task.yields_done hdone
    exact ⟨.ok response, hanswered, rfl⟩

end Client
end StorageFleet
