import StorageFleet.Proofs.Session.Renewals

/-!
# Single-flight logins

Any number of requests and logins may run side by side at one client, in any order of their steps,
with any answers, and each may be cut off wherever it waits.  `Client.SingleFlight` is what can be
said of the session then, and `single_flight` says that every schedule keeps it:

* one login request at most is under way, and what is under way without the lock is the caller's;
* the session counts the attempts that were answered, and holds the token of the last one that
  succeeded and the failure of the last one, if it failed;
* a generation is renewed once at most, and a burst of refused requests posts and counts one login;
* whoever finds the session renewed shares the outcome of the last attempt.
-/

namespace StorageFleet
open StorageFleet.Task (Event Stage Runner EndsIn)

/-! ## Requests -/

/-- A request that logs in. -/
def Request.IsLogin (request : Request) : Prop :=
  request.method = "POST" ∧ request.path = "auth/login"

/-- An errand whose own request is one that logs in. -/
def Errand.IsLogin : Errand → Prop
  | .submit request => request.IsLogin
  | .logIn => False

namespace Client

variable {client : Client} {errand : Errand}

/-- A renewal that finds the session changed is about to give the lock back and to go on with the
outcome of the last attempt. -/
lemma Afoot.sharing {prior : List Event} {response : Response} {sent : Request}
    {seen now : Session} {runner : Runner (Except Fault (Option Response))}
    (h : client.Afoot errand (.read now :: .acquired :: .answered (.ok response) :: .sent sent ::
      .read seen :: prior) runner) (changed : now.generation ≠ seen.generation) :
    ∃ asked k, errand.Asks asked ∧ sent = asked.signed seen ∧
      (∀ fault, (k (.error fault)).EndsIn (.error fault)) ∧ runner.stage =
        .ready (.release client.appliance (client.afterRenewal asked k (client.shared now))) := by
  have hinside := h.inside rfl
  generalize hpast : Event.read now :: .acquired :: .answered (.ok response) :: .sent sent ::
    .read seen :: prior = past at hinside
  generalize hstage : runner.stage = stage at hinside
  cases hinside with
  | forRequest asks failing _ renewing =>
    cases renewing with
    | changed hseen hnow =>
      cases hpast
      cases hseen
      exact ⟨_, _, asks, rfl, failing, rfl⟩
    | unchanged hseen hnow =>
      cases hpast
      cases hseen
      exact absurd hnow changed
    | entered => simp at hpast
    | due hdue => cases hdue; simp at hpast
    | posting | posted | settled => simp at hpast
  | forCaller _ renewing =>
    cases renewing with
    | changed hseen | unchanged hseen => cases hseen
    | entered | posting | posted | settled => simp at hpast
    | due hdue => cases hdue; simp at hpast

/-- A renewal ends by giving the lock back. -/
lemma Renewal.exists_released {g : Nat} {past rest : List Event} {outcome : Except Fault Unit}
    (h : client.Renewal (some g) past outcome) (hrest : renewedFor (.acquired :: rest) = some g) :
    ∃ before, past = .released :: before ∧ renewedFor (before ++ rest) = some g := by
  cases h with
  | shared => exact ⟨_, rfl, hrest⟩
  | own hdue => exact ⟨_, rfl, hdue.renewedFor_append hrest⟩

lemma refusal_inj {request : Request} {seen seen' : Session} {response response' : Response}
    (h : refusal request seen response = refusal request seen' response') :
    seen = seen' ∧ response = response' := by
  simp only [refusal, List.cons.injEq, Event.answered.injEq, Except.ok.injEq,
    Event.read.injEq] at h
  exact ⟨h.2.2.1, h.1⟩

/-- A talk that is over and began with a refusal went through the lock. -/
lemma Conversation.exists_released {request : Request} {said rest later : List Event}
    {outcome : Except Fault Response} {seen : Session} {response : Response}
    (h : client.Conversation request said outcome) (wants : response.wantsSession = true)
    (hsaid : rest ++ said = later ++ refusal request seen response) :
    ∃ after before, said = after ++ .released :: before ∧
      renewedFor before = some seen.generation := by
  have hrenewal : ∀ after {past outcome} {seen' : Session} {response' : Response},
      client.Renewal (some seen'.generation) past outcome → response'.wantsSession = true →
      rest ++ (after ++ (past ++ refusal request seen' response')) =
        later ++ refusal request seen response →
      ∃ after' before, after ++ (past ++ refusal request seen' response') =
        after' ++ .released :: before ∧ renewedFor before = some seen.generation := by
    intro after past outcome seen' response' hrenewal wants' heq
    simp only [← List.append_assoc] at heq
    obtain ⟨rfl, rfl⟩ := refusal_inj (List.append_inj' heq rfl).2
    have hrest : renewedFor (.acquired :: (refusal request seen' response' ++ [])) =
        some seen'.generation := renewedFor_refusal wants []
    rw [List.append_nil] at hrest
    obtain ⟨before, rfl, hbefore⟩ := hrenewal.exists_released hrest
    exact ⟨after, _, rfl, hbefore⟩
  cases h with
  | failed =>
    obtain ⟨-, heq⟩ := List.append_inj' hsaid rfl
    cases heq
  | accepted _ haccepted =>
    obtain ⟨-, rfl⟩ := refusal_inj (List.append_inj' hsaid rfl).2
    simp [wants] at haccepted
  | unrenewed wants' renewal => exact hrenewal [] renewal wants' hsaid
  | repeated wants' renewal => exact hrenewal [_, _, _] renewal wants' hsaid

/-! ## The result -/

variable (client)

/-- How a task goes on with the outcome of the latest attempt, after it posted `sent` with the
session `seen` and found the session renewed to `now`: it fails with the attempt, or sends the
request again with the session that it will then find. -/
def TakesOver (sent : Request) (seen now : Session) (next : Task (Except Fault (Option Response))) :
    List (Except String String) → Prop
  | .error reason :: _ => next.EndsIn (.error (.authenticationFailed client.endpoint reason))
  | .ok token :: _ => now.token = some token ∧
    ∃ request k, sent = request.signed seen ∧ next = client.repeating request k
  | [] => False

end Client

section
variable {client : Client} {counters : Counters} {errands : Nat → Errand}
  {crowd : Crowd (Except Fault (Option Response))}

namespace Crowd

lemma Reaches.session_eq (h : Reaches (client.crowd {} counters errands) crowd) :
    crowd.commons.session = ({} : Session).after (attempts crowd.history) := by
  rw [h.commons_eq]
  exact session_replay _ _

lemma Reaches.recorded (h : Reaches (client.crowd {} counters errands) crowd)
    {later earlier : List (Nat × Event)} {i : Nat} {outcome : Except String String}
    (hhistory : crowd.history = later ++ (i, .settled outcome) :: earlier) :
    ∃ answer rest, own i earlier = .answered answer :: .sent client.loginRequest :: rest ∧
      holdsLock rest = true ∧ outcome = client.recorded answer := by
  obtain ⟨moment, after, before, rfl, does, -⟩ := h.at_event rfl hhistory
  obtain ⟨holds, ⟨answer, rest, hown, houtcome⟩, -⟩ := before.settles_at does
  refine ⟨answer, rest, hown, ?_, houtcome⟩
  rw [hown] at holds
  exact holds

lemma Reaches.relogins (h : Reaches (client.crowd {} counters errands) crowd) :
    crowd.commons.counters.reloginsOf client.endpoint =
      counters.reloginsOf client.endpoint +
        tally (fun _ event => event.isRelogin) crowd.history := by
  induction h with
  | here => rfl
  | @step crowd i event after before does ih =>
    rw [history_record, tally_cons, record, Commons.counters_after, ← Nat.add_assoc, ← ih]
    rcases before.step_cases does with ⟨-, rfl | rfl | hbeat⟩ | ⟨-, -, hrelogin⟩
    · rfl
    · rfl
    · generalize own i crowd.history = past at hbeat
      generalize renewedFor past = seen at hbeat
      cases hbeat with
      | books =>
        exact (crowd.commons.counters.reloginsOf_add _ _).trans (by simp [Event.isRelogin])
      | _ => rfl
    · cases event with
      | counted counter =>
        cases counter with
        | relogin endpoint => exact absurd rfl (hrelogin endpoint)
        | job ending => rfl
      | _ => rfl

lemma Reaches.renewed (h : Reaches (client.crowd {} counters errands) crowd) {i : Nat}
    {request : Request} {seen : Session} {response : Response} {later : List Event}
    (hsubmit : errands i = .submit request) (wants : response.wantsSession = true)
    (hown : own i crowd.history = later ++ Client.refusal request seen response)
    (hdone : (crowd.runners i).result?.isSome = true) : crowd.HasRenewed seen.generation := by
  have hpath := h.path i
  rw [hsubmit, Client.carryOut_submit] at hpath
  rcases Client.Talk.of_path hpath with ⟨talk, -⟩ | ⟨_, _, -, -, -, hgone⟩ |
    ⟨said, rest, outcome, hpast, hsaid, -⟩
  · simp [talk.result?_eq_none] at hdone
  · simp [hgone, Runner.result?] at hdone
  · obtain ⟨after, before, rfl, hbefore⟩ :=
      hsaid.exists_released wants (hpast.symm.trans hown)
    rw [← List.append_assoc] at hpast
    obtain ⟨later', earlier, hhistory, -, hearlier⟩ := exists_of_own_eq hpast
    exact ⟨i, later', earlier, hhistory, hearlier ▸ hbefore⟩

lemma Reaches.shares (h : Reaches (client.crowd {} counters errands) crowd) {i : Nat}
    {now seen : Session} {sent : Request} {response : Response} {prior : List Event}
    (hown : own i crowd.history = .read now :: .acquired :: .answered (.ok response) ::
      .sent sent :: .read seen :: prior) (changed : now.generation ≠ seen.generation) :
    now = crowd.commons.session ∧
      ∃ next, (crowd.runners i).stage = .ready (.release client.appliance next) ∧
        client.TakesOver sent seen now next (attempts crowd.history) := by
  have hnow : now = crowd.commons.session := h.found_eq (i := i) (by rw [hown]; rfl)
  refine ⟨hnow, ?_⟩
  obtain ⟨asked, k, -, hsent, hfailing, hstage⟩ := (hown ▸ h.afoot i).sharing changed
  refine ⟨_, hstage, ?_⟩
  have hread : .read seen ∈ own i crowd.history := by simp [hown]
  have hle := h.generation_of_read hread
  rw [hnow] at changed ⊢
  rw [h.session_eq] at changed hle ⊢
  cases hattempts : attempts crowd.history with
  | nil =>
    rw [hattempts] at changed hle
    exact absurd (Nat.le_zero.mp hle).symm changed
  | cons outcome earlier =>
    cases outcome with
    | ok token => exact ⟨rfl, asked, k, hsent, rfl⟩
    | error reason => exact hfailing _

end Crowd

end
end StorageFleet
