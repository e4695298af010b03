import StorageFleet.Proofs.Session.Errand

/-!
# Login attempts in a crowd

`Client.crowd` is a crowd in which every task carries out an errand.  This module says what such
a crowd does under the login lock.

`Beat` lists the steps that are made under the lock, by their events alone: look at the session,
share the last outcome or book a renewal, post the login request, hear the answer, settle, leave.
Every step of the owner is one of them or cuts the owner off (`Inside.beat`), and nobody else
settles or books (`Afoot.outside`).  What the owner found when it looked therefore stays true until
it settles (`Reaches.found_eq`), and a renewal of generation `g` settles when the session is at
generation `g` (`Reaches.settles_at`).
-/

namespace StorageFleet
open StorageFleet.Task (Event Stage Runner EndsIn)

/-! ## Reading a history -/

/-- The outcome that an event records. -/
def Task.Event.settled? : Event → Option (Except String String)
  | .settled outcome => some outcome
  | _ => none

/-- The login attempts that have ended, the latest first: the token, or why there is none. -/
def attempts (history : List (Nat × Event)) : List (Except String String) :=
  history.filterMap fun entry => entry.2.settled?

/-- The session after several attempts. -/
def Session.after (session : Session) (attempts : List (Except String String)) : Session :=
  attempts.foldr (fun outcome session => session.settle outcome) session

namespace Session

variable (session : Session) (attempts : List (Except String String))

end Session

lemma attempts_append (later earlier : List (Nat × Event)) :
    attempts (later ++ earlier) = attempts later ++ attempts earlier :=
  List.filterMap_append

/-- What a task found when it looked at the session under the lock, until it settles. -/
def found : List Event → Option Session
  | .read now :: .acquired :: _ => some now
  | .counted _ :: past | .sent _ :: past | .answered _ :: past => found past
  | _ => none

/-- The generation that a renewal under way is of: the one that the refused request had read. -/
def renewedFor : List Event → Option Nat
  | .acquired :: .answered (.ok response) :: .sent _ :: .read session :: _ =>
    if response.wantsSession then some session.generation else none
  | .read _ :: past | .counted _ :: past | .sent _ :: past | .answered _ :: past
  | .settled _ :: past => renewedFor past
  | _ => none

lemma holdsLock_of_found {past : List Event} {now : Session} (h : found past = some now) :
    holdsLock past = true := by
  induction past using found.induct with
  | case1 => rfl
  | case2 _ past ih | case3 _ past ih | case4 _ past ih => exact ih h
  | case5 past => simp [found] at h

lemma eq_of_found_read {past : List Event} {seen now : Session}
    (h : found (.read seen :: past) = some now) : seen = now := by
  unfold found at h
  split at h
  · next heq =>
    cases heq
    exact Option.some.inj h
  · next heq => cases heq
  · next heq => cases heq
  · next heq => cases heq
  · exact absurd h (by simp)

namespace Client

variable (client : Client)

/-- The steps under the login lock, by what was done before and what is done, in a renewal of
generation `seen` or a login that is asked for. -/
inductive Beat : Option Nat → List Event → Event → Prop where
  | looks {g rest} (now) : Beat (some g) (.acquired :: rest) (.read now)
  | shares {g rest now} (changed : now.generation ≠ g) :
      Beat (some g) (.read now :: .acquired :: rest) .released
  | books {g rest now} (unchanged : now.generation = g) :
      Beat (some g) (.read now :: .acquired :: rest) (.counted (.relogin client.endpoint))
  | posts {seen past rest} (due : client.Due seen past) :
      Beat seen (past ++ rest) (.sent client.loginRequest)
  | hears {seen past rest} (due : client.Due seen past) (answer) :
      Beat seen (.sent client.loginRequest :: (past ++ rest)) (.answered answer)
  | settles {seen past rest} (due : client.Due seen past) (answer) :
      Beat seen (.answered answer :: .sent client.loginRequest :: (past ++ rest))
        (.settled (client.recorded answer))
  | leaves {seen past rest} (due : client.Due seen past) (answer) :
      Beat seen (.settled (client.recorded answer) :: .answered answer ::
        .sent client.loginRequest :: (past ++ rest)) .released

variable {client} {errand : Errand}

lemma Renewing.beat {α : Type} {seen : Option Nat} {k : Except Fault Unit → Task α}
    {past : List Event} {stage : Stage α} (h : client.Renewing seen k past stage)
    (rest : List Event) {late : Option (Task α)} {session : Session} {free : Bool} {event : Event}
    {after : Runner α} (does : Runner.Does session free ⟨stage, late⟩ event after) :
    Runner.CutOff late event after ∨ client.Beat seen (past ++ rest) event := by
  cases h with
  | entered hseen =>
    subst hseen
    cases does with
    | read => exact .inr (.looks _)
    | cut _ cutOff => exact .inl cutOff
  | changed hseen hnow =>
    subst hseen
    cases does with
    | released => exact .inr (.shares hnow)
    | cut _ cutOff => exact .inl cutOff
  | unchanged hseen hnow =>
    subst hseen
    cases does with
    | counted => exact .inr (.books hnow)
    | cut _ cutOff => exact .inl cutOff
  | due hdue =>
    cases does with
    | sent => exact .inr (.posts hdue)
    | cut _ cutOff => exact .inl cutOff
  | posting hdue =>
    cases does with
    | answered answer => exact .inr (.hears hdue answer)
    | cut _ cutOff => exact .inl cutOff
  | posted hdue answer =>
    cases does with
    | settled => exact .inr (.settles hdue answer)
    | cut _ cutOff => exact .inl cutOff
  | settled hdue answer =>
    cases does with
    | released => exact .inr (.leaves hdue answer)
    | cut _ cutOff => exact .inl cutOff

lemma Due.renewedFor_append {seen : Option Nat} {past rest : List Event}
    (h : client.Due seen past) (hrest : renewedFor (.acquired :: rest) = seen) :
    renewedFor (past ++ rest) = seen := by
  cases h <;> exact hrest

lemma Renewing.renewedFor_append {α : Type} {seen : Option Nat} {k : Except Fault Unit → Task α}
    {past rest : List Event} {stage : Stage α} (h : client.Renewing seen k past stage)
    (hrest : renewedFor (.acquired :: rest) = seen) : renewedFor (past ++ rest) = seen := by
  cases h with
  | entered | changed | unchanged => exact hrest
  | due hdue | posting hdue | posted hdue | settled hdue => exact hdue.renewedFor_append hrest

lemma Renewing.holdsLock_append {α : Type} {seen : Option Nat} {k : Except Fault Unit → Task α}
    {past : List Event} {stage : Stage α} (h : client.Renewing seen k past stage)
    (rest : List Event) : holdsLock (past ++ rest) = true := by
  cases h with
  | entered | changed | unchanged => rfl
  | due hdue | posting hdue | posted hdue | settled hdue => cases hdue <;> rfl

lemma renewedFor_refusal {request : Request} {session : Session} {response : Response}
    (wants : response.wantsSession = true) (prior : List Event) :
    renewedFor (.acquired :: (refusal request session response ++ prior)) =
      some session.generation := by
  simp [refusal, renewedFor, wants]

/-- Every step under the lock is a beat or cuts off. -/
lemma Inside.beat {past : List Event} {stage : Stage (Except Fault (Option Response))}
    (h : client.Inside errand past stage)
    {late : Option (Task (Except Fault (Option Response)))} {session : Session} {free : Bool}
    {event : Event} {after : Runner (Except Fault (Option Response))}
    (does : Runner.Does session free ⟨stage, late⟩ event after) :
    Runner.CutOff late event after ∨ client.Beat (renewedFor past) past event := by
  cases h with
  | forRequest _ _ wants renewing =>
    rw [renewing.renewedFor_append (renewedFor_refusal wants _)]
    exact renewing.beat _ does
  | forCaller _ renewing =>
    have hseen : renewedFor (past ++ []) = none := renewing.renewedFor_append rfl
    rw [List.append_nil] at hseen
    rw [hseen, ← List.append_nil past]
    exact renewing.beat [] does

/-- Without the lock nothing is settled and no renewal is booked. -/
lemma Afoot.outside {past : List Event} {runner after : Runner (Except Fault (Option Response))}
    (h : client.Afoot errand past runner) (free : holdsLock past = false) {session : Session}
    {isFree : Bool} {event : Event} (does : Runner.Does session isFree runner event after) :
    event.settled? = none ∧ ∀ endpoint, event ≠ .counted (.relogin endpoint) := by
  cases h with
  | between _ orderly =>
    cases orderly with
    | talk =>
      rw [sendAuthenticated_bind] at does
      cases does with
      | read => exact ⟨rfl, by simp⟩
      | cut _ cutOff => cases cutOff <;> exact ⟨rfl, by simp⟩
    | _ =>
      cases does with
      | cut _ cutOff => cases cutOff <;> exact ⟨rfl, by simp⟩
      | _ => exact ⟨rfl, by simp⟩
  | talking hprior _ _ _ talk =>
    cases talk with
    | begun =>
      rw [sendAuthenticated_bind] at does
      cases does with
      | read => exact ⟨rfl, by simp⟩
      | cut _ cutOff => cases cutOff <;> exact ⟨rfl, by simp⟩
    | renewing wants renewing =>
      rw [List.append_assoc, renewing.holdsLock_append] at free
      exact absurd free (by simp)
    | _ =>
      cases does with
      | cut _ cutOff => cases cutOff <;> exact ⟨rfl, by simp⟩
      | _ => exact ⟨rfl, by simp⟩
  | toLogIn =>
    simp only [Runner.start, carryOut, logIn_bind] at does
    cases does with
    | acquired => exact ⟨rfl, by simp⟩
    | cut _ cutOff => cases cutOff <;> exact ⟨rfl, by simp⟩
  | loggingIn _ renewing =>
    have holds : holdsLock (past ++ []) = true := renewing.holdsLock_append []
    simp [free] at holds
  | gone =>
    cases does with
    | cut suspended => exact absurd suspended (by simp [Stage.isSuspended])

/-! ## Crowds of errands -/

variable (client)

/-- Tasks that carry out errands side by side. -/
def crowd (session : Session) (counters : Counters) (errands : Nat → Errand) :
    Crowd (Except Fault (Option Response)) :=
  .start session counters fun i => client.carryOut (errands i)

end Client

section
variable {client : Client} {session : Session} {counters : Counters} {errands : Nat → Errand}
  {crowd : Crowd (Except Fault (Option Response))}

lemma session_replay (commons : Commons) (history : List (Nat × Event)) :
    (commons.replay history).session = commons.session.after (attempts history) := by
  induction history with
  | nil => rfl
  | cons entry earlier ih =>
    obtain ⟨i, event⟩ := entry
    rw [Commons.replay_cons, Commons.session_after, ih]
    cases event <;> rfl

namespace Crowd

lemma Reaches.afoot (h : Reaches (client.crowd session counters errands) crowd) (i : Nat) :
    client.Afoot (errands i) (own i crowd.history) (crowd.runners i) :=
  Client.afoot_of_path (h.path i)

/-- A read of the session finds what the attempts up to then have made of it. -/
lemma Reaches.read_eq (h : Reaches (client.crowd session counters errands) crowd) {i : Nat}
    {found : Session} {later earlier : List (Nat × Event)}
    (hhistory : crowd.history = later ++ (i, .read found) :: earlier) :
    found = session.after (attempts earlier) := by
  obtain ⟨moment, after, before, rfl, does, -⟩ := h.at_event rfl hhistory
  rw [does.read_eq, before.commons_eq]
  exact session_replay _ _

/-- Two tasks never have the lock at once. -/
lemma Reaches.eq_of_holdsLock (h : Reaches (client.crowd session counters errands) crowd)
    {i j : Nat} (hi : holdsLock (own i crowd.history) = true)
    (hj : holdsLock (own j crowd.history) = true) : i = j := by
  have howner : crowd.commons.owner = some i := (h.owner_iff i).mpr hi
  rw [(h.owner_iff j).mpr hj] at howner
  exact (Option.some.inj howner).symm

/-- Every step of a task is a beat or a cut-off under the lock, or is made without the lock and
neither settles nor books. -/
lemma Reaches.step_cases (h : Reaches (client.crowd session counters errands) crowd) {i : Nat}
    {event : Event} {after : Runner (Except Fault (Option Response))}
    (does : (crowd.runners i).Does crowd.commons.session crowd.commons.owner.isNone event after) :
    (holdsLock (own i crowd.history) = true ∧
      (event = .late ∨ event = .dropped ∨
        client.Beat (renewedFor (own i crowd.history)) (own i crowd.history) event)) ∨
    (holdsLock (own i crowd.history) = false ∧ event.settled? = none ∧
      ∀ endpoint, event ≠ .counted (.relogin endpoint)) := by
  cases hlock : holdsLock (own i crowd.history) with
  | true =>
    refine .inl ⟨rfl, ?_⟩
    rcases ((h.afoot i).inside hlock).beat does with hcut | hbeat
    · cases hcut <;> simp
    · exact .inr (.inr hbeat)
  | false => exact .inr ⟨rfl, (h.afoot i).outside hlock does⟩

/-- What the owner of the lock found when it looked stays true until it settles. -/
lemma Reaches.found_eq (h : Reaches (client.crowd session counters errands) crowd) {i : Nat}
    {now : Session} (hfound : found (own i crowd.history) = some now) :
    now = crowd.commons.session := by
  induction h generalizing i with
  | here => simp [Client.crowd, start, found] at hfound
  | @step crowd j event after before does ih =>
    simp only [record] at hfound ⊢
    rw [Commons.session_after]
    by_cases hji : j = i
    · subst hji
      rw [own_cons_self] at hfound
      cases event with
      | read now' =>
        rw [← eq_of_found_read hfound]
        exact does.read_eq
      | counted | sent | answered => exact ih hfound
      | _ => simp [found] at hfound
    · rw [own_cons_of_ne hji] at hfound
      rcases before.step_cases does with ⟨holds, -⟩ | ⟨-, hsettled, -⟩
      · exact absurd (before.eq_of_holdsLock holds (holdsLock_of_found hfound)) hji
      · rw [ih hfound]
        cases event <;> first | rfl | simp [Event.settled?] at hsettled

/-- The end of a login attempt is recorded by the owner of the lock, right after the answer to the
login request.  A renewal of generation `g` records it while the session is at `g`. -/
lemma Reaches.settles_at (h : Reaches (client.crowd session counters errands) crowd) {i : Nat}
    {outcome : Except String String} {after : Runner (Except Fault (Option Response))}
    (does : (crowd.runners i).Does crowd.commons.session crowd.commons.owner.isNone
      (.settled outcome) after) :
    holdsLock (own i crowd.history) = true ∧
      (∃ answer rest, own i crowd.history = .answered answer :: .sent client.loginRequest :: rest ∧
        outcome = client.recorded answer) ∧
      ∀ g, renewedFor (own i crowd.history) = some g → crowd.commons.session.generation = g := by
  rcases h.step_cases does with ⟨holds, hlate | hdropped | hbeat⟩ | ⟨-, hsettled, -⟩
  · cases hlate
  · cases hdropped
  · refine ⟨holds, ?_⟩
    generalize hown : own i crowd.history = past at hbeat
    generalize hseen : renewedFor past = seen at hbeat
    cases hbeat with
    | settles due answer =>
      refine ⟨⟨answer, _, rfl, rfl⟩, fun g hg => ?_⟩
      subst hg
      cases due with
      | unchanged hnow =>
        rw [← h.found_eq (i := i) (by rw [hown]; rfl), hnow]
  · simp [Event.settled?] at hsettled

/-- No read has found a later generation than the present one. -/
lemma Reaches.generation_of_read (h : Reaches (client.crowd session counters errands) crowd)
    {i : Nat} {seen : Session} (hread : .read seen ∈ own i crowd.history) :
    seen.generation ≤ crowd.commons.session.generation := by
  obtain ⟨later, earlier, hhistory⟩ := List.append_of_mem (mem_own.mp hread)
  obtain ⟨before, after, -, -, does, hon⟩ := h.at_event rfl hhistory
  rw [does.read_eq]
  exact Nat.le_trans (before.commons.generation_le_after i _) hon.generation_le

end Crowd
end
end StorageFleet
