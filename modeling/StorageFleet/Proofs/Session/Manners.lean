import StorageFleet.Proofs.Client.Civil

/-!
# Manners under the login lock

`Task.Minds` says what a task does about the login lock of one station.  It never asks for the lock
while it has it, and gives it back before it is done.  It settles a login attempt only while it has
the lock, and gives it back at once.  And it asks for the lock only to *decide* something with it
(`Task.Decides`): to log in, or to log in unless a login attempt has ended since it last read the
session.  A time limit may cut it off, but what it does then begins without the lock.

Every civil task has these manners, whichever client it is a task of (`Civil.minds`).
-/

namespace StorageFleet

namespace Task

/-- The task, which has waited for the login lock of a station, logs in; or else it reads the
session, and logs in unless a login attempt has ended since generation `seen`. -/
def Decides (station seen : Nat) (task : Task α) : Prop :=
  ∃ client : Client, client.appliance.id = station ∧
    ((∃ k, task = client.loggingIn k) ∨
      ∃ k, task = .session client.appliance (client.afterLook seen k))

/-- The task gives the login lock of a station back. -/
def Releases (station : Nat) (task : Task α) : Prop :=
  ∃ appliance next, appliance.id = station ∧ task = .release appliance next

/-- The manners of a task at the login lock of a station: `held` says whether it has the lock, and
`seen` is the generation that it last read of the session. -/
def Minds (station : Nat) : (held : Bool) → (seen : Nat) → Task α → Prop
  | held, _, .done _ => held = false
  | held, seen, .perform _ _ next => ∀ outcome, (next outcome).Minds station held seen
  | held, seen, .send _ _ next => ∀ answer, (next answer).Minds station held seen
  | held, seen, .session appliance next => ∀ session,
    (next session).Minds station held (if appliance.id = station then session.generation else seen)
  | held, seen, .acquire appliance next =>
    if appliance.id = station then
      held = false ∧ next.Decides station seen ∧ next.Minds station true seen
    else next.Minds station held seen
  | held, seen, .release appliance next =>
    if appliance.id = station then held = true ∧ next.Minds station false seen
    else next.Minds station held seen
  | held, seen, .settle appliance _ next =>
    (appliance.id = station → held = true ∧ next.Releases station) ∧ next.Minds station held seen
  | held, seen, .limit _ late next =>
    (∀ seen, late.Minds station false seen) ∧ next.Minds station held seen
  | held, seen, .sleep _ next | held, seen, .unlimit next | held, seen, .count _ next
  | held, seen, .warn _ next => next.Minds station held seen

end Task

/-! ## Talks and logins -/

namespace Client

variable {client : Client} {request : Request} {station : Nat}

lemma minds_loggingIn {k : Except Fault Unit → Task α} {seen : Nat}
    (hk : ∀ outcome, (k outcome).Minds station false seen) :
    (client.loggingIn k).Minds station (decide (client.appliance.id = station)) seen := by
  intro answer
  by_cases hid : client.appliance.id = station
  · have hreleases : (client.settling k answer).Minds station true seen :=
      ⟨fun _ => ⟨rfl, _, _, hid, rfl⟩, by simpa [Task.Minds, hid] using hk _⟩
    simpa [hid] using hreleases
  · have hpasses : (client.settling k answer).Minds station false seen :=
      ⟨fun h => absurd h hid, by simpa [Task.Minds, hid] using hk _⟩
    simpa [hid] using hpasses

lemma minds_logIn {k : Except Fault Unit → Task α} {seen : Nat}
    (hk : ∀ outcome, (k outcome).Minds station false seen) :
    (client.logIn.run.bind k).Minds station false seen := by
  rw [logIn_bind]
  have hlogin : (client.loggingIn k).Minds station _ seen := minds_loggingIn hk
  unfold Task.Minds
  by_cases hid : client.appliance.id = station
  · rw [if_pos hid]
    refine ⟨rfl, ⟨client, hid, .inl ⟨k, rfl⟩⟩, ?_⟩
    simpa [hid] using hlogin
  · rw [if_neg hid]
    simpa [hid] using hlogin

/-- A renewal decides by the generation that was read last. -/
lemma minds_renewing {k : Except Fault Unit → Task α} {generation seen : Nat}
    (hseen : client.appliance.id = station → generation = seen)
    (hk : ∀ outcome seen, (k outcome).Minds station false seen) :
    (client.renewing generation k).Minds station false seen := by
  have hlook : ∀ session now, (client.afterLook generation k session).Minds station
      (decide (client.appliance.id = station)) now := by
    intro session now
    unfold afterLook
    split
    · exact minds_loggingIn fun outcome => hk outcome now
    · by_cases hid : client.appliance.id = station <;> simp [Task.Minds, hid, hk]
  unfold renewing Task.Minds
  by_cases hid : client.appliance.id = station
  · rw [if_pos hid]
    refine ⟨rfl, ⟨client, hid, .inr ⟨k, by rw [hseen hid]⟩⟩, fun session => ?_⟩
    simpa [hid] using hlook session session.generation
  · rw [if_neg hid]
    intro session
    simpa [hid] using hlook session seen

lemma minds_talk {k : Except Fault Response → Task α} (seen : Nat)
    (hk : ∀ outcome seen, (k outcome).Minds station false seen) :
    ((client.sendAuthenticated request).run.bind k).Minds station false seen := by
  rw [sendAuthenticated_bind]
  intro session answer
  cases answer with
  | error fault => exact hk _ _
  | ok response =>
    simp only [afterFirst]
    by_cases hwants : response.wantsSession = true
    · rw [if_pos hwants]
      refine minds_renewing (fun hid => (if_pos hid).symm) fun outcome seen => ?_
      cases outcome with
      | error fault => exact hk _ _
      | ok _ => exact fun again answer => hk _ _
    · rw [if_neg hwants]
      exact hk _ _

end Client

/-- A civil task has manners. -/
theorem Task.Civil.minds {clients : Client → Prop} {memory : ApplianceRef → Prop} {task : Task α}
    (h : task.Civil clients memory) (station seen : Nat) : task.Minds station false seen := by
  induction h generalizing seen with
  | done => rfl
  | perform _ _ ih => exact fun outcome => ih outcome seen
  | talk _ _ ih => exact Client.minds_talk seen ih
  | logIn _ _ ih => exact Client.minds_logIn fun outcome => ih outcome seen
  | limit _ _ ihLate ih => exact ⟨ihLate, ih seen⟩
  | sleep _ ih | unlimit _ ih | count _ ih | warn _ ih => exact ih seen

end StorageFleet
