import StorageFleet.Proofs.Client.Destruction
import StorageFleet.Proofs.Plan.Network
import StorageFleet.Proofs.Task.Crowd
import StorageFleet.Volume.Provision

/-!
# What a reported deletion says

The deletion of a volume counts as done when the filesystem is gone, and also when the appliance
reports that something is missing.  Destroying a filesystem takes up to three requests, and the
missing thing need not be the filesystem: it may be the clone that was to be promoted first.

`volume_deletion` says for every run what a reported deletion stands for.  Either the filesystem was
deleted or is missing (`Client.Removed`), or the deletion was given up because the clone is gone
(`Client.GivenUp`), and then no `DELETE` was ever sent.  `volume_deletion_unsent` is a run of the
second kind.
-/

namespace StorageFleet
open StorageFleet.Task (Event Runner)

/-- An outcome that counts as done where something is to be removed. -/
def CountsAsRemoved (outcome : Except Fault α) : Prop :=
  ∀ fault, outcome = .error fault → fault.isNotFound = true

namespace Client

variable {client : Client} {path : String} {snapshots : Bool} {said : List Event}
  {outcome : Except Fault Unit}

variable (client path snapshots said) in
/-- The filesystem is gone: the request to delete it went out and it was deleted, or the appliance
reports that it is missing, to that request or when its snapshots were to be listed. -/
def Removed : Prop :=
  (∃ deleted before ended, said = deleted ++ before ∧
    client.Submitted (deletion path snapshots) deleted ended ∧ CountsAsRemoved ended ∧
    ∃ session, .sent ((deletion path snapshots).signed session) ∈ deleted) ∨
  ∃ fault, client.Submitted (snapshotListing path) said (.error fault) ∧ fault.isNotFound = true

variable (client path said) in
/-- A clone that depends on the filesystem was to be promoted and is missing, and nothing was
deleted. -/
def GivenUp : Prop :=
  (∃ promoted listed response found clone fault, said = promoted ++ listed ∧
    client.Submitted (snapshotListing path) listed (.ok response) ∧
    client.snapshotsIn response = .ok found ∧ dependent? found = some clone ∧
    client.Submitted (promotion clone) promoted (.error fault) ∧ fault.isNotFound = true) ∧
  ∀ sent, .sent sent ∈ said → sent.method ≠ "DELETE"

/-- A response that cannot be read is not taken for one that says that something is missing. -/
lemma isNotFound_of_snapshotsIn {response : Response} {fault : Fault}
    (h : client.snapshotsIn response = .error fault) : fault.isNotFound = false := by
  unfold snapshotsIn Response.decode at h
  split at h
  · split at h
    · cases h
    · cases h
      rfl
  · cases h
    rfl
  · cases h
    rfl

lemma Destruction.removed_or_givenUp (h : client.Destruction path snapshots said outcome)
    (counts : CountsAsRemoved outcome) :
    client.Removed path snapshots said ∨ client.GivenUp path said := by
  cases h with
  | unlisted listing => exact .inl (.inr ⟨_, listing, counts _ rfl⟩)
  | unread listing read =>
    have hfound := counts _ rfl
    rw [isNotFound_of_snapshotsIn read] at hfound
    cases hfound
  | @unpromoted listed promoted response found fault listing read promoting =>
    have hunsent : ∀ sent, .sent sent ∈ promoted ++ listed → sent.method ≠ "DELETE" := by
      intro sent hsent
      rcases List.mem_append.1 hsent with hsent | hsent
      · exact promoting.method_ne hsent
      · exact (listing.sentFor hsent).method_ne (by simp [snapshotListing])
    cases hclone : dependent? found with
    | none =>
      rw [hclone] at promoting
      cases promoting.2
    | some clone =>
      rw [hclone] at promoting
      obtain ⟨ended, submitted, hended⟩ := promoting
      cases ended with
      | ok response => cases hended
      | error fault' =>
        cases hended
        exact .inr ⟨⟨promoted, listed, response, found, clone, fault, rfl, listing, read, hclone,
          submitted, counts _ rfl⟩, hunsent⟩
  | @deleted listed promoted deleted response found ended listing read promoting deletion =>
    have hended : CountsAsRemoved ended := by
      intro fault hfault
      exact counts fault (by rw [hfault]; rfl)
    exact .inl (.inl ⟨deleted, promoted ++ listed, ended, rfl, deletion, hended, deletion.sent⟩)

end Client

namespace Fleet

/-- Whether a deletion is reported as done depends on the outcome of the destruction alone. -/
lemma volumeDestroyed_endsIn (d : Deployment) (id : String) (outcome : Except Fault Unit) :
    ∃ result : Except Fault Unit, (d.task (volumeDestroyed id outcome).run).EndsIn result ∧
      (result = .ok () ↔ CountsAsRemoved outcome) := by
  cases outcome with
  | ok _ => exact ⟨.ok (), rfl, by simp [CountsAsRemoved]⟩
  | error fault =>
    cases hfound : fault.isNotFound with
    | true =>
      refine ⟨.ok (), ?_, by simp [CountsAsRemoved, hfound]⟩
      rw [volumeDestroyed, if_pos hfound]
      rfl
    | false =>
      have hnot : ¬ CountsAsRemoved (Except.error fault : Except Fault Unit) := by
        simp [CountsAsRemoved, hfound]
      rw [volumeDestroyed, if_neg (by simp [hfound])]
      split
      · exact ⟨_, rfl, by simp [hnot]⟩
      · exact ⟨_, rfl, by simp [hnot]⟩

lemma volumeDestroyed_sends (d : Deployment) (id : String) (outcome : Except Fault Unit) :
    (d.task (volumeDestroyed id outcome).run).Sends fun _ => False := by
  unfold volumeDestroyed
  split
  · trivial
  · split_ifs <;> trivial

end Fleet

/-! ## A run -/

namespace LostClone

def client : Client where
  appliance := ⟨0, "https://appliance"⟩
  username := "admin"
  password := "secret"

def backend : Backend where
  name := "b"
  config := { restIp := client.endpoint, username := client.username, password := client.password }
  appliances := [client.appliance]
  nonempty := by simp

def deployment : Deployment where
  stations := [.connected { client, link := .unreachable }]
  fleet := { backends := [backend] }

def object (fields : List (String × Json)) : Except Fault Response :=
  .ok ⟨200, .json (.object [("data", .array [.object fields])])⟩

def found : Except Fault Response :=
  object [("path", .string "pool/v")]

/-- A snapshot of `pool/v` that `pool/clone` was made from. -/
def snapshots : Except Fault Response :=
  object [("path", .string "pool/v@s"), ("name", .string "s"), ("parent", .string "pool/v"),
    ("clones", .ofStrings ["pool/clone"]), ("creationTime", .string "2024-01-01T00:00:00Z")]

/-- The clone is gone by the time that it is to be promoted. -/
def missing : Except Fault Response :=
  .ok ⟨404, .json (.object [("code", .string "ENOENT"), ("message", .string "no such clone")])⟩

/-- The filesystem is found, its snapshots are listed, and the clone cannot be promoted. -/
def schedule : List (Nat × Task.Move) :=
  [.go, .go, .answer found, .go, .go, .answer snapshots, .go, .go, .answer missing, .go].map
    fun move => (0, move)

/-- The deletion of `b:pool/v`. -/
def task : Task (Except Fault Unit) :=
  deployment.task (deployment.fleet.deleteVolume "b:pool/v").run

/-- The crowd at the end. -/
def crowd : Crowd (Except Fault Unit) :=
  (Crowd.start {} {} fun _ => task).run schedule

end LostClone

/-! ## The result -/

/-- What a run of a deletion comes to.  Where the path of the volume is found on an appliance, the
deletion is reported as done just if the destruction there ended well or for want of something, and
then the filesystem is gone or the deletion was given up. -/
theorem volume_deletion (d : Deployment) (fleet : Fleet) (id : String) {identifier : Identifier}
    (named : Fleet.volumeId id = .ok identifier) {past : List Event}
    {runner : Runner (Except Fault Unit)} {result : Except Fault Unit}
    (path : Runner.Path (.start (d.task (fleet.deleteVolume id).run)) past runner)
    (ended : runner.result? = some result) :
    ∃ later earlier found, past = later ++ earlier ∧
      (d.task (fleet.resolveExisting identifier).run).Yields earlier found ∧
      ∀ resolution, found = .ok (some resolution) →
        ∃ connected, d.connected? resolution.appliance.id = some connected ∧
        ∃ warned said outcome, later = warned ++ said ∧ (∀ sent, .sent sent ∉ warned) ∧
          connected.client.Destruction resolution.path true said outcome ∧
          (result = .ok () ↔ CountsAsRemoved outcome) ∧
          (result = .ok () → connected.client.Removed resolution.path true said ∨
            connected.client.GivenUp resolution.path said) := by
  have hyields : (d.task (fleet.deleteVolume id).run).Yields past result :=
    Task.yields_of_path (d.tidy_task _) path ended
  unfold Fleet.deleteVolume at hyields
  rw [named] at hyields
  rcases Deployment.yields_attempt_bind hyields with
    ⟨fault, rfl, hfailed⟩ | ⟨later, earlier, found, rfl, hfound, hlater⟩
  · exact ⟨[], past, .error fault, rfl, hfailed, fun _ h => nomatch h⟩
  · refine ⟨later, earlier, .ok found, rfl, hfound, fun resolution hresolution => ?_⟩
    obtain rfl : found = some resolution := Except.ok.inj hresolution
    obtain ⟨warned, said, outcome, rfl, hasked, hwarned⟩ := Deployment.yields_outcome_bind hlater
    obtain ⟨connected, hconnected, hanswer⟩ := Deployment.yields_ask hasked
    have hdestruction : connected.client.Destruction resolution.path true said outcome :=
      Client.destruction_of_yields hanswer
    obtain ⟨reported, hends, hreported⟩ := Fleet.volumeDestroyed_endsIn d id outcome
    obtain rfl : result = reported := hwarned.eq_of_endsIn hends
    refine ⟨connected, hconnected, warned, said, outcome, rfl, ?_, hdestruction, hreported, ?_⟩
    · exact fun sent hsent => hwarned.sends (Fleet.volumeDestroyed_sends d id outcome) sent hsent
    · exact fun hok => hdestruction.removed_or_givenUp (hreported.1 hok)

/-- The run of `LostClone`. -/
theorem volume_deletion_lostClone :
    ∃ later earlier found, own 0 LostClone.crowd.history = later ++ earlier ∧
      (LostClone.deployment.task (LostClone.deployment.fleet.resolveExisting
        (.ofVolume "b" "pool/v")).run).Yields earlier found ∧
      ∀ resolution, found = .ok (some resolution) →
        ∃ connected, LostClone.deployment.connected? resolution.appliance.id = some connected ∧
        ∃ warned said, later = warned ++ said ∧
          (connected.client.Removed resolution.path true said ∨
            connected.client.GivenUp resolution.path said) := by
  have path : Runner.Path (.start LostClone.task) (own 0 LostClone.crowd.history)
      (LostClone.crowd.runners 0) :=
    Crowd.Reaches.path (Crowd.reaches_run (Crowd.start {} {} fun _ => LostClone.task) _) 0
  obtain ⟨later, earlier, found, hpast, hfound, hdeleted⟩ :=
    volume_deletion LostClone.deployment LostClone.deployment.fleet "b:pool/v" rfl path rfl
  refine ⟨later, earlier, found, hpast, hfound, fun resolution hresolution => ?_⟩
  obtain ⟨connected, hconnected, warned, said, outcome, hlater, -, -, -, hgone⟩ :=
    hdeleted resolution hresolution
  exact ⟨connected, hconnected, warned, said, hlater, hgone rfl⟩

/-- A deletion that is reported as done although it has only found the filesystem, listed its
snapshots and tried to promote a clone that is missing. -/
theorem volume_deletion_unsent :
    (LostClone.crowd.runners 0).result? = some (.ok ()) ∧
    ((own 0 LostClone.crowd.history).filterMap Event.sent?).map
      (fun sent => (sent.method, sent.path)) =
      [("POST", "storage/filesystems/pool%2Fclone/promote"),
        ("GET", (Client.snapshotListing "pool/v").path),
        ("GET", queryUri "storage/filesystems"
          [("path", "pool/v"), ("fields", Client.filesystemFields)])] ∧
    (own 0 LostClone.crowd.history).filterMap Event.answered? =
      [LostClone.missing, LostClone.snapshots, LostClone.found] :=
  ⟨rfl, rfl, rfl⟩

end StorageFleet
