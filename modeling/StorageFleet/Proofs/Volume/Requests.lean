import StorageFleet.Operation
import StorageFleet.Proofs.Plan.Transcript

/-!
# What operations ask

An operation on one volume, snapshot or dataset goes the same way whatever it does in the end: it
selects who serves a path, and from then on asks nobody but the appliance that was found.
`Fleet.Steered` says so of a plan, and `Operation.aim?` by what an operation selects; an operation
that is refused for its arguments alone selects nothing and asks nobody.  `Operation.directed` puts
the two together.

Listings of everything and health checks have no aim; each of their branches stays on its backend.
`Operation.asks` is what all operations have in common: whatever they ask, they ask an appliance of
the fleet, and those that only look make no call that could change one.  The others give a name to
each snapshot that they take (`Operation.asks_titled`).
-/

namespace StorageFleet

/-- A call that never changes an appliance. -/
def Call.Harmless (call : Call) : Prop :=
  ∀ a : Simulated, (a.step call).2 = a

namespace Call

lemma harmless_of_answer {call : Call} (h : ∀ a : Simulated, (a.answer call).2 = a) :
    call.Harmless := by
  intro a
  unfold Simulated.step
  split
  · rfl
  · exact h a

lemma harmless_getFilesystem (path : String) : (getFilesystem path).Harmless :=
  harmless_of_answer fun _ => rfl

lemma harmless_getFilesystems (parent : String) : (getFilesystems parent).Harmless :=
  harmless_of_answer fun _ => rfl

lemma harmless_getAvailable (path : String) : (getAvailable path).Harmless :=
  harmless_of_answer fun _ => rfl

lemma harmless_getSnapshot (path : String) : (getSnapshot path).Harmless :=
  harmless_of_answer fun _ => rfl

lemma harmless_getSnapshots (parent : String) (recursive : Bool) :
    (getSnapshots parent recursive).Harmless :=
  harmless_of_answer fun _ => rfl

lemma harmless_getLicense : getLicense.Harmless :=
  harmless_of_answer fun _ => rfl

/-- If the call takes a snapshot, it gives it a name. -/
def Titled (call : Call) : Prop :=
  ∀ path, call = .createSnapshot path →
    ∃ parent name : String, name ≠ "" ∧ path = parent ++ "@" ++ name

lemma titled_createSnapshot (parent : String) {name : String} (h : name ≠ "") :
    (createSnapshot (parent ++ "@" ++ name)).Titled := by
  rintro _ ⟨⟩
  exact ⟨parent, name, h, rfl⟩

end Call

/-! ## Searches -/

namespace Backend

/-- A search asks the appliances for the path, and what it finds is one of them. -/
lemma ensures_locateAmong (path : String) (last : Fault) (appliances : List ApplianceRef) :
    (locateAmong path last appliances).run.Ensures
      (fun appliance call => appliance ∈ appliances ∧ call = .getFilesystem path)
      (Attempt.Found (· ∈ appliances)) := by
  induction appliances generalizing last with
  | nil => trivial
  | cons appliance rest ih =>
    refine ⟨⟨List.mem_cons_self, rfl⟩, fun outcome => ?_⟩
    cases outcome with
    | ok fs => exact List.mem_cons_self
    | error fault =>
      refine (ih fault).mono (fun _ _ h => ⟨List.mem_cons_of_mem _ h.1, h.2⟩) fun found hfound => ?_
      cases found with
      | ok other => exact List.mem_cons_of_mem _ hfound
      | error fault => trivial

lemma ensures_locate (backend : Backend) (path : String) :
    (backend.locate path).run.Ensures
      (fun appliance call => appliance ∈ backend.appliances ∧ call = .getFilesystem path)
      (Attempt.Found (· ∈ backend.appliances)) := by
  unfold locate
  split
  · trivial
  · refine Attempt.ensures_outcome_bind (ensures_locateAmong path _ _) fun outcome hfound => ?_
    cases outcome with
    | ok appliance => exact hfound
    | error fault => trivial

/-- A question to the license of a backend goes to its appliances. -/
lemma asks_licenseAmong (last : Fault) (appliances : List ApplianceRef) :
    (licenseAmong last appliances).run.Asks
      fun appliance call => appliance ∈ appliances ∧ call = .getLicense := by
  induction appliances generalizing last with
  | nil => trivial
  | cons appliance rest ih =>
    refine Attempt.asks_outcome_bind (Attempt.asks_ask ⟨List.mem_cons_self, rfl⟩) fun outcome => ?_
    cases outcome with
    | ok license => trivial
    | error fault =>
      exact (ih fault).mono (fun _ _ h => ⟨List.mem_cons_of_mem _ h.1, h.2⟩) fun _ _ => trivial

end Backend

namespace Fleet

/-- The appliances of a fleet. -/
def Owns (fleet : Fleet) (appliance : ApplianceRef) : Prop :=
  ∃ backend ∈ fleet.backends, appliance ∈ backend.appliances

/-- What a search asks of an appliance of the fleet. -/
def Probes (fleet : Fleet) (appliance : ApplianceRef) (call : Call) : Prop :=
  fleet.Owns appliance ∧ ∃ path, call = .getFilesystem path

variable {fleet : Fleet} {name zone path : Option String}

lemma ensures_selectOn {backend : Backend} (hmem : backend ∈ fleet.backends) :
    (selectOn backend path).run.Ensures fleet.Probes
      (Attempt.Found fun resolution => fleet.Owns resolution.appliance) := by
  unfold selectOn
  cases backend.datasetOrDefault path with
  | error fault => trivial
  | ok dataset =>
    have hlocate : (backend.locate dataset).run.Ensures fleet.Probes
        (Attempt.Found (· ∈ backend.appliances)) :=
      (backend.ensures_locate dataset).mono
        (fun _ _ h => ⟨⟨backend, hmem, h.1⟩, dataset, h.2⟩) fun _ h => h
    change (backend.locate dataset >>= fun appliance =>
      pure ⟨backend, appliance, dataset⟩ : Attempt Resolution).run.Ensures _ _
    exact Attempt.ensures_bind hlocate fun appliance hfound => ⟨backend, hmem, hfound⟩

lemma ensures_selectAmong {backends : List Backend} (hsub : backends ⊆ fleet.backends)
    (last : Option Fault) (skipped : List String) :
    (selectAmong zone path last skipped backends).run.Ensures fleet.Probes
      (Attempt.Found fun resolution => fleet.Owns resolution.appliance) := by
  induction backends generalizing last skipped with
  | nil => trivial
  | cons backend rest ih =>
    obtain ⟨hmem, hrest⟩ := List.cons_subset.1 hsub
    unfold selectAmong
    split
    · exact ih hrest last skipped
    · split
      · exact ih hrest last _
      · next dataset _ =>
        refine Attempt.ensures_outcome_bind ((backend.ensures_locate dataset).mono
          (fun _ _ h => ⟨⟨backend, hmem, h.1⟩, dataset, h.2⟩) fun _ h => h) fun outcome hfound => ?_
        cases outcome with
        | ok appliance => exact ⟨backend, hmem, hfound⟩
        | error fault => exact ih hrest (some fault) skipped

/-- Selecting asks appliances of the fleet for paths, and finds one of them. -/
lemma ensures_select (fleet : Fleet) (name zone path : Option String) :
    (fleet.select name zone path).run.Ensures fleet.Probes
      (Attempt.Found fun resolution => fleet.Owns resolution.appliance) := by
  unfold select
  split
  · unfold selectNamed
    split
    · trivial
    · next backend hfind =>
      split
      · trivial
      · exact ensures_selectOn (List.mem_of_find?_eq_some hfind)
  · exact ensures_selectAmong (List.Subset.refl _) none []

/-! ## Plans that follow a search -/

/-- What an operation selects by. -/
structure Aim where
  name : Option String
  zone : Option String
  path : Option String

/-- The aim of an operation on what an identifier names. -/
def Aim.at (identifier : Identifier) (zone : Option String) : Aim :=
  ⟨identifier.backend, zone, some identifier.path⟩

/-- The plan selects who serves its aim, and from then on asks nobody else; it makes calls of these
kinds. -/
def Steered (fleet : Fleet) (kinds : Call → Prop) (aim : Aim) (plan : Plan α) : Prop :=
  ∀ said result, plan.Transcript said result → ∃ probes rest found, said = probes ++ rest ∧
    (fleet.select aim.name aim.zone aim.path).run.Transcript probes found ∧
    ∀ asked ∈ rest, kinds asked.call ∧
      ∃ resolution, found = .ok resolution ∧ asked.appliance = resolution.appliance

/-- A plan without an aim asks nobody. -/
def Directed (fleet : Fleet) (kinds : Call → Prop) (plan : Plan α) : Option Aim → Prop
  | none => plan.Asks fun _ _ => False
  | some aim => fleet.Steered kinds aim plan

variable {kinds : Call → Prop} {aim : Aim}

lemma directed_some {plan : Plan α} :
    fleet.Directed kinds plan (some aim) ↔ fleet.Steered kinds aim plan := .rfl

lemma steered_outcome_bind {next : Except Fault Resolution → Attempt α}
    (herror : ∀ fault, (next (.error fault)).run.Asks fun _ _ => False)
    (hok : ∀ resolution, (next (.ok resolution)).run.Asks fun appliance call =>
      appliance = resolution.appliance ∧ kinds call) :
    fleet.Steered kinds aim
      ((fleet.select aim.name aim.zone aim.path).outcome >>= next).run := by
  intro said result hsaid
  obtain ⟨probes, rest, found, rfl, hprobes, hrest⟩ := Attempt.transcript_outcome_bind.1 hsaid
  refine ⟨probes, rest, found, rfl, hprobes, fun asked hmem => ?_⟩
  cases found with
  | error fault => exact (((herror fault).transcript hrest).1 asked hmem).elim
  | ok resolution =>
    obtain ⟨happliance, hkind⟩ := ((hok resolution).transcript hrest).1 asked hmem
    exact ⟨hkind, resolution, rfl, happliance⟩

lemma steered_bind {next : Resolution → Attempt α}
    (h : ∀ resolution, (next resolution).run.Asks fun appliance call =>
      appliance = resolution.appliance ∧ kinds call) :
    fleet.Steered kinds aim (fleet.select aim.name aim.zone aim.path >>= next).run := by
  intro said result hsaid
  rcases Attempt.transcript_bind.1 hsaid with
    ⟨fault, rfl, hprobes⟩ | ⟨probes, rest, resolution, rfl, hprobes, hrest⟩
  · exact ⟨said, [], _, by simp, hprobes, by simp⟩
  · refine ⟨probes, rest, _, rfl, hprobes, fun asked hmem => ?_⟩
    obtain ⟨happliance, hkind⟩ := ((h resolution).transcript hrest).1 asked hmem
    exact ⟨hkind, resolution, rfl, happliance⟩

lemma steered_resolveExisting {identifier : Identifier} {next : Option Resolution → Attempt α}
    (hnone : (next none).run.Asks fun _ _ => False)
    (hsome : ∀ resolution, (next (some resolution)).run.Asks fun appliance call =>
      appliance = resolution.appliance ∧ kinds call) :
    fleet.Steered kinds (.at identifier none) (fleet.resolveExisting identifier >>= next).run := by
  unfold resolveExisting
  rw [bind_assoc]
  refine steered_outcome_bind (fun fault => ?_) fun resolution => ?_
  · dsimp only
    split
    · exact hnone
    · trivial
  · exact hsome resolution

/-- A steered plan asks appliances of the fleet, for the path of its aim or in its own way. -/
lemma Steered.asks {plan : Plan α} (h : fleet.Steered kinds aim plan)
    (hprobe : ∀ path, kinds (.getFilesystem path)) :
    plan.Asks fun appliance call => fleet.Owns appliance ∧ kinds call := by
  refine Plan.asks_iff.2 fun said result hsaid asked hmem => ?_
  obtain ⟨probes, rest, found, rfl, hprobes, hrest⟩ := h said result hsaid
  obtain ⟨hcalls, hfound⟩ := (fleet.ensures_select aim.name aim.zone aim.path).transcript hprobes
  rcases List.mem_append.1 hmem with hmem | hmem
  · obtain ⟨howns, path, hcall⟩ := hcalls asked hmem
    exact ⟨howns, hcall ▸ hprobe path⟩
  · obtain ⟨hkind, resolution, rfl, happliance⟩ := hrest asked hmem
    exact ⟨happliance ▸ hfound, hkind⟩

lemma Directed.mono {plan : Plan α} {aim? : Option Aim} {others : Call → Prop}
    (h : fleet.Directed kinds plan aim?) (hkinds : ∀ call, kinds call → others call) :
    fleet.Directed others plan aim? := by
  cases aim? with
  | none => exact h
  | some aim =>
    intro said result hsaid
    obtain ⟨probes, rest, found, hsplit, hprobes, hrest⟩ := h said result hsaid
    exact ⟨probes, rest, found, hsplit, hprobes, fun asked hmem =>
      ⟨hkinds _ (hrest asked hmem).1, (hrest asked hmem).2⟩⟩

lemma Directed.asks {plan : Plan α} {aim? : Option Aim} (h : fleet.Directed kinds plan aim?)
    (hprobe : ∀ path, kinds (.getFilesystem path)) :
    plan.Asks fun appliance call => fleet.Owns appliance ∧ kinds call := by
  cases aim? with
  | none => exact Plan.Ensures.mono h (fun _ _ h => h.elim) fun _ h => h
  | some aim => exact Steered.asks h hprobe

/-! ## One operation after the other -/

/-- The aim that a text names, if it can be read. -/
def aimOf (decode : String → Except Identifier.Defect Identifier) (id : String)
    (zone : Option String) : Option Aim :=
  (decode id).toOption.map fun identifier => .at identifier zone

/-- An operation that reads an identifier is directed by it. -/
lemma directed_readId {decode : String → Except Identifier.Defect Identifier} {id : String}
    {zone : Option String} {next : Identifier → Attempt α}
    (h : ∀ identifier, fleet.Steered kinds (.at identifier zone) (next identifier).run) :
    fleet.Directed kinds (Attempt.ofExcept (readId decode id) >>= next).run
      (aimOf decode id zone) := by
  unfold readId aimOf
  cases decode id with
  | error defect => trivial
  | ok identifier => exact h identifier

/-- What a call leads to does not matter to whom it is made. -/
lemma asks_ofExcept_bind {calls : ApplianceRef → Call → Prop} {result : Except Fault β}
    {next : β → Attempt α} (h : ∀ value, (next value).run.Asks calls) :
    (Attempt.ofExcept result >>= next).run.Asks calls :=
  Attempt.asks_bind (Attempt.asks_ofExcept result) h

/-- Whether the volume exists is looked up where it was made. -/
lemma asks_placedSize (placement : Placement) (request : CreateVolumeRequest) :
    (placedSize placement request).run.Asks fun appliance call =>
      appliance = placement.resolution.appliance ∧ call.Titled := by
  unfold placedSize
  split
  · trivial
  · split
    · unfold reuse
      refine Attempt.asks_bind (Attempt.asks_ask ⟨rfl, nofun⟩) fun existing => ?_
      split <;> trivial
    · trivial

end Fleet

/-- What the creation of a volume selects by. -/
def CreateVolumeRequest.aim? (request : CreateVolumeRequest) : Option Fleet.Aim :=
  if request.name.isEmpty then none
  else match request.source with
    | none => some ⟨request.parameters.configName, request.zone, request.parameters.dataset⟩
    | some (.snapshot id) => Fleet.aimOf Identifier.decodeSnapshot id request.zone
    | some (.volume id) => Fleet.aimOf Identifier.decodeVolume id request.zone

namespace Fleet

variable (fleet : Fleet)

/-- What follows a placement stays where the placement was. -/
lemma directed_place {request : CreateVolumeRequest} {next : Placement → Attempt α}
    (hname : request.name.isEmpty = false)
    (hnext : ∀ placement, (next placement).run.Asks fun appliance call =>
      appliance = placement.resolution.appliance ∧ call.Titled) :
    fleet.Directed Call.Titled (fleet.place request >>= next).run request.aim? := by
  have hclone : ∀ resolution snapshot path,
      (placeClone resolution snapshot path request >>= next).run.Asks fun appliance call =>
        appliance = resolution.appliance ∧ call.Titled := by
    intro resolution snapshot path
    rw [placeClone, bind_assoc]
    refine Attempt.asks_outcome_bind (Attempt.asks_ask ⟨rfl, nofun⟩) fun outcome => ?_
    exact hnext ⟨resolution, path, outcome⟩
  unfold place CreateVolumeRequest.aim?
  rw [hname]
  cases request.source with
  | none =>
    simp only [placeEmpty, bind_assoc, Bool.false_eq_true, if_false]
    refine directed_some.2 (steered_bind fun resolution => ?_)
    refine Attempt.asks_outcome_bind (Attempt.asks_ask ⟨rfl, nofun⟩) fun outcome => ?_
    exact hnext ⟨resolution, _, outcome⟩
  | some source =>
    cases source with
    | snapshot id =>
      simp only [placeFromSnapshot, bind_assoc, Bool.false_eq_true, if_false]
      refine directed_readId fun identifier => steered_bind fun resolution => ?_
      exact asks_ofExcept_bind fun path => hclone resolution _ path
    | volume id =>
      simp only [placeFromVolume, bind_assoc, Bool.false_eq_true, if_false]
      refine directed_readId fun identifier => steered_bind fun resolution => ?_
      refine asks_ofExcept_bind fun path => ?_
      have htitled : (Call.createSnapshot (resolution.path ++ "@" ++ cloneSnapshotStart ++
          request.name)).Titled := by
        rw [String.append_assoc]
        exact Call.titled_createSnapshot _ (by simp [cloneSnapshotStart])
      refine Attempt.asks_outcome_bind (Attempt.asks_ask ⟨rfl, htitled⟩) fun taken => ?_
      exact asks_ofExcept_bind fun _ => hclone resolution _ path

theorem directed_createVolume (request : CreateVolumeRequest) :
    fleet.Directed Call.Titled (fleet.createVolume request).run request.aim? := by
  unfold createVolume
  cases hname : request.name.isEmpty with
  | true =>
    rw [CreateVolumeRequest.aim?, hname]
    trivial
  | false =>
    refine directed_place fleet hname fun placement => ?_
    exact Attempt.asks_bind (asks_placedSize placement request) fun size => trivial

theorem directed_deleteVolume (id : String) :
    fleet.Directed Call.Titled (fleet.deleteVolume id).run
      (aimOf Identifier.decodeVolume id none) := by
  unfold deleteVolume volumeId readId aimOf
  cases Identifier.decodeVolume id with
  | error defect => trivial
  | ok identifier =>
    refine directed_some.2 (steered_resolveExisting ?_ fun resolution => ?_)
    · trivial
    refine Attempt.asks_outcome_bind (Attempt.asks_ask ⟨rfl, nofun⟩) fun outcome => ?_
    unfold volumeDestroyed
    split
    · trivial
    · split_ifs <;> trivial

theorem directed_expandVolume (id : String) (capacity : Nat) :
    fleet.Directed Call.Titled (fleet.expandVolume id capacity).run
      (if capacity = 0 then none else aimOf Identifier.decodeVolume id none) := by
  unfold expandVolume
  split_ifs
  · trivial
  · refine directed_readId fun identifier => steered_bind fun resolution => ?_
    exact Attempt.asks_bind (Attempt.asks_ask ⟨rfl, nofun⟩) fun _ => trivial

theorem directed_validateVolume (id : String) :
    fleet.Directed Call.Harmless (fleet.validateVolume id).run
      (aimOf Identifier.decodeVolume id none) := by
  refine directed_readId fun identifier => steered_bind fun resolution => ?_
  exact Attempt.asks_bind (Attempt.asks_ask ⟨rfl, Call.harmless_getFilesystem _⟩) fun _ => trivial

theorem directed_availableCapacity (name dataset zone : Option String) :
    fleet.Directed Call.Harmless (fleet.availableCapacity name dataset zone).run
      (some ⟨name, zone, dataset⟩) := by
  refine directed_some.2 (steered_bind fun resolution => ?_)
  exact Attempt.asks_ask ⟨rfl, Call.harmless_getAvailable _⟩

theorem directed_prepareShare (id : String) (mount : Option MountType) (address : Option String) :
    fleet.Directed Call.Titled (fleet.prepareShare id mount address).run
      (aimOf Identifier.decodeVolume id none) := by
  refine directed_readId fun identifier => steered_bind fun resolution => ?_
  refine asks_ofExcept_bind fun address => ?_
  refine Attempt.asks_bind (Attempt.asks_ask ⟨rfl, nofun⟩) fun fs => ?_
  refine Attempt.asks_bind ?_ fun source => ?_
  · unfold share
    split
    · split_ifs
      · refine Attempt.asks_outcome_bind (Attempt.asks_ask ⟨rfl, nofun⟩) fun outcome => ?_
        exact asks_ofExcept_bind fun _ => trivial
      · trivial
    · split_ifs
      · refine Attempt.asks_outcome_bind (Attempt.asks_ask ⟨rfl, nofun⟩) fun outcome => ?_
        refine asks_ofExcept_bind fun _ => ?_
        exact Attempt.asks_bind (Attempt.asks_ask ⟨rfl, nofun⟩) fun _ => trivial
      · exact Attempt.asks_bind (Attempt.asks_ask ⟨rfl, nofun⟩) fun _ => trivial
  · exact Attempt.asks_bind (Attempt.asks_ask ⟨rfl, nofun⟩) fun _ => trivial

theorem directed_createSnapshot (id name : String) :
    fleet.Directed Call.Titled (fleet.createSnapshot id name).run
      (if name.isEmpty then none else aimOf Identifier.decodeVolume id none) := by
  unfold createSnapshot
  split_ifs with hname
  · trivial
  · refine directed_readId fun identifier => steered_bind fun resolution => ?_
    have htitled := Call.titled_createSnapshot resolution.path (by simpa using hname : name ≠ "")
    refine Attempt.asks_outcome_bind (Attempt.asks_ask ⟨rfl, htitled⟩) fun taken => ?_
    refine asks_ofExcept_bind fun _ => ?_
    exact Attempt.asks_bind (Attempt.asks_ask ⟨rfl, nofun⟩) fun _ => trivial

theorem directed_deleteSnapshot (id : String) :
    fleet.Directed Call.Titled (fleet.deleteSnapshot id).run
      (aimOf Identifier.decodeSnapshot id none) := by
  unfold deleteSnapshot snapshotId readId aimOf
  cases Identifier.decodeSnapshot id with
  | error defect => trivial
  | ok identifier =>
    refine directed_some.2 (steered_resolveExisting ?_ fun resolution => ?_)
    · trivial
    refine Attempt.asks_outcome_bind (Attempt.asks_ask ⟨rfl, nofun⟩) fun outcome => ?_
    unfold snapshotDestroyed
    split
    · trivial
    · split_ifs <;> trivial

theorem directed_findSnapshot (id : String) :
    fleet.Directed Call.Harmless (fleet.findSnapshot id).run
      (aimOf Identifier.decodeSnapshot id none) := by
  unfold findSnapshot aimOf
  cases Identifier.decodeSnapshot id with
  | error defect => trivial
  | ok identifier =>
    refine steered_resolveExisting ?_ fun resolution => ?_
    · trivial
    refine Attempt.asks_outcome_bind
      (Attempt.asks_ask ⟨rfl, Call.harmless_getSnapshot _⟩) fun outcome => ?_
    split
    · trivial
    · split_ifs <;> trivial

theorem directed_snapshotsOfVolume (id : String) :
    fleet.Directed Call.Harmless (fleet.snapshotsOfVolume id).run
      (aimOf Identifier.decodeVolume id none) := by
  unfold snapshotsOfVolume aimOf
  cases Identifier.decodeVolume id with
  | error defect => trivial
  | ok identifier =>
    refine steered_resolveExisting ?_ fun resolution => ?_
    · trivial
    exact Attempt.asks_bind (Attempt.asks_ask ⟨rfl, Call.harmless_getSnapshots _ _⟩)
      fun _ => trivial

/-! ## Listings and checks -/

variable {fleet}

/-- A listing of a dataset asks the backend's appliances, and only looks. -/
lemma asks_locate_bind {backend : Backend} {dataset : String} {next : ApplianceRef → Attempt α}
    (hmem : backend ∈ fleet.backends)
    (h : ∀ appliance, (next appliance).run.Asks fun other call =>
      other = appliance ∧ call.Harmless) :
    (backend.locate dataset >>= next).run.Asks fun appliance call =>
      fleet.Owns appliance ∧ call.Harmless := by
  have hlocate : (backend.locate dataset).run.Ensures
      (fun appliance call => fleet.Owns appliance ∧ call.Harmless)
      (Attempt.Found (· ∈ backend.appliances)) :=
    (backend.ensures_locate dataset).mono
      (fun _ _ h => ⟨⟨backend, hmem, h.1⟩, h.2 ▸ Call.harmless_getFilesystem dataset⟩) fun _ h => h
  rw [Attempt.run_bind]
  refine hlocate.bind fun outcome hfound => ?_
  cases outcome with
  | error fault => trivial
  | ok appliance =>
    exact (h appliance).mono (fun _ _ h => ⟨⟨backend, hmem, h.1 ▸ hfound⟩, h.2⟩) fun _ h => h

lemma asks_volumesOf {backend : Backend} (hmem : backend ∈ fleet.backends) (dataset : String) :
    (volumesOf backend dataset).run.Asks fun appliance call =>
      fleet.Owns appliance ∧ call.Harmless :=
  asks_locate_bind hmem fun _ =>
    Attempt.asks_bind (Attempt.asks_ask ⟨rfl, Call.harmless_getFilesystems _⟩) fun _ => trivial

lemma asks_snapshotsBelow {backend : Backend} (hmem : backend ∈ fleet.backends)
    (dataset : String) :
    (snapshotsBelow backend dataset).run.Asks fun appliance call =>
      fleet.Owns appliance ∧ call.Harmless :=
  asks_locate_bind hmem fun _ =>
    Attempt.asks_bind (Attempt.asks_ask ⟨rfl, Call.harmless_getSnapshots _ _⟩) fun _ => trivial

lemma asks_checkBackend {backend : Backend} (hmem : backend ∈ fleet.backends) :
    (checkBackend backend).Asks fun appliance call =>
      fleet.Owns appliance ∧ call.Harmless := by
  have hlicense : backend.license.run.Asks fun appliance call =>
      fleet.Owns appliance ∧ call.Harmless :=
    (Backend.asks_licenseAmong _ _).mono
      (fun _ _ h => ⟨⟨backend, hmem, h.1⟩, h.2 ▸ Call.harmless_getLicense⟩) fun _ h => h
  refine hlicense.bind fun outcome _ => ?_
  cases outcome with
  | error fault => trivial
  | ok answer =>
    obtain ⟨endpoint, license⟩ := answer
    dsimp only
    split_ifs <;> trivial

lemma asks_overDatasets {list : Backend → String → Attempt α}
    {calls : ApplianceRef → Call → Prop}
    (h : ∀ backend ∈ fleet.backends, ∀ dataset, (list backend dataset).run.Asks calls) :
    ∀ plan ∈ (fleet.overDatasets list).map ExceptT.run, plan.Asks calls := by
  intro plan hmem
  obtain ⟨attempt, hattempt, rfl⟩ := List.mem_map.1 hmem
  obtain ⟨backend, hbackend, hsome⟩ := List.mem_filterMap.1 hattempt
  obtain ⟨dataset, -, rfl⟩ := Option.map_eq_some_iff.1 hsome
  exact h backend hbackend dataset

end Fleet

/-! ## All operations -/

namespace Operation

/-- What an operation on one volume, snapshot or dataset selects by. -/
def aim? : Operation → Option Fleet.Aim
  | .createVolume request => request.aim?
  | .deleteVolume id | .validateVolume id | .prepareShare id _ _ =>
    Fleet.aimOf Identifier.decodeVolume id none
  | .expandVolume id capacity =>
    if capacity = 0 then none else Fleet.aimOf Identifier.decodeVolume id none
  | .getCapacity backend dataset zone => some ⟨backend, zone, dataset⟩
  | .createSnapshot id name =>
    if name.isEmpty then none else Fleet.aimOf Identifier.decodeVolume id none
  | .deleteSnapshot id => Fleet.aimOf Identifier.decodeSnapshot id none
  | .listSnapshots snapshotId volumeId _ _ =>
    match Fleet.given snapshotId, Fleet.given volumeId with
    | some id, _ => Fleet.aimOf Identifier.decodeSnapshot id none
    | none, some id => Fleet.aimOf Identifier.decodeVolume id none
    | none, none => none
  | .listVolumes .. | .checkBackends => none

/-- Whether an operation goes over all backends. -/
def isWide : Operation → Bool
  | .listVolumes .. | .checkBackends => true
  | .listSnapshots snapshotId volumeId _ _ =>
    (Fleet.given snapshotId).isNone && (Fleet.given volumeId).isNone
  | _ => false

/-- Whether an operation only looks. -/
def isLook : Operation → Bool
  | .listVolumes .. | .listSnapshots .. | .validateVolume _ | .getCapacity .. | .checkBackends =>
    true
  | _ => false

/-- The calls that an operation may make. -/
def Calls (operation : Operation) (call : Call) : Prop :=
  operation.isLook = true → call.Harmless

variable {operation : Operation} {fleet : Fleet} {branch : Plan operation.Part}

/-- An operation on one volume, snapshot or dataset goes where it aims. -/
theorem directed (hwide : operation.isWide = false) (hmem : branch ∈ operation.branches fleet) :
    fleet.Directed operation.Calls branch operation.aim? := by
  have hany : ∀ {operation : Operation} (call : Call), operation.isLook = false → call.Titled →
      operation.Calls call := fun _ hlook _ h => by rw [hlook] at h; cases h
  have hharmless : ∀ {operation : Operation} call, call.Harmless → operation.Calls call :=
    fun _ h _ => h
  cases operation with
  | listVolumes | checkBackends => cases hwide
  | createVolume request =>
    obtain rfl := List.mem_singleton.1 hmem
    exact (fleet.directed_createVolume request).mono fun call => hany call rfl
  | deleteVolume id =>
    obtain rfl := List.mem_singleton.1 hmem
    exact (fleet.directed_deleteVolume id).mono fun call => hany call rfl
  | expandVolume id capacity =>
    obtain rfl := List.mem_singleton.1 hmem
    exact (fleet.directed_expandVolume id capacity).mono fun call => hany call rfl
  | validateVolume id =>
    obtain rfl := List.mem_singleton.1 hmem
    exact (fleet.directed_validateVolume id).mono hharmless
  | getCapacity backend dataset zone =>
    obtain rfl := List.mem_singleton.1 hmem
    exact (fleet.directed_availableCapacity backend dataset zone).mono hharmless
  | prepareShare id mount address =>
    obtain rfl := List.mem_singleton.1 hmem
    exact (fleet.directed_prepareShare id mount address).mono fun call => hany call rfl
  | createSnapshot id name =>
    obtain rfl := List.mem_singleton.1 hmem
    exact (fleet.directed_createSnapshot id name).mono fun call => hany call rfl
  | deleteSnapshot id =>
    obtain rfl := List.mem_singleton.1 hmem
    exact (fleet.directed_deleteSnapshot id).mono fun call => hany call rfl
  | listSnapshots snapshotId volumeId limit token =>
    unfold branches snapshotBranches at hmem
    unfold aim?
    cases hsnapshot : Fleet.given snapshotId with
    | some id =>
      simp only [hsnapshot] at hmem ⊢
      obtain rfl := List.mem_singleton.1 hmem
      exact (fleet.directed_findSnapshot id).mono hharmless
    | none =>
      cases hvolume : Fleet.given volumeId with
      | some id =>
        simp only [hsnapshot, hvolume] at hmem ⊢
        obtain rfl := List.mem_singleton.1 hmem
        exact (fleet.directed_snapshotsOfVolume id).mono hharmless
      | none => simp [isWide, hsnapshot, hvolume] at hwide

/-- An operation that goes over all backends only looks. -/
lemma asks_of_isWide (hwide : operation.isWide = true) (hmem : branch ∈ operation.branches fleet) :
    branch.Asks fun appliance call => fleet.Owns appliance ∧ call.Harmless := by
  cases operation with
  | listVolumes limit token =>
    exact Fleet.asks_overDatasets (fun _ => Fleet.asks_volumesOf) branch hmem
  | listSnapshots snapshotId volumeId limit token =>
    simp only [isWide, Bool.and_eq_true, Option.isNone_iff_eq_none] at hwide
    simp only [branches, snapshotBranches, hwide] at hmem
    exact Fleet.asks_overDatasets (fun _ => Fleet.asks_snapshotsBelow) branch hmem
  | checkBackends =>
    obtain ⟨backend, hbackend, rfl⟩ := List.mem_map.1 hmem
    exact Fleet.asks_checkBackend hbackend
  | _ => cases hwide

/-- An operation asks appliances of the fleet, and if it only looks it changes none. -/
theorem asks (hmem : branch ∈ operation.branches fleet) :
    branch.Asks fun appliance call => fleet.Owns appliance ∧ operation.Calls call := by
  cases hwide : operation.isWide with
  | false => exact (directed hwide hmem).asks fun path _ => Call.harmless_getFilesystem path
  | true => exact (asks_of_isWide hwide hmem).mono (fun _ _ h => ⟨h.1, fun _ => h.2⟩) fun _ h => h

/-- An operation takes no snapshot without a name. -/
theorem asks_titled (hmem : branch ∈ operation.branches fleet) :
    branch.Asks fun _ call => call.Harmless ∨ call.Titled := by
  have hdirected : ∀ {aim? : Option Fleet.Aim}, fleet.Directed Call.Titled branch aim? →
      branch.Asks fun _ call => call.Harmless ∨ call.Titled := by
    intro aim? h
    exact (h.asks fun path => nofun).mono (fun _ _ h => .inr h.2) fun _ h => h
  cases hlook : operation.isLook with
  | true => exact (asks hmem).mono (fun _ _ h => .inl (h.2 hlook)) fun _ h => h
  | false =>
    cases operation with
    | createVolume request =>
      obtain rfl := List.mem_singleton.1 hmem
      exact hdirected (fleet.directed_createVolume request)
    | deleteVolume id =>
      obtain rfl := List.mem_singleton.1 hmem
      exact hdirected (fleet.directed_deleteVolume id)
    | expandVolume id capacity =>
      obtain rfl := List.mem_singleton.1 hmem
      exact hdirected (fleet.directed_expandVolume id capacity)
    | prepareShare id mount address =>
      obtain rfl := List.mem_singleton.1 hmem
      exact hdirected (fleet.directed_prepareShare id mount address)
    | createSnapshot id name =>
      obtain rfl := List.mem_singleton.1 hmem
      exact hdirected (fleet.directed_createSnapshot id name)
    | deleteSnapshot id =>
      obtain rfl := List.mem_singleton.1 hmem
      exact hdirected (fleet.directed_deleteSnapshot id)
    | validateVolume | listVolumes | getCapacity | listSnapshots | checkBackends => cases hlook

end Operation
end StorageFleet
