import StorageFleet.Proofs.Volume.Effects
import StorageFleet.Proofs.Volume.Isolation

/-!
# What a failed operation leaves behind

A call that is refused changes nothing (`Simulated.step_of_error`).  An operation makes several
calls, so it could fail after some of them have changed an appliance.  It does not: until its first
change an operation only looks, and what it does after that cannot fail any more.  `AllOrNothing` is
this property of an attempt, on a given rack.

There is one exception.  A volume that is made from another is cloned from a snapshot taken for the
purpose, and if the clone fails then, the snapshot stays (`Fleet.Leftover`).  Nothing else is left
by any operation, whether its appliances can be reached or not (`failed_operation`).
-/

namespace StorageFleet

section

variable {fleet : Fleet} {rack later : Rack} {appliance : ApplianceRef} {call : Call}
  {a : Simulated} {path : String} {fault : Fault} {resolution : Resolution}
  {identifier : Identifier}

/-! ## Refused calls -/

namespace Simulated

lemma createFilesystem_of_error {quota : Option Nat}
    (h : (a.createFilesystem path quota).1 = .error fault) :
    (a.createFilesystem path quota).2 = a := by
  unfold createFilesystem at h ⊢
  split_ifs at h ⊢
  rfl

lemma updateFilesystem_of_error {quota : Option Nat}
    (h : (a.updateFilesystem path quota).1 = .error fault) :
    (a.updateFilesystem path quota).2 = a := by
  unfold updateFilesystem at h ⊢
  cases hfound : a.filesystems.find? path with
  | none => rfl
  | some fs =>
    rw [hfound] at h
    cases quota <;> cases h

lemma destroyFilesystem_of_error {snapshots : Bool}
    (h : (a.destroyFilesystem path snapshots).1 = .error fault) :
    (a.destroyFilesystem path snapshots).2 = a := by
  unfold destroyFilesystem at h ⊢
  split_ifs at h ⊢
  · rfl
  · rfl

lemma destroySnapshot_of_error (h : (a.destroySnapshot path).1 = .error fault) :
    (a.destroySnapshot path).2 = a := by
  unfold destroySnapshot at h ⊢
  cases hfound : a.snapshots.find? path with
  | none => rfl
  | some snapshot =>
    rw [hfound] at h
    dsimp only at h ⊢
    split_ifs at h ⊢
    rfl

/-- A snapshot that was taken was not there before, and is all that is new. -/
lemma createSnapshot_cases (a : Simulated) (path : String) :
    (∃ fault, a.createSnapshot path = (.error fault, a)) ∨
    ∃ snapshot : Snapshot, snapshot.path = path ∧ a.snapshots.contains path = false ∧
      a.createSnapshot path = (.ok (), { a with
        transaction := a.transaction + 1, snapshots := a.snapshots.insert path snapshot }) := by
  unfold createSnapshot
  cases Text.splitOnce '@' path.toList with
  | none => exact .inl ⟨_, rfl⟩
  | some pieces =>
    obtain ⟨parent, name⟩ := pieces
    dsimp only
    split_ifs with _ hthere
    · exact .inl ⟨_, rfl⟩
    · exact .inl ⟨_, rfl⟩
    · exact .inr ⟨_, rfl, by simpa using hthere, rfl⟩

lemma cloneSnapshot_of_error {target : String} {quota : Option Nat}
    (h : (a.cloneSnapshot path target quota).1 = .error fault) :
    (a.cloneSnapshot path target quota).2 = a := by
  unfold cloneSnapshot at h ⊢
  cases hfound : a.snapshots.find? path with
  | none => rfl
  | some snapshot =>
    rw [hfound] at h
    dsimp only at h ⊢
    split_ifs at h ⊢
    rfl

/-- A call that is refused changes nothing. -/
theorem step_of_error (h : (a.step call).1 = .error fault) : (a.step call).2 = a := by
  unfold step at h ⊢
  split_ifs at h ⊢
  · rfl
  · cases call with
    | createFilesystem => exact createFilesystem_of_error h
    | updateFilesystem => exact updateFilesystem_of_error h
    | destroyFilesystem => exact destroyFilesystem_of_error h
    | destroySnapshot => exact destroySnapshot_of_error h
    | cloneSnapshot => exact cloneSnapshot_of_error h
    | createSnapshot path =>
      change (a.createSnapshot path).1 = .error fault at h
      change (a.createSnapshot path).2 = a
      rcases a.createSnapshot_cases path with ⟨_, heq⟩ | ⟨_, -, -, heq⟩
      · rw [heq]
      · rw [heq] at h
        cases h
    | setAccess | createNfsShare | deleteNfsShare | createSmbShare | deleteSmbShare => cases h
    | _ => rfl

/-- Taking a snapshot succeeds just if the snapshot is new. -/
lemma step_createSnapshot_of_ok (h : (a.step (.createSnapshot path)).1 = .ok ()) :
    ∃ snapshot : Snapshot, snapshot.path = path ∧ a.snapshots.contains path = false ∧
      (a.step (.createSnapshot path)).2 = { a with
        transaction := a.transaction + 1, snapshots := a.snapshots.insert path snapshot } := by
  unfold step at h ⊢
  split_ifs at h ⊢
  change (a.createSnapshot path).1 = .ok () at h
  change ∃ snapshot : Snapshot, _ ∧ _ ∧ (a.createSnapshot path).2 = _
  rcases a.createSnapshot_cases path with ⟨_, heq⟩ | ⟨snapshot, hpath, habsent, heq⟩
  · rw [heq] at h
    cases h
  · rw [heq]
    exact ⟨snapshot, hpath, habsent, rfl⟩

end Simulated

lemma Rack.answer_of_error (h : (rack.answer appliance call).1 = .error fault) :
    (rack.answer appliance call).2 = rack := by
  cases ha : rack appliance.id with
  | none => rw [answer, ha]
  | some a =>
    rw [answer_of_some ha] at h ⊢
    dsimp only at h ⊢
    rw [Simulated.step_of_error h, set_eq_self ha]

/-- An appliance that can be reached can still be reached after a run. -/
lemma Plan.online_exec (plan : Plan α) {id : Nat}
    (h : ∃ a, rack id = some a ∧ a.offline = false) :
    ∃ a, (plan.exec rack).2 id = some a ∧ a.offline = false := by
  have hanswer : ∀ (rack : Rack) appliance call, (∃ a, rack id = some a ∧ a.offline = false) →
      ∃ a, (rack.answer appliance call).2 id = some a ∧ a.offline = false :=
    fun _ appliance call honline => Rack.answer_keeps
      (fun a call hbefore => (a.step_offline call).trans hbefore) honline appliance call
  exact plan.exec_keeps hanswer h

/-! ## All or nothing -/

namespace Attempt

/-- The attempt succeeds on this rack. -/
def Succeeds (rack : Rack) (attempt : Attempt α) : Prop :=
  ∃ value later, attempt.run.exec rack = (.ok value, later)

/-- If the attempt fails on this rack, it has changed nothing. -/
def AllOrNothing (rack : Rack) (attempt : Attempt α) : Prop :=
  ∀ fault later, attempt.run.exec rack = (.error fault, later) → later = rack

variable {attempt : Attempt α} {next : α → Attempt β}

lemma succeeds_pure (rack : Rack) (value : α) : (pure value : Attempt α).Succeeds rack :=
  ⟨value, rack, rfl⟩

lemma succeeds_ask_bind {next : call.Answer → Attempt β} (found : call.Answer)
    (h : (rack.answer appliance call).1 = .ok found)
    (hnext : (next found).Succeeds (rack.answer appliance call).2) :
    (ask appliance call >>= next).Succeeds rack := by
  obtain ⟨value, later, hexec⟩ := hnext
  have hasked : (ask appliance call).run.exec rack =
      (.ok found, (rack.answer appliance call).2) := Prod.ext h rfl
  exact ⟨value, later, (exec_bind_of_ok hasked).trans hexec⟩

lemma Succeeds.not_error (h : attempt.Succeeds rack) :
    attempt.run.exec rack ≠ (.error fault, later) := by
  obtain ⟨value, middle, hexec⟩ := h
  rw [hexec]
  rintro ⟨⟩

/-- Looking does no harm. -/
lemma allOrNothing_of_keeps (h : attempt.run.Keeps fun rack => rack) :
    attempt.AllOrNothing rack := by
  intro fault later hfailed
  have hkept := h rack
  rwa [hfailed] at hkept

lemma allOrNothing_done (rack : Rack) (result : Except Fault α) :
    (ofExcept result).AllOrNothing rack :=
  allOrNothing_of_keeps fun _ => rfl

lemma allOrNothing_ask : (ask appliance call).AllOrNothing rack := by
  intro fault later hfailed
  rw [exec_ask] at hfailed
  have hsame := Rack.answer_of_error (congrArg Prod.fst hfailed)
  rwa [hfailed] at hsame

/-- What follows a look. -/
lemma allOrNothing_look (h : attempt.run.Keeps fun rack => rack)
    (hnext : ∀ found, attempt.run.exec rack = (.ok found, rack) → (next found).AllOrNothing rack) :
    (attempt >>= next).AllOrNothing rack := by
  intro fault later hfailed
  have hkept : (attempt.run.exec rack).2 = rack := h rack
  rcases hexec : attempt.run.exec rack with ⟨outcome, middle⟩
  rw [hexec] at hkept
  obtain rfl : middle = rack := hkept
  cases outcome with
  | error first =>
    rw [exec_bind_of_error hexec] at hfailed
    exact (Prod.mk.inj hfailed).2.symm
  | ok found =>
    rw [exec_bind_of_ok hexec] at hfailed
    exact hnext found hexec fault later hfailed

/-- What follows a change cannot fail. -/
lemma AllOrNothing.commit (h : attempt.AllOrNothing rack)
    (hnext : ∀ found middle, attempt.run.exec rack = (.ok found, middle) →
      (next found).Succeeds middle) : (attempt >>= next).AllOrNothing rack := by
  intro fault later hfailed
  rcases hexec : attempt.run.exec rack with ⟨outcome, middle⟩
  cases outcome with
  | error first =>
    rw [exec_bind_of_error hexec] at hfailed
    obtain ⟨-, rfl⟩ := Prod.mk.inj hfailed
    exact h first middle hexec
  | ok found =>
    rw [exec_bind_of_ok hexec] at hfailed
    exact absurd hfailed (hnext found middle hexec).not_error

/-- What follows an attempt whatever its outcome is. -/
lemma AllOrNothing.settle {next : Except Fault α → Attempt β} (h : attempt.AllOrNothing rack)
    (hok : ∀ found middle, attempt.run.exec rack = (.ok found, middle) →
      (next (.ok found)).Succeeds middle)
    (herror : ∀ fault, (next (.error fault)).AllOrNothing rack) :
    (attempt.outcome >>= next).AllOrNothing rack := by
  intro fault later hfailed
  rw [exec_outcome_bind] at hfailed
  rcases hexec : attempt.run.exec rack with ⟨outcome, middle⟩
  rw [hexec] at hfailed
  cases outcome with
  | error first =>
    obtain rfl := h first middle hexec
    exact herror first fault later hfailed
  | ok found => exact absurd hfailed (hok found middle hexec).not_error

/-- A change that does not mind whether it was made before. -/
lemma AllOrNothing.tolerate {attempt : Attempt Unit} {next : Unit → Attempt β}
    (h : attempt.AllOrNothing rack)
    (hok : ∀ middle, attempt.run.exec rack = (.ok (), middle) → (next ()).Succeeds middle)
    (hthere : (next ()).AllOrNothing rack) :
    (attempt.outcome >>= fun outcome =>
      ofExcept (Fleet.tolerateExisting outcome) >>= next).AllOrNothing rack := by
  refine h.settle (fun _ middle hexec => hok middle hexec) fun fault => ?_
  unfold Fleet.tolerateExisting
  dsimp only
  split_ifs
  · exact hthere
  · exact allOrNothing_done rack (.error fault)

end Attempt

/-! ## One operation after the other -/

namespace Fleet

open Attempt (AllOrNothing)

/-- An operation that reads an identifier. -/
lemma allOrNothing_readId {result : Except Fault Identifier} {next : Identifier → Attempt α}
    (hnext : ∀ identifier, result = .ok identifier → (next identifier).AllOrNothing rack) :
    (Attempt.ofExcept result >>= next).AllOrNothing rack := by
  refine Attempt.allOrNothing_look (fun _ => rfl) fun identifier hfound => ?_
  exact hnext identifier (Prod.mk.inj hfound).1

/-- An operation on what has the path of an identifier. -/
lemma allOrNothing_resolve {next : Resolution → Attempt α}
    (hnext : ∀ resolution, resolution.Stands fleet rack → (next resolution).AllOrNothing rack) :
    (fleet.resolve identifier >>= next).AllOrNothing rack := by
  refine Attempt.allOrNothing_look (fleet.resolve_keeps identifier _) fun resolution hfound => ?_
  rcases fleet.exec_select_cases rack identifier.backend none (some identifier.path) with
    ⟨_, hselect, -⟩ | ⟨_, hselect, hplace⟩
  · cases hselect.symm.trans hfound
  · cases hselect.symm.trans hfound
    exact hnext resolution (stands_of_place? hplace)

/-- An operation on what has the path of an identifier, if anything has. -/
lemma allOrNothing_resolveExisting {next : Option Resolution → Attempt α}
    (hnone : (next none).AllOrNothing rack)
    (hsome : ∀ resolution, (next (some resolution)).AllOrNothing rack) :
    (fleet.resolveExisting identifier >>= next).AllOrNothing rack := by
  refine Attempt.allOrNothing_look (fleet.resolveExisting_keeps identifier _) fun found _ => ?_
  cases found with
  | none => exact hnone
  | some resolution => exact hsome resolution

theorem deleteVolume_allOrNothing (fleet : Fleet) (id : String) (rack : Rack) :
    (fleet.deleteVolume id).AllOrNothing rack := by
  unfold deleteVolume
  split
  · exact Attempt.allOrNothing_of_keeps fun _ => rfl
  · refine allOrNothing_resolveExisting (Attempt.allOrNothing_of_keeps fun _ => rfl)
      fun resolution => ?_
    refine Attempt.allOrNothing_ask.settle
      (fun _ middle _ => Attempt.succeeds_pure middle ()) fun fault => ?_
    refine Attempt.allOrNothing_of_keeps ?_
    unfold volumeDestroyed
    dsimp only
    split_ifs <;> exact fun _ => rfl

theorem expandVolume_allOrNothing (fleet : Fleet) (id : String) (capacity : Nat) (rack : Rack) :
    (fleet.expandVolume id capacity).AllOrNothing rack := by
  unfold expandVolume
  split_ifs
  · exact Attempt.allOrNothing_done rack (.error _)
  · refine allOrNothing_readId fun _ _ => allOrNothing_resolve fun resolution _ => ?_
    exact Attempt.allOrNothing_ask.commit
      fun _ middle _ => Attempt.succeeds_pure middle capacity

/-- The name of a share that was just made is known. -/
lemma succeeds_getSmbShareName {middle : Rack} (stands : resolution.Stands fleet rack)
    (hexec : (Attempt.ask resolution.appliance (.createSmbShare resolution.path none)).run.exec
      rack = (.ok (), middle)) (address : String) :
    (do
      let name ← Attempt.ask resolution.appliance (.getSmbShareName resolution.path)
      return "//" ++ address ++ "/" ++ name : Attempt String).Succeeds middle := by
  obtain ⟨a, ha, online, -⟩ := Rack.has_iff.1 stands.has
  rw [Attempt.exec_ask, Rack.answer_of_some ha] at hexec
  obtain ⟨-, rfl⟩ := Prod.mk.inj hexec
  refine Attempt.succeeds_ask_bind (Simulated.defaultShareName resolution.path) ?_
    (Attempt.succeeds_pure _ _)
  rw [Rack.answer_of_some (Rack.set_self ..)]
  simp [Simulated.step, online, Simulated.answer, Simulated.createSmbShare,
    Simulated.smbShareName, Catalog.find?_insert]

/-- A filesystem is shared as a whole, or not at all. -/
lemma share_allOrNothing (stands : resolution.Stands fleet rack) (fs : Filesystem)
    (mount : MountType) (address : String) :
    (share resolution fs mount address).AllOrNothing rack := by
  have hname : (do
      let name ← Attempt.ask resolution.appliance (.getSmbShareName resolution.path)
      return "//" ++ address ++ "/" ++ name : Attempt String).AllOrNothing rack :=
    Attempt.allOrNothing_ask.commit fun _ middle _ => Attempt.succeeds_pure middle _
  cases mount with
  | nfs =>
    unfold share
    dsimp only
    split_ifs
    · exact Attempt.allOrNothing_ask.tolerate
        (fun middle _ => Attempt.succeeds_pure middle _)
        (Attempt.allOrNothing_of_keeps fun _ => rfl)
    · exact Attempt.allOrNothing_of_keeps fun _ => rfl
  | cifs =>
    unfold share
    dsimp only
    split_ifs
    · exact Attempt.allOrNothing_ask.tolerate
        (fun _ hexec => succeeds_getSmbShareName stands hexec address) hname
    · exact hname

theorem prepareShare_allOrNothing (fleet : Fleet) (id : String) (mount : Option MountType)
    (address : Option String) (rack : Rack) :
    (fleet.prepareShare id mount address).AllOrNothing rack := by
  refine allOrNothing_readId fun _ _ => allOrNothing_resolve fun resolution stands => ?_
  refine Attempt.allOrNothing_look (fun _ => rfl) fun address _ => ?_
  refine Attempt.allOrNothing_look
    (Attempt.keeps_all fun a => Rack.step_getFilesystem a resolution.path) fun fs _ => ?_
  refine (share_allOrNothing stands fs _ address).commit fun source middle hexec => ?_
  -- Access is set on an appliance that can be reached, as it could when it was found.
  obtain ⟨a, ha, online, -⟩ := Rack.has_iff.1 stands.has
  obtain ⟨b, hb, still⟩ := Plan.online_exec
    (share resolution fs (mount.getD resolution.backend.config.defaultMountFsType) address).run
    ⟨a, ha, online⟩
  rw [hexec] at hb
  refine Attempt.succeeds_ask_bind () ?_ (Attempt.succeeds_pure _ _)
  rw [Rack.answer_of_some hb]
  simp [Simulated.step, still, Simulated.answer]

/-- A snapshot that was just taken is found. -/
lemma succeeds_getSnapshot {middle : Rack} (stands : resolution.Stands fleet rack) {path : String}
    (hexec : (Attempt.ask resolution.appliance (.createSnapshot path)).run.exec rack =
      (.ok (), middle)) :
    (do
      let snapshot ← Attempt.ask resolution.appliance (.getSnapshot path)
      return VolumeSnapshot.of resolution.backend snapshot :
        Attempt VolumeSnapshot).Succeeds middle := by
  obtain ⟨a, ha, online, -⟩ := Rack.has_iff.1 stands.has
  rw [Attempt.exec_ask, Rack.answer_of_some ha] at hexec
  obtain ⟨hok, rfl⟩ := Prod.mk.inj hexec
  obtain ⟨snapshot, -, -, hafter⟩ := Simulated.step_createSnapshot_of_ok hok
  refine Attempt.succeeds_ask_bind snapshot ?_ (Attempt.succeeds_pure _ _)
  rw [Rack.answer_of_some (Rack.set_self ..), hafter]
  simp [Simulated.step, online, Simulated.answer, Simulated.snapshot, Catalog.find?_insert]

theorem createSnapshot_allOrNothing (fleet : Fleet) (id name : String) (rack : Rack) :
    (fleet.createSnapshot id name).AllOrNothing rack := by
  unfold createSnapshot
  split_ifs
  · exact Attempt.allOrNothing_done rack (.error _)
  · refine allOrNothing_readId fun _ _ => allOrNothing_resolve fun resolution stands => ?_
    refine Attempt.allOrNothing_ask.tolerate
      (fun middle hexec => succeeds_getSnapshot stands hexec) ?_
    exact Attempt.allOrNothing_ask.commit fun _ middle _ => Attempt.succeeds_pure middle _

theorem deleteSnapshot_allOrNothing (fleet : Fleet) (id : String) (rack : Rack) :
    (fleet.deleteSnapshot id).AllOrNothing rack := by
  unfold deleteSnapshot
  split
  · exact Attempt.allOrNothing_of_keeps fun _ => rfl
  · refine allOrNothing_resolveExisting (Attempt.allOrNothing_of_keeps fun _ => rfl)
      fun resolution => ?_
    refine Attempt.allOrNothing_ask.settle
      (fun _ middle _ => Attempt.succeeds_pure middle ()) fun fault => ?_
    refine Attempt.allOrNothing_of_keeps ?_
    unfold snapshotDestroyed
    dsimp only
    split_ifs <;> exact fun _ => rfl

end Fleet

/-! ## Creation -/

/-- A snapshot is taken for a new volume only if it is made from another volume. -/
lemma CreateVolumeRequest.of_taken {request : CreateVolumeRequest} {blueprint : Blueprint}
    {recipe : Recipe} {snapshot : String} (h : request.blueprint = .ok blueprint)
    (hrecipe : blueprint.recipe resolution = .ok recipe) (htaken : recipe.taken = some snapshot) :
    ∃ id source, request.source = some (.volume id) ∧ Fleet.volumeId id = .ok source ∧
      blueprint.backend = source.backend ∧ blueprint.path = some source.path := by
  unfold CreateVolumeRequest.blueprint at h
  split at h
  · cases h
  · split at h
    · cases h
      cases hrecipe
      cases htaken
    · next id _ =>
      cases hid : Fleet.snapshotId id with
      | error fault => rw [hid] at h; cases h
      | ok source =>
        rw [hid] at h
        cases h
        rw [(of_cloneRecipe hrecipe).2] at htaken
        cases htaken
    · next id hsource =>
      cases hid : Fleet.volumeId id with
      | error fault => rw [hid] at h; cases h
      | ok source =>
        rw [hid] at h
        cases h
        exact ⟨id, source, hsource, hid, rfl, rfl⟩

/-- A recipe that fails leaves at most its snapshot. -/
lemma Recipe.carryOut_of_error {recipe : Recipe} {request : CreateVolumeRequest}
    (here : rack resolution.appliance.id = some a)
    (h : (recipe.carryOut resolution request).exec rack = (.error fault, later)) :
    later = rack ∨ ∃ snapshot, recipe.taken = some snapshot ∧
      (a.step (.createSnapshot snapshot)).1 = .ok () ∧
      later = rack.set resolution.appliance.id (a.step (.createSnapshot snapshot)).2 := by
  cases houtcome : (recipe.takeIn a).1 with
  | error first =>
    have hrests : (recipe.carryOut resolution request).Rests rack :=
      recipe.carryOut_rests here houtcome
    rw [hrests.exec_eq] at h
    exact .inl (Prod.mk.inj h).2.symm
  | ok _ =>
    rw [Recipe.exec_carryOut here houtcome] at h
    rcases Recipe.exec_making_cases request (Rack.set_self ..) with
      ⟨_, hexec⟩ | ⟨_, -, hexec⟩ | ⟨_, -, hexec⟩
    · obtain ⟨-, rfl⟩ := Prod.mk.inj (hexec.symm.trans h)
      cases htaken : recipe.taken with
      | none =>
        rw [Recipe.takeIn_of_none htaken, Rack.set_eq_self here]
        exact .inl rfl
      | some snapshot =>
        rw [Recipe.takeIn_of_some htaken]
        cases hstep : (a.step (.createSnapshot snapshot)).1 with
        | error _ =>
          rw [Simulated.step_of_error hstep, Rack.set_eq_self here]
          exact .inl rfl
        | ok _ => exact .inr ⟨snapshot, rfl, hstep, rfl⟩
    · cases hexec.symm.trans h
    · cases hexec.symm.trans h

/-- What a failed creation may leave behind: the snapshot that the volume was to be cloned from, on
the appliance that has the volume it was to be made from. -/
structure Fleet.Leftover (fleet : Fleet) (request : CreateVolumeRequest) (rack later : Rack) where
  id : String
  source : Identifier
  resolution : Resolution
  found : Simulated
  snapshot : Snapshot
  asked : request.source = some (.volume id)
  named : volumeId id = .ok source
  place : fleet.place? rack source.backend request.zone (some source.path) = some resolution
  here : rack resolution.appliance.id = some found
  path_eq : snapshot.path = source.path ++ "@" ++ cloneSnapshotStart ++ request.name
  /-- The snapshot was not there before. -/
  absent : found.snapshots.contains snapshot.path = false
  later_eq : later = rack.set resolution.appliance.id { found with
    transaction := found.transaction + 1
    snapshots := found.snapshots.insert snapshot.path snapshot }

/-- A creation that fails leaves nothing behind, or a snapshot. -/
theorem Fleet.createVolume_of_error {request : CreateVolumeRequest}
    (h : (fleet.createVolume request).run.exec rack = (.error fault, later)) :
    later = rack ∨ Nonempty (fleet.Leftover request rack later) := by
  rw [createVolume_run] at h
  cases hblueprint : request.blueprint with
  | error _ =>
    rw [hblueprint] at h
    exact .inl (Prod.mk.inj h).2.symm
  | ok blueprint =>
    rw [hblueprint] at h
    dsimp only at h
    rw [Plan.exec_bind] at h
    rcases fleet.exec_select_cases rack blueprint.backend request.zone blueprint.path with
      ⟨_, hselect, -⟩ | ⟨resolution, hselect, hplace⟩
    · rw [hselect] at h
      exact .inl (Prod.mk.inj h).2.symm
    rw [hselect] at h
    dsimp only [carryOut] at h
    cases hrecipe : blueprint.recipe resolution with
    | error _ =>
      rw [hrecipe] at h
      exact .inl (Prod.mk.inj h).2.symm
    | ok recipe =>
      rw [hrecipe] at h
      obtain ⟨found, here, -, -⟩ := Rack.has_iff.1 (stands_of_place? hplace).has
      refine (Recipe.carryOut_of_error here h).imp_right ?_
      rintro ⟨path, htaken, hok, rfl⟩
      obtain ⟨id, source, asked, named, hbackend, hpath⟩ :=
        CreateVolumeRequest.of_taken hblueprint hrecipe htaken
      obtain ⟨snapshot, rfl, absent, hafter⟩ := Simulated.step_createSnapshot_of_ok hok
      rw [hbackend, hpath] at hplace
      have hresolved : resolution.path = source.path :=
        path_of_place? (Identifier.isEmpty_path_of_volumeId named) hplace
      have htransient := (request.of_recipe hblueprint hrecipe).2 _ htaken
      rw [CreateVolumeRequest.transient, hresolved] at htransient
      exact ⟨{ id, source, resolution, found, snapshot, asked, named, place := hplace, here,
               path_eq := htransient, absent, later_eq := by rw [hafter] }⟩

/-! ## All operations -/

/-- The second rack is the first, but for what a failed creation may leave behind. -/
def Operation.LeavesNothing (operation : Operation) (fleet : Fleet) (rack later : Rack) : Prop :=
  later = rack ∨ ∃ request, operation = .createVolume request ∧
    Nonempty (fleet.Leftover request rack later)

/-- An operation of a single attempt, all or nothing. -/
lemma Attempt.AllOrNothing.same {attempt : Attempt α}
    (h : attempt.AllOrNothing rack)
    (failed : Operation.only (Plan.execAll [attempt.run] rack).1 = .error fault) :
    (Plan.execAll [attempt.run] rack).2 = rack := by
  have hexec : attempt.run.exec rack = (.error fault, (attempt.run.exec rack).2) :=
    Prod.ext failed rfl
  exact h fault _ hexec

lemma Operation.leavesNothing_exec (operation : Operation)
    (failed : (operation.exec fleet rack).1 = .error fault) :
    operation.LeavesNothing fleet rack (operation.exec fleet rack).2 := by
  cases hlook : operation.isLook with
  | true => exact .inl (congrArg Prod.snd (exec_of_isLook hlook fleet rack))
  | false =>
    cases operation with
    | createVolume request =>
      have hexec : (fleet.createVolume request).run.exec rack =
          (.error fault, ((fleet.createVolume request).run.exec rack).2) := Prod.ext failed rfl
      exact (Fleet.createVolume_of_error hexec).imp_right fun hleft => ⟨request, rfl, hleft⟩
    | deleteVolume id => exact .inl ((fleet.deleteVolume_allOrNothing id rack).same failed)
    | expandVolume id capacity =>
      exact .inl ((fleet.expandVolume_allOrNothing id capacity rack).same failed)
    | prepareShare id mount address =>
      exact .inl ((fleet.prepareShare_allOrNothing id mount address rack).same failed)
    | createSnapshot id name =>
      exact .inl ((fleet.createSnapshot_allOrNothing id name rack).same failed)
    | deleteSnapshot id => exact .inl ((fleet.deleteSnapshot_allOrNothing id rack).same failed)
    | validateVolume | listVolumes | getCapacity | listSnapshots | checkBackends => cases hlook

end

/-- An operation that fails leaves every appliance as it was, with the exception of the snapshot
that a volume was to be cloned from; it does not matter which appliances can be reached.  So does an
operation of a deployment, which has its answer as soon as it is visited, cancelled or not. -/
theorem failed_operation (operation : Operation) :
    (∀ fleet rack fault, (operation.exec fleet rack).1 = .error fault →
      operation.LeavesNothing fleet rack (operation.exec fleet rack).2) ∧
    ∀ d : Deployment, (∀ id, d.connected? id = none) →
      ∀ (cancelled : Bool) (cancelAt : Option Nat),
        ∃ answer time, (Job.visit d { work := .operate operation, cancelled, cancelAt }).2.2 =
          { work := .operate operation, cancelled, cancelAt
            progress := .finished answer time } ∧
        ∀ fault, answer = .error fault → operation.LeavesNothing d.fleet d.rack
          (Job.visit d { work := .operate operation, cancelled, cancelAt }).2.1.rack := by
  refine ⟨fun _ _ _ => operation.leavesNothing_exec, fun d inMemory cancelled cancelAt => ?_⟩
  cases cancelled with
  | true =>
    obtain ⟨⟨time, hjob⟩, hrack⟩ := Job.visit_operate_cancelled d operation cancelAt
    exact ⟨_, time, hjob, fun _ _ => .inl hrack⟩
  | false =>
    obtain ⟨⟨time, hjob⟩, hrack⟩ := Job.visit_operate d inMemory operation cancelAt
    refine ⟨_, time, hjob, fun fault hfailed => ?_⟩
    rw [hrack]
    exact operation.leavesNothing_exec hfailed

namespace Pools

/-- Makes a volume from `pool/v` in a place that is taken by one of another size. -/
def misfit : Operation :=
  .createVolume { name := "v", capacityBytes := some 9, source := some (.volume "one:pool/v") }

def deployment : Deployment where
  stations := [.simulated (holding 0 [("pool", 0), ("pool/v", 5)]),
    .simulated (holding 1 [("pool", 0), ("pool/v", 6)])]
  fleet

lemma connected?_deployment (id : Nat) : deployment.connected? id = none := by
  match id with
  | 0 => rfl
  | 1 => rfl
  | _ + 2 => rfl

/-- The snapshot stays where the clone does not fit. -/
theorem failed_operation_misfit :
    (misfit.exec fleet rack).1 = .error (.sizeMismatch "v" 5 9) ∧
    misfit.LeavesNothing fleet rack (misfit.exec fleet rack).2 ∧
    (((misfit.exec fleet rack).2 0).map fun a => a.snapshots.keys) =
      some ["pool/v@k8s-clone-snapshot-v"] ∧
    (∀ id, deployment.connected? id = none) ∧
    ∃ answer time, (Job.visit deployment { work := .operate misfit }).2.2 =
      { work := .operate misfit, progress := .finished answer time } ∧
      ∀ fault, answer = .error fault → misfit.LeavesNothing deployment.fleet deployment.rack
        (Job.visit deployment { work := .operate misfit }).2.1.rack :=
  ⟨rfl, (failed_operation misfit).1 fleet rack _ rfl, rfl, connected?_deployment,
    (failed_operation misfit).2 deployment connected?_deployment false none⟩

end Pools
end StorageFleet
