import StorageFleet.Proofs.Rack.Tables
import StorageFleet.Proofs.Volume.Agreement
import StorageFleet.Proofs.Volume.Clearance

/-!
# Taking a snapshot and deleting it again

A snapshot is written in three ways: the volume's path with an at sign and a name, as it is asked
for; cut at its first at sign, as the appliance stores it; and as an identifier, which is cut at its
first colon and then at its first at sign.  The path of a volume that can be addressed has no at
sign, so all three name the same snapshot, whatever marks there are in its name
(`Simulated.createSnapshot_of_none`, `VolumeSnapshot.decode_id_of_taken`).

`snapshot_retries` puts them together.  A snapshot that was taken can be asked for again, and if it
was new, deleting it by its identifier leaves the appliance as it was, but for the number of the
last transaction.  A deletion is refused just if something was cloned from the snapshot; after any
other the snapshot is gone.
-/

namespace StorageFleet

section

variable {fleet : Fleet} {start rack later : Rack} {backend : Backend} {appliance : ApplianceRef}
  {a b : Simulated} {id path name : String} {identifier : Identifier} {snapshot : Snapshot}
  {resolution : Resolution}

/-! ## The appliance -/

namespace Simulated

/-- The snapshot that is taken next. -/
def nextSnapshot (a : Simulated) (path name : String) : Snapshot where
  path := path ++ "@" ++ name
  name := name
  parent := path
  clones := []
  transaction := a.transaction + 1
  created := epoch.addSeconds (a.transaction + 1)

lemma splitOnce_snapshotPath (hunmarked : '@' ∉ path.toList) (name : String) :
    Text.splitOnce '@' (path ++ "@" ++ name).toList = some (path.toList, name.toList) :=
  Text.splitOnce_eq_some_iff.2 ⟨by simp, hunmarked⟩

/-- A snapshot that is new is taken. -/
lemma createSnapshot_of_none (hunmarked : '@' ∉ path.toList)
    (hthere : a.filesystems.contains path = true)
    (hnew : a.snapshots.find? (path ++ "@" ++ name) = none) :
    a.createSnapshot (path ++ "@" ++ name) = (.ok (), { a with
      transaction := a.transaction + 1
      snapshots := a.snapshots.insert (path ++ "@" ++ name) (a.nextSnapshot path name) }) := by
  have hfree : a.snapshots.contains (path ++ "@" ++ name) = false := by
    rw [Catalog.contains, hnew]
    rfl
  unfold createSnapshot
  rw [splitOnce_snapshotPath hunmarked]
  simp [hthere, hfree, nextSnapshot]

/-- One that is there already is not touched. -/
lemma createSnapshot_of_some (hunmarked : '@' ∉ path.toList)
    (hthere : a.filesystems.contains path = true)
    (hold : a.snapshots.find? (path ++ "@" ++ name) = some snapshot) :
    a.createSnapshot (path ++ "@" ++ name) = (.error (takenSnapshot (path ++ "@" ++ name)), a) := by
  have htaken : a.snapshots.contains (path ++ "@" ++ name) = true := by
    rw [Catalog.contains, hold]
    rfl
  unfold createSnapshot
  rw [splitOnce_snapshotPath hunmarked]
  simp [hthere, htaken]

/-- What an appliance becomes when a snapshot is asked for, and the snapshot that it then has. -/
inductive Takes (a : Simulated) (path name : String) : Simulated → Snapshot → Prop where
  | old (snapshot : Snapshot) (found : a.snapshots.find? (path ++ "@" ++ name) = some snapshot) :
      a.Takes path name a snapshot
  | new (missing : a.snapshots.find? (path ++ "@" ++ name) = none) :
      a.Takes path name { a with
          transaction := a.transaction + 1
          snapshots := a.snapshots.insert (path ++ "@" ++ name) (a.nextSnapshot path name) }
        (a.nextSnapshot path name)

lemma exists_takes (a : Simulated) (path name : String) :
    ∃ b snapshot, a.Takes path name b snapshot := by
  cases hfound : a.snapshots.find? (path ++ "@" ++ name) with
  | none => exact ⟨_, _, .new hfound⟩
  | some snapshot => exact ⟨_, _, .old snapshot hfound⟩

namespace Takes

lemma found (h : a.Takes path name b snapshot) :
    b.snapshots.find? (path ++ "@" ++ name) = some snapshot := by
  cases h with
  | old _ hfound => exact hfound
  | new => rw [Catalog.find?_insert, if_pos rfl]

lemma filesystems (h : a.Takes path name b snapshot) : b.filesystems = a.filesystems := by
  cases h <;> rfl

lemma offline (h : a.Takes path name b snapshot) : b.offline = a.offline := by
  cases h <;> rfl

/-- Asked for again, it is the snapshot that is there. -/
lemma again (h : a.Takes path name b snapshot) : b.Takes path name b snapshot :=
  .old snapshot h.found

/-- Where the answer of the appliance is heard, the snapshot counts as taken either way. -/
lemma step (h : a.Takes path name b snapshot) (hunmarked : '@' ∉ path.toList)
    (hthere : a.filesystems.contains path = true) (online : a.offline = false) :
    Fleet.tolerateExisting (a.step (.createSnapshot (path ++ "@" ++ name))).1 = .ok () ∧
      (a.step (.createSnapshot (path ++ "@" ++ name))).2 = b := by
  have hstep : a.step (.createSnapshot (path ++ "@" ++ name)) =
      a.createSnapshot (path ++ "@" ++ name) := by
    simp [Simulated.step, online, answer]
  rw [hstep]
  cases h with
  | old _ hfound =>
    rw [createSnapshot_of_some hunmarked hthere hfound]
    exact ⟨rfl, rfl⟩
  | new hmissing =>
    rw [createSnapshot_of_none hunmarked hthere hmissing]
    exact ⟨rfl, rfl⟩

/-- A new snapshot that is taken away again leaves nothing behind but its number. -/
lemma erase (h : a.Takes path name b snapshot)
    (hnew : a.snapshots.find? (path ++ "@" ++ name) = none) :
    snapshot.clones = [] ∧ { b with snapshots := b.snapshots.erase (path ++ "@" ++ name) } =
      { a with transaction := a.transaction + 1 } := by
  cases h with
  | old _ hfound =>
    rw [hnew] at hfound
    cases hfound
  | new =>
    refine ⟨rfl, ?_⟩
    dsimp only
    rw [Catalog.erase_insert hnew]

/-- Its parts are those that it was asked for by. -/
lemma parts (h : a.Takes path name b snapshot) (filed : a.Filed) (hunmarked : '@' ∉ path.toList) :
    snapshot.parent = path ∧ snapshot.name = name := by
  cases h with
  | old _ hfound =>
    have hcut := (filed.snapshots _ _ hfound).cut
    rw [splitOnce_snapshotPath hunmarked, Option.some.injEq, Prod.mk.injEq, String.toList_inj,
      String.toList_inj] at hcut
    exact ⟨hcut.1.symm, hcut.2.symm⟩
  | new => exact ⟨rfl, rfl⟩

end Takes

/-- Destroying a snapshot that nothing was cloned from takes it away. -/
lemma destroySnapshot_of_unused (hfound : a.snapshots.find? path = some snapshot)
    (hunused : snapshot.clones = []) :
    a.destroySnapshot path = (.ok (), { a with snapshots := a.snapshots.erase path }) := by
  simp [destroySnapshot, hfound, hunused]

lemma destroySnapshot_of_used (hfound : a.snapshots.find? path = some snapshot)
    (hused : snapshot.clones ≠ []) : a.destroySnapshot path = (.error (hasClones path), a) := by
  simp [destroySnapshot, hfound, hused]

lemma destroySnapshot_of_none (hmissing : a.snapshots.find? path = none) :
    a.destroySnapshot path = (.error (missingSnapshot path), a) := by
  simp [destroySnapshot, hmissing]

end Simulated

/-! ## Where identifiers lead -/

/-- An identifier of a snapshot holds that of its volume. -/
lemma Identifier.Legible.parent (h : identifier.Legible) : identifier.parent.Legible :=
  ⟨⟨h.divisible.path_ne, h.divisible.unmarked, fun _ hnone => nomatch hnone⟩, h.named,
    fun hbare => ⟨(h.bare hbare).1, fun _ hnone => nomatch hnone⟩⟩

/-- A call that leaves the filesystems alone leaves it where they are found. -/
lemma Rack.has_set {id : Nat} (ha : rack id = some a) (hsame : b.filesystems = a.filesystems)
    (honline : b.offline = a.offline) (path : String) (appliance : ApplianceRef) :
    (rack.set id b).has path appliance = rack.has path appliance := by
  rw [Bool.eq_iff_iff, has_iff, has_iff]
  by_cases hid : appliance.id = id
  · simp [hid, ha, hsame, honline]
  · rw [set_of_ne hid]

namespace Fleet

lemma placeOf?_congr (hpath : identifier.path.isEmpty = false)
    (h : ∀ appliance, later.has identifier.path appliance = rack.has identifier.path appliance) :
    fleet.placeOf? later identifier = fleet.placeOf? rack identifier := by
  have hhas : later.has identifier.path = rack.has identifier.path := funext h
  unfold placeOf? place?
  congr 1
  funext backend
  have hdataset := backend.datasetOrDefault_of_nonempty hpath
  rw [Rack.home?_of_ok hdataset, Rack.home?_of_ok hdataset, Rack.holder?, Rack.holder?, hhas]

/-- The place of an identifier is on the first of its appliances that has the path. -/
lemma map_appliance_placeOf? (fleet : Fleet) (rack : Rack)
    (hpath : identifier.path.isEmpty = false) :
    (fleet.placeOf? rack identifier).map Resolution.appliance =
      (fleet.addressed identifier).find? (rack.has identifier.path) := by
  rw [placeOf?, place?, addressed, List.find?_flatMap, List.map_findSome?]
  congr 1
  funext backend
  simp [Rack.home?_of_ok (backend.datasetOrDefault_of_nonempty hpath), Rack.holder?, hpath,
    Function.comp_def]

lemma exec_resolveExisting_of_somebody (somebody : fleet.backends ≠ [])
    (hpath : identifier.path.isEmpty = false) (rack : Rack) :
    (fleet.resolveExisting identifier).run.exec rack =
      (.ok (fleet.placeOf? rack identifier), rack) := by
  by_cases hasked : fleet.candidates identifier.backend none = []
  · obtain ⟨found, hleads, hfound⟩ := fleet.resolveExisting_leads rack hpath
    have hnobody : fleet.addressed identifier = [] := by rw [addressed, hasked]; rfl
    have hplace : fleet.placeOf? rack identifier = none := by rw [placeOf?, place?, hasked]; rfl
    rw [hnobody, List.find?_nil] at hfound
    obtain rfl : found = .ok none := hfound.resolve_right fun h => somebody h.2
    rw [hplace]
    exact hleads.exec_eq rfl
  · exact exec_resolveExisting hpath hasked

section

variable (staffed : fleet.Staffed rack) (hlegible : identifier.Legible)

include staffed hlegible

/-- The place of an identifier is on the appliance that is addressed. -/
lemma Staffed.of_placeOf? (h : fleet.placeOf? rack identifier = some resolution) :
    resolution.path = identifier.path ∧ resolution.backend ∈ fleet.backends ∧
      ∃ a, resolution.backend.HoldsAt rack identifier.path resolution.appliance a ∧
        fleet.Addresses rack identifier resolution.appliance a := by
  have hpath : identifier.path.isEmpty = false := by simpa using hlegible.divisible.path_ne
  have hfirst := fleet.map_appliance_placeOf? rack hpath
  rw [h, Option.map_some] at hfirst
  obtain ⟨a, haddressed⟩ := (staffed.find?_addressed_iff hlegible).1 hfirst.symm
  obtain ⟨_, -, -, ha, hcontains⟩ := haddressed.exists_holdsAt
  have stands := stands_of_place? h
  exact ⟨path_of_placeOf? hpath h, stands.backend_mem, a, ⟨stands.appliance_mem, ha, hcontains⟩,
    haddressed⟩

lemma Staffed.placeOf?_of_addresses (h : fleet.Addresses rack identifier appliance a) :
    ∃ backend, fleet.placeOf? rack identifier = some ⟨backend, appliance, identifier.path⟩ := by
  have hpath : identifier.path.isEmpty = false := by simpa using hlegible.divisible.path_ne
  have hfirst := fleet.map_appliance_placeOf? rack hpath
  rw [(staffed.find?_addressed_iff hlegible).2 ⟨a, h⟩] at hfirst
  obtain ⟨⟨backend, appliance', path⟩, hplace, rfl⟩ := Option.map_eq_some_iff.1 hfirst
  obtain rfl : path = identifier.path := path_of_placeOf? hpath hplace
  exact ⟨backend, hplace⟩

lemma Staffed.addresses_unique {appliance' : ApplianceRef} {a' : Simulated}
    (h : fleet.Addresses rack identifier appliance a)
    (h' : fleet.Addresses rack identifier appliance' a') : appliance' = appliance ∧ a' = a := by
  have hfirst := (staffed.find?_addressed_iff hlegible).2 ⟨a, h⟩
  have hfirst' := (staffed.find?_addressed_iff hlegible).2 ⟨a', h'⟩
  obtain rfl : appliance = appliance' := Option.some.inj (hfirst.symm.trans hfirst')
  obtain ⟨_, -, -, here, -⟩ := h.exists_holdsAt
  obtain ⟨_, -, -, here', -⟩ := h'.exists_holdsAt
  exact ⟨rfl, Option.some.inj (here'.symm.trans here)⟩

lemma Staffed.placeOf?_of_unheld
    (h : ∀ appliance a, ¬ fleet.Addresses rack identifier appliance a) :
    fleet.placeOf? rack identifier = none := by
  cases hplace : fleet.placeOf? rack identifier with
  | none => rfl
  | some resolution =>
    obtain ⟨-, -, a, -, haddressed⟩ := staffed.of_placeOf? hlegible hplace
    exact absurd haddressed (h _ a)

end

/-- No operation brings an appliance into disorder. -/
lemma Housed.reached (h : fleet.Housed start) (hreached : start.Reached rack) :
    fleet.Housed rack := by
  have hkeeps : ∀ (a : Simulated) (call : Call), call.Harmless ∨ call.Titled →
      a.Filed ∧ a.Rooted → (a.step call).2.Filed ∧ (a.step call).2.Rooted :=
    fun a call _ h => ⟨h.1.step call, h.2.step h.1 call⟩
  intro backend hmem
  obtain ⟨appliance, a, single, here, filed, rooted⟩ := h backend hmem
  obtain ⟨b, hb, hfiled, hrooted⟩ := hreached.keeps hkeeps ⟨a, here, filed, rooted⟩
  exact ⟨appliance, b, single, hb, hfiled, hrooted⟩

/-! ## The operations -/

/-- A snapshot of a volume that is found is there afterwards. -/
lemma exec_createSnapshot (hname : name ≠ "") (hid : volumeId id = .ok identifier)
    (hplace : fleet.placeOf? rack identifier = some resolution)
    (ha : rack resolution.appliance.id = some a) (online : a.offline = false)
    (hthere : a.filesystems.contains resolution.path = true)
    (hunmarked : '@' ∉ resolution.path.toList) (takes : a.Takes resolution.path name b snapshot) :
    (fleet.createSnapshot id name).run.exec rack =
      (.ok (VolumeSnapshot.of resolution.backend snapshot),
        rack.set resolution.appliance.id b) := by
  obtain ⟨htolerated, hstep⟩ := takes.step hunmarked hthere online
  have hresolved : (fleet.resolve identifier).run.exec rack = (.ok resolution, rack) := by
    rcases fleet.exec_select_cases rack identifier.backend none (some identifier.path) with
      ⟨_, -, hnone⟩ | ⟨found, hexec, hfound⟩
    · cases hplace.symm.trans hnone
    · cases hplace.symm.trans hfound
      exact hexec
  have hget : b.snapshot (resolution.path ++ "@" ++ name) = .ok snapshot := by
    rw [Simulated.snapshot, takes.found]
  unfold createSnapshot
  rw [if_neg (by simpa using hname)]
  refine (Attempt.exec_bind_of_ok (by rw [hid, Attempt.exec_ofExcept])).trans ?_
  refine (Attempt.exec_bind_of_ok hresolved).trans ?_
  rw [Attempt.exec_outcome_bind, Attempt.exec_ask, Rack.answer_of_some ha, hstep]
  refine (Attempt.exec_bind_of_ok (by rw [htolerated, Attempt.exec_ofExcept])).trans ?_
  refine (Attempt.exec_bind_of_ok ?_).trans rfl
  rw [Attempt.exec_getSnapshot (Rack.set_self ..) (takes.offline.trans online), hget]

section

variable (somebody : fleet.backends ≠ []) (hid : Identifier.decodeSnapshot id = .ok identifier)

include somebody hid

lemma exec_deleteSnapshot_of_none (hplace : fleet.placeOf? rack identifier.parent = none) :
    (fleet.deleteSnapshot id).run.exec rack = (.ok (), rack) := by
  have hwhole := Identifier.isEmpty_path_of_decode (Identifier.decodeSnapshot_eq_ok_iff.1 hid).1
  have hpath : identifier.parent.path.isEmpty = false := hwhole
  have hread : snapshotId id = .ok identifier := by rw [snapshotId, readId, hid]
  unfold deleteSnapshot
  rw [hread]
  dsimp only
  refine (Attempt.exec_bind_of_ok (exec_resolveExisting_of_somebody somebody hpath rack)).trans ?_
  rw [hplace]
  rfl

/-- What a deletion makes of what the appliance says. -/
lemma exec_deleteSnapshot (hplace : fleet.placeOf? rack identifier.parent = some resolution)
    (ha : rack resolution.appliance.id = some a) (online : a.offline = false) :
    (fleet.deleteSnapshot id).run.exec rack =
      (snapshotDestroyed id identifier.fullPath (a.destroySnapshot identifier.fullPath).1).run.exec
        (rack.set resolution.appliance.id (a.destroySnapshot identifier.fullPath).2) := by
  obtain ⟨hdecode, hsome⟩ := Identifier.decodeSnapshot_eq_ok_iff.1 hid
  have hwhole := Identifier.isEmpty_path_of_decode hdecode
  have hpath : identifier.parent.path.isEmpty = false := hwhole
  have hread : snapshotId id = .ok identifier := by rw [snapshotId, readId, hid]
  have hfull : resolution.path ++ "@" ++ identifier.snapshot.getD "" = identifier.fullPath := by
    obtain ⟨title, htitle⟩ := Option.isSome_iff_exists.1 hsome
    rw [path_of_placeOf? hpath hplace, Identifier.fullPath, htitle]
    rfl
  have hstep : a.step (.destroySnapshot identifier.fullPath) =
      a.destroySnapshot identifier.fullPath := by
    simp [Simulated.step, online, Simulated.answer]
  unfold deleteSnapshot
  rw [hread]
  dsimp only
  refine (Attempt.exec_bind_of_ok (exec_resolveExisting_of_somebody somebody hpath rack)).trans ?_
  rw [hplace]
  dsimp only
  rw [Attempt.exec_outcome_bind, Attempt.exec_ask, Rack.answer_of_some ha, hfull, hstep]

/-- A snapshot that something was cloned from stays, and so does everything. -/
lemma exec_deleteSnapshot_of_used (hplace : fleet.placeOf? rack identifier.parent = some resolution)
    (ha : rack resolution.appliance.id = some a) (online : a.offline = false)
    (hfound : a.snapshots.find? identifier.fullPath = some snapshot)
    (hused : snapshot.clones ≠ []) : ∃ text,
      (fleet.deleteSnapshot id).run.exec rack = (.error (.failedPrecondition text), rack) := by
  rw [exec_deleteSnapshot somebody hid hplace ha online,
    Simulated.destroySnapshot_of_used hfound hused, Rack.set_eq_self ha]
  exact ⟨_, rfl⟩

/-- Otherwise it is gone. -/
lemma exec_deleteSnapshot_of_unused
    (hplace : fleet.placeOf? rack identifier.parent = some resolution)
    (ha : rack resolution.appliance.id = some a) (online : a.offline = false)
    (hunused : ∀ snapshot, a.snapshots.find? identifier.fullPath = some snapshot →
      snapshot.clones = []) :
    (fleet.deleteSnapshot id).run.exec rack = (.ok (), rack.set resolution.appliance.id
      { a with snapshots := a.snapshots.erase identifier.fullPath }) := by
  rw [exec_deleteSnapshot somebody hid hplace ha online]
  cases hfound : a.snapshots.find? identifier.fullPath with
  | none =>
    rw [Simulated.destroySnapshot_of_none hfound, Catalog.erase_of_none hfound]
    rfl
  | some snapshot =>
    rw [Simulated.destroySnapshot_of_unused hfound (hunused snapshot hfound)]
    rfl

end

/-- A text that names no snapshot counts as deleted. -/
lemma deleteSnapshot_of_malformed
    (hid : ∀ identifier, Identifier.decodeSnapshot id ≠ .ok identifier) (rack : Rack) :
    (fleet.deleteSnapshot id).run.exec rack = (.ok (), rack) := by
  have hread : ∃ fault, snapshotId id = .error fault := by
    unfold snapshotId readId
    cases hdecode : Identifier.decodeSnapshot id with
    | error defect => exact ⟨_, rfl⟩
    | ok identifier => exact absurd hdecode (hid identifier)
  obtain ⟨fault, hread⟩ := hread
  unfold deleteSnapshot
  rw [hread]
  rfl

/-! ## Which snapshot is meant -/

/-- The snapshot that an identifier means, and the appliance that has it: that of the named backend,
or, without a name, that of the first backend in configured order which has the filesystem. -/
inductive Means (fleet : Fleet) (rack : Rack) (identifier : Identifier) (appliance : ApplianceRef)
    (a : Simulated) (snapshot : Snapshot) : Prop where
  | named (name : String) (backend : Backend) (hname : identifier.backend = some name)
      (hfind : fleet.find? name = some backend) (mem : appliance ∈ backend.appliances)
      (here : rack appliance.id = some a)
      (found : a.snapshots.find? identifier.fullPath = some snapshot)
  | first (hname : identifier.backend = none)
      (addressed : fleet.Addresses rack identifier.parent appliance a)
      (found : a.snapshots.find? identifier.fullPath = some snapshot)

/-- A snapshot is where its filesystem is. -/
lemma Housed.means_iff (housed : fleet.Housed rack)
    (hid : Identifier.decodeSnapshot id = .ok identifier) :
    fleet.Means rack identifier appliance a snapshot ↔
      fleet.Addresses rack identifier.parent appliance a ∧
        a.snapshots.find? identifier.fullPath = some snapshot := by
  obtain ⟨hdecode, hsome⟩ := Identifier.decodeSnapshot_eq_ok_iff.1 hid
  obtain ⟨title, htitle⟩ := Option.isSome_iff_exists.1 hsome
  have hunmarked := (Identifier.decode_eq_ok_iff.1 hdecode).1.divisible.unmarked
  constructor
  · rintro (⟨name, backend, hname, hfind, mem, here, found⟩ | ⟨-, addressed, found⟩)
    · obtain ⟨single, b, hhoused⟩ := housed backend (List.mem_of_find?_eq_some hfind)
      obtain rfl : appliance = single := by simpa [hhoused.single] using mem
      obtain rfl : b = a := Option.some.inj (hhoused.here.symm.trans here)
      have hthere : b.filesystems.contains identifier.path = true := by
        by_contra hmissing
        rw [hhoused.rooted.find?_eq_none hhoused.filed htitle hunmarked
          (by simpa using hmissing)] at found
        cases found
      exact ⟨.named name backend hname hfind ⟨mem, here, hthere⟩, found⟩
    · exact ⟨addressed, found⟩
  · rintro ⟨haddressed, found⟩
    cases haddressed with
    | named name backend hname hfind holds =>
      exact .named name backend hname hfind holds.appliance_mem holds.here found
    | first before after backend hname split holds earlier =>
      exact .first hname (.first before after backend hname split holds earlier) found

/-- Something was cloned from the snapshot that is meant. -/
def Used (fleet : Fleet) (rack : Rack) (identifier : Identifier) : Prop :=
  ∃ appliance a snapshot, fleet.Means rack identifier appliance a snapshot ∧ snapshot.clones ≠ []

end Fleet

/-- The identifier of a snapshot that was taken reads as that of the path and the name that it was
asked for by. -/
lemma VolumeSnapshot.decode_id_of_taken (takes : a.Takes path name b snapshot) (filed : a.Filed)
    (hname : Identifier.checkBackendName backend.name = .ok ()) (hpath : path ≠ "")
    (hunmarked : '@' ∉ path.toList) (hne : name ≠ "") :
    Identifier.decodeSnapshot (VolumeSnapshot.of backend snapshot).id =
      .ok (.ofSnapshot backend.name path name) := by
  obtain ⟨hparent, htitle⟩ := takes.parts filed hunmarked
  rw [VolumeSnapshot.of, hparent, htitle]
  exact (Identifier.decodeSnapshot_ofSnapshot_iff hname hpath hunmarked).2 hne

/-! ## The result -/

namespace Fleet

/-- A snapshot that was taken, or found, and what becomes of it. -/
structure Taking (fleet : Fleet) (rack later : Rack) (id name : String) (taken : VolumeSnapshot)
    where
  identifier : Identifier
  backend : Backend
  appliance : ApplianceRef
  before : Simulated
  after : Simulated
  snapshot : Snapshot
  id_eq : Identifier.decodeVolume id = .ok identifier
  backend_mem : backend ∈ fleet.backends
  holds : backend.HoldsAt rack identifier.path appliance before
  addressed : fleet.Addresses rack identifier appliance before
  later_eq : later = rack.set appliance.id after
  there : after.snapshots.find? (identifier.path ++ "@" ++ name) = some snapshot
  taken_eq : taken = VolumeSnapshot.of backend snapshot
  /-- Asked for again, it is found as it is. -/
  again : (Operation.createSnapshot id name).exec fleet later = (.ok taken, later)
  /-- If it was there before, nothing has changed. -/
  reused : before.snapshots.contains (identifier.path ++ "@" ++ name) = true → later = rack
  /-- If it is new, it can be deleted by its identifier, and only its number is used up. -/
  undone : before.snapshots.contains (identifier.path ++ "@" ++ name) = false →
    (Operation.deleteSnapshot taken.id).exec fleet later =
      (.ok (), rack.set appliance.id { before with transaction := before.transaction + 1 })

/-- The second rack is the first without the snapshot that the identifier means, if there is one. -/
structure Freed (fleet : Fleet) (rack later : Rack) (identifier : Identifier) : Prop where
  gone : ∀ appliance a snapshot, ¬ fleet.Means later identifier appliance a snapshot
  addressed : ∀ appliance a, fleet.Addresses rack identifier.parent appliance a →
    later = rack.set appliance.id { a with snapshots := a.snapshots.erase identifier.fullPath }
  unaddressed : (∀ appliance a, ¬ fleet.Addresses rack identifier.parent appliance a) → later = rack

lemma Staffed.taking {taken : VolumeSnapshot} (staffed : fleet.Staffed rack)
    (somebody : fleet.backends ≠ [])
    (named : ∀ backend ∈ fleet.backends, Identifier.checkBackendName backend.name = .ok ())
    (distinct : fleet.Distinct)
    (h : (Operation.createSnapshot id name).exec fleet rack = (.ok taken, later)) :
    Nonempty (fleet.Taking rack later id name taken) := by
  obtain ⟨hname, identifier, ⟨backend, appliance, path⟩, -, -, hid, hplace, -⟩ :=
    of_createSnapshot h
  have hdecode := volumeId_eq_ok_iff.1 hid
  have hlegible : identifier.Legible :=
    (Identifier.decode_eq_ok_iff.1 (Identifier.decodeVolume_eq_ok_iff.1 hdecode).1).1
  have hpath := hlegible.divisible.path_ne
  have hunmarked : '@' ∉ identifier.path.toList := hlegible.divisible.unmarked
  obtain ⟨rfl, hmem, a, holds, haddressed⟩ := staffed.of_placeOf? hlegible hplace
  dsimp only at hmem holds haddressed
  obtain ⟨-, -, online, filed⟩ :=
    (staffed backend hmem).staffedBy holds.appliance_mem holds.here
  obtain ⟨b, snapshot, takes⟩ := a.exists_takes identifier.path name
  have hexec :=
    exec_createSnapshot hname hid hplace holds.here online holds.contains hunmarked takes
  have hreached := Operation.reached_exec (.createSnapshot id name) fleet rack
  rw [h] at hreached
  have hstaffed : fleet.Staffed later := staffed.reached hreached
  obtain ⟨hok, rfl⟩ := Prod.mk.inj (hexec.symm.trans h)
  obtain rfl := Except.ok.inj hok
  have online' : b.offline = false := takes.offline.trans online
  have hthere : b.filesystems.contains identifier.path = true := takes.filesystems ▸ holds.contains
  refine ⟨⟨identifier, backend, appliance, a, b, snapshot, hdecode, hmem, holds, haddressed, rfl,
    takes.found, rfl, ?again, fun hold => ?reused, fun hnew => ?undone⟩⟩
  case again =>
    have hsame := fleet.placeOf?_congr (by simpa using hpath)
      (Rack.has_set holds.here takes.filesystems takes.offline identifier.path)
    have hagain := exec_createSnapshot hname hid (hsame.trans hplace) (Rack.set_self ..) online'
      hthere hunmarked takes.again
    rw [Rack.set_set] at hagain
    exact hagain
  case reused =>
    cases takes with
    | old => exact Rack.set_eq_self holds.here
    | new hmissing => simp [Catalog.contains, hmissing] at hold
  case undone =>
    have hmissing : a.snapshots.find? (identifier.path ++ "@" ++ name) = none := by
      simpa [Catalog.contains] using hnew
    obtain ⟨hunused, herased⟩ := takes.erase hmissing
    have hsnapshot := VolumeSnapshot.decode_id_of_taken takes filed (named backend hmem) hpath
      hunmarked hname
    have hvolume : (Identifier.ofVolume backend.name identifier.path).Legible :=
      Identifier.legible_of_checkBackendName (named backend hmem)
        ⟨hpath, hunmarked, by rintro _ ⟨⟩⟩
    obtain ⟨_, hlater⟩ := hstaffed.placeOf?_of_addresses hvolume (.named backend.name backend rfl
      (distinct.find?_of_mem hmem) ⟨holds.appliance_mem, Rack.set_self .., hthere⟩)
    have hdelete := exec_deleteSnapshot_of_unused somebody hsnapshot hlater (Rack.set_self ..)
      online' fun other hother => by
        obtain rfl := Option.some.inj (takes.found.symm.trans hother)
        exact hunused
    rw [Rack.set_set] at hdelete
    rw [← herased]
    exact hdelete

section

variable (staffed : fleet.Staffed rack) (housed : fleet.Housed rack)
  (hid : Identifier.decodeSnapshot id = .ok identifier)

include staffed housed hid

lemma Staffed.deleteSnapshot_of_used (somebody : fleet.backends ≠ [])
    (h : fleet.Used rack identifier) : ∃ text, (Operation.deleteSnapshot id).exec fleet rack =
      (.error (.failedPrecondition text), rack) := by
  have hlegible := (Identifier.decode_eq_ok_iff.1 (Identifier.decodeSnapshot_eq_ok_iff.1 hid).1).1
  obtain ⟨appliance, a, snapshot, means, hused⟩ := h
  obtain ⟨haddressed, hfound⟩ := (housed.means_iff hid).1 means
  obtain ⟨backend, hmem, holds⟩ := haddressed.exists_holdsAt
  obtain ⟨-, -, online, -⟩ := (staffed backend hmem).staffedBy holds.appliance_mem holds.here
  obtain ⟨_, hplace⟩ := staffed.placeOf?_of_addresses hlegible.parent haddressed
  exact exec_deleteSnapshot_of_used somebody hid hplace holds.here online hfound hused

/-- Where the snapshot is taken away, the same appliance is still addressed, and it is not there. -/
lemma Staffed.freed (haddressed : fleet.Addresses rack identifier.parent appliance a)
    (hreached : rack.Reached later) (hlater : later = rack.set appliance.id
      { a with snapshots := a.snapshots.erase identifier.fullPath }) :
    fleet.Freed rack later identifier := by
  have hlegible : identifier.parent.Legible :=
    (Identifier.decode_eq_ok_iff.1 (Identifier.decodeSnapshot_eq_ok_iff.1 hid).1).1.parent
  obtain ⟨_, -, -, here, -⟩ := haddressed.exists_holdsAt
  refine ⟨fun other c snapshot means => ?_, fun other c hother => ?_, fun hnone => ?_⟩
  · obtain ⟨hother, hfound⟩ := ((housed.reached hreached).means_iff hid).1 means
    have hhas : later.has identifier.parent.path = rack.has identifier.parent.path := by
      funext one
      rw [hlater]
      refine Rack.has_set here ?_ ?_ _ one <;> rfl
    have hfirst := ((staffed.reached hreached).find?_addressed_iff hlegible).2 ⟨c, hother⟩
    rw [hhas, (staffed.find?_addressed_iff hlegible).2 ⟨a, haddressed⟩] at hfirst
    obtain rfl := Option.some.inj hfirst
    obtain ⟨_, -, -, hc, -⟩ := hother.exists_holdsAt
    rw [hlater, Rack.set_self] at hc
    obtain rfl := Option.some.inj hc
    rw [Catalog.find?_erase, if_pos rfl] at hfound
    cases hfound
  · obtain ⟨rfl, rfl⟩ := staffed.addresses_unique hlegible haddressed hother
    exact hlater
  · exact absurd haddressed (hnone appliance a)

lemma Staffed.deleteSnapshot_of_unused (somebody : fleet.backends ≠ [])
    (h : ¬ fleet.Used rack identifier) : ∃ later,
      (Operation.deleteSnapshot id).exec fleet rack = (.ok (), later) ∧
        fleet.Freed rack later identifier := by
  have hlegible : identifier.parent.Legible :=
    (Identifier.decode_eq_ok_iff.1 (Identifier.decodeSnapshot_eq_ok_iff.1 hid).1).1.parent
  by_cases haddressed : ∃ appliance a, fleet.Addresses rack identifier.parent appliance a
  · obtain ⟨appliance, a, haddressed⟩ := haddressed
    obtain ⟨backend, hmem, holds⟩ := haddressed.exists_holdsAt
    obtain ⟨-, -, online, -⟩ := (staffed backend hmem).staffedBy holds.appliance_mem holds.here
    obtain ⟨_, hplace⟩ := staffed.placeOf?_of_addresses hlegible haddressed
    have hunused : ∀ snapshot, a.snapshots.find? identifier.fullPath = some snapshot →
        snapshot.clones = [] := by
      intro snapshot hfound
      by_contra hused
      exact h ⟨appliance, a, snapshot, (housed.means_iff hid).2 ⟨haddressed, hfound⟩, hused⟩
    have hexec : (Operation.deleteSnapshot id).exec fleet rack = _ :=
      exec_deleteSnapshot_of_unused somebody hid hplace holds.here online hunused
    have hreached := Operation.reached_exec (.deleteSnapshot id) fleet rack
    rw [hexec] at hreached
    exact ⟨_, hexec, staffed.freed housed hid haddressed hreached rfl⟩
  · have hnone : ∀ appliance a, ¬ fleet.Addresses rack identifier.parent appliance a :=
      fun appliance a h => haddressed ⟨appliance, a, h⟩
    refine ⟨rack, exec_deleteSnapshot_of_none somebody hid
      (staffed.placeOf?_of_unheld hlegible hnone), ?_, fun appliance a h => ?_, fun _ => rfl⟩
    · exact fun appliance a snapshot means =>
        hnone appliance a ((housed.means_iff hid).1 means).1
    · exact absurd h (hnone appliance a)

end

end Fleet

/-- Wherever operations have got, with one appliance on line and in good order for each backend.  A
snapshot that was taken is there, and asking for it again gives the same and changes nothing; if it
was new, deleting it leaves all as it was but for the number of the last transaction.  A text that
names no snapshot counts as deleted.  Any other deletion is refused just if something was cloned
from the snapshot that is meant, and then changes nothing; else it succeeds, nothing but the
snapshot is taken away, and there is no such snapshot any more. -/
theorem snapshot_retries (fleet : Fleet) (somebody : fleet.backends ≠ [])
    (named : ∀ backend ∈ fleet.backends, Identifier.checkBackendName backend.name = .ok ())
    (nodup : (fleet.backends.map Backend.name).Nodup) (start rack : Rack)
    (staffed : fleet.Staffed start) (housed : fleet.Housed start) (reached : start.Reached rack) :
    (∀ id name taken later,
      (Operation.createSnapshot id name).exec fleet rack = (.ok taken, later) →
        Nonempty (fleet.Taking rack later id name taken)) ∧
    (∀ id, (∀ identifier, Identifier.decodeSnapshot id ≠ .ok identifier) →
      (Operation.deleteSnapshot id).exec fleet rack = (.ok (), rack)) ∧
    ∀ id identifier, Identifier.decodeSnapshot id = .ok identifier →
      ((∃ text, (Operation.deleteSnapshot id).exec fleet rack =
        (.error (.failedPrecondition text), rack)) ↔ fleet.Used rack identifier) ∧
      (¬ fleet.Used rack identifier → ∃ later,
        (Operation.deleteSnapshot id).exec fleet rack = (.ok (), later) ∧
          fleet.Freed rack later identifier) := by
  have hstaffed := staffed.reached reached
  have hhoused := housed.reached reached
  refine ⟨fun id name taken later => hstaffed.taking somebody named (.of_names named nodup),
    fun id hid => ?_, fun id identifier hid => ⟨⟨?_, ?_⟩, ?_⟩⟩
  · exact Fleet.deleteSnapshot_of_malformed hid rack
  · rintro ⟨text, hrefused⟩
    by_contra hunused
    obtain ⟨later, hdone, -⟩ := hstaffed.deleteSnapshot_of_unused hhoused hid somebody hunused
    cases hdone.symm.trans hrefused
  · exact hstaffed.deleteSnapshot_of_used hhoused hid somebody
  · exact hstaffed.deleteSnapshot_of_unused hhoused hid somebody

end

namespace Pools

lemma housed : fleet.Housed rack := by
  intro backend hmem
  obtain ⟨appliance, a, single, here, -, filed⟩ := staffed backend hmem
  exact ⟨appliance, a, single, here, filed, Simulated.rooted_of_empty (fresh _ a here)⟩

/-- A snapshot whose name has both marks in it. -/
def labelled : VolumeSnapshot :=
  VolumeSnapshot.of (backend "one" "pool" 0)
    ((holding 0 [("pool", 0), ("pool/v", 5)]).nextSnapshot "pool/v" "a:b@c")

/-- It is taken, asked for again, and deleted by its identifier. -/
theorem snapshot_retries_marked :
    fleet.backends ≠ [] ∧
    (∀ backend ∈ fleet.backends, Identifier.checkBackendName backend.name = .ok ()) ∧
    (fleet.backends.map Backend.name).Nodup ∧ fleet.Staffed rack ∧ fleet.Housed rack ∧
    rack.Reached rack ∧ labelled.id = "one:pool/v@a:b@c" ∧
    ∃ later, (Operation.createSnapshot "one:pool/v" "a:b@c").exec fleet rack =
        (.ok labelled, later) ∧
      (Operation.createSnapshot "one:pool/v" "a:b@c").exec fleet later = (.ok labelled, later) ∧
      ∃ id a, rack id = some a ∧ (Operation.deleteSnapshot labelled.id).exec fleet later =
        (.ok (), rack.set id { a with transaction := a.transaction + 1 }) := by
  have somebody : fleet.backends ≠ [] := by simp [fleet]
  have named : ∀ backend ∈ fleet.backends, Identifier.checkBackendName backend.name = .ok () := by
    decide
  have nodup : (fleet.backends.map Backend.name).Nodup := by decide
  have htaken : (Operation.createSnapshot "one:pool/v" "a:b@c").exec fleet rack =
      (.ok labelled, ((Operation.createSnapshot "one:pool/v" "a:b@c").exec fleet rack).2) := rfl
  obtain ⟨htaking, -⟩ :=
    snapshot_retries fleet somebody named nodup rack rack staffed housed .refl
  obtain ⟨taking⟩ := htaking _ _ _ _ htaken
  have hnew :
      taking.before.snapshots.contains (taking.identifier.path ++ "@" ++ "a:b@c") = false := by
    rw [fresh _ _ taking.holds.here]
    rfl
  exact ⟨somebody, named, nodup, staffed, housed, .refl, rfl, _, htaken, taking.again,
    taking.appliance.id, taking.before, taking.holds.here, taking.undone hnew⟩

end Pools
end StorageFleet
