import StorageFleet.Operation
import StorageFleet.Proofs.Rack.Operation
import StorageFleet.Proofs.Rack.Removal
import StorageFleet.Proofs.Rack.Site

/-!
# What operations do to filesystems

The filesystems of a rack are `Rack.filesystems?`.  For each operation this module says how it ends
and what becomes of them.  A volume that was created has a `Creation`, which names the filesystem
that holds it; a volume gets a new size, or is deleted, on the appliance that has its path.  An
operation that fails, and any that has to do with snapshots only, keeps the filesystems as they are
(`Plan.Keeps`).
-/

namespace StorageFleet

variable {fleet : Fleet} {rack later : Rack} {appliance : ApplianceRef} {path : String}
  {a b : Simulated} {fs : Filesystem} {id : String} {identifier : Identifier}
  {resolution : Resolution} {name zone wanted : Option String}

/-! ## The filesystems of a rack -/

namespace Rack

/-- The filesystems of each appliance. -/
def filesystems? (rack : Rack) (id : Nat) : Option (Catalog Filesystem) :=
  (rack id).map Simulated.filesystems

lemma filesystems?_of_some {id : Nat} (h : rack id = some a) :
    rack.filesystems? id = some a.filesystems := by
  rw [filesystems?, h]
  rfl

lemma filesystems?_set (rack : Rack) (id : Nat) (b : Simulated) :
    (rack.set id b).filesystems? = Function.update rack.filesystems? id (some b.filesystems) := by
  funext other
  by_cases hother : other = id
  · subst hother
    simp [filesystems?]
  · simp [filesystems?, set_of_ne hother, hother]

lemma filesystems?_set_of_eq {id : Nat} (h : rack id = some a)
    (same : b.filesystems = a.filesystems) : (rack.set id b).filesystems? = rack.filesystems? := by
  rw [filesystems?_set, same, ← filesystems?_of_some h, Function.update_eq_self]

lemma probe_eq_ok_iff : rack.probe path appliance = .ok fs ↔
    ∃ a, rack appliance.id = some a ∧ a.offline = false ∧ a.filesystems.find? path = some fs := by
  unfold probe
  cases h : rack appliance.id with
  | none => simp [answer, h]
  | some a =>
    rw [answer_of_some h]
    simp only [Option.some.injEq, exists_eq_left']
    cases hoffline : a.offline with
    | true => simp [Simulated.step, hoffline]
    | false =>
      cases hfound : a.filesystems.find? path <;>
        simp [Simulated.step, hoffline, Simulated.answer, Simulated.filesystem, hfound]

lemma exists_probe_of_has (h : rack.has path appliance = true) :
    ∃ fs, rack.probe path appliance = .ok fs := by
  unfold has at h
  cases hprobe : rack.probe path appliance with
  | ok fs => exact ⟨fs, rfl⟩
  | error fault => simp [hprobe, Except.isOk, Except.toBool] at h

/-- Without a path that an appliance has, just this path is missing there. -/
lemma filesystems?_without (h : rack.has path appliance = true) (ha : rack appliance.id = some a) :
    (rack.without path appliance).filesystems? =
      Function.update rack.filesystems? appliance.id (some (a.filesystems.erase path)) := by
  obtain ⟨_, ha', honline, hcontains⟩ := has_iff.1 h
  rw [ha] at ha'
  cases ha'
  rw [without, answer_of_some ha, filesystems?_set]
  simp [Simulated.step, honline, Simulated.answer, Simulated.destroyFilesystem, hcontains]

end Rack

/-! ## The place that a search finds -/

namespace Fleet

/-- Where a search finds its path. -/
def place? (fleet : Fleet) (rack : Rack) (name zone path : Option String) : Option Resolution :=
  (fleet.candidates name zone).findSome? (rack.home? path)

/-- Where the path of an identifier is found. -/
def placeOf? (fleet : Fleet) (rack : Rack) (identifier : Identifier) : Option Resolution :=
  fleet.place? rack identifier.backend none (some identifier.path)

lemma exec_select (fleet : Fleet) (rack : Rack) (name zone path : Option String) :
    ∃ found, (fleet.select name zone path).run.exec rack = (found, rack) ∧
      found.toOption = fleet.place? rack name zone path := by
  have halike : ∀ backend ∈ fleet.candidates name zone, Rack.Alike (· = rack) rack path backend :=
    fun backend _ => rack.alike_self path backend
  obtain ⟨found, hleads, hfound, -⟩ := select_leads halike
  exact ⟨found, hleads.exec_eq rfl, hfound⟩

/-- A search finds its place, or fails. -/
lemma exec_select_cases (fleet : Fleet) (rack : Rack) (name zone path : Option String) :
    (∃ fault, (fleet.select name zone path).run.exec rack = (.error fault, rack) ∧
      fleet.place? rack name zone path = none) ∨
    ∃ resolution, (fleet.select name zone path).run.exec rack = (.ok resolution, rack) ∧
      fleet.place? rack name zone path = some resolution := by
  obtain ⟨found, hexec, hfound⟩ := fleet.exec_select rack name zone path
  cases found with
  | error fault => exact .inl ⟨fault, hexec, hfound.symm⟩
  | ok resolution => exact .inr ⟨resolution, hexec, hfound.symm⟩

end Fleet

/-- An appliance of the fleet that has the path. -/
structure Resolution.Stands (resolution : Resolution) (fleet : Fleet) (rack : Rack) : Prop where
  backend_mem : resolution.backend ∈ fleet.backends
  appliance_mem : resolution.appliance ∈ resolution.backend.appliances
  path_ne : resolution.path ≠ ""
  has : rack.has resolution.path resolution.appliance = true

lemma Fleet.stands_of_place? (h : fleet.place? rack name zone wanted = some resolution) :
    resolution.Stands fleet rack := by
  obtain ⟨backend, hmem, hhome⟩ := List.exists_of_findSome?_eq_some h
  obtain ⟨rfl, happliance, hdataset, has⟩ := Rack.of_home? hhome
  rw [Rack.home?_of_ok hdataset] at hhome
  obtain ⟨_, hholder, -⟩ := Option.map_eq_some_iff.1 hhome
  exact ⟨candidates_subset hmem, happliance, Rack.ne_empty_of_holder? hholder, has⟩

lemma Fleet.volumeId_eq_ok_iff :
    volumeId id = .ok identifier ↔ Identifier.decodeVolume id = .ok identifier := by
  unfold volumeId readId
  cases Identifier.decodeVolume id <;> simp

/-- The place of a path has this path. -/
lemma Fleet.path_of_place? (hpath : path.isEmpty = false)
    (h : fleet.place? rack name zone (some path) = some resolution) : resolution.path = path := by
  obtain ⟨backend, -, hhome⟩ := List.exists_of_findSome?_eq_some h
  obtain ⟨-, -, hdataset, -⟩ := Rack.of_home? hhome
  rw [Backend.datasetOrDefault_of_nonempty hpath] at hdataset
  exact (Except.ok.inj hdataset).symm

/-- The place of an identifier is where its path is. -/
lemma Fleet.path_of_placeOf? (hpath : identifier.path.isEmpty = false)
    (h : fleet.placeOf? rack identifier = some resolution) :
    resolution.path = identifier.path :=
  path_of_place? hpath h

/-! Where the identifier names a backend, this is the one that is asked. -/

lemma Fleet.candidates_named {fleet : Fleet} {name : String} (hname : name ≠ "") :
    fleet.candidates (some name) none = (fleet.find? name).toList := by
  have hgiven : given (some name) = some name := Option.filter_some_pos (by simpa using hname)
  have hfits : ∀ backend, fits (given none) backend = true := fun _ => rfl
  simp [candidates, hgiven, hfits]

lemma Fleet.addressed_named {backend : Backend} {name : String} (hname : name ≠ "")
    (h : fleet.find? name = some backend) (path : String) :
    fleet.addressed (.ofVolume name path) = backend.appliances := by
  simp [addressed, Identifier.ofVolume, candidates_named hname, h]

lemma Fleet.placeOf?_named {name : String} (hname : name ≠ "") (hpath : path ≠ "") :
    fleet.placeOf? rack (.ofVolume name path) = (fleet.find? name).bind fun backend =>
      (rack.holder? path backend).map fun appliance => ⟨backend, appliance, path⟩ := by
  have hdataset : ∀ backend : Backend, backend.datasetOrDefault (some path) = .ok path :=
    Backend.datasetOrDefault_of_nonempty (by simpa using hpath)
  unfold placeOf? place?
  rw [Identifier.ofVolume, candidates_named hname]
  cases fleet.find? name with
  | none => rfl
  | some backend =>
    simp only [Option.toList_some, List.findSome?_cons, List.findSome?_nil,
      Rack.home?_of_ok (hdataset backend), Option.bind_some]
    cases rack.holder? path backend <;> rfl

/-! ## Creation -/

namespace Recipe

variable {recipe : Recipe}

lemma takeIn_filesystems : (recipe.takeIn a).2.filesystems = a.filesystems := by
  cases htaken : recipe.taken with
  | none => rw [takeIn_of_none htaken]
  | some snapshot =>
    rw [takeIn_of_some htaken]
    rcases a.step_createSnapshot_cases snapshot with ⟨_, hstep, -⟩ | ⟨_, _, hstep, -⟩ <;> rw [hstep]

/-- Who makes the filesystem adds it where there was none. -/
lemma makeIn_filesystems {capacity : Option Nat} (h : recipe.makeIn capacity a = (.ok (), b)) :
    a.filesystems.find? recipe.target = none ∧ b.filesystems =
      a.filesystems.insert recipe.target
        (Simulated.freshFilesystem recipe.target (capacity.getD 0)) := by
  have hfree : ∀ path, a.filesystems.contains path = false → a.filesystems.find? path = none := by
    intro path hcontains
    simpa [Catalog.contains] using hcontains
  unfold makeIn at h
  cases horigin : recipe.origin with
  | none =>
    simp only [horigin] at h
    rcases step_createFilesystem_cases a recipe.target with ⟨fault, hfails⟩ | ⟨-, hcontains, hmakes⟩
    · rw [hfails] at h
      cases h
    · rw [hmakes] at h
      cases h
      exact ⟨hfree _ hcontains, rfl⟩
  | some path =>
    simp only [horigin] at h
    rcases step_cloneSnapshot_cases a path recipe.target with
      ⟨fault, hfails⟩ | ⟨snapshot, -, -, hcontains, hmakes⟩
    · rw [hfails] at h
      cases h
    · rw [hmakes] at h
      cases h
      exact ⟨hfree _ hcontains, rfl⟩

lemma verdict_cases (recipe : Recipe) (resolution : Resolution) (request : CreateVolumeRequest)
    (size : Nat) : (∃ fault, recipe.verdict resolution request size = .error fault) ∨
      recipe.verdict resolution request size =
        .ok (Volume.of resolution.backend recipe.target size request.parameters) := by
  unfold verdict
  cases request.capacity.filter fun wanted => size ≠ wanted with
  | some wanted => exact .inl ⟨_, rfl⟩
  | none => exact .inr rfl

/-- Making the filesystem fails, adds it, or finds it. -/
lemma exec_making_cases (request : CreateVolumeRequest)
    (h : rack resolution.appliance.id = some a) :
    (∃ fault, (recipe.making resolution request).exec rack = (.error fault, rack)) ∨
    (∃ b, recipe.Made a request.capacity b ∧ (recipe.making resolution request).exec rack =
      (.ok (Volume.of resolution.backend recipe.target (request.capacity.getD 0)
        request.parameters), rack.set resolution.appliance.id b)) ∨
    ∃ fs, a.filesystems.find? recipe.target = some fs ∧
      (recipe.making resolution request).exec rack =
        (.ok (Volume.of resolution.backend recipe.target fs.quota request.parameters), rack) := by
  rcases recipe.makeIn_cases a with ⟨fault, hfails⟩ | hmakes
  · rw [making, Plan.exec_bind, exec_make h, hfails, Rack.set_eq_self h, conclude_run]
    dsimp only
    split_ifs
    · rw [Plan.exec, Rack.answer_getFilesystem]
      cases hprobe : rack.probe recipe.target resolution.appliance with
      | error fault => exact .inl ⟨fault, rfl⟩
      | ok fs =>
        rcases recipe.verdict_cases resolution request fs.quota with ⟨fault, hverdict⟩ | hverdict
        · exact .inl ⟨fault, congrArg (·, rack) hverdict⟩
        · obtain ⟨_, ha, -, hfound⟩ := Rack.probe_eq_ok_iff.1 hprobe
          rw [h] at ha
          cases ha
          exact .inr (.inr ⟨fs, hfound, congrArg (·, rack) hverdict⟩)
    · exact .inl ⟨fault, rfl⟩
  · obtain ⟨b, made⟩ := hmakes request.capacity
    exact .inr (.inl ⟨b, made, by rw [exec_making_of_made h made, verdict_own]⟩)

end Recipe

/-- How a volume was created: on an appliance that had its filesystem already, or did not have it
and has it now.  The snapshot that it may be cloned from is of no interest here. -/
structure Fleet.Creation (fleet : Fleet) (request : CreateVolumeRequest) (rack later : Rack)
    (volume : Volume) where
  backend : Backend
  appliance : ApplianceRef
  path : String
  size : Nat
  found : Simulated
  left : Simulated
  backend_mem : backend ∈ fleet.backends
  appliance_mem : appliance ∈ backend.appliances
  here : rack appliance.id = some found
  online : left.offline = false
  later_eq : later = rack.set appliance.id left
  below : ∃ dataset, path = dataset ++ "/" ++ request.name
  volume_eq : volume = Volume.of backend path size request.parameters
  filesystems :
    (∃ fs, found.filesystems.find? path = some fs ∧ fs.quota = size) ∧
      left.filesystems = found.filesystems ∨
    found.filesystems.find? path = none ∧ size = request.capacity.getD 0 ∧
      left.filesystems =
        found.filesystems.insert path (Simulated.freshFilesystem path size)

namespace Fleet

variable {request : CreateVolumeRequest} {volume : Volume}

/-- The appliance that a volume was created on has its path. -/
lemma Creation.has (creation : fleet.Creation request rack later volume) :
    later.has creation.path creation.appliance = true := by
  have hthere : later creation.appliance.id = some creation.left :=
    (congrFun creation.later_eq _).trans (Rack.set_self ..)
  refine Rack.has_iff.2 ⟨creation.left, hthere, creation.online, ?_⟩
  rcases creation.filesystems with ⟨⟨fs, hfs, -⟩, hsame⟩ | ⟨-, -, hinsert⟩
  · rw [hsame, Catalog.contains, hfs]
    rfl
  · rw [hinsert]
    exact Simulated.contains_insert.2 (.inl rfl)

/-- What following a recipe comes to. -/
lemma carryOut_cases {recipe : Recipe} (stands : resolution.Stands fleet rack)
    (below : ∃ dataset, recipe.target = dataset ++ "/" ++ request.name) :
    (∃ fault later, (recipe.carryOut resolution request).exec rack = (.error fault, later) ∧
      later.filesystems? = rack.filesystems?) ∨
    ∃ volume later, (recipe.carryOut resolution request).exec rack = (.ok volume, later) ∧
      Nonempty (fleet.Creation request rack later volume) := by
  obtain ⟨a, here, online, -⟩ := Rack.has_iff.1 stands.has
  have htaken : (recipe.takeIn a).2.filesystems = a.filesystems := Recipe.takeIn_filesystems
  have hready : (recipe.takeIn a).2.offline = false :=
    Recipe.takeIn_grows.offline.trans online
  have hthere : rack.set resolution.appliance.id (recipe.takeIn a).2 resolution.appliance.id =
      some (recipe.takeIn a).2 := Rack.set_self ..
  have hsame := Rack.filesystems?_set_of_eq here htaken
  cases houtcome : (recipe.takeIn a).1 with
  | error fault =>
    refine .inl ⟨fault, _, ?_, hsame⟩
    rw [Recipe.carryOut, Plan.exec_bind, Recipe.exec_take here, houtcome]
    rfl
  | ok _ =>
    rw [Recipe.exec_carryOut here houtcome]
    rcases Recipe.exec_making_cases request hthere with
      ⟨fault, hexec⟩ | ⟨b, made, hexec⟩ | ⟨fs, hfound, hexec⟩
    · exact .inl ⟨fault, _, hexec, hsame⟩
    · obtain ⟨hfree, hinsert⟩ := Recipe.makeIn_filesystems made.outcome
      rw [htaken] at hfree hinsert
      exact .inr ⟨_, _, hexec, ⟨{
        backend := resolution.backend
        appliance := resolution.appliance
        path := recipe.target
        size := request.capacity.getD 0
        found := a
        left := b
        backend_mem := stands.backend_mem
        appliance_mem := stands.appliance_mem
        here
        online := made.grows.offline.trans hready
        later_eq := Rack.set_set ..
        below
        volume_eq := rfl
        filesystems := .inr ⟨hfree, rfl, hinsert⟩ }⟩⟩
    · rw [htaken] at hfound
      exact .inr ⟨_, _, hexec, ⟨{
        backend := resolution.backend
        appliance := resolution.appliance
        path := recipe.target
        size := fs.quota
        found := a
        left := (recipe.takeIn a).2
        backend_mem := stands.backend_mem
        appliance_mem := stands.appliance_mem
        here
        online := hready
        later_eq := rfl
        below
        volume_eq := rfl
        filesystems := .inl ⟨⟨fs, hfound, rfl⟩, htaken⟩ }⟩⟩

/-- A creation fails without touching any filesystem, or there is a volume. -/
theorem createVolume_cases (fleet : Fleet) (request : CreateVolumeRequest) (rack : Rack) :
    (∃ fault later, (fleet.createVolume request).run.exec rack = (.error fault, later) ∧
      later.filesystems? = rack.filesystems?) ∨
    ∃ volume later, (fleet.createVolume request).run.exec rack = (.ok volume, later) ∧
      Nonempty (fleet.Creation request rack later volume) := by
  rw [createVolume_run]
  cases hblueprint : request.blueprint with
  | error fault => exact .inl ⟨fault, rack, rfl, rfl⟩
  | ok blueprint =>
    dsimp only
    rw [Plan.exec_bind]
    rcases fleet.exec_select_cases rack blueprint.backend request.zone blueprint.path with
      ⟨fault, hselect, -⟩ | ⟨resolution, hselect, hplace⟩
    · rw [hselect]
      exact .inl ⟨fault, rack, rfl, rfl⟩
    · rw [hselect]
      dsimp only [carryOut]
      cases hrecipe : blueprint.recipe resolution with
      | error fault => exact .inl ⟨fault, rack, rfl, rfl⟩
      | ok recipe =>
        exact carryOut_cases (stands_of_place? hplace) (request.of_recipe hblueprint hrecipe).1

end Fleet

/-! ## Growth and look-up -/

/-- The appliance after the filesystem at a path was given another size. -/
def Simulated.resized (a : Simulated) (path : String) (fs : Filesystem) (quota : Nat) :
    Simulated :=
  { a with filesystems := a.filesystems.insert path { fs with quota } }

namespace Fleet

/-- A volume is given a new size where it is, or nothing changes. -/
theorem expandVolume_cases (fleet : Fleet) (id : String) (capacity : Nat) (rack : Rack) :
    (∃ fault, (fleet.expandVolume id capacity).run.exec rack = (.error fault, rack)) ∨
    ∃ identifier resolution a fs, volumeId id = .ok identifier ∧
      fleet.placeOf? rack identifier = some resolution ∧
      rack resolution.appliance.id = some a ∧ a.filesystems.find? resolution.path = some fs ∧
      (fleet.expandVolume id capacity).run.exec rack =
        (.ok capacity, rack.set resolution.appliance.id
          (a.resized resolution.path fs capacity)) := by
  unfold expandVolume
  by_cases hzero : capacity = 0
  · rw [if_pos hzero]
    exact .inl ⟨_, rfl⟩
  rw [if_neg hzero]
  cases hid : volumeId id with
  | error fault => exact .inl ⟨fault, rfl⟩
  | ok identifier =>
    rw [Attempt.exec_bind_of_ok (Attempt.exec_ofExcept ..)]
    rcases fleet.exec_select_cases rack identifier.backend none (some identifier.path) with
      ⟨fault, hselect, -⟩ | ⟨resolution, hselect, hplace⟩
    · exact .inl ⟨fault, Attempt.exec_bind_of_error hselect⟩
    · obtain ⟨fs, hprobe⟩ := Rack.exists_probe_of_has (stands_of_place? hplace).has
      obtain ⟨a, ha, honline, hfound⟩ := Rack.probe_eq_ok_iff.1 hprobe
      refine .inr ⟨identifier, resolution, a, fs, rfl, hplace, ha, hfound, ?_⟩
      have hupdate : (Attempt.ask resolution.appliance
          (.updateFilesystem resolution.path (some capacity))).run.exec rack =
            (.ok (), rack.set resolution.appliance.id
              (a.resized resolution.path fs capacity)) := by
        rw [Attempt.exec_ask, Rack.answer_of_some ha]
        simp [Simulated.step, honline, Simulated.answer, Simulated.updateFilesystem, hfound,
          Simulated.resized]
      exact (Attempt.exec_bind_of_ok hselect).trans (Attempt.exec_bind_of_ok hupdate)

/-- A volume that has a place is found there. -/
theorem validateVolume_of_some (hid : volumeId id = .ok identifier)
    (hplace : fleet.placeOf? rack identifier = some resolution) :
    ∃ fs, rack.probe resolution.path resolution.appliance = .ok fs ∧
      (fleet.validateVolume id).run.exec rack =
        (.ok (Volume.of resolution.backend resolution.path fs.quota {}), rack) := by
  obtain ⟨fs, hprobe⟩ := Rack.exists_probe_of_has (stands_of_place? hplace).has
  refine ⟨fs, hprobe, ?_⟩
  obtain ⟨found, hselect, hfound⟩ :=
    fleet.exec_select rack identifier.backend none (some identifier.path)
  obtain rfl : found = .ok resolution := by
    rw [show fleet.place? rack _ none _ = some resolution from hplace] at hfound
    cases found with
    | error fault => cases hfound
    | ok other => exact congrArg Except.ok (Option.some.inj hfound)
  unfold validateVolume
  rw [hid, Attempt.exec_bind_of_ok (Attempt.exec_ofExcept ..)]
  refine (Attempt.exec_bind_of_ok hselect).trans (Attempt.exec_bind_of_ok ?_)
  rw [Attempt.exec_ask, Rack.answer_getFilesystem, hprobe]

/-- A volume without a place is not found. -/
theorem validateVolume_of_none (hid : volumeId id = .ok identifier)
    (hplace : fleet.placeOf? rack identifier = none) :
    ∃ fault, (fleet.validateVolume id).run.exec rack = (.error fault, rack) := by
  rcases fleet.exec_select_cases rack identifier.backend none (some identifier.path) with
    ⟨fault, hselect, -⟩ | ⟨resolution, -, hother⟩
  · refine ⟨fault, ?_⟩
    unfold validateVolume
    rw [hid, Attempt.exec_bind_of_ok (Attempt.exec_ofExcept ..)]
    exact Attempt.exec_bind_of_error hselect
  · rw [placeOf?, hother] at hplace
    cases hplace

lemma validateVolume_of_error {fault : Fault} (hid : volumeId id = .error fault) (rack : Rack) :
    (fleet.validateVolume id).run.exec rack = (.error fault, rack) := by
  unfold validateVolume
  rw [hid]
  rfl

end Fleet

/-! ## Plans that keep what is seen of a rack -/

/-- What is seen of the rack is the same after the plan as before. -/
def Plan.Keeps (view : Rack → γ) (plan : Plan α) : Prop :=
  ∀ rack, view (plan.exec rack).2 = view rack

namespace Plan

variable {view : Rack → γ} {plan : Plan α} {next : α → Plan β}

lemma Keeps.bind (h : plan.Keeps view) (hnext : ∀ found, (next found).Keeps view) :
    (plan.bind next).Keeps view := by
  intro rack
  rw [exec_bind, hnext, h]

lemma keeps_done (view : Rack → γ) (result : α) : (Plan.done result).Keeps view :=
  fun _ => rfl

end Plan

namespace Attempt

variable {view : Rack → γ} {attempt : Attempt α}

lemma keeps_bind {next : α → Attempt β} (h : attempt.run.Keeps view)
    (hnext : ∀ found, (next found).run.Keeps view) : (attempt >>= next).run.Keeps view := by
  rw [run_bind]
  refine h.bind fun outcome => ?_
  cases outcome with
  | error fault => exact Plan.keeps_done view _
  | ok found => exact hnext found

lemma keeps_outcome_bind {next : Except Fault α → Attempt β} (h : attempt.run.Keeps view)
    (hnext : ∀ outcome, (next outcome).run.Keeps view) :
    (attempt.outcome >>= next).run.Keeps view := by
  rw [run_outcome_bind]
  exact h.bind hnext

/-- A call keeps the filesystems if the appliance that is called keeps its own. -/
lemma keeps_filesystems {asked : Call}
    (same : ∀ a : Simulated, (a.step asked).2.filesystems = a.filesystems) :
    (ask appliance asked).run.Keeps Rack.filesystems? := by
  intro rack
  rw [exec_ask]
  cases ha : rack appliance.id with
  | none => rw [Rack.answer, ha]
  | some a => rw [Rack.answer_of_some ha, Rack.filesystems?_set_of_eq ha (same a)]

/-- A call that never changes an appliance keeps everything. -/
lemma keeps_all {asked : Call} (same : ∀ a : Simulated, (a.step asked).2 = a) :
    (ask appliance asked).run.Keeps fun rack => rack := by
  intro rack
  rw [exec_ask]
  cases ha : rack appliance.id with
  | none => rw [Rack.answer, ha]
  | some a => rw [Rack.answer_of_some ha, same, Rack.set_eq_self ha]

end Attempt

namespace Simulated

lemma filesystems_createSnapshot (a : Simulated) (path : String) :
    (a.step (.createSnapshot path)).2.filesystems = a.filesystems := by
  rcases a.step_createSnapshot_cases path with ⟨_, hstep, -⟩ | ⟨_, _, hstep, -⟩ <;> rw [hstep]

lemma filesystems_destroySnapshot (a : Simulated) (path : String) :
    (a.step (.destroySnapshot path)).2.filesystems = a.filesystems := by
  unfold step
  split_ifs
  · rfl
  · change (a.destroySnapshot path).2.filesystems = _
    unfold destroySnapshot
    cases a.snapshots.find? path with
    | none => rfl
    | some snapshot =>
      dsimp only
      split_ifs <;> rfl

lemma step_getSnapshot (a : Simulated) (path : String) : (a.step (.getSnapshot path)).2 = a := by
  unfold step
  split_ifs <;> rfl

end Simulated

namespace Rack

lemma answer_getSnapshot (rack : Rack) (appliance : ApplianceRef) (path : String) :
    (rack.answer appliance (.getSnapshot path)).2 = rack ∧
      ∀ snapshot, (rack.answer appliance (.getSnapshot path)).1 = .ok snapshot →
        ∃ a, rack appliance.id = some a ∧ a.snapshots.find? path = some snapshot := by
  refine ⟨Attempt.keeps_all (fun a => a.step_getSnapshot path) rack, fun snapshot hok => ?_⟩
  cases ha : rack appliance.id with
  | none =>
    rw [answer, ha] at hok
    cases hok
  | some a =>
    rw [answer_of_some ha] at hok
    refine ⟨a, rfl, ?_⟩
    cases hoffline : a.offline <;> cases hfound : a.snapshots.find? path <;>
      simp_all [Simulated.step, Simulated.answer, Simulated.snapshot]

end Rack

namespace Fleet

lemma resolve_keeps (fleet : Fleet) (identifier : Identifier) (view : Rack → γ) :
    (fleet.resolve identifier).run.Keeps view := by
  intro rack
  obtain ⟨found, hexec, -⟩ :=
    fleet.exec_select rack identifier.backend none (some identifier.path)
  exact congrArg (fun done => view done.2) hexec

lemma resolveExisting_keeps (fleet : Fleet) (identifier : Identifier) (view : Rack → γ) :
    (fleet.resolveExisting identifier).run.Keeps view := by
  refine Attempt.keeps_outcome_bind (fleet.resolve_keeps identifier view) fun outcome => ?_
  cases outcome with
  | ok resolution => exact Plan.keeps_done view _
  | error fault =>
    dsimp only
    split_ifs <;> exact Plan.keeps_done view _

/-- Taking a snapshot touches no filesystem. -/
theorem createSnapshot_keeps (fleet : Fleet) (id name : String) :
    (fleet.createSnapshot id name).run.Keeps Rack.filesystems? := by
  unfold createSnapshot
  split_ifs
  · exact Plan.keeps_done _ _
  · refine Attempt.keeps_bind (Plan.keeps_done _ _) fun identifier => ?_
    refine Attempt.keeps_bind (fleet.resolve_keeps identifier _) fun resolution => ?_
    refine Attempt.keeps_outcome_bind
      (Attempt.keeps_filesystems fun a => a.filesystems_createSnapshot _) fun taken => ?_
    refine Attempt.keeps_bind (Plan.keeps_done _ _) fun _ => ?_
    have hsame : ∀ (a : Simulated) path,
        (a.step (.getSnapshot path)).2.filesystems = a.filesystems :=
      fun a path => by rw [a.step_getSnapshot path]
    exact Attempt.keeps_bind (Attempt.keeps_filesystems fun a => hsame a _)
      fun snapshot => Plan.keeps_done _ _

/-- A snapshot that was asked for is there, on the appliance that has its volume. -/
theorem of_createSnapshot {name : String} {taken : VolumeSnapshot}
    (h : (fleet.createSnapshot id name).run.exec rack = (.ok taken, later)) :
    name ≠ "" ∧ ∃ identifier resolution a snapshot, volumeId id = .ok identifier ∧
      fleet.placeOf? rack identifier = some resolution ∧
      later resolution.appliance.id = some a ∧
      a.snapshots.find? (resolution.path ++ "@" ++ name) = some snapshot ∧
      taken = VolumeSnapshot.of resolution.backend snapshot := by
  unfold createSnapshot at h
  split_ifs at h with hname
  · cases h
  refine ⟨by simpa using hname, ?_⟩
  obtain ⟨identifier, _, hread, h⟩ := Attempt.exec_bind_eq_ok h
  obtain ⟨hid, rfl⟩ := Prod.mk.inj hread
  obtain ⟨resolution, _, hresolve, h⟩ := Attempt.exec_bind_eq_ok h
  rcases fleet.exec_select_cases rack identifier.backend none (some identifier.path) with
    ⟨fault, hselect, -⟩ | ⟨found, hselect, hplace⟩
  · cases hselect.symm.trans hresolve
  cases hselect.symm.trans hresolve
  rw [Attempt.exec_outcome_bind] at h
  obtain ⟨_, middle, -, h⟩ := Attempt.exec_bind_eq_ok h
  obtain ⟨snapshot, last, hget, hdone⟩ := Attempt.exec_bind_eq_ok h
  obtain ⟨hsame, hkept⟩ :=
    middle.answer_getSnapshot resolution.appliance (resolution.path ++ "@" ++ name)
  rw [Attempt.exec_ask] at hget
  obtain rfl : last = middle := by rw [← hsame, hget]
  obtain ⟨a, ha, hfound⟩ := hkept snapshot (by rw [hget])
  cases hdone
  exact ⟨identifier, resolution, a, snapshot, hid, hplace, ha, hfound, rfl⟩

/-- Removing a snapshot touches no filesystem. -/
theorem deleteSnapshot_keeps (fleet : Fleet) (id : String) :
    (fleet.deleteSnapshot id).run.Keeps Rack.filesystems? := by
  have hwarn : ∀ id, (warnNoSnapshot id).run.Keeps Rack.filesystems? := fun _ _ => rfl
  unfold deleteSnapshot
  split
  · exact fun _ => rfl
  · next identifier _ =>
    refine Attempt.keeps_bind (fleet.resolveExisting_keeps _ _) fun resolution => ?_
    cases resolution with
    | none => exact hwarn id
    | some resolution =>
      refine Attempt.keeps_outcome_bind
        (Attempt.keeps_filesystems fun a => a.filesystems_destroySnapshot _) fun outcome => ?_
      unfold snapshotDestroyed
      cases outcome with
      | ok _ => exact Plan.keeps_done _ _
      | error fault =>
        dsimp only
        split_ifs
        · exact hwarn id
        · exact Plan.keeps_done _ _
        · exact Plan.keeps_done _ _

end Fleet
end StorageFleet
