import StorageFleet.Proofs.Rack.Filing
import StorageFleet.Proofs.Volume.Effects
import StorageFleet.Proofs.Volume.Requests

/-!
# What a created volume is

A volume that was created is there: the appliance that was selected holds its filesystem, which has
the size that the volume tells and, if a size was asked for, this size.  Nothing else has come about
on the way but the snapshot that a copy of another volume is cloned from, and nothing that was there
before is gone or another.  A `Delivery` is the whole of it.

Who is selected and where the filesystem goes depends on what the volume is made from; the three
ways come apart in `of_blueprint`.  From there on they are alike: a request that is not given up
before takes a `Fleet.Course`, which comes to what its recipe comes to, and `Recipe.Followed` says
what that has done to the appliance.

Where the appliance refuses to make the filesystem since it exists, its size decides
(`exec_making_outcomes`): the volume is delivered if the size is the one that was asked for, and
else the request fails with both sizes.
-/

namespace StorageFleet

variable {fleet : Fleet} {rack later : Rack} {request : CreateVolumeRequest} {volume : Volume}
  {resolution : Resolution} {recipe : Recipe} {blueprint : Blueprint} {a b : Simulated}
  {capacity : Option Nat} {fault : Fault}

/-! ## Following a recipe -/

namespace Recipe

/-- What following a recipe has made of an appliance, which holds the filesystem then. -/
structure Followed (recipe : Recipe) (found left : Simulated) (size : Nat) : Prop where
  held : ∃ fs, left.filesystems.find? recipe.target = some fs ∧ fs.quota = size
  grows : found.Grows left
  filesystems : ∀ path, left.filesystems.contains path = true →
    found.filesystems.contains path = true ∨ path = recipe.target
  snapshots : ∀ path, left.snapshots.contains path = true →
    found.snapshots.contains path = true ∨ recipe.taken = some path

/-- An appliance that refuses to make a filesystem since it exists has it. -/
lemma exists_of_makeIn (h : (recipe.makeIn capacity a).1 = .error fault)
    (hexists : fault.isAlreadyExists = true) :
    a.offline = false ∧ ∃ fs, a.filesystems.find? recipe.target = some fs := by
  have hthere (hcontains : a.filesystems.contains recipe.target = true) :
      ∃ fs, a.filesystems.find? recipe.target = some fs :=
    Option.isSome_iff_exists.1 hcontains
  unfold makeIn Simulated.step at h
  by_cases honline : a.offline = true
  · simp only [honline, if_true] at h
    split at h <;> · cases h; cases hexists
  refine ⟨by simpa using honline, hthere ?_⟩
  cases horigin : recipe.origin with
  | none =>
    simp only [horigin, honline, Simulated.answer, Simulated.createFilesystem] at h
    by_contra hfree
    simp [hfree] at h
  | some path =>
    simp only [horigin, honline, Simulated.answer, Simulated.cloneSnapshot] at h
    by_contra hfree
    cases hsnapshot : a.snapshots.find? path with
    | none =>
      simp only [hsnapshot] at h
      cases h
      cases hexists
    | some snapshot => simp [hsnapshot, hfree] at h

/-- The filesystem is made, or it is refused, and nothing is changed.  If it is refused since it
exists, its size decides. -/
lemma exec_making_outcomes (request : CreateVolumeRequest)
    (h : rack resolution.appliance.id = some a) :
    (∃ b, recipe.Made a request.capacity b ∧ (recipe.making resolution request).exec rack =
      (.ok (Volume.of resolution.backend recipe.target (request.capacity.getD 0)
        request.parameters), rack.set resolution.appliance.id b)) ∨
    ∃ fault, (recipe.makeIn request.capacity a).1 = .error fault ∧
      (fault.isAlreadyExists = false ∧
        (recipe.making resolution request).exec rack = (.error fault, rack) ∨
      fault.isAlreadyExists = true ∧ ∃ fs, a.filesystems.find? recipe.target = some fs ∧
        (recipe.making resolution request).exec rack =
          (recipe.verdict resolution request fs.quota, rack)) := by
  rcases recipe.makeIn_cases a with ⟨fault, hfails⟩ | hmakes
  · have hrefused : (recipe.makeIn request.capacity a).1 = .error fault := by rw [hfails]
    refine .inr ⟨fault, hrefused, ?_⟩
    rw [making, Plan.exec_bind, exec_make h, hfails, Rack.set_eq_self h, conclude_run]
    dsimp only
    cases hexists : fault.isAlreadyExists with
    | false => exact .inl ⟨rfl, rfl⟩
    | true =>
      obtain ⟨honline, fs, hfs⟩ := exists_of_makeIn hrefused hexists
      have hprobe : rack.probe recipe.target resolution.appliance = .ok fs :=
        Rack.probe_eq_ok_iff.2 ⟨a, h, honline, hfs⟩
      refine .inr ⟨rfl, fs, hfs, ?_⟩
      rw [if_pos rfl, Plan.exec, Rack.answer_getFilesystem, hprobe]
      rfl
  · obtain ⟨b, made⟩ := hmakes request.capacity
    exact .inl ⟨b, made, by rw [exec_making_of_made h made, verdict_own]⟩

/-- The volume of a size is delivered just if no other size was asked for. -/
lemma of_verdict_ok {size : Nat} (h : recipe.verdict resolution request size = .ok volume) :
    volume = Volume.of resolution.backend recipe.target size request.parameters ∧
      ∀ wanted, request.capacity = some wanted → size = wanted := by
  have hfits : ∀ wanted, request.capacity = some wanted → size = wanted := by
    intro wanted hwanted
    by_contra hne
    rw [verdict_of_ne hwanted (Ne.symm hne)] at h
    cases h
  refine ⟨?_, hfits⟩
  have hverdict : recipe.verdict resolution request size =
      .ok (Volume.of resolution.backend recipe.target size request.parameters) := by
    apply verdict_of_fits
    cases hcapacity : request.capacity with
    | none => exact .inl rfl
    | some wanted => exact .inr (by rw [hfits wanted hcapacity])
  exact (Except.ok.inj (hverdict.symm.trans h)).symm

/-- What a recipe comes to that delivers a volume. -/
lemma of_carryOut_ok (h : rack resolution.appliance.id = some a)
    (hexec : (recipe.carryOut resolution request).exec rack = (.ok volume, later)) :
    ∃ size left, volume = Volume.of resolution.backend recipe.target size request.parameters ∧
      (∀ wanted, request.capacity = some wanted → size = wanted) ∧
      later = rack.set resolution.appliance.id left ∧ recipe.Followed a left size := by
  have hready : rack.set resolution.appliance.id (recipe.takeIn a).2 resolution.appliance.id =
      some (recipe.takeIn a).2 := Rack.set_self ..
  have hgrows : a.Grows (recipe.takeIn a).2 := takeIn_grows
  have hsame : (recipe.takeIn a).2.filesystems = a.filesystems := takeIn_filesystems
  cases htaken : (recipe.takeIn a).1 with
  | error fault =>
    rw [carryOut, Plan.exec_bind, exec_take h, htaken] at hexec
    cases hexec
  | ok taken =>
    rw [exec_carryOut h htaken] at hexec
    rcases exec_making_outcomes request hready with
      ⟨b, made, hmade⟩ | ⟨fault, -, ⟨-, hfailed⟩ | ⟨-, fs, hfs, hfound⟩⟩
    · rw [hmade] at hexec
      cases hexec
      obtain ⟨-, hinsert⟩ := makeIn_filesystems made.outcome
      refine ⟨_, b, rfl, fun wanted hwanted => by rw [hwanted]; rfl, Rack.set_set .., ?_⟩
      refine ⟨⟨_, made.found, rfl⟩, hgrows.trans made.grows, fun path hpath => ?_,
        fun path hpath => contains_of_takeIn (made.snapshots path hpath)⟩
      rw [hinsert, hsame] at hpath
      exact (Simulated.contains_insert.1 hpath).symm
    · rw [hfailed] at hexec
      cases hexec
    · rw [hfound] at hexec
      obtain ⟨hverdict, rfl⟩ := Prod.mk.inj hexec
      obtain ⟨hvolume, hfits⟩ := of_verdict_ok hverdict
      refine ⟨fs.quota, (recipe.takeIn a).2, hvolume, hfits, rfl, ?_⟩
      refine ⟨⟨fs, hfs, rfl⟩, hgrows, fun path hpath => ?_, fun path hpath =>
        contains_of_takeIn hpath⟩
      rw [hsame] at hpath
      exact .inl hpath

end Recipe

/-! ## Where a volume comes from -/

/-- The three kinds of requests, with whom they look for and what is to be done there. -/
lemma CreateVolumeRequest.of_blueprint (h : request.blueprint = .ok blueprint) :
    (request.source = none ∧ blueprint = ⟨request.parameters.configName,
      request.parameters.dataset, fun resolution =>
        .ok ⟨resolution.path ++ "/" ++ request.name, none, none⟩⟩) ∨
    (∃ id source, request.source = some (.snapshot id) ∧ Fleet.snapshotId id = .ok source ∧
      blueprint = ⟨source.backend, some source.path, fun resolution =>
        request.cloneRecipe resolution none source.fullPath⟩) ∨
    ∃ id source, request.source = some (.volume id) ∧ Fleet.volumeId id = .ok source ∧
      blueprint = ⟨source.backend, some source.path, fun resolution =>
        request.cloneRecipe resolution (some (request.transient resolution))
          (request.transient resolution)⟩ := by
  unfold CreateVolumeRequest.blueprint at h
  split at h
  · cases h
  split at h
  · next hsource =>
    cases h
    exact .inl ⟨hsource, rfl⟩
  · next id hsource =>
    cases hid : Fleet.snapshotId id with
    | error fault => rw [hid] at h; cases h
    | ok source =>
      rw [hid] at h
      cases h
      exact .inr (.inl ⟨id, source, hsource, hid, rfl⟩)
  · next id hsource =>
    cases hid : Fleet.volumeId id with
    | error fault => rw [hid] at h; cases h
    | ok source =>
      rw [hid] at h
      cases h
      exact .inr (.inr ⟨id, source, hsource, hid, rfl⟩)

/-- A clone goes below the dataset asked for, or else the default of its backend. -/
lemma CreateVolumeRequest.dataset_of_cloneRecipe {taken : Option String} {origin : String}
    (h : request.cloneRecipe resolution taken origin = .ok recipe) :
    (∃ dataset, resolution.backend.datasetOrDefault request.parameters.dataset = .ok dataset ∧
      recipe.target = dataset ++ "/" ++ request.name) ∧ recipe.taken = taken := by
  unfold cloneRecipe Fleet.cloneTarget at h
  cases hdataset : resolution.backend.datasetOrDefault request.parameters.dataset with
  | error fault => rw [hdataset] at h; cases h
  | ok dataset => rw [hdataset] at h; cases h; exact ⟨⟨dataset, rfl, rfl⟩, rfl⟩

/-- Wherever a volume comes from, it goes below the dataset asked for, or else the default of its
backend.  A snapshot is only taken of a volume that is copied. -/
lemma Fleet.of_recipe_at (hblueprint : request.blueprint = .ok blueprint)
    (hplace : fleet.place? rack blueprint.backend request.zone blueprint.path = some resolution)
    (hrecipe : blueprint.recipe resolution = .ok recipe) :
    (∃ dataset, resolution.backend.datasetOrDefault request.parameters.dataset = .ok dataset ∧
      recipe.target = dataset ++ "/" ++ request.name) ∧
    ∀ snapshot, recipe.taken = some snapshot → ∃ id source,
      request.source = some (.volume id) ∧ Identifier.decodeVolume id = .ok source ∧
        snapshot = source.path ++ "@" ++ cloneSnapshotStart ++ request.name := by
  obtain ⟨-, rfl⟩ | ⟨id, source, -, -, rfl⟩ | ⟨id, source, hsource, hid, rfl⟩ :=
    request.of_blueprint hblueprint
  · cases hrecipe
    obtain ⟨backend, -, hhome⟩ := List.exists_of_findSome?_eq_some hplace
    obtain ⟨rfl, -, hdataset, -⟩ := Rack.of_home? hhome
    exact ⟨⟨resolution.path, hdataset, rfl⟩, fun _ h => nomatch h⟩
  · obtain ⟨hdataset, htaken⟩ := request.dataset_of_cloneRecipe hrecipe
    exact ⟨hdataset, fun _ h => by rw [htaken] at h; cases h⟩
  · obtain ⟨hdataset, htaken⟩ := request.dataset_of_cloneRecipe hrecipe
    refine ⟨hdataset, fun snapshot h => ⟨id, source, hsource, volumeId_eq_ok_iff.1 hid, ?_⟩⟩
    have hpath := path_of_place? (Identifier.isEmpty_path_of_volumeId hid) hplace
    rw [htaken, CreateVolumeRequest.transient, hpath] at h
    exact (Option.some.inj h).symm

/-- A zone that is asked for is the zone of the backend. -/
lemma Fleet.zone_of_place? {name zone path : Option String} {wanted : String}
    (hplace : fleet.place? rack name zone path = some resolution)
    (hzone : given zone = some wanted) : resolution.backend.zone = some wanted := by
  obtain ⟨backend, hmem, hhome⟩ := List.exists_of_findSome?_eq_some hplace
  obtain ⟨rfl, -⟩ := Rack.of_home? hhome
  have hfits : fits (given zone) resolution.backend = true := by
    unfold candidates at hmem
    split at hmem <;> exact (List.mem_filter.1 hmem).2
  simpa [hzone, fits] using hfits

/-! ## The course of a request -/

namespace Plan

variable {α β : Type} {plan : Plan α} {next : α → Plan β}

lemma asked_bind (plan : Plan α) (next : α → Plan β) (rack : Rack) :
    (plan.bind next).asked rack =
      plan.asked rack ++ (next (plan.exec rack).1).asked (plan.exec rack).2 := by
  induction plan generalizing rack with
  | done result => rfl
  | call appliance asked rest ih => exact congrArg (List.cons _) (ih _ _)
  | warn line rest ih => exact ih rack

/-- No call of the plan makes a filesystem. -/
def MakesNothing (plan : Plan α) : Prop :=
  plan.Asks fun _ call => call.target? = none

lemma MakesNothing.target? (h : plan.MakesNothing) (rack : Rack) :
    ∀ asked ∈ plan.asked rack, asked.call.target? = none :=
  (Ensures.transcript h (plan.transcript_exec rack)).1

end Plan

namespace Fleet

lemma select_makesNothing (fleet : Fleet) (name zone path : Option String) :
    (fleet.select name zone path).run.MakesNothing := by
  refine (fleet.ensures_select name zone path).mono (fun _ call h => ?_) fun _ _ => trivial
  obtain ⟨-, path, rfl⟩ := h
  rfl

/-- A request that gets as far as following a recipe: an appliance was selected, and it comes to
what the recipe comes to there. -/
structure Course (fleet : Fleet) (request : CreateVolumeRequest) (rack : Rack)
    (blueprint : Blueprint) (resolution : Resolution) (recipe : Recipe) (found : Simulated) :
    Prop where
  sought : request.blueprint = .ok blueprint
  selected : (fleet.select blueprint.backend request.zone blueprint.path).run.exec rack =
    (.ok resolution, rack)
  placed : fleet.place? rack blueprint.backend request.zone blueprint.path = some resolution
  recipe_eq : blueprint.recipe resolution = .ok recipe
  stands : resolution.Stands fleet rack
  here : rack resolution.appliance.id = some found
  exec_eq : (fleet.createVolume request).run.exec rack =
    (recipe.carryOut resolution request).exec rack
  asked : ∀ asked ∈ (fleet.createVolume request).run.asked rack,
    asked.call.target? = none ∨ asked ∈ (recipe.carryOut resolution request).asked rack

/-- A request fails before anything is made, or a recipe is followed. -/
lemma createVolume_course (fleet : Fleet) (request : CreateVolumeRequest) (rack : Rack) :
    (∃ fault, (fleet.createVolume request).run.exec rack = (.error fault, rack) ∧
      ∀ asked ∈ (fleet.createVolume request).run.asked rack, asked.call.target? = none) ∨
    ∃ blueprint resolution recipe found,
      fleet.Course request rack blueprint resolution recipe found := by
  have hrun := fleet.createVolume_run request
  cases hblueprint : request.blueprint with
  | error fault =>
    rw [hblueprint] at hrun
    rw [hrun]
    exact .inl ⟨fault, rfl, fun _ h => nomatch h⟩
  | ok blueprint =>
    rw [hblueprint] at hrun
    have hselecting := (fleet.select_makesNothing blueprint.backend request.zone
      blueprint.path).target? rack
    rcases fleet.exec_select_cases rack blueprint.backend request.zone blueprint.path with
      ⟨fault, hselect, -⟩ | ⟨resolution, hselect, hplace⟩
    · have hexec : (fleet.createVolume request).run.exec rack = (.error fault, rack) := by
        rw [hrun, Plan.exec_bind, hselect]
        rfl
      refine .inl ⟨fault, hexec, ?_⟩
      rw [hrun, Plan.asked_bind, hselect]
      simpa [carryOut, Plan.asked] using hselecting
    · cases hrecipe : blueprint.recipe resolution with
      | error fault =>
        have hexec : (fleet.createVolume request).run.exec rack = (.error fault, rack) := by
          rw [hrun, Plan.exec_bind, hselect, carryOut, hrecipe]
          rfl
        refine .inl ⟨fault, hexec, ?_⟩
        rw [hrun, Plan.asked_bind, hselect]
        simpa [carryOut, hrecipe, Plan.asked] using hselecting
      | ok recipe =>
        have stands := stands_of_place? hplace
        obtain ⟨found, here, -, -⟩ := Rack.has_iff.1 stands.has
        refine .inr ⟨blueprint, resolution, recipe, found, hblueprint, hselect, hplace, hrecipe,
          stands, here, ?_, fun asked hasked => ?_⟩
        · rw [hrun, Plan.exec_bind, hselect]
          simp only [carryOut, hrecipe]
        · rw [hrun, Plan.asked_bind, hselect] at hasked
          simp only [carryOut, hrecipe] at hasked
          exact (List.mem_append.1 hasked).imp_left (hselecting asked)

end Fleet

/-! ## The volume -/

/-- The volume that a request was answered with, and what has become of the rack.  The filesystem of
the volume is `dataset/name`; the rack is as it was but for the appliance that was selected, which
has been left with this filesystem, and perhaps a snapshot, in addition. -/
structure Fleet.Delivery (fleet : Fleet) (request : CreateVolumeRequest) (rack later : Rack)
    (volume : Volume) where
  blueprint : Blueprint
  resolution : Resolution
  dataset : String
  /-- The appliance that was selected, as it was. -/
  found : Simulated
  /-- The appliance as it is. -/
  left : Simulated
  sought : request.blueprint = .ok blueprint
  selected : (fleet.select blueprint.backend request.zone blueprint.path).run.exec rack =
    (.ok resolution, rack)
  backend_mem : resolution.backend ∈ fleet.backends
  appliance_mem : resolution.appliance ∈ resolution.backend.appliances
  dataset_eq : resolution.backend.datasetOrDefault request.parameters.dataset = .ok dataset
  id_eq : volume.id =
    (Identifier.ofVolume resolution.backend.name (dataset ++ "/" ++ request.name)).encode
  here : rack resolution.appliance.id = some found
  later_eq : later = rack.set resolution.appliance.id left
  held : ∃ fs, left.filesystems.find? (dataset ++ "/" ++ request.name) = some fs ∧
    fs.quota = volume.capacityBytes
  capacity : ∀ size, request.capacityBytes = some size → 0 < size → volume.capacityBytes = size
  zone : ∀ zone, request.zone = some zone → zone ≠ "" →
    resolution.backend.zone = some zone ∧ volume.zone = some zone
  /-- No filesystem is gone or another. -/
  filesystems_kept : ∀ path fs, found.filesystems.find? path = some fs →
    left.filesystems.find? path = some fs
  filesystems_new : ∀ path, left.filesystems.contains path = true →
    found.filesystems.contains path = true ∨ path = dataset ++ "/" ++ request.name
  snapshots_kept : ∀ path, found.snapshots.contains path = true →
    left.snapshots.contains path = true
  /-- A snapshot was only taken of a volume that is copied. -/
  snapshots_new : ∀ path, left.snapshots.contains path = true →
    found.snapshots.contains path = true ∨ ∃ id source, request.source = some (.volume id) ∧
      Identifier.decodeVolume id = .ok source ∧
        path = source.path ++ "@" ++ cloneSnapshotStart ++ request.name

namespace Fleet

lemma nonempty_delivery (h : (fleet.createVolume request).run.exec rack = (.ok volume, later)) :
    Nonempty (fleet.Delivery request rack later volume) := by
  rcases fleet.createVolume_course request rack with
    ⟨fault, hfails, -⟩ | ⟨blueprint, resolution, recipe, found, course⟩
  · rw [hfails] at h
    cases h
  · rw [course.exec_eq] at h
    obtain ⟨size, left, rfl, hsize, hlater, followed⟩ := Recipe.of_carryOut_ok course.here h
    obtain ⟨⟨dataset, hdataset, htarget⟩, htaken⟩ :=
      of_recipe_at course.sought course.placed course.recipe_eq
    refine ⟨{
      blueprint, resolution, dataset, found, left
      sought := course.sought
      selected := course.selected
      backend_mem := course.stands.backend_mem
      appliance_mem := course.stands.appliance_mem
      dataset_eq := hdataset
      id_eq := by rw [← htarget]; rfl
      here := course.here
      later_eq := hlater
      held := by rw [← htarget]; exact followed.held
      capacity := fun wanted hwanted hpos => hsize wanted ?_
      zone := fun zone hzone hne => ?_
      filesystems_kept := followed.grows.filesystem
      filesystems_new := by rw [← htarget]; exact followed.filesystems
      snapshots_kept := followed.grows.snapshot
      snapshots_new := fun path hpath =>
        (followed.snapshots path hpath).imp_right (htaken path) }⟩
    · rw [CreateVolumeRequest.capacity, hwanted]
      exact Option.filter_some_pos (by simpa using hpos)
    · have hgiven : given request.zone = some zone := by
        rw [hzone]
        exact Option.filter_some_pos (by simpa using hne)
      have hbackend := zone_of_place? course.placed hgiven
      exact ⟨hbackend, hbackend⟩

end Fleet

/-! ## The call that makes the filesystem -/

namespace Recipe

lemma take_makesNothing (recipe : Recipe) (resolution : Resolution) :
    (recipe.take resolution).MakesNothing := by
  unfold take
  cases recipe.taken with
  | none => trivial
  | some snapshot => exact ⟨rfl, fun _ => trivial⟩

lemma conclude_makesNothing (outcome : Except Fault Unit) :
    (recipe.conclude resolution request outcome).run.MakesNothing := by
  rw [conclude_run]
  cases outcome with
  | ok made => trivial
  | error fault =>
    dsimp only
    split_ifs
    · refine ⟨rfl, fun outcome => ?_⟩
      cases outcome <;> trivial
    · trivial

/-- The filesystem is made by one call, which is answered like this. -/
lemma asked_make (recipe : Recipe) (h : rack resolution.appliance.id = some a)
    (capacity : Option Nat) :
    ∃ asked, (recipe.make resolution capacity).asked rack = [asked] ∧
      asked.appliance = resolution.appliance ∧ asked.call.target? = some recipe.target ∧
      ∀ fault, asked.outcome = .error fault → (recipe.makeIn capacity a).1 = .error fault := by
  unfold make makeIn
  cases recipe.origin with
  | none =>
    refine ⟨_, rfl, rfl, rfl, fun fault hfault => ?_⟩
    rwa [Rack.answer_of_some h] at hfault
  | some snapshot =>
    refine ⟨_, rfl, rfl, rfl, fun fault hfault => ?_⟩
    rwa [Rack.answer_of_some h] at hfault

/-- Where the filesystem is refused since it exists, its size decides what the recipe comes to. -/
lemma of_asked_carryOut (h : rack resolution.appliance.id = some a) {asked : Asked}
    (hasked : asked ∈ (recipe.carryOut resolution request).asked rack) {path : String}
    (htarget : asked.call.target? = some path) (hrefused : asked.outcome = .error fault)
    (hexists : fault.isAlreadyExists = true) :
    asked.appliance = resolution.appliance ∧ path = recipe.target ∧
      ∃ fs, a.filesystems.find? path = some fs ∧
      ((recipe.carryOut resolution request).exec rack).1 =
        recipe.verdict resolution request fs.quota := by
  have hready : rack.set resolution.appliance.id (recipe.takeIn a).2 resolution.appliance.id =
      some (recipe.takeIn a).2 := Rack.set_self ..
  have hnot : ∀ others : List Asked, (∀ other ∈ others, other.call.target? = none) →
      asked ∉ others := by
    intro others hothers hmem
    rw [hothers asked hmem] at htarget
    cases htarget
  rw [carryOut, Plan.asked_bind, exec_take h] at hasked
  have hasked := (List.mem_append.1 hasked).resolve_left
    (hnot _ ((take_makesNothing recipe resolution).target? _))
  cases htaken : (recipe.takeIn a).1 with
  | error fault => rw [htaken] at hasked; cases hasked
  | ok taken =>
    rw [htaken] at hasked
    dsimp only at hasked
    rw [making, Plan.asked_bind] at hasked
    have hasked := (List.mem_append.1 hasked).resolve_right
      (hnot _ ((conclude_makesNothing _).target? _))
    obtain ⟨made, hmade, happliance, hmadeTarget, houtcome⟩ :=
      recipe.asked_make hready request.capacity
    rw [hmade, List.mem_singleton] at hasked
    subst hasked
    obtain rfl : recipe.target = path := Option.some.inj (hmadeTarget.symm.trans htarget)
    refine ⟨happliance, rfl, ?_⟩
    rcases exec_making_outcomes request hready with
      ⟨b, hb, -⟩ | ⟨other, hother, houtcomes⟩
    · have hmakeIn := houtcome fault hrefused
      rw [hb.outcome] at hmakeIn
      cases hmakeIn
    · obtain rfl : other = fault := by
        have hmakeIn := houtcome fault hrefused
        rw [hother] at hmakeIn
        exact Except.error.inj hmakeIn
      obtain ⟨hother, -⟩ | ⟨-, fs, hfs, hexec⟩ := houtcomes
      · rw [hexists] at hother
        cases hother
      · rw [takeIn_filesystems] at hfs
        refine ⟨fs, hfs, ?_⟩
        rw [exec_carryOut h htaken, hexec]

end Recipe

namespace Fleet

/-- The filesystem of a new volume: on this backend, below this dataset. -/
structure NewPath (fleet : Fleet) (request : CreateVolumeRequest) (appliance : ApplianceRef)
    (path : String) (backend : Backend) (dataset : String) : Prop where
  backend_mem : backend ∈ fleet.backends
  appliance_mem : appliance ∈ backend.appliances
  dataset_eq : backend.datasetOrDefault request.parameters.dataset = .ok dataset
  path_eq : path = dataset ++ "/" ++ request.name

/-- A request whose filesystem is refused since it exists, with another size than was asked for,
fails with both sizes. -/
lemma createVolume_of_refused {asked : Asked}
    (hasked : asked ∈ (fleet.createVolume request).run.asked rack) {path : String}
    (htarget : asked.call.target? = some path) (hrefused : asked.outcome = .error fault)
    (hexists : fault.isAlreadyExists = true) :
    (∃ backend dataset, fleet.NewPath request asked.appliance path backend dataset) ∧
    ∃ a fs, rack asked.appliance.id = some a ∧ a.filesystems.find? path = some fs ∧
      ∀ size, request.capacity = some size → fs.quota ≠ size →
        ((fleet.createVolume request).run.exec rack).1 =
          .error (.sizeMismatch request.name fs.quota size) := by
  rcases fleet.createVolume_course request rack with
    ⟨fault, -, hnothing⟩ | ⟨blueprint, resolution, recipe, a, course⟩
  · rw [hnothing asked hasked] at htarget
    cases htarget
  · have hasked := (course.asked asked hasked).resolve_left (by simp [htarget])
    obtain ⟨happliance, rfl, fs, hfs, hexec⟩ :=
      Recipe.of_asked_carryOut course.here hasked htarget hrefused hexists
    obtain ⟨⟨dataset, hdataset, hpath⟩, -⟩ :=
      of_recipe_at course.sought course.placed course.recipe_eq
    have hmem : asked.appliance ∈ resolution.backend.appliances := by
      rw [happliance]
      exact course.stands.appliance_mem
    have hnew : fleet.NewPath request asked.appliance recipe.target resolution.backend dataset :=
      ⟨course.stands.backend_mem, hmem, hdataset, hpath⟩
    have hhere : rack asked.appliance.id = some a := by
      rw [happliance]
      exact course.here
    refine ⟨⟨_, _, hnew⟩, a, fs, hhere, hfs, fun size hsize hne => ?_⟩
    rw [course.exec_eq, hexec]
    exact Recipe.verdict_of_ne hsize (Ne.symm hne)

end Fleet

/-! ## The result -/

/-- **What a request for a volume comes to.**  The appliances may hold anything, be off line or
missing, and there may be any number of them.  A request that succeeds has a `Delivery`.  If an
appliance refuses to make the filesystem since it exists, the appliance has it, and if it has
another size than was asked for, the request fails with both sizes. -/
theorem createVolume_delivers (fleet : Fleet) (request : CreateVolumeRequest) (rack : Rack) :
    (∀ volume later, (Operation.createVolume request).exec fleet rack = (.ok volume, later) →
      Nonempty (fleet.Delivery request rack later volume)) ∧
    ∀ asked ∈ (fleet.createVolume request).run.asked rack, ∀ path fault,
      asked.call.target? = some path → asked.outcome = .error fault →
      fault.isAlreadyExists = true →
      (∃ backend dataset, fleet.NewPath request asked.appliance path backend dataset) ∧
      ∃ a fs, rack asked.appliance.id = some a ∧ a.filesystems.find? path = some fs ∧
        ∀ size, request.capacityBytes = some size → 0 < size → fs.quota ≠ size →
          ((Operation.createVolume request).exec fleet rack).1 =
            .error (.sizeMismatch request.name fs.quota size) := by
  refine ⟨fun volume later hexec => Fleet.nonempty_delivery hexec,
    fun asked hasked path fault htarget hrefused hexists => ?_⟩
  obtain ⟨hnew, a, fs, ha, hfs, hfails⟩ :=
    Fleet.createVolume_of_refused hasked htarget hrefused hexists
  refine ⟨hnew, a, fs, ha, hfs, fun size hsize hpos hne => hfails size ?_ hne⟩
  rw [CreateVolumeRequest.capacity, hsize]
  exact Option.filter_some_pos (by simpa using hpos)

/-- A volume that is there already, asked for with a size or without. -/
def Pools.requestFor (capacityBytes : Option Nat) : CreateVolumeRequest where
  name := "v"
  capacityBytes
  parameters := { configName := some "other" }

/-- Without a size the request gets the volume that is there, and with another size it fails. -/
theorem createVolume_delivers_pools :
    (∃ volume later, (Operation.createVolume (Pools.requestFor none)).exec Pools.fleet Pools.rack =
        (.ok volume, later) ∧ volume.capacityBytes = 6 ∧
      Nonempty (Pools.fleet.Delivery (Pools.requestFor none) Pools.rack later volume)) ∧
    ((Operation.createVolume (Pools.requestFor (some 7))).exec Pools.fleet Pools.rack).1 =
      .error (.sizeMismatch "v" 6 7) := by
  refine ⟨⟨_, _, rfl, rfl, (createVolume_delivers _ _ _).1 _ _ rfl⟩, ?_⟩
  obtain ⟨-, a, fs, ha, hfs, hfails⟩ :=
    (createVolume_delivers Pools.fleet (Pools.requestFor (some 7)) Pools.rack).2
      ⟨Pools.appliance 1, .createFilesystem "pool/v" (some 7) none,
        .error (Simulated.takenFilesystem "pool/v")⟩
      (List.mem_of_getElem? (i := 1) rfl) "pool/v" _ rfl rfl rfl
  cases ha
  cases hfs
  exact hfails 7 rfl (by decide) (by decide)

end StorageFleet
