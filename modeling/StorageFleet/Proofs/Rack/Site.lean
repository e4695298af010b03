import Mathlib.Data.List.Pairwise
import StorageFleet.Proofs.Rack.Recipe

/-!
# Where a volume is created

A request first looks for an appliance, and changes nothing meanwhile.  Either it fails before it
changes anything on the rack, or there is a `Site`: the appliance that it finds and the recipe that
it follows there (`rests_or_site`).  All requests that differ in size only have the same site, and
they still find it when something was added to the appliance (`Rack.Near`), as long as no appliance
belongs to two backends (`Fleet.Apart`).

The first section carries over to racks what the recipe does to the appliance.
-/

namespace StorageFleet

variable {rack : Rack} {recipe : Recipe} {resolution : Resolution} {request : CreateVolumeRequest}
  {a b : Simulated}

/-! ## The parts of a recipe on a rack -/

namespace Recipe

lemma exec_take (h : rack resolution.appliance.id = some a) :
    (recipe.take resolution).exec rack =
      ((recipe.takeIn a).1, rack.set resolution.appliance.id (recipe.takeIn a).2) := by
  unfold take takeIn
  cases recipe.taken with
  | none => rw [Rack.set_eq_self h]; rfl
  | some snapshot => rw [Plan.exec, Rack.answer_of_some h]; rfl

lemma exec_make (h : rack resolution.appliance.id = some a) (capacity : Option Nat) :
    (recipe.make resolution capacity).exec rack =
      ((recipe.makeIn capacity a).1,
        rack.set resolution.appliance.id (recipe.makeIn capacity a).2) := by
  unfold make makeIn
  cases recipe.origin with
  | none => rw [Plan.exec, Rack.answer_of_some h]; rfl
  | some snapshot => rw [Plan.exec, Rack.answer_of_some h]; rfl

lemma take_rests (h : rack resolution.appliance.id = some a) (same : (recipe.takeIn a).2 = a) :
    (recipe.take resolution).Rests rack := by
  unfold takeIn at same
  unfold take
  cases htaken : recipe.taken with
  | none => exact Plan.rests_done rack _
  | some snapshot =>
    rw [htaken] at same
    exact Plan.rests_single h same _

lemma make_rests (h : rack resolution.appliance.id = some a) {capacity : Option Nat}
    (same : (recipe.makeIn capacity a).2 = a) : (recipe.make resolution capacity).Rests rack := by
  unfold makeIn at same
  unfold make
  cases horigin : recipe.origin with
  | none =>
    rw [horigin] at same
    exact Plan.rests_single h same _
  | some snapshot =>
    rw [horigin] at same
    exact Plan.rests_single h same _

/-- Making the filesystem is a single call. -/
lemma make_eq_call (recipe : Recipe) (resolution : Resolution) (capacity : Option Nat) :
    ∃ (call : Call) (read : call.Outcome → Except Fault Unit),
      call.target? = some recipe.target ∧ (∀ outcome, (read outcome).isOk = outcome.isOk) ∧
      recipe.make resolution capacity =
        .call resolution.appliance call fun outcome => .done (read outcome) := by
  unfold make
  cases recipe.origin with
  | none => exact ⟨.createFilesystem recipe.target capacity none, id, rfl, fun _ => rfl, rfl⟩
  | some snapshot =>
    exact ⟨.cloneSnapshot snapshot recipe.target capacity, id, rfl, fun _ => rfl, rfl⟩

/-- What a request comes to if the filesystem is there already with this size. -/
def verdict (recipe : Recipe) (resolution : Resolution) (request : CreateVolumeRequest)
    (size : Nat) : Except Fault Volume :=
  match request.capacity.filter fun wanted => size ≠ wanted with
  | some wanted => .error (.sizeMismatch request.name size wanted)
  | none => .ok (Volume.of resolution.backend recipe.target size request.parameters)

lemma verdict_of_fits {size : Nat} (h : request.capacity = none ∨ request.capacity = some size) :
    recipe.verdict resolution request size =
      .ok (Volume.of resolution.backend recipe.target size request.parameters) := by
  unfold verdict
  rcases h with hnone | hsome
  · rw [hnone]
    rfl
  · rw [hsome, Option.filter_some_neg (by simp)]

lemma verdict_of_ne {size other : Nat} (h : request.capacity = some other) (hne : other ≠ size) :
    recipe.verdict resolution request size =
      .error (.sizeMismatch request.name size other) := by
  unfold verdict
  rw [h, Option.filter_some_pos (by simpa using Ne.symm hne)]

/-- Whoever has made the filesystem might have found it instead. -/
lemma verdict_own : recipe.verdict resolution request (request.capacity.getD 0) =
    .ok (Volume.of resolution.backend recipe.target (request.capacity.getD 0)
      request.parameters) := by
  apply verdict_of_fits
  cases request.capacity with
  | none => exact .inl rfl
  | some size => exact .inr rfl

lemma conclude_run (outcome : Except Fault Unit) :
    (recipe.conclude resolution request outcome).run = match outcome with
      | .ok () => .done (.ok (Volume.of resolution.backend recipe.target
          (request.capacity.getD 0) request.parameters))
      | .error fault =>
        if fault.isAlreadyExists then
          .call resolution.appliance (.getFilesystem recipe.target) fun
            | .ok existing => .done (recipe.verdict resolution request existing.quota)
            | .error fault => .done (.error fault)
        else .done (.error fault) := by
  cases outcome with
  | ok _ => rfl
  | error fault =>
    unfold conclude Fleet.placedSize
    dsimp only
    split
    · refine congrArg (Plan.call resolution.appliance (.getFilesystem recipe.target))
        (funext fun outcome => ?_)
      cases outcome with
      | error fault => rfl
      | ok existing =>
        change Plan.bind (ExceptT.run (match request.capacity.filter
          fun size => existing.quota ≠ size with
          | some wanted => throw (.sizeMismatch request.name existing.quota wanted)
          | none => (pure existing.quota : Attempt Nat))) _ =
          .done (recipe.verdict resolution request existing.quota)
        unfold verdict
        cases request.capacity.filter fun size => existing.quota ≠ size <;> rfl
    · rfl

/-- Only a look at the filesystem is left once it was tried to make it. -/
lemma conclude_rests (rack : Rack) (outcome : Except Fault Unit) :
    (recipe.conclude resolution request outcome).run.Rests rack := by
  rw [conclude_run]
  cases outcome with
  | ok _ => exact Plan.rests_done rack _
  | error fault =>
    dsimp only
    split
    · refine Plan.rests_call (congrArg Prod.snd (rack.answer_getFilesystem _ _)) ?_
      split <;> exact Plan.rests_done rack _
    · exact Plan.rests_done rack _

lemma making_rests (h : rack resolution.appliance.id = some a)
    (same : (recipe.makeIn request.capacity a).2 = a) :
    (recipe.making resolution request).Rests rack :=
  (make_rests h same).bind (conclude_rests rack _)

/-- Where the snapshot is there, only the making is left. -/
lemma carryOut_leads (h : rack resolution.appliance.id = some a)
    (there : recipe.takeIn a = (.ok (), a)) :
    (recipe.carryOut resolution request).Leads (· = rack) (recipe.making resolution request) := by
  have hrests := take_rests h (congrArg Prod.snd there)
  unfold Plan.Rests at hrests
  rw [exec_take h, there] at hrests
  exact hrests.bind

lemma exec_carryOut (h : rack resolution.appliance.id = some a)
    (there : (recipe.takeIn a).1 = .ok ()) :
    (recipe.carryOut resolution request).exec rack = (recipe.making resolution request).exec
      (rack.set resolution.appliance.id (recipe.takeIn a).2) := by
  rw [carryOut, Plan.exec_bind, exec_take h, there]

/-- Who makes the filesystem. -/
lemma exec_making_of_made (h : rack resolution.appliance.id = some a)
    (made : recipe.Made a request.capacity b) :
    (recipe.making resolution request).exec rack =
      (recipe.verdict resolution request (request.capacity.getD 0),
        rack.set resolution.appliance.id b) := by
  rw [making, Plan.exec_bind, exec_make h, made.outcome, conclude_run, verdict_own]
  rfl

/-- Who finds the filesystem that another has made. -/
lemma exec_making_of_found {capacity : Option Nat} (h : rack resolution.appliance.id = some b)
    (online : b.offline = false) (made : recipe.Made a capacity b) :
    (recipe.making resolution request).exec rack =
      (recipe.verdict resolution request (capacity.getD 0), rack) := by
  have hprobe : rack.probe recipe.target resolution.appliance =
      .ok (Simulated.freshFilesystem recipe.target (capacity.getD 0)) := by
    rw [Rack.probe, Rack.answer_of_some h]
    simp [Simulated.step, online, Simulated.answer, Simulated.filesystem, made.found]
  rw [making, Plan.exec_bind, exec_make h, made.again, Rack.set_eq_self h, conclude_run]
  have hexists : (Simulated.takenFilesystem recipe.target).isAlreadyExists = true := rfl
  dsimp only
  rw [if_pos hexists, Plan.exec, Rack.answer_getFilesystem, hprobe]
  rfl

end Recipe

/-! ## Racks that differ in one appliance -/

namespace Rack

/-- The second rack differs from the first in nothing but what one appliance has in addition. -/
def Near (rack : Rack) (id : Nat) (other : Rack) : Prop :=
  (∀ j, j ≠ id → other j = rack j) ∧
    ∃ a b, rack id = some a ∧ other id = some b ∧ a.Grows b

variable {other : Rack} {id : Nat}

lemma near_self (h : rack id = some a) : rack.Near id rack :=
  ⟨fun _ _ => rfl, a, a, h, h, .refl a⟩

lemma near_set (h : rack id = some a) (hgrows : a.Grows b) : rack.Near id (rack.set id b) :=
  ⟨fun _ hj => set_of_ne hj .., a, b, h, set_self .., hgrows⟩

/-- What a rack has is found on a rack near it, too. -/
lemma Near.probe_eq (h : rack.Near id other) {path : String} {appliance : ApplianceRef}
    (has : rack.has path appliance = true) :
    other.probe path appliance = rack.probe path appliance := by
  obtain ⟨hothers, a, b, ha, hb, hgrows⟩ := h
  by_cases hid : appliance.id = id
  · obtain ⟨_, hthere, honline, hcontains⟩ := has_iff.1 has
    rw [hid, ha] at hthere
    cases hthere
    obtain ⟨fs, hfs⟩ := Option.isSome_iff_exists.1 hcontains
    have ha' : rack appliance.id = some a := by rw [hid, ha]
    have hb' : other appliance.id = some b := by rw [hid, hb]
    rw [probe, probe, answer_of_some ha', answer_of_some hb']
    simp [Simulated.step, honline, hgrows.offline, Simulated.answer, Simulated.filesystem, hfs,
      hgrows.filesystem path fs hfs]
  · exact probe_congr (hothers _ hid)

end Rack

namespace Fleet

variable {fleet : Fleet}

/-- No appliance belongs to two backends. -/
def Apart (fleet : Fleet) : Prop :=
  fleet.backends.Pairwise fun one other =>
    ∀ a ∈ one.appliances, ∀ b ∈ other.appliances, a.id ≠ b.id

/-- The backends that have an appliance in common are one. -/
lemma Apart.eq_of_id_eq (apart : fleet.Apart) {one other : Backend} (hone : one ∈ fleet.backends)
    (hother : other ∈ fleet.backends) {a b : ApplianceRef} (ha : a ∈ one.appliances)
    (hb : b ∈ other.appliances) (h : a.id = b.id) : one = other := by
  by_contra hne
  have hsymmetric : Std.Symm fun one other : Backend =>
      ∀ a ∈ one.appliances, ∀ b ∈ other.appliances, a.id ≠ b.id :=
    ⟨fun _ _ h a ha b hb => (h b hb a ha).symm⟩
  exact apart.forall hone hother hne a ha b hb h

/-- To the search that has found an appliance, the racks near this one look alike there. -/
lemma Apart.alike (apart : fleet.Apart) {name zone path : Option String}
    (hbackend : resolution.backend ∈ fleet.backends)
    (happliance : resolution.appliance ∈ resolution.backend.appliances)
    (hdataset : resolution.backend.datasetOrDefault path = .ok resolution.path)
    (has : rack.has resolution.path resolution.appliance = true) :
    ∀ backend ∈ fleet.candidates name zone,
      Rack.Alike (rack.Near resolution.appliance.id) rack path backend := by
  intro backend hmem dataset hfound other hnear appliance hasked
  by_cases hid : appliance.id = resolution.appliance.id
  · obtain rfl : backend = resolution.backend :=
      apart.eq_of_id_eq (candidates_subset hmem) hbackend hasked happliance hid
    rw [hdataset] at hfound
    cases hfound
    apply hnear.probe_eq
    rw [Rack.has_iff] at has ⊢
    rwa [hid]
  · exact Rack.probe_congr (hnear.1 _ hid)

end Fleet

/-! ## The site of a new volume -/

lemma CreateVolumeRequest.of_cloneRecipe {taken : Option String} {origin : String}
    (h : request.cloneRecipe resolution taken origin = .ok recipe) :
    (∃ dataset, recipe.target = dataset ++ "/" ++ request.name) ∧ recipe.taken = taken := by
  unfold cloneRecipe Fleet.cloneTarget at h
  cases hdataset : resolution.backend.datasetOrDefault request.parameters.dataset with
  | error fault => rw [hdataset] at h; cases h
  | ok dataset => rw [hdataset] at h; cases h; exact ⟨⟨dataset, rfl⟩, rfl⟩

/-- The recipe of a blueprint puts the volume below a dataset, under its own name, and takes no
snapshot but the transient one. -/
lemma CreateVolumeRequest.of_recipe {blueprint : Blueprint} (h : request.blueprint = .ok blueprint)
    (hrecipe : blueprint.recipe resolution = .ok recipe) :
    (∃ dataset, recipe.target = dataset ++ "/" ++ request.name) ∧
      ∀ snapshot, recipe.taken = some snapshot → snapshot = request.transient resolution := by
  unfold CreateVolumeRequest.blueprint at h
  split at h
  · cases h
  · split at h
    · cases h
      cases hrecipe
      exact ⟨⟨resolution.path, rfl⟩, fun _ h => nomatch h⟩
    · next id _ =>
      cases hid : Fleet.snapshotId id with
      | error fault => rw [hid] at h; cases h
      | ok source =>
        rw [hid] at h
        cases h
        obtain ⟨hbelow, htaken⟩ := of_cloneRecipe hrecipe
        exact ⟨hbelow, fun _ h => by rw [htaken] at h; cases h⟩
    · next id _ =>
      cases hid : Fleet.volumeId id with
      | error fault => rw [hid] at h; cases h
      | ok source =>
        rw [hid] at h
        cases h
        obtain ⟨hbelow, htaken⟩ := of_cloneRecipe hrecipe
        exact ⟨hbelow, fun _ h => by rw [htaken] at h; exact (Option.some.inj h).symm⟩

/-- Where a request is carried out: the appliance that it finds, and what it is about to do. -/
structure Site (fleet : Fleet) (request : CreateVolumeRequest) (rack : Rack) where
  resolution : Resolution
  recipe : Recipe
  /-- The appliance as it is found. -/
  found : Simulated
  here : rack resolution.appliance.id = some found
  online : found.offline = false
  /-- A request of any size gets here, also if something was added meanwhile. -/
  leads : ∀ size, (fleet.createVolume (request.sized size)).run.Leads
    (rack.Near resolution.appliance.id) (recipe.carryOut resolution (request.sized size))
  taken : (recipe.takeIn found).1 = .ok ()
  named : ∀ snapshot, recipe.taken = some snapshot → snapshot = request.transient resolution

variable {fleet : Fleet}

/-- A request comes to its recipe where the selection comes to an appliance. -/
lemma Fleet.createVolume_leads {racks : Rack → Prop} {blueprint : Blueprint}
    {selected : Except Fault Resolution} (hblueprint : request.blueprint = .ok blueprint)
    (hselect : (fleet.select blueprint.backend request.zone blueprint.path).run.Leads racks
      (.done selected)) (size : Option Nat) :
    (fleet.createVolume (request.sized size)).run.Leads racks
      (carryOut (request.sized size) blueprint selected) := by
  rw [createVolume_run, CreateVolumeRequest.blueprint_sized, hblueprint]
  exact hselect.bind

/-- A recipe whose snapshot cannot be taken changes nothing. -/
lemma Recipe.carryOut_rests (h : rack resolution.appliance.id = some a) {fault : Fault}
    (failed : (recipe.takeIn a).1 = .error fault) :
    (recipe.carryOut resolution request).Rests rack := by
  apply (take_rests h (takeIn_of_error failed)).bind
  rw [exec_take h, failed]
  exact Plan.rests_done rack _

/-- A request has a site, or it fails before it changes anything. -/
theorem Fleet.Apart.rests_or_site (apart : fleet.Apart) (request : CreateVolumeRequest)
    (rack : Rack) :
    (∀ size, (fleet.createVolume (request.sized size)).run.Rests rack) ∨
      Nonempty (Site fleet request rack) := by
  cases hblueprint : request.blueprint with
  | error fault =>
    refine .inl fun size => ?_
    rw [createVolume_run, CreateVolumeRequest.blueprint_sized, hblueprint]
    exact Plan.rests_done rack _
  | ok blueprint =>
    have halike : ∀ backend ∈ fleet.candidates blueprint.backend request.zone,
        Rack.Alike (· = rack) rack blueprint.path backend :=
      fun backend _ => rack.alike_self blueprint.path backend
    obtain ⟨selected, hselect, hselected, -⟩ := select_leads halike
    have hleads := createVolume_leads hblueprint hselect
    cases selected with
    | error fault => exact .inl fun size => (hleads size).rests
    | ok resolution =>
      dsimp only [carryOut] at hleads
      cases hrecipe : blueprint.recipe resolution with
      | error fault =>
        rw [hrecipe] at hleads
        exact .inl fun size => (hleads size).rests
      | ok recipe =>
        rw [hrecipe] at hleads
        obtain ⟨backend, hmem, hhome⟩ := List.exists_of_findSome?_eq_some hselected.symm
        obtain ⟨rfl, happliance, hdataset, has⟩ := Rack.of_home? hhome
        obtain ⟨found, here, online, -⟩ := Rack.has_iff.1 has
        cases htaken : (recipe.takeIn found).1 with
        | error fault =>
          exact .inl fun size => .of_leads (hleads size) rfl (Recipe.carryOut_rests here htaken)
        | ok _ =>
          refine .inr ⟨⟨resolution, recipe, found, here, online, fun size => ?_, htaken,
            (request.of_recipe hblueprint hrecipe).2⟩⟩
          have hnear : ∀ backend ∈ fleet.candidates blueprint.backend request.zone, Rack.Alike
              (rack.Near resolution.appliance.id) rack blueprint.path backend :=
            apart.alike (candidates_subset hmem) happliance hdataset has
          obtain ⟨again, hagain, hsame, -⟩ := select_leads hnear
          have hresolved : again.toOption = some resolution := hsame.trans hselected.symm
          obtain rfl : again = .ok resolution := by
            cases again with
            | error fault => cases hresolved
            | ok other => exact congrArg Except.ok (Option.some.inj hresolved)
          have hfound := createVolume_leads hblueprint hagain size
          dsimp only [carryOut] at hfound
          rwa [hrecipe] at hfound

end StorageFleet
