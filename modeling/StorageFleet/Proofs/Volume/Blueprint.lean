import StorageFleet.Proofs.Rack.Execution
import StorageFleet.Volume.Provision

/-!
# Creating a volume in three parts

The three kinds of new volumes, empty, from a snapshot, and from another volume, are created alike.
The request says whom to look for and, once an appliance is selected, what is to be done there: this
is its `Blueprint`.  What is to be done is a `Recipe`: perhaps take a snapshot, then make the
filesystem, then compare sizes if it was there already.  `createVolume_run` puts creation together
from these parts.

Neither the blueprint nor the recipe depends on the size that is asked for
(`blueprint_sized`), so requests that differ in size only do the same until the filesystem is made.
-/

namespace StorageFleet

/-- What is done on the selected appliance. -/
structure Recipe where
  /-- The path of the new filesystem. -/
  target : String
  /-- The snapshot that is taken first, if any. -/
  taken : Option String
  /-- The snapshot that is cloned; without one the filesystem starts empty. -/
  origin : Option String

/-- Whom a request looks for, and what is to be done there. -/
structure Blueprint where
  backend : Option String
  path : Option String
  recipe : Resolution → Except Fault Recipe

namespace CreateVolumeRequest

/-- The request with another size. -/
def sized (request : CreateVolumeRequest) (capacityBytes : Option Nat) : CreateVolumeRequest :=
  { request with capacityBytes }

/-- The recipe for a clone. -/
def cloneRecipe (request : CreateVolumeRequest) (resolution : Resolution) (taken : Option String)
    (snapshot : String) : Except Fault Recipe :=
  (Fleet.cloneTarget resolution.backend request).map fun target => ⟨target, taken, some snapshot⟩

/-- The snapshot of a resolved filesystem that a new volume is cloned from. -/
def transient (request : CreateVolumeRequest) (resolution : Resolution) : String :=
  resolution.path ++ "@" ++ cloneSnapshotStart ++ request.name

/-- Whom the request looks for, and what is to be done there. -/
def blueprint (request : CreateVolumeRequest) : Except Fault Blueprint :=
  if request.name.isEmpty then .error (.invalidArgument "volume name is required")
  else match request.source with
    | none => .ok ⟨request.parameters.configName, request.parameters.dataset,
        fun resolution => .ok ⟨resolution.path ++ "/" ++ request.name, none, none⟩⟩
    | some (.snapshot id) => (Fleet.snapshotId id).map fun source =>
        ⟨source.backend, some source.path,
          fun resolution => request.cloneRecipe resolution none source.fullPath⟩
    | some (.volume id) => (Fleet.volumeId id).map fun source =>
        ⟨source.backend, some source.path, fun resolution =>
          request.cloneRecipe resolution (some (request.transient resolution))
            (request.transient resolution)⟩

lemma blueprint_sized (request : CreateVolumeRequest) (capacityBytes : Option Nat) :
    (request.sized capacityBytes).blueprint = request.blueprint := rfl

end CreateVolumeRequest

namespace Recipe

variable (recipe : Recipe) (resolution : Resolution) (request : CreateVolumeRequest)

/-- Takes the snapshot, unless it exists. -/
def take : Plan (Except Fault Unit) :=
  match recipe.taken with
  | none => .done (.ok ())
  | some snapshot => .call resolution.appliance (.createSnapshot snapshot)
      fun outcome => .done (Fleet.tolerateExisting outcome)

/-- Makes the filesystem. -/
def make (capacity : Option Nat) : Plan (Except Fault Unit) :=
  match recipe.origin with
  | none => .call resolution.appliance (.createFilesystem recipe.target capacity none) .done
  | some snapshot =>
    .call resolution.appliance (.cloneSnapshot snapshot recipe.target capacity) .done

/-- The volume, once it was tried to make its filesystem. -/
def conclude (outcome : Except Fault Unit) : Attempt Volume := do
  let size ← Fleet.placedSize ⟨resolution, recipe.target, outcome⟩ request
  return Volume.of resolution.backend recipe.target size request.parameters

/-- What is left once the snapshot is there. -/
def making : Plan (Except Fault Volume) :=
  (recipe.make resolution request.capacity).bind fun outcome =>
    (recipe.conclude resolution request outcome).run

/-- All that is done on the selected appliance. -/
def carryOut : Plan (Except Fault Volume) :=
  (recipe.take resolution).bind fun
    | .ok () => recipe.making resolution request
    | .error fault => .done (.error fault)

end Recipe

namespace Fleet

variable (fleet : Fleet) (request : CreateVolumeRequest)

/-- What is done once an appliance is selected, or could not be. -/
def carryOut (blueprint : Blueprint) : Except Fault Resolution → Plan (Except Fault Volume)
  | .error fault => .done (.error fault)
  | .ok resolution => match blueprint.recipe resolution with
    | .ok recipe => recipe.carryOut resolution request
    | .error fault => .done (.error fault)

/-- The volume that a placement comes to. -/
def concludePlacement (placement : Placement) : Attempt Volume := do
  let size ← placedSize placement request
  return Volume.of placement.resolution.backend placement.path size request.parameters

lemma placeClone_run (resolution : Resolution) (taken : Option String) (snapshot path : String) :
    (placeClone resolution snapshot path request >>= concludePlacement request).run =
      Recipe.making ⟨path, taken, some snapshot⟩ resolution request := by
  unfold placeClone
  rw [bind_assoc, Attempt.run_outcome_bind]
  rfl

/-- A clone is made in the same steps whatever it is made from: decode the source, select who has
it, and go on with the target. -/
lemma placeFrom_run (decoded : Except Fault Identifier)
    (rest : Identifier → Resolution → String → Attempt Placement)
    (recipe : Identifier → Resolution → Except Fault Recipe)
    (hrest : ∀ source resolution,
      (Attempt.ofExcept (cloneTarget resolution.backend request) >>= fun path =>
        rest source resolution path >>= concludePlacement request).run =
      match recipe source resolution with
        | .ok recipe => recipe.carryOut resolution request
        | .error fault => .done (.error fault)) :
    ((Attempt.ofExcept decoded >>= fun source =>
      fleet.select source.backend request.zone (some source.path) >>= fun resolution =>
        Attempt.ofExcept (cloneTarget resolution.backend request) >>= fun path =>
          rest source resolution path) >>= concludePlacement request).run =
      match decoded.map fun source =>
        (⟨source.backend, some source.path, recipe source⟩ : Blueprint) with
      | .error fault => .done (.error fault)
      | .ok blueprint =>
        (fleet.select blueprint.backend request.zone blueprint.path).run.bind
          (carryOut request blueprint) := by
  cases decoded with
  | error fault => rfl
  | ok source =>
    simp only [bind_assoc]
    change ((fleet.select source.backend request.zone (some source.path)) >>= _).run = _
    rw [Attempt.run_bind]
    refine congrArg (Plan.bind _) (funext fun selected => ?_)
    cases selected with
    | error fault => rfl
    | ok resolution => exact hrest source resolution

lemma placeFromSnapshot_rest (source : Identifier) (resolution : Resolution) :
    (Attempt.ofExcept (cloneTarget resolution.backend request) >>= fun path =>
      placeClone resolution source.fullPath path request >>= concludePlacement request).run =
    match request.cloneRecipe resolution none source.fullPath with
      | .ok recipe => recipe.carryOut resolution request
      | .error fault => .done (.error fault) := by
  unfold CreateVolumeRequest.cloneRecipe
  cases cloneTarget resolution.backend request with
  | error fault => rfl
  | ok path => exact placeClone_run request resolution none source.fullPath path

lemma placeFromVolume_rest (resolution : Resolution) :
    (Attempt.ofExcept (cloneTarget resolution.backend request) >>= fun path =>
      ((Attempt.ask resolution.appliance
        (.createSnapshot (request.transient resolution))).outcome >>= fun taken =>
        Attempt.ofExcept (tolerateExisting taken) >>= fun _ =>
          placeClone resolution (request.transient resolution) path request) >>=
        concludePlacement request).run =
    match request.cloneRecipe resolution (some (request.transient resolution))
        (request.transient resolution) with
      | .ok recipe => recipe.carryOut resolution request
      | .error fault => .done (.error fault) := by
  unfold CreateVolumeRequest.cloneRecipe
  cases cloneTarget resolution.backend request with
  | error fault => rfl
  | ok path =>
    simp only [bind_assoc]
    change ((Attempt.ask resolution.appliance
      (.createSnapshot (request.transient resolution))).outcome >>= _).run = _
    rw [Attempt.run_outcome_bind]
    refine congrArg (Plan.call resolution.appliance
      (.createSnapshot (request.transient resolution))) (funext fun outcome => ?_)
    change (Attempt.ofExcept (tolerateExisting outcome) >>= _).run =
      (Plan.done (tolerateExisting outcome)).bind _
    cases tolerateExisting outcome with
    | error fault => rfl
    | ok _ =>
      exact placeClone_run request resolution (some (request.transient resolution))
        (request.transient resolution) path

/-- Creation is the blueprint, the selection, and the recipe. -/
theorem createVolume_run : (fleet.createVolume request).run =
    match request.blueprint with
    | .error fault => .done (.error fault)
    | .ok blueprint =>
      (fleet.select blueprint.backend request.zone blueprint.path).run.bind
        (carryOut request blueprint) := by
  unfold CreateVolumeRequest.blueprint
  cases hname : request.name.isEmpty with
  | true =>
    unfold createVolume
    rw [hname]
    rfl
  | false =>
    have hcreate : fleet.createVolume request =
        fleet.place request >>= concludePlacement request := by
      unfold createVolume
      rw [hname]
      rfl
    rw [hcreate, if_neg (by simp)]
    unfold place
    cases request.source with
    | none =>
      change (fleet.placeEmpty request >>= concludePlacement request).run = _
      unfold placeEmpty
      simp only [bind_assoc]
      rw [Attempt.run_bind]
      congr 1
      funext selected
      cases selected <;> rfl
    | some source =>
      cases source with
      | snapshot id =>
        exact fleet.placeFrom_run request (snapshotId id) _ _ fun source resolution =>
          placeFromSnapshot_rest request source resolution
      | volume id =>
        exact fleet.placeFrom_run request (volumeId id) _ _ fun _ resolution =>
          placeFromVolume_rest request resolution

end Fleet
end StorageFleet
