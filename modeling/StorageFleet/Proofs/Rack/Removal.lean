import StorageFleet.Proofs.Rack.Selection
import StorageFleet.Volume.Provision

/-!
# Deleting a volume more than once

An identifier addresses the appliances of the backend that it names, or, without a backend, those of
every backend.  On appliances in memory a deletion removes the path from the first of them that has
it, and counts as done if none has it (`deleteVolume_exec`).

A second deletion therefore succeeds like the first, but it finds nothing to do only if no other
appliance has the path: `repeated_deletion`.  `repeated_deletion_moves_on` is a path that two
backends have, which two deletions remove from both.
-/

namespace StorageFleet

namespace Identifier

/-- An identifier has a path. -/
lemma isEmpty_path_of_decode {id : String} {identifier : Identifier}
    (h : decode id = .ok identifier) : identifier.path.isEmpty = false := by
  have hrest : ∀ {backend rest}, decodeRest backend rest = .ok identifier →
      identifier.path.isEmpty = false := by
    intro backend rest h
    unfold decodeRest at h
    split at h
    · split_ifs at h with _ hempty
      cases h
      simpa using hempty
    · split_ifs at h with hempty
      cases h
      simpa using hempty
  unfold decode at h
  split at h
  · split_ifs at h
    exact hrest h
  · exact hrest h

lemma isEmpty_path_of_volumeId {id : String} {identifier : Identifier}
    (h : Fleet.volumeId id = .ok identifier) : identifier.path.isEmpty = false := by
  unfold Fleet.volumeId Fleet.readId decodeVolume at h
  cases hdecode : decode id with
  | error defect => simp [hdecode] at h
  | ok found =>
    rw [hdecode] at h
    dsimp only at h
    split_ifs at h
    cases h
    exact isEmpty_path_of_decode hdecode

end Identifier

namespace Rack

variable {rack : Rack} {path : String} {appliance other : ApplianceRef}

/-- The rack without a path on one of the appliances, and without what goes with it. -/
def without (rack : Rack) (path : String) (appliance : ApplianceRef) : Rack :=
  (rack.answer appliance (.destroyFilesystem path true true)).2

/-- A path that is there is removed. -/
lemma answer_destroy (h : rack.has path appliance = true) :
    rack.answer appliance (.destroyFilesystem path true true) =
      (.ok (), rack.without path appliance) := by
  obtain ⟨a, ha, honline, hcontains⟩ := has_iff.1 h
  have houtcome : (a.step (.destroyFilesystem path true true)).1 = .ok () := by
    simp [Simulated.step, honline, Simulated.answer, Simulated.destroyFilesystem, hcontains]
  rw [without, answer_of_some ha, houtcome]

lemma has_without_self (h : rack.has path appliance = true) (hid : other.id = appliance.id) :
    (rack.without path appliance).has path other = false := by
  obtain ⟨a, ha, honline, hcontains⟩ := has_iff.1 h
  have herased : (a.step (.destroyFilesystem path true true)).2.filesystems =
      a.filesystems.erase path := by
    simp [Simulated.step, honline, Simulated.answer, Simulated.destroyFilesystem, hcontains]
  rw [← Bool.not_eq_true, has_iff]
  rintro ⟨b, hb, -, hcontains'⟩
  simp only [without, answer_of_some ha, hid, set_self, Option.some.injEq] at hb
  subst hb
  simp [herased, Catalog.contains, Catalog.find?_erase] at hcontains'

lemma has_without_of_ne (hid : other.id ≠ appliance.id) :
    (rack.without path appliance).has path other = rack.has path other :=
  congrArg Except.isOk (probe_congr (answer_of_ne hid))

/-- Removing a path that is there changes the rack. -/
lemma without_ne (h : rack.has path appliance = true) : rack.without path appliance ≠ rack := by
  intro heq
  have hgone := has_without_self h rfl
  rw [heq, h] at hgone
  cases hgone

/-- The rack without a path on the first of the appliances that has it. -/
def withoutFirst (rack : Rack) (path : String) (appliances : List ApplianceRef) : Rack :=
  match appliances.find? (rack.has path) with
  | some appliance => rack.without path appliance
  | none => rack

variable {appliances : List ApplianceRef}

lemma withoutFirst_eq_self_iff : rack.withoutFirst path appliances = rack ↔
    ∀ appliance ∈ appliances, rack.has path appliance = false := by
  unfold withoutFirst
  constructor
  · intro heq
    split at heq
    · next appliance hfound => exact absurd heq (without_ne (List.find?_some hfound))
    · next hnone => simpa using List.find?_eq_none.1 hnone
  · intro hnone
    rw [List.find?_eq_none.2 (by simpa using hnone)]

/-- Where a single appliance had the path, none has it afterwards. -/
lemma has_withoutFirst (single : ∀ one ∈ appliances, ∀ other ∈ appliances,
    rack.has path one = true → rack.has path other = true → one.id = other.id)
    (hmem : appliance ∈ appliances) :
    (rack.withoutFirst path appliances).has path appliance = false := by
  unfold withoutFirst
  split
  · next holder hfound =>
    have hhas : rack.has path holder = true := List.find?_some hfound
    by_cases hsame : appliance.id = holder.id
    · exact has_without_self hhas hsame
    · rw [has_without_of_ne hsame, ← Bool.not_eq_true]
      intro hother
      exact hsame (single appliance hmem holder (List.mem_of_find?_eq_some hfound) hother hhas)
  · next hnone => simpa using List.find?_eq_none.1 hnone appliance hmem

end Rack

namespace Fleet

variable {fleet : Fleet} {rack : Rack} {id : String} {identifier : Identifier}

/-- The appliances that an identifier addresses, in the order in which they are asked. -/
def addressed (fleet : Fleet) (identifier : Identifier) : List ApplianceRef :=
  (fleet.candidates identifier.backend none).flatMap Backend.appliances

/-- Looking for an existing path finds the first appliance that has it.  Only where nobody can be
asked is it a failure that nobody has it. -/
lemma resolveExisting_leads (fleet : Fleet) (rack : Rack)
    (hpath : identifier.path.isEmpty = false) :
    ∃ found, (fleet.resolveExisting identifier).run.Leads (· = rack) (.done found) ∧
      match (fleet.addressed identifier).find? (rack.has identifier.path) with
      | some appliance => ∃ resolution, found = .ok (some resolution) ∧
          resolution.appliance = appliance ∧ resolution.path = identifier.path
      | none => found = .ok none ∨ given identifier.backend = none ∧ fleet.backends = [] := by
  have hdataset : ∀ backend : Backend,
      backend.datasetOrDefault (some identifier.path) = .ok identifier.path :=
    Backend.datasetOrDefault_of_nonempty hpath
  have halike : ∀ backend ∈ fleet.candidates identifier.backend none,
      Rack.Alike (· = rack) rack (some identifier.path) backend :=
    fun backend _ => rack.alike_self _ backend
  obtain ⟨found, hleads, hfound, hstatus⟩ := select_leads halike
  have hfirst : (fleet.addressed identifier).find? (rack.has identifier.path) =
      found.toOption.map Resolution.appliance := by
    rw [hfound, addressed, List.find?_flatMap, List.map_findSome?]
    congr 1
    funext backend
    simp [Rack.home?_of_ok (hdataset backend), Rack.holder?, hpath, Function.comp_def]
  cases found with
  | ok resolution =>
    have hexisting : (fleet.resolveExisting identifier).run.Leads (· = rack)
        (.done (.ok (some resolution))) := by
      unfold resolveExisting
      rw [Attempt.run_outcome_bind]
      exact hleads.bind
    refine ⟨_, hexisting, ?_⟩
    rw [hfirst]
    obtain ⟨backend, -, hhome⟩ := List.exists_of_findSome?_eq_some hfound.symm
    obtain ⟨-, -, hresolved, -⟩ := Rack.of_home? hhome
    rw [hdataset] at hresolved
    exact ⟨resolution, rfl, rfl, (Except.ok.inj hresolved).symm⟩
  | error fault =>
    have hexisting : (fleet.resolveExisting identifier).run.Leads (· = rack)
        (if fault.status = Status.notFound then pure none else throw fault : Attempt _).run := by
      unfold resolveExisting
      rw [Attempt.run_outcome_bind]
      exact hleads.bind
    rw [hfirst]
    have hgiven : HavePath (some identifier.path) (fleet.candidates identifier.backend none) :=
      fun backend _ => ⟨_, hdataset backend, hpath⟩
    split at hexisting
    · exact ⟨.ok none, hexisting, .inl rfl⟩
    · next hne =>
      refine ⟨.error fault, hexisting, .inr ?_⟩
      exact (hstatus rfl hgiven fault rfl).resolve_left hne

/-- Where nobody can be asked, looking for a path fails. -/
lemma resolveExisting_of_empty (hname : given identifier.backend = none)
    (hempty : fleet.backends = []) :
    (fleet.resolveExisting identifier).run =
      .done (.error (.noBackendAvailable "no backend configured")) := by
  unfold resolveExisting resolve select
  rw [hname, hempty]
  rfl

/-- A text that names no volume counts as deleted. -/
lemma deleteVolume_of_error {fault : Fault} (hid : volumeId id = .error fault) (rack : Rack) :
    (fleet.deleteVolume id).run.exec rack = (.ok (), rack) := by
  unfold deleteVolume
  rw [hid]
  rfl

/-- A deletion looks for the path, and destroys it where it is found. -/
lemma deleteVolume_run (fleet : Fleet) (hid : volumeId id = .ok identifier) :
    (fleet.deleteVolume id).run = (fleet.resolveExisting identifier).run.bind
      (Attempt.andThen fun
        | none => Attempt.warn ("Volume " ++ id ++ " not found, nothing to delete")
        | some resolution => do
          let outcome ← (Attempt.ask resolution.appliance
            (.destroyFilesystem resolution.path true true)).outcome
          volumeDestroyed id outcome) := by
  unfold deleteVolume
  rw [hid]
  exact Attempt.run_bind _ _

/-- A deletion on appliances in memory, where somebody can be asked. -/
theorem deleteVolume_exec_of_asked (hid : volumeId id = .ok identifier)
    (asked : ¬(given identifier.backend = none ∧ fleet.backends = [])) (rack : Rack) :
    (fleet.deleteVolume id).run.exec rack =
      (.ok (), rack.withoutFirst identifier.path (fleet.addressed identifier)) := by
  obtain ⟨found, hleads, hfound⟩ :=
    fleet.resolveExisting_leads rack (Identifier.isEmpty_path_of_volumeId hid)
  rw [fleet.deleteVolume_run hid, hleads.bind.exec_eq rfl]
  unfold Rack.withoutFirst
  split at hfound
  · next appliance hfirst =>
    obtain ⟨resolution, rfl, rfl, hpath⟩ := hfound
    have hhas : rack.has resolution.path resolution.appliance = true := by
      rw [hpath]
      exact List.find?_some hfirst
    simp only [Plan.bind, Attempt.andThen, Attempt.run_outcome_bind]
    rw [← hpath]
    change (Plan.call resolution.appliance (.destroyFilesystem resolution.path true true)
      fun outcome => (volumeDestroyed id outcome).run).exec rack = _
    rw [Plan.exec, Rack.answer_destroy hhas]
    rfl
  · obtain rfl := hfound.resolve_right asked
    rfl

/-- A deletion on appliances in memory that is reported as done. -/
theorem deleteVolume_exec (hid : volumeId id = .ok identifier)
    (reported : ((fleet.deleteVolume id).run.exec rack).1 = .ok ()) (later : Rack) :
    (fleet.deleteVolume id).run.exec later =
      (.ok (), later.withoutFirst identifier.path (fleet.addressed identifier)) := by
  refine deleteVolume_exec_of_asked hid ?_ later
  rintro ⟨hname, hempty⟩
  rw [fleet.deleteVolume_run hid, resolveExisting_of_empty hname hempty] at reported
  cases reported

end Fleet

/-! ## Two copies -/

namespace TwoCopies

def backend (name : String) (appliance : ApplianceRef) : Backend where
  name
  config := { restIp := appliance.endpoint, username := "admin", password := "secret" }
  appliances := [appliance]
  nonempty := by simp

def one : ApplianceRef := ⟨0, "https://one"⟩

def other : ApplianceRef := ⟨1, "https://other"⟩

def fleet : Fleet where
  backends := [backend "one" one, backend "other" other]

/-- Both appliances have `pool/v`. -/
def rack : Rack
  | 0 => some (.ofContents one.endpoint [("pool/v", 1)] [])
  | 1 => some (.ofContents other.endpoint [("pool/v", 1)] [])
  | _ => none

end TwoCopies

/-! ## The result -/

/-- A deletion that was reported as done can be repeated.  It then goes on with the next appliance
that has the path, and changes nothing just if there is none. -/
theorem repeated_deletion (fleet : Fleet) (id : String) (rack : Rack)
    (reported : ((fleet.deleteVolume id).run.exec rack).1 = .ok ()) :
    let first := ((fleet.deleteVolume id).run.exec rack).2
    let second := (fleet.deleteVolume id).run.exec first
    second.1 = .ok () ∧
    ((∃ fault, Fleet.volumeId id = .error fault) → second.2 = first) ∧
    ∀ identifier, Fleet.volumeId id = .ok identifier →
      second.2 = first.withoutFirst identifier.path (fleet.addressed identifier) ∧
      (second.2 = first ↔ ∀ appliance ∈ fleet.addressed identifier,
        first.has identifier.path appliance = false) ∧
      ((∀ one ∈ fleet.addressed identifier, ∀ other ∈ fleet.addressed identifier,
        rack.has identifier.path one = true → rack.has identifier.path other = true →
          one.id = other.id) → second.2 = first) := by
  intro first second
  cases hid : Fleet.volumeId id with
  | error fault =>
    have hdone : second = (.ok (), first) := by
      change (fleet.deleteVolume id).run.exec first = _
      unfold Fleet.deleteVolume
      rw [hid]
      rfl
    rw [hdone]
    exact ⟨rfl, fun _ => rfl, fun _ h => nomatch h⟩
  | ok identifier =>
    have hexec := Fleet.deleteVolume_exec hid reported
    have hfirst : first = rack.withoutFirst identifier.path (fleet.addressed identifier) :=
      congrArg Prod.snd (hexec rack)
    have hsecond : second =
        (.ok (), first.withoutFirst identifier.path (fleet.addressed identifier)) := hexec first
    rw [hsecond]
    refine ⟨rfl, (fun ⟨_, hfault⟩ => nomatch hfault), ?_⟩
    rintro _ ⟨⟩
    refine ⟨rfl, Rack.withoutFirst_eq_self_iff, fun single => ?_⟩
    rw [Rack.withoutFirst_eq_self_iff, hfirst]
    exact fun appliance hmem => Rack.has_withoutFirst single hmem

/-- The identifier names one of the two backends, so the second deletion has nothing left to do. -/
theorem repeated_deletion_named :
    let delete := (TwoCopies.fleet.deleteVolume "one:pool/v").run
    (delete.exec (delete.exec TwoCopies.rack).2).1 = .ok () ∧
    (delete.exec (delete.exec TwoCopies.rack).2).2 = (delete.exec TwoCopies.rack).2 := by
  have hsingle : TwoCopies.fleet.addressed (.ofVolume "one" "pool/v") = [TwoCopies.one] := rfl
  obtain ⟨hok, -, hrest⟩ :=
    repeated_deletion TwoCopies.fleet "one:pool/v" TwoCopies.rack rfl
  refine ⟨hok, (hrest (.ofVolume "one" "pool/v") rfl).2.2 fun one hone other hother _ _ => ?_⟩
  rw [hsingle, List.mem_singleton] at hone hother
  rw [hone, hother]

/-- Without the name of a backend the second deletion removes the other copy. -/
theorem repeated_deletion_moves_on :
    let delete := (TwoCopies.fleet.deleteVolume "pool/v").run
    (delete.exec TwoCopies.rack).1 = .ok () ∧
    (delete.exec TwoCopies.rack).2.has "pool/v" TwoCopies.other = true ∧
    (delete.exec (delete.exec TwoCopies.rack).2).1 = .ok () ∧
    (delete.exec (delete.exec TwoCopies.rack).2).2.has "pool/v" TwoCopies.other = false :=
  ⟨rfl, rfl, rfl, rfl⟩

end StorageFleet
