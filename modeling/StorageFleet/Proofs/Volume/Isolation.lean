import StorageFleet.Proofs.Fleet.Search
import StorageFleet.Proofs.Identifier.Codec
import StorageFleet.Proofs.Rack.Filing
import StorageFleet.Proofs.Rack.Operation
import StorageFleet.Proofs.Volume.Requests

/-!
# Operations stay on the backend they name

Different backends are different customers' appliances.  An operation that names a backend, in front
of an identifier or as the place for a new volume, asks no other (`isolated`): the backend's
appliances are asked for the path in turn, and from then on only the one that was found first.  What
the appliances answer does not matter, and neither does what other operations do to them meanwhile.

`Operation.Aimed` says which backend an operation names.  A name is cut off an identifier at the
first colon, so it can have none itself; the empty name stands for no backend; and where snapshots
are listed by two filters, the snapshot's is the one that counts.  `misled` shows that nothing else
may be expected of the others.
-/

namespace StorageFleet

namespace Fleet

/-- What is asked of a backend: nothing, or the search for a path and then its one finder. -/
inductive Confined (fleet : Fleet) (name : String) (look : Backend → Option String) :
    List Asked → Prop where
  | nothing : Confined fleet name look []
  | missed {backend path said fault} (hmem : backend ∈ fleet.backends)
      (hname : backend.name = name) (hlook : look backend = some path)
      (hmatch : FirstMatch (backend.places path) said (.error fault)) :
      Confined fleet name look said
  | served {backend path probes place rest} (hmem : backend ∈ fleet.backends)
      (hname : backend.name = name) (hlook : look backend = some path)
      (hmatch : FirstMatch (backend.places path) probes (.ok place))
      (hrest : ∀ asked ∈ rest, asked.appliance = place.appliance) :
      Confined fleet name look (probes ++ rest)

end Fleet

/-- However it is answered, the operation asks no appliance of another backend. -/
def Fleet.AsksOnly (fleet : Fleet) (name : String) (operation : Operation) : Prop :=
  ∀ branch ∈ operation.branches fleet, ∀ said result, branch.Transcript said result →
    ∀ asked ∈ said, ∃ backend ∈ fleet.backends,
      backend.name = name ∧ asked.appliance ∈ backend.appliances

/-! ## Searches on one backend -/

/-- Only places are asked, and only a place is found. -/
lemma FirstMatch.mem {places : List Resolution} {said : List Asked}
    {result : Except Fault Resolution} (h : FirstMatch places said result) :
    (∀ asked ∈ said, ∃ place ∈ places, asked.appliance = place.appliance) ∧
      ∀ place, result = .ok place → place ∈ places := by
  have hprobes : ∀ (before : List Resolution) (faults : List Fault),
      ∀ asked ∈ List.zipWith (fun place fault => place.looked (.error fault)) before faults,
        ∃ place ∈ before, asked.appliance = place.appliance := by
    intro before faults asked hmem
    obtain ⟨i, hi, rfl⟩ := List.getElem_of_mem hmem
    rw [List.getElem_zipWith]
    exact ⟨_, List.getElem_mem _, rfl⟩
  obtain ⟨before, faults, rfl, -⟩ | ⟨before, faults, rfl, -⟩ := h
  · refine ⟨fun asked hmem => ?_, fun _ h => Except.ok.inj h ▸ by simp⟩
    rcases List.mem_append.1 hmem with hmem | hmem
    · obtain ⟨place, hplace, happliance⟩ := hprobes before faults asked hmem
      exact ⟨place, by simp [hplace], happliance⟩
    · rw [List.mem_singleton.1 hmem]
      exact ⟨_, by simp, rfl⟩
  · refine ⟨fun asked hmem => ?_, fun _ h => nomatch h⟩
    rcases List.mem_append.1 hmem with hmem | hmem
    · obtain ⟨place, hplace, happliance⟩ := hprobes before faults asked hmem
      exact ⟨place, by simp [hplace], happliance⟩
    · rw [List.mem_singleton.1 hmem]
      exact ⟨_, by simp, rfl⟩

namespace Backend

variable {backend : Backend} {path : String} {place : Resolution}

lemma appliance_mem_of_mem_places (h : place ∈ backend.places path) :
    place.appliance ∈ backend.appliances := by
  obtain ⟨appliance, hmem, rfl⟩ := List.mem_map.1 h
  exact hmem

end Backend

namespace Fleet

variable {fleet : Fleet} {name : String} {look : Backend → Option String} {said : List Asked}

/-- All that is asked is asked of the backend. -/
lemma Confined.mem (h : fleet.Confined name look said) : ∀ asked ∈ said,
    ∃ backend ∈ fleet.backends, backend.name = name ∧ asked.appliance ∈ backend.appliances := by
  intro asked hmem
  cases h with
  | nothing => simp at hmem
  | missed hbackend hname _ hmatch =>
    obtain ⟨place, hplace, happliance⟩ := hmatch.mem.1 asked hmem
    exact ⟨_, hbackend, hname, happliance ▸ Backend.appliance_mem_of_mem_places hplace⟩
  | served hbackend hname _ hmatch hrest =>
    refine ⟨_, hbackend, hname, ?_⟩
    rcases List.mem_append.1 hmem with hmem | hmem
    · obtain ⟨place, hplace, happliance⟩ := hmatch.mem.1 asked hmem
      exact happliance ▸ Backend.appliance_mem_of_mem_places hplace
    · rw [hrest asked hmem]
      exact Backend.appliance_mem_of_mem_places (hmatch.mem.2 _ rfl)

/-- A backend is searched for its path, unless there is none. -/
lemma transcript_selectOn {backend : Backend} {path : Option String}
    {result : Except Fault Resolution}
    (h : (selectOn backend path).run.Transcript said result) :
    (said = [] ∧ ∃ fault, result = .error fault) ∨
      ∃ dataset, backend.pathFor path = some dataset ∧
        FirstMatch (backend.places dataset) said result := by
  cases hpath : backend.pathFor path with
  | none =>
    rw [selectOn, Backend.datasetOrDefault_of_none hpath] at h
    obtain ⟨rfl, rfl⟩ := Plan.transcript_done.1 h
    exact .inl ⟨rfl, _, rfl⟩
  | some dataset =>
    cases hempty : dataset.isEmpty with
    | true =>
      obtain rfl := String.isEmpty_iff.1 hempty
      have hrefused : (selectOn backend path).run = .done (.error (.invalidArgument
          ("backend '" ++ backend.name ++ "': cannot resolve an empty path"))) := by
        rw [selectOn, Backend.datasetOrDefault_of_some hpath]
        rfl
      rw [hrefused] at h
      obtain ⟨rfl, rfl⟩ := Plan.transcript_done.1 h
      exact .inl ⟨rfl, _, rfl⟩
    | false =>
      rw [selectOn_eq backend.pathless hpath hempty, transcript_searchAmong] at h
      rcases h with ⟨hplaces, -⟩ | hmatch
      · exact absurd hplaces (backend.places_ne_nil dataset)
      · exact .inr ⟨dataset, rfl, hmatch⟩

/-- Where a backend is named, no other is searched. -/
lemma transcript_select_named {zone path : Option String} {result : Except Fault Resolution}
    (hname : name ≠ "") (h : (fleet.select (some name) zone path).run.Transcript said result) :
    (said = [] ∧ ∃ fault, result = .error fault) ∨
      ∃ backend ∈ fleet.backends, backend.name = name ∧ ∃ dataset,
        backend.pathFor path = some dataset ∧
          FirstMatch (backend.places dataset) said result := by
  have hgiven : given (some name) = some name := Option.filter_some_pos (by simpa using hname)
  unfold select at h
  rw [hgiven] at h
  dsimp only at h
  unfold selectNamed at h
  cases hfind : fleet.find? name with
  | none =>
    rw [hfind] at h
    obtain ⟨rfl, rfl⟩ := Plan.transcript_done.1 h
    exact .inl ⟨rfl, _, rfl⟩
  | some backend =>
    rw [hfind] at h
    dsimp only at h
    split at h
    · obtain ⟨rfl, rfl⟩ := Plan.transcript_done.1 h
      exact .inl ⟨rfl, _, rfl⟩
    · refine (transcript_selectOn h).imp_right fun hdataset => ?_
      exact ⟨backend, List.mem_of_find?_eq_some hfind, by simpa using List.find?_some hfind,
        hdataset⟩

/-- A plan that is directed to a backend stays there. -/
lemma Directed.confined {kinds : Call → Prop} {plan : Plan α} {aim? : Option Aim} {result : α}
    (h : fleet.Directed kinds plan aim?) (hname : name ≠ "")
    (haim : ∀ aim, aim? = some aim →
      aim.name = some name ∧ ∀ backend : Backend, backend.pathFor aim.path = look backend)
    (hsaid : plan.Transcript said result) : fleet.Confined name look said := by
  cases aim? with
  | none =>
    cases said with
    | nil => exact .nothing
    | cons asked rest => exact ((h.transcript hsaid).1 asked (by simp)).elim
  | some aim =>
    obtain ⟨haimed, hlook⟩ := haim aim rfl
    obtain ⟨probes, rest, found, rfl, hprobes, hrest⟩ := h said result hsaid
    rw [haimed] at hprobes
    have hnobody : ∀ fault, found = .error fault → rest = [] := by
      rintro fault rfl
      refine List.eq_nil_iff_forall_not_mem.2 fun asked hmem => ?_
      obtain ⟨-, _, hfound, -⟩ := hrest asked hmem
      cases hfound
    rcases transcript_select_named hname hprobes with
      ⟨rfl, fault, hfault⟩ | ⟨backend, hmem, hbackend, dataset, hdataset, hmatch⟩
    · rw [hnobody fault hfault]
      exact .nothing
    · rw [hlook] at hdataset
      cases found with
      | error fault =>
        rw [hnobody fault rfl, List.append_nil]
        exact .missed hmem hbackend hdataset hmatch
      | ok place =>
        refine .served hmem hbackend hdataset hmatch fun asked hasked => ?_
        obtain ⟨-, _, ⟨⟩, happliance⟩ := hrest asked hasked
        exact happliance

end Fleet

/-! ## Naming a backend -/

namespace Identifier

/-- The path that a text names on its backend, if it can be read. -/
def pathIn (id : String) : Option String :=
  (decode id).toOption.map path

variable {id name rest : String} {identifier : Identifier}

/-- What stands before the first colon is the backend. -/
lemma backend_of_decode (hmark : backendMark ∉ name.toList)
    (h : decode (name ++ ":" ++ rest) = .ok identifier) : identifier.backend = some name := by
  have hsplit : Text.splitOnce backendMark (name ++ ":" ++ rest).toList =
      some (name.toList, rest.toList) :=
    Text.splitOnce_eq_some_iff.2 ⟨by simp [backendMark], hmark⟩
  unfold decode at h
  rw [hsplit] at h
  dsimp only at h
  split at h
  · cases h
  · simpa using (decodeRest_eq_ok_iff.1 h).1

lemma path_ne_of_decode (h : decode id = .ok identifier) : identifier.path ≠ "" :=
  (decode_eq_ok_iff.1 h).1.divisible.path_ne

end Identifier

namespace Operation

/-- The operation names the backend, and looks there for this path. -/
inductive Aimed (name : String) : Operation → (Backend → Option String) → Prop where
  | deleteVolume (rest : String) : Aimed name (.deleteVolume (name ++ ":" ++ rest))
      fun _ => Identifier.pathIn (name ++ ":" ++ rest)
  | expandVolume (rest : String) (capacity : Nat) :
      Aimed name (.expandVolume (name ++ ":" ++ rest) capacity)
        fun _ => Identifier.pathIn (name ++ ":" ++ rest)
  | validateVolume (rest : String) : Aimed name (.validateVolume (name ++ ":" ++ rest))
      fun _ => Identifier.pathIn (name ++ ":" ++ rest)
  | prepareShare (rest : String) (mount : Option MountType) (address : Option String) :
      Aimed name (.prepareShare (name ++ ":" ++ rest) mount address)
        fun _ => Identifier.pathIn (name ++ ":" ++ rest)
  | createSnapshot (rest snapshot : String) :
      Aimed name (.createSnapshot (name ++ ":" ++ rest) snapshot)
        fun _ => Identifier.pathIn (name ++ ":" ++ rest)
  | deleteSnapshot (rest : String) : Aimed name (.deleteSnapshot (name ++ ":" ++ rest))
      fun _ => Identifier.pathIn (name ++ ":" ++ rest)
  | snapshotFilter (rest : String) (volumeId : Option String) (limit : Nat)
      (token : Option String) :
      Aimed name (.listSnapshots (some (name ++ ":" ++ rest)) volumeId limit token)
        fun _ => Identifier.pathIn (name ++ ":" ++ rest)
  | volumeFilter {snapshotId : Option String} (hnone : Fleet.given snapshotId = none)
      (rest : String) (limit : Nat) (token : Option String) :
      Aimed name (.listSnapshots snapshotId (some (name ++ ":" ++ rest)) limit token)
        fun _ => Identifier.pathIn (name ++ ":" ++ rest)
  | ofSnapshot {request : CreateVolumeRequest} (rest : String)
      (hsource : request.source = some (.snapshot (name ++ ":" ++ rest))) :
      Aimed name (.createVolume request) fun _ => Identifier.pathIn (name ++ ":" ++ rest)
  | ofVolume {request : CreateVolumeRequest} (rest : String)
      (hsource : request.source = some (.volume (name ++ ":" ++ rest))) :
      Aimed name (.createVolume request) fun _ => Identifier.pathIn (name ++ ":" ++ rest)
  | empty {request : CreateVolumeRequest} (hsource : request.source = none)
      (hname : request.parameters.configName = some name) :
      Aimed name (.createVolume request) fun backend => backend.pathFor request.parameters.dataset
  | getCapacity (dataset zone : Option String) :
      Aimed name (.getCapacity (some name) dataset zone) fun backend => backend.pathFor dataset

/-- What the aim of an operation has to be if it names the backend. -/
def AimsAt (name : String) (look : Backend → Option String) (aim : Fleet.Aim) : Prop :=
  aim.name = some name ∧ ∀ backend : Backend, backend.pathFor aim.path = look backend

variable {name rest : String} {look : Backend → Option String} {operation : Operation}

/-- The aim of an identifier is what stands before its first colon, and its path. -/
lemma aimsAt_of_aimOf {decode : String → Except Identifier.Defect Identifier}
    {zone : Option String} {aim : Fleet.Aim} (hmark : Identifier.backendMark ∉ name.toList)
    (hdecode : ∀ {id identifier}, decode id = .ok identifier →
      Identifier.decode id = .ok identifier)
    (h : Fleet.aimOf decode (name ++ ":" ++ rest) zone = some aim) :
    AimsAt name (fun _ => Identifier.pathIn (name ++ ":" ++ rest)) aim := by
  unfold Fleet.aimOf at h
  cases hid : decode (name ++ ":" ++ rest) with
  | error defect =>
    rw [hid] at h
    cases h
  | ok identifier =>
    rw [hid] at h
    cases h
    have hread := hdecode hid
    refine ⟨Identifier.backend_of_decode hmark hread, fun backend => ?_⟩
    have hgiven : Fleet.given (some identifier.path) = some identifier.path :=
      Option.filter_some_pos (by simpa using Identifier.path_ne_of_decode hread)
    rw [Identifier.pathIn, hread, Backend.pathFor]
    change (Fleet.given (some identifier.path)).or _ = some identifier.path
    rw [hgiven, Option.some_or]

lemma given_marked (name rest : String) :
    Fleet.given (some (name ++ ":" ++ rest)) = some (name ++ ":" ++ rest) :=
  Option.filter_some_pos (by simp)

/-- An operation that names a backend has no other aim. -/
lemma Aimed.aimsAt (h : operation.Aimed name look) (hmark : Identifier.backendMark ∉ name.toList) :
    operation.isWide = false ∧ ∀ aim, operation.aim? = some aim → AimsAt name look aim := by
  have hvolume : ∀ {id identifier}, Identifier.decodeVolume id = .ok identifier →
      Identifier.decode id = .ok identifier := fun h => (Identifier.decodeVolume_eq_ok_iff.1 h).1
  have hsnapshot : ∀ {id identifier}, Identifier.decodeSnapshot id = .ok identifier →
      Identifier.decode id = .ok identifier := fun h => (Identifier.decodeSnapshot_eq_ok_iff.1 h).1
  cases h with
  | deleteVolume | validateVolume | prepareShare =>
    exact ⟨rfl, fun _ haim => aimsAt_of_aimOf hmark hvolume haim⟩
  | deleteSnapshot => exact ⟨rfl, fun _ haim => aimsAt_of_aimOf hmark hsnapshot haim⟩
  | expandVolume | createSnapshot =>
    refine ⟨rfl, fun _ haim => ?_⟩
    simp only [aim?] at haim
    split_ifs at haim
    exact aimsAt_of_aimOf hmark hvolume haim
  | snapshotFilter rest volumeId limit token =>
    refine ⟨by simp [isWide, given_marked], fun _ haim => ?_⟩
    simp only [aim?, given_marked] at haim
    exact aimsAt_of_aimOf hmark hsnapshot haim
  | volumeFilter hnone rest limit token =>
    refine ⟨by simp [isWide, given_marked], fun _ haim => ?_⟩
    simp only [aim?, hnone, given_marked] at haim
    exact aimsAt_of_aimOf hmark hvolume haim
  | ofSnapshot rest hsource =>
    refine ⟨rfl, fun _ haim => ?_⟩
    simp only [aim?, CreateVolumeRequest.aim?, hsource] at haim
    split_ifs at haim
    exact aimsAt_of_aimOf hmark hsnapshot haim
  | ofVolume rest hsource =>
    refine ⟨rfl, fun _ haim => ?_⟩
    simp only [aim?, CreateVolumeRequest.aim?, hsource] at haim
    split_ifs at haim
    exact aimsAt_of_aimOf hmark hvolume haim
  | empty hsource hname =>
    refine ⟨rfl, fun aim haim => ?_⟩
    simp only [aim?, CreateVolumeRequest.aim?, hsource] at haim
    split_ifs at haim
    cases haim
    exact ⟨hname, fun _ => rfl⟩
  | getCapacity dataset zone =>
    refine ⟨rfl, fun aim haim => ?_⟩
    cases haim
    exact ⟨rfl, fun _ => rfl⟩

end Operation

/-! ## Nothing else changes -/

namespace Plan

/-- Plans leave alone whatever their calls leave alone. -/
lemma execAll_eq_of_asks (view : Rack → γ) {plans : List (Plan α)}
    {calls : ApplianceRef → Call → Prop} (hplans : ∀ plan ∈ plans, plan.Asks calls)
    (hcalls : ∀ rack appliance call, calls appliance call →
      view (rack.answer appliance call).2 = view rack) (rack : Rack) :
    view (execAll plans rack).2 = view rack := by
  have hplan : ∀ plan : Plan α, plan.Asks calls → ∀ rack, view (plan.exec rack).2 = view rack := by
    intro plan hasks
    induction plan with
    | done result => exact fun _ => rfl
    | call appliance asked next ih =>
      exact fun rack => (ih _ (hasks.2 _) _).trans (hcalls rack appliance asked hasks.1)
    | warn line next ih => exact ih hasks
  induction plans generalizing rack with
  | nil => rfl
  | cons plan rest ih =>
    exact (ih (fun other hmem => hplans other (List.mem_cons_of_mem _ hmem)) _).trans
      (hplan plan (hplans plan (by simp)) rack)

end Plan

/-- A harmless call leaves the rack as it is. -/
lemma Call.Harmless.answer_eq {call : Call} (h : call.Harmless) (rack : Rack)
    (appliance : ApplianceRef) : (rack.answer appliance call).2 = rack := by
  unfold Rack.answer
  split
  · next a ha =>
    dsimp only
    rw [h a, Rack.set_eq_self ha]
  · rfl

/-- The branches of an operation that only looks might as well run side by side. -/
lemma Operation.exec_of_isLook {operation : Operation} (hlook : operation.isLook = true)
    (fleet : Fleet) (rack : Rack) : operation.exec fleet rack =
      (operation.conclude ((operation.branches fleet).map fun branch => (branch.exec rack).1),
        rack) := by
  have hsame : ∀ branch ∈ operation.branches fleet, (branch.exec rack).2 = rack := by
    intro branch hmem
    have hasks : ∀ plan ∈ [branch], plan.Asks fun appliance call =>
        fleet.Owns appliance ∧ operation.Calls call :=
      fun plan hplan => List.mem_singleton.1 hplan ▸ Operation.asks hmem
    exact Plan.execAll_eq_of_asks (fun rack => rack) hasks
      (fun rack appliance call hcall => (hcall.2 hlook).answer_eq rack appliance) rack
  rw [exec, Plan.execAll_of_same hsame]

/-- An operation on a backend asks and changes no other, and one that only looks changes nothing. -/
theorem isolated (fleet : Fleet) :
    (∀ (operation : Operation) (name : String) (look : Backend → Option String), name ≠ "" →
      Identifier.backendMark ∉ name.toList → operation.Aimed name look →
      fleet.AsksOnly name operation ∧
      (∀ branch ∈ operation.branches fleet, ∀ said result, branch.Transcript said result →
        fleet.Confined name look said) ∧
      ∀ rack id, (∀ backend ∈ fleet.backends, backend.name = name →
        ∀ appliance ∈ backend.appliances, appliance.id ≠ id) →
          (operation.exec fleet rack).2 id = rack id) ∧
    ∀ operation : Operation, operation.isLook = true →
      (∀ branch ∈ operation.branches fleet, ∀ said result, branch.Transcript said result →
        ∀ asked ∈ said, ∀ rack : Rack, rack.after asked = rack) ∧
      ∀ rack, (operation.exec fleet rack).2 = rack := by
  constructor
  · intro operation name look hname hmark haimed
    obtain ⟨hwide, haim⟩ := haimed.aimsAt hmark
    have hconfined : ∀ branch ∈ operation.branches fleet, ∀ said result,
        branch.Transcript said result → fleet.Confined name look said :=
      fun branch hmem said result hsaid =>
        (Operation.directed hwide hmem).confined hname haim hsaid
    have honly : fleet.AsksOnly name operation :=
      fun branch hmem said result hsaid => (hconfined branch hmem said result hsaid).mem
    refine ⟨honly, hconfined, fun rack id hid => ?_⟩
    have hasks : ∀ branch ∈ operation.branches fleet, branch.Asks fun appliance _ =>
        ∃ backend ∈ fleet.backends, backend.name = name ∧ appliance ∈ backend.appliances :=
      fun branch hmem => Plan.asks_iff.2 (honly branch hmem)
    refine Plan.execAll_eq_of_asks (fun rack => rack id) hasks ?_ rack
    rintro rack appliance call ⟨backend, hbackend, hnamed, happliance⟩
    exact Rack.answer_of_ne (hid backend hbackend hnamed appliance happliance).symm
  · intro operation hlook
    refine ⟨fun branch hmem said result hsaid asked hasked rack => ?_, fun rack => ?_⟩
    · have hcalls := ((Operation.asks hmem).transcript hsaid).1 asked hasked
      exact (hcalls.2 hlook).answer_eq rack asked.appliance
    · refine Plan.execAll_eq_of_asks (fun rack => rack) (fun branch => Operation.asks) ?_ rack
      exact fun rack appliance call hcall => (hcall.2 hlook).answer_eq rack appliance

/-! ## Examples -/

namespace Pools

/-- Deleting a volume on one backend leaves the volume of the same path on the other. -/
theorem isolated_pools :
    ("other" ≠ "" ∧ Identifier.backendMark ∉ "other".toList ∧
      (Operation.deleteVolume "other:pool/v").Aimed "other"
        (fun _ => Identifier.pathIn "other:pool/v") ∧
      (∀ backend ∈ fleet.backends, backend.name = "other" →
        ∀ appliance ∈ backend.appliances, appliance.id ≠ 0) ∧
      fleet.AsksOnly "other" (.deleteVolume "other:pool/v") ∧
      fleet.Confined "other" (fun _ => Identifier.pathIn "other:pool/v")
        ((fleet.deleteVolume "other:pool/v").run.asked rack) ∧
      ((Operation.deleteVolume "other:pool/v").exec fleet rack).2 0 = rack 0) ∧
    (Operation.validateVolume "one:pool/v").isLook = true ∧
      ((Operation.validateVolume "one:pool/v").exec fleet rack).2 = rack := by
  have hmark : Identifier.backendMark ∉ "other".toList := by decide
  have haimed : (Operation.deleteVolume "other:pool/v").Aimed "other"
      (fun _ => Identifier.pathIn "other:pool/v") := .deleteVolume "pool/v"
  have hother : ∀ backend ∈ fleet.backends, backend.name = "other" →
      ∀ appliance ∈ backend.appliances, appliance.id ≠ 0 := by decide
  obtain ⟨honly, hconfined, hkept⟩ := (isolated fleet).1 _ "other" _ (by decide) hmark haimed
  exact ⟨⟨by decide, hmark, haimed, hother, honly,
    hconfined _ (List.mem_singleton.2 rfl) _ _ (Plan.transcript_exec _ rack),
    hkept rack 0 hother⟩, rfl, ((isolated fleet).2 (.validateVolume "one:pool/v") rfl).2 rack⟩

/-- The backends of names that cannot be told in an identifier. -/
def marked : Fleet where
  backends := [backend "one" "pool" 0, backend "one:other" "pool" 1]

/-- A backend that is called like no backend. -/
def unnamed : Fleet where
  backends := [backend "one" "pool" 0, backend "" "pool" 1]

lemma not_asksOnly {fleet : Fleet} {name : String} {operation : Operation}
    {branch : Plan operation.Part} (hmem : branch ∈ operation.branches fleet) {asked : Asked}
    (hasked : asked ∈ branch.asked rack) (hother : ∀ backend ∈ fleet.backends,
      backend.name = name → asked.appliance ∉ backend.appliances) :
    ¬fleet.AsksOnly name operation := by
  intro h
  obtain ⟨backend, hbackend, hname, happliance⟩ :=
    h branch hmem _ _ (Plan.transcript_exec branch rack) asked hasked
  exact hother backend hbackend hname happliance

/-- A second filter, a name with a colon and the empty name do not keep an operation on the backend
that they seem to name. -/
theorem misled :
    ((fleet.backends.map Backend.name).Nodup ∧ ¬fleet.AsksOnly "other"
      (.listSnapshots (some "one:pool/v@s") (some "other:pool/v") 0 none)) ∧
    ((marked.backends.map Backend.name).Nodup ∧
      ¬marked.AsksOnly "one:other" (.validateVolume "one:other:pool/v")) ∧
    ((unnamed.backends.map Backend.name).Nodup ∧
      ¬unnamed.AsksOnly "" (.getCapacity (some "") none none)) := by
  refine ⟨⟨by decide, ?_⟩, ⟨by decide, ?_⟩, by decide, ?_⟩
  all_goals exact not_asksOnly (List.mem_singleton.2 rfl) List.mem_cons_self (by decide)

end Pools
end StorageFleet
