import StorageFleet.Fleet.Basic
import StorageFleet.Proofs.Rack.Execution

/-!
# Who serves a path

Selecting an appliance is a series of probes.  On a rack it changes nothing, and it finds the first
appliance in configured order that has the path: `Fleet.candidates` are the backends that come into
question, `Rack.home?` is where a backend has the path, and `select_leads` puts them together.

The probes need not all go to one rack.  `select_leads` is about any set of racks that look alike to
the search, so its outcome is the same even if the rack changes on the way.
-/

namespace StorageFleet

/-- A path that is given is looked for, whatever the default. -/
lemma Backend.datasetOrDefault_of_nonempty {path : String} (hpath : path.isEmpty = false)
    (backend : Backend) : backend.datasetOrDefault (some path) = .ok path := by
  rw [datasetOrDefault, Option.filter_some_pos (by simp [hpath])]

namespace Rack

/-- What a look at a path finds. -/
def probe (rack : Rack) (path : String) (appliance : ApplianceRef) : Except Fault Filesystem :=
  (rack.answer appliance (.getFilesystem path)).1

/-- Whether an appliance has the path. -/
def has (rack : Rack) (path : String) (appliance : ApplianceRef) : Bool :=
  (rack.probe path appliance).isOk

lemma step_getFilesystem (a : Simulated) (path : String) :
    (a.step (.getFilesystem path)).2 = a := by
  unfold Simulated.step
  split <;> rfl

/-- A look changes nothing. -/
lemma answer_getFilesystem (rack : Rack) (path : String) (appliance : ApplianceRef) :
    rack.answer appliance (.getFilesystem path) = (rack.probe path appliance, rack) := by
  cases h : rack appliance.id with
  | none => simp only [probe, answer, h]
  | some a => simp only [probe, answer_of_some h, step_getFilesystem, set_eq_self h]

/-- An appliance has a path if it is there, can be reached, and has a filesystem of that path. -/
lemma has_iff {rack : Rack} {path : String} {appliance : ApplianceRef} :
    rack.has path appliance = true ↔ ∃ a, rack appliance.id = some a ∧ a.offline = false ∧
      a.filesystems.contains path = true := by
  unfold has probe
  cases h : rack appliance.id with
  | none => simp [answer, h, Except.isOk, Except.toBool]
  | some a =>
    rw [answer_of_some h]
    simp only [Option.some.injEq, exists_eq_left']
    cases hoffline : a.offline with
    | true => simp [Simulated.step, hoffline, Except.isOk, Except.toBool]
    | false =>
      cases hfound : a.filesystems.find? path with
      | none => simp [Simulated.step, hoffline, Simulated.answer, Simulated.filesystem, hfound,
          Catalog.contains, Except.isOk, Except.toBool]
      | some fs => simp [Simulated.step, hoffline, Simulated.answer, Simulated.filesystem, hfound,
          Catalog.contains, Except.isOk, Except.toBool]

/-- What a look finds does not depend on the other appliances. -/
lemma probe_congr {rack other : Rack} {path : String} {appliance : ApplianceRef}
    (h : other appliance.id = rack appliance.id) :
    other.probe path appliance = rack.probe path appliance := by
  unfold probe answer
  rw [h]
  cases rack appliance.id <;> rfl

/-- The first appliance of a backend that has the path; nobody has an empty one. -/
def holder? (rack : Rack) (path : String) (backend : Backend) : Option ApplianceRef :=
  if path.isEmpty then none else backend.appliances.find? (rack.has path)

lemma of_holder? {rack : Rack} {path : String} {backend : Backend} {appliance : ApplianceRef}
    (h : rack.holder? path backend = some appliance) :
    appliance ∈ backend.appliances ∧ rack.has path appliance = true := by
  unfold holder? at h
  split_ifs at h
  exact ⟨List.mem_of_find?_eq_some h, List.find?_some h⟩

lemma ne_empty_of_holder? {rack : Rack} {path : String} {backend : Backend}
    {appliance : ApplianceRef} (h : rack.holder? path backend = some appliance) : path ≠ "" := by
  rintro rfl
  cases h

/-- Where a backend has a path, or its default dataset if there is no path. -/
def home? (rack : Rack) (path : Option String) (backend : Backend) : Option Resolution :=
  match backend.datasetOrDefault path with
  | .error _ => none
  | .ok dataset =>
    (rack.holder? dataset backend).map fun appliance => ⟨backend, appliance, dataset⟩

lemma of_home? {rack : Rack} {path : Option String} {backend : Backend} {resolution : Resolution}
    (h : rack.home? path backend = some resolution) :
    resolution.backend = backend ∧ resolution.appliance ∈ backend.appliances ∧
      backend.datasetOrDefault path = .ok resolution.path ∧
      rack.has resolution.path resolution.appliance = true := by
  unfold home? at h
  cases hdataset : backend.datasetOrDefault path with
  | error fault => simp [hdataset] at h
  | ok dataset =>
    rw [hdataset] at h
    obtain ⟨appliance, hholder, rfl⟩ := Option.map_eq_some_iff.1 h
    obtain ⟨hmem, hhas⟩ := of_holder? hholder
    exact ⟨rfl, hmem, rfl, hhas⟩

lemma home?_of_error {rack : Rack} {path : Option String} {backend : Backend} {fault : Fault}
    (h : backend.datasetOrDefault path = .error fault) : rack.home? path backend = none := by
  rw [home?, h]

lemma home?_of_ok {rack : Rack} {path : Option String} {backend : Backend} {dataset : String}
    (h : backend.datasetOrDefault path = .ok dataset) : rack.home? path backend =
      (rack.holder? dataset backend).map fun appliance => ⟨backend, appliance, dataset⟩ := by
  rw [home?, h]

/-- The racks look alike to a search for a path on a backend. -/
def Alike (racks : Rack → Prop) (rack : Rack) (path : Option String) (backend : Backend) : Prop :=
  ∀ dataset, backend.datasetOrDefault path = .ok dataset → ∀ other, racks other →
    ∀ appliance ∈ backend.appliances, other.probe dataset appliance = rack.probe dataset appliance

lemma alike_self (rack : Rack) (path : Option String) (backend : Backend) :
    Alike (· = rack) rack path backend := by
  rintro dataset - other rfl appliance -
  rfl

end Rack

open StorageFleet.Rack (Alike)

variable {racks : Rack → Prop} {rack : Rack}

namespace Backend

/-- The search among appliances finds the first that has the path. -/
lemma locateAmong_leads {path : String} {appliances : List ApplianceRef}
    (alike : ∀ other, racks other → ∀ appliance ∈ appliances,
      other.probe path appliance = rack.probe path appliance) (last : Fault) :
    ∃ found, (locateAmong path last appliances).run.Leads racks (.done found) ∧
      found.toOption = appliances.find? (rack.has path) := by
  induction appliances generalizing last with
  | nil => exact ⟨.error last, .here, rfl⟩
  | cons appliance rest ih =>
    have hlook : ∀ other, racks other →
        other.answer appliance (.getFilesystem path) = (rack.probe path appliance, other) := by
      intro other hother
      rw [Rack.answer_getFilesystem, alike other hother appliance (by simp)]
    have hrest := ih fun other hother appliance' hmem =>
      alike other hother appliance' (by simp [hmem])
    cases hprobe : rack.probe path appliance with
    | ok fs =>
      rw [hprobe] at hlook
      refine ⟨.ok appliance, .call _ hlook .here, ?_⟩
      simp [Rack.has, hprobe, Except.isOk, Except.toBool, Except.toOption]
    | error fault =>
      rw [hprobe] at hlook
      obtain ⟨found, hleads, hfound⟩ := hrest fault
      refine ⟨found, .call _ hlook hleads, ?_⟩
      simp [Rack.has, hprobe, Except.isOk, Except.toBool, hfound]

/-- A backend that is asked for a path finds the first of its appliances that has it. -/
lemma locate_leads {path : String} {backend : Backend}
    (alike : ∀ other, racks other → ∀ appliance ∈ backend.appliances,
      other.probe path appliance = rack.probe path appliance) :
    ∃ found, (backend.locate path).run.Leads racks (.done found) ∧
      found.toOption = rack.holder? path backend ∧
      (path.isEmpty = false → ∀ fault, found = .error fault → fault.status = .notFound) := by
  unfold Rack.holder?
  cases hempty : path.isEmpty with
  | true =>
    unfold locate
    rw [hempty]
    exact ⟨_, .here, rfl, fun hnot => absurd hnot (by decide)⟩
  | false =>
    obtain ⟨found, hleads, hfound⟩ := locateAmong_leads alike (withoutAppliances backend.name)
    unfold locate
    simp only [hempty, Bool.false_eq_true, if_false]
    rw [Attempt.run_outcome_bind]
    cases found with
    | ok appliance =>
      refine ⟨_, hleads.bind, hfound, ?_⟩
      rintro - _ ⟨⟩
    | error fault =>
      refine ⟨_, hleads.bind, hfound, ?_⟩
      rintro - _ ⟨⟩
      rfl

end Backend

namespace Fleet

/-- Whether a backend may serve a request for a zone. -/
def fits (zone : Option String) (backend : Backend) : Bool :=
  zone.all fun zone => backend.zone == some zone

lemma fits_iff {zone : Option String} {backend : Backend} :
    fits zone backend = true ↔ ¬(zone.isSome = true ∧ backend.zone ≠ zone) := by
  cases zone <;> simp [fits]

/-- The zone of a request that a backend does not fit. -/
lemma filter_zone {zone : Option String} {backend : Backend} :
    zone.filter (fun zone => backend.zone ≠ some zone) =
      if fits zone backend = true then none else zone := by
  cases zone with
  | none => rfl
  | some wanted => by_cases h : backend.zone = some wanted <;> simp [fits, h]

/-- Each of the backends can be asked, as it has a path to be asked for. -/
def HavePath (path : Option String) (backends : List Backend) : Prop :=
  ∀ backend ∈ backends, ∃ dataset,
    backend.datasetOrDefault path = .ok dataset ∧ dataset.isEmpty = false

lemma HavePath.exists_eq {path : Option String} {backends : List Backend}
    (h : HavePath path backends) {backend : Backend} (hmem : backend ∈ backends)
    {asked : Except Fault String} (hasked : backend.datasetOrDefault path = asked) :
    ∃ dataset, asked = .ok dataset ∧ dataset.isEmpty = false := by
  rw [← hasked]
  exact h backend hmem

/-- The backends that come into question. -/
def candidates (fleet : Fleet) (name zone : Option String) : List Backend :=
  match given name with
  | some name => (fleet.find? name).toList.filter (fits (given zone))
  | none => fleet.backends.filter (fits (given zone))

lemma candidates_subset {fleet : Fleet} {name zone : Option String} :
    fleet.candidates name zone ⊆ fleet.backends := by
  intro backend h
  unfold candidates at h
  split at h
  · next text _ =>
    obtain ⟨hmem, -⟩ := List.mem_filter.1 h
    exact List.mem_of_find?_eq_some (Option.mem_toList.1 hmem)
  · exact (List.mem_filter.1 h).1

/-- A single backend is asked. -/
lemma selectOn_leads {backend : Backend} {path : Option String}
    (alike : Alike racks rack path backend) :
    ∃ found, (selectOn backend path).run.Leads racks (.done found) ∧
      found.toOption = rack.home? path backend ∧
      (HavePath path [backend] → ∀ fault, found = .error fault → fault.status = .notFound) := by
  cases hdataset : backend.datasetOrDefault path with
  | error fault =>
    refine ⟨.error fault, ?_, (Rack.home?_of_error hdataset).symm, fun hpath => ?_⟩
    · rw [selectOn, hdataset]
      exact .here
    · obtain ⟨_, hok, -⟩ := hpath.exists_eq (by simp) hdataset
      cases hok
  | ok dataset =>
    obtain ⟨located, hleads, hlocated, hstatus⟩ := Backend.locate_leads (alike dataset hdataset)
    have hselect : (selectOn backend path).run.Leads racks
        (Attempt.andThen (fun appliance => pure ⟨backend, appliance, dataset⟩) located) := by
      rw [selectOn, hdataset]
      exact Attempt.leads_bind hleads
    rw [Rack.home?_of_ok hdataset, ← hlocated]
    cases located with
    | ok appliance => exact ⟨_, hselect, rfl, fun _ _ h => nomatch h⟩
    | error fault =>
      refine ⟨_, hselect, rfl, ?_⟩
      rintro hpath _ ⟨⟩
      obtain ⟨_, ⟨⟩, hempty⟩ := hpath.exists_eq (by simp) hdataset
      exact hstatus hempty fault rfl

/-- The backend of a name is asked, if there is one and it fits the zone. -/
lemma selectNamed_leads {fleet : Fleet} {name : String} {zone path : Option String}
    (alike : ∀ backend ∈ (fleet.find? name).toList.filter (fits zone),
      Alike racks rack path backend) :
    ∃ found, (fleet.selectNamed name zone path).run.Leads racks (.done found) ∧
      found.toOption =
        ((fleet.find? name).toList.filter (fits zone)).findSome? (rack.home? path) ∧
      (zone = none → HavePath path ((fleet.find? name).toList.filter (fits zone)) →
        ∀ fault, found = .error fault → fault.status = .notFound) := by
  unfold selectNamed
  cases hbackend : fleet.find? name with
  | none =>
    refine ⟨_, .here, rfl, ?_⟩
    rintro - - _ ⟨⟩
    rfl
  | some backend =>
    rw [hbackend, Option.toList_some] at alike
    simp only [filter_zone, Option.toList_some]
    by_cases hfits : fits zone backend = true
    · rw [List.filter_cons_of_pos hfits, List.filter_nil] at alike ⊢
      rw [if_pos hfits]
      obtain ⟨found, hleads, hfound, hstatus⟩ := selectOn_leads (alike backend (by simp))
      refine ⟨found, hleads, ?_, fun _ => hstatus⟩
      rw [hfound, List.findSome?_cons]
      cases rack.home? path backend <;> rfl
    · rw [List.filter_cons_of_neg hfits, if_neg hfits]
      cases zone with
      | none => exact absurd rfl hfits
      | some wanted => exact ⟨_, .here, rfl, fun h => nomatch h⟩

/-- The backends of a zone are asked in order.  A search that every one of them takes part in fails
for want of the path, unless there is none. -/
lemma selectAmong_leads {zone path : Option String} {backends : List Backend}
    (alike : ∀ backend ∈ backends, fits zone backend = true → Alike racks rack path backend)
    (last : Option Fault) (skipped : List String) :
    ∃ found, (selectAmong zone path last skipped backends).run.Leads racks (.done found) ∧
      found.toOption = (backends.filter (fits zone)).findSome? (rack.home? path) ∧
      (zone = none → (∀ fault, last = some fault → fault.status = .notFound) →
        HavePath path backends → ∀ fault, found = .error fault →
          fault.status = .notFound ∨ last = none ∧ backends = []) := by
  induction backends generalizing last skipped with
  | nil =>
    refine ⟨_, .here, rfl, ?_⟩
    rintro - hlast - fault hfault
    cases last with
    | none => exact .inr ⟨rfl, rfl⟩
    | some found =>
      cases hfault
      exact .inl (hlast found rfl)
  | cons backend rest ih =>
    have hrest := ih fun other hmem => alike other (List.mem_cons_of_mem _ hmem)
    unfold selectAmong
    split
    · next hskip =>
      have hfits : ¬fits zone backend = true := fun h => fits_iff.1 h hskip
      obtain ⟨found, hleads, hfound, -⟩ := hrest last skipped
      refine ⟨found, hleads, ?_, fun hzone => ?_⟩
      · rw [List.filter_cons_of_neg hfits, hfound]
      · simp [hzone] at hskip
    · next hkeep =>
      have hfits : fits zone backend = true := fits_iff.2 hkeep
      rw [List.filter_cons_of_pos hfits, List.findSome?_cons]
      cases hdataset : backend.datasetOrDefault path with
      | error fault =>
        obtain ⟨found, hleads, hfound, -⟩ := hrest last (skipped ++ [fault.message])
        refine ⟨found, hleads, ?_, fun _ _ hpath => ?_⟩
        · rw [Rack.home?_of_error hdataset, hfound]
        · obtain ⟨_, hok, -⟩ := hpath.exists_eq (by simp) hdataset
          cases hok
      | ok dataset =>
        obtain ⟨located, hlocate, hlocated, hstatus⟩ :=
          Backend.locate_leads (alike backend (by simp) hfits dataset hdataset)
        dsimp only
        rw [Attempt.run_outcome_bind, Rack.home?_of_ok hdataset, ← hlocated]
        cases located with
        | ok appliance =>
          exact ⟨.ok ⟨backend, appliance, dataset⟩, hlocate.bind, rfl, fun _ _ _ _ h => nomatch h⟩
        | error fault =>
          -- From here on the fault of this backend is the last one.
          obtain ⟨found, hleads, hfound, hrestStatus⟩ := hrest (some fault) skipped
          refine ⟨found, hlocate.bind.trans hleads, hfound, fun hzone _ hpath fault' hfault' => ?_⟩
          have hlast : ∀ other, some fault = some other → other.status = .notFound := by
            rintro _ ⟨⟩
            obtain ⟨_, ⟨⟩, hempty⟩ := hpath.exists_eq (by simp) hdataset
            exact hstatus hempty fault rfl
          have hpathRest : HavePath path rest := fun other hmem =>
            hpath other (List.mem_cons_of_mem _ hmem)
          rcases hrestStatus hzone hlast hpathRest fault' hfault' with h | ⟨h, -⟩
          · exact .inl h
          · cases h

/-- Selecting finds the first place where a backend in question has the path. -/
theorem select_leads {fleet : Fleet} {name zone path : Option String}
    (alike : ∀ backend ∈ fleet.candidates name zone, Alike racks rack path backend) :
    ∃ found, (fleet.select name zone path).run.Leads racks (.done found) ∧
      found.toOption = (fleet.candidates name zone).findSome? (rack.home? path) ∧
      (given zone = none → HavePath path (fleet.candidates name zone) →
        ∀ fault, found = .error fault →
          fault.status = .notFound ∨ given name = none ∧ fleet.backends = []) := by
  unfold select
  unfold candidates at alike ⊢
  cases hname : given name with
  | none =>
    simp only [hname] at alike ⊢
    obtain ⟨found, hleads, hfound, hstatus⟩ := selectAmong_leads
      (fun backend hmem hfits => alike backend (List.mem_filter.2 ⟨hmem, hfits⟩)) none []
    refine ⟨found, hleads, hfound, fun hzone hpath fault hfault => ?_⟩
    have hevery : HavePath path fleet.backends := by
      intro backend hmem
      exact hpath backend (List.mem_filter.2 ⟨hmem, by simp [hzone, fits]⟩)
    rcases hstatus hzone (fun _ h => nomatch h) hevery fault hfault with h | ⟨-, h⟩
    · exact .inl h
    · exact .inr ⟨trivial, h⟩
  | some text =>
    simp only [hname] at alike ⊢
    obtain ⟨found, hleads, hfound, hstatus⟩ := selectNamed_leads alike
    exact ⟨found, hleads, hfound, fun hzone hpath fault hfault =>
      .inl (hstatus hzone hpath fault hfault)⟩

end Fleet
end StorageFleet
