import Mathlib.Data.List.Nodup
import StorageFleet.Config.Document
import StorageFleet.Proofs.Deployment.Setup
import StorageFleet.Proofs.Fleet.Search

/-!
# From a checked configuration to a fleet

A configuration is checked once, when it is read.  Two layers further on there is code for what the
check has shut out: a backend without appliances, and a search for an empty path.  Here it is shown
that this code is never reached.

`Config.check_eq_ok_iff` says what a configuration has to be like: there is a backend, and every
backend is `BackendConfig.Usable`.  A fleet can be built of such a configuration, with one backend
for each that is configured, which has one appliance for each of its addresses
(`addFleet_of_check`).  Since no default dataset is empty, the rule for selecting applies
(`Fleet.Selects`), and of the faults that it leaves `Fleet.Refuses` gives the list.

A configuration holds its backends by name.  That no name stands twice (`Config.Unambiguous`) is
not checked: it comes of how a configuration is put together (`unambiguous_of_ofYaml`).
-/

namespace StorageFleet

/-! ## Usable settings -/

namespace BackendConfig

variable {name : String} {config : BackendConfig}

/-- Settings that a backend of this name can work with. -/
structure Usable (name : String) (config : BackendConfig) : Prop where
  name : Identifier.checkBackendName name = .ok ()
  endpoints : config.endpoints ≠ []
  username : config.username ≠ ""
  password : config.password ≠ ""
  dataset : ∀ path, config.defaultDataset = some path → isDatasetPath path = true
  permissions : ∀ text, config.mountPointPermissions = some text → isOctal text = true

lemma filter_not_eq_none_iff {α : Type} {p : α → Bool} {value : Option α} :
    (value.filter fun a => !p a) = none ↔ ∀ a, value = some a → p a = true := by
  cases value <;> simp

/-- The check lets through what is usable, and nothing else. -/
theorem check_eq_ok_iff : config.check name = .ok () ↔ config.Usable name := by
  unfold check
  constructor
  · intro h
    split at h
    · cases h
    next hname =>
    split_ifs at h with hendpoints hcredentials
    split at h
    · cases h
    next hdataset =>
    split at h
    · cases h
    next hpermissions =>
    have hgiven : ¬ (config.username = "" ∨ config.password = "") := by
      simpa [String.isEmpty_iff] using hcredentials
    exact ⟨hname, by simpa using hendpoints, fun h => hgiven (.inl h), fun h => hgiven (.inr h),
      filter_not_eq_none_iff.1 hdataset, filter_not_eq_none_iff.1 hpermissions⟩
  · rintro ⟨hname, hendpoints, husername, hpassword, hdataset, hpermissions⟩
    rw [hname, filter_not_eq_none_iff.2 hdataset, filter_not_eq_none_iff.2 hpermissions]
    simp [hendpoints, husername, hpassword]

/-- A dataset has two parts at least, so its path is not empty. -/
lemma ne_empty_of_isDatasetPath {path : String} (h : isDatasetPath path = true) : path ≠ "" := by
  rintro rfl
  revert h
  decide

lemma Usable.defaultDataset_ne (h : config.Usable name) : config.defaultDataset ≠ some "" :=
  fun hdefault => ne_empty_of_isDatasetPath (h.dataset "" hdefault) rfl

lemma length_connections (config : BackendConfig) :
    config.connections.length = config.endpoints.length := by
  rw [connections, List.length_map]

end BackendConfig

namespace Config

variable {config : Config}

lemma checkBackends_eq_ok_iff {backends : List (String × BackendConfig)} :
    checkBackends backends = .ok () ↔ ∀ entry ∈ backends, entry.2.Usable entry.1 := by
  induction backends with
  | nil => simp [checkBackends]
  | cons entry rest ih =>
    rw [List.forall_mem_cons, ← ih, ← BackendConfig.check_eq_ok_iff, checkBackends]
    cases entry.2.check entry.1 with
    | error defect => simp
    | ok checked => simp

/-- A configuration is let through if it has backends and all of them are usable. -/
theorem check_eq_ok_iff :
    config.check = .ok () ↔
      config.backends ≠ [] ∧ ∀ entry ∈ config.backends, entry.2.Usable entry.1 := by
  unfold check
  cases hnone : config.backends.isEmpty with
  | true => simp [List.isEmpty_iff.1 hnone]
  | false =>
    have hne : config.backends ≠ [] := by simpa using hnone
    simp [hne, checkBackends_eq_ok_iff]

/-! ## Names -/

/-- No name stands twice. -/
def Unambiguous (config : Config) : Prop :=
  (config.backends.map Prod.fst).Nodup

/-- A new name goes to the end, and a known one stays where it is. -/
lemma map_fst_placeByName {α : Type} (name : String) (value : α) (entries : List (String × α)) :
    (placeByName name value entries).map Prod.fst =
      if name ∈ entries.map Prod.fst then entries.map Prod.fst
      else entries.map Prod.fst ++ [name] := by
  induction entries with
  | nil => rfl
  | cons entry rest ih =>
    obtain ⟨other, old⟩ := entry
    by_cases hname : other = name
    · simp [placeByName, hname]
    · have hother : name ≠ other := Ne.symm hname
      simp only [placeByName, hname, if_false, List.map_cons, ih, List.mem_cons, hother, false_or]
      split_ifs <;> rfl

lemma nodup_placeByName {α : Type} {entries : List (String × α)}
    (h : (entries.map Prod.fst).Nodup) (name : String) (value : α) :
    ((placeByName name value entries).map Prod.fst).Nodup := by
  rw [map_fst_placeByName]
  split_ifs with hmem
  · exact h
  · have hdisjoint : List.Disjoint (entries.map Prod.fst) [name] :=
      List.disjoint_singleton.2 hmem
    exact h.append (List.nodup_singleton name) hdisjoint

lemma nodup_foldl_placeByName {α : Type} (entries placed : List (String × α))
    (h : (placed.map Prod.fst).Nodup) :
    ((entries.foldl (fun placed entry => placeByName entry.1 entry.2 placed) placed).map
      Prod.fst).Nodup := by
  induction entries generalizing placed with
  | nil => exact h
  | cons entry rest ih => exact ih _ (nodup_placeByName h entry.1 entry.2)

lemma nodup_backendsOfNode? {node : Yaml.Node} {backends : List (String × BackendConfig)}
    (h : backendsOfNode? node = some backends) : (backends.map Prod.fst).Nodup := by
  unfold backendsOfNode? at h
  obtain ⟨entries, -, h⟩ := Option.bind_eq_some_iff.1 h
  obtain ⟨read, -, h⟩ := Option.bind_eq_some_iff.1 h
  cases h
  exact nodup_foldl_placeByName read [] List.nodup_nil

/-- However often a document names a backend, no name stands twice in what is read of it. -/
theorem unambiguous_of_ofYaml {text : String} (h : ofYaml text = .ok config) :
    config.Unambiguous := by
  unfold ofYaml at h
  cases hnode : (Yaml.Node.ofText? text).bind ofNode? with
  | none => simp [hnode] at h
  | some read =>
    obtain rfl : read = config := by
      rw [hnode] at h
      cases hcheck : read.check with
      | error fault => simp [hcheck, Except.map] at h
      | ok checked => simpa [hcheck, Except.map] using h
    obtain ⟨node, -, hread⟩ := Option.bind_eq_some_iff.1 hnode
    unfold ofNode? at hread
    obtain ⟨entries, -, hread⟩ := Option.bind_eq_some_iff.1 hread
    obtain ⟨backends, hbackends, hread⟩ := Option.bind_eq_some_iff.1 hread
    obtain ⟨debug, -, hread⟩ := Option.bind_eq_some_iff.1 hread
    cases hread
    unfold Yaml.Node.field at hbackends
    split at hbackends
    · cases hbackends
    · exact nodup_backendsOfNode? hbackends
    · cases hbackends

end Config

/-! ## The fleet of a configuration -/

/-- The backend that stands for configured settings. -/
structure Backend.StandsFor (backend : Backend) (name : String) (settings : BackendConfig) :
    Prop where
  name : backend.name = name
  config : backend.config = settings
  /-- There is an appliance for each address, in order. -/
  endpoints : backend.appliances.map ApplianceRef.endpoint =
    settings.connections.map Connection.address
  length : backend.appliances.length = settings.endpoints.length
  pos : 0 < backend.appliances.length

namespace Deployment

/-- With an address for every backend nothing fails. -/
lemma addBackends_of_endpoints (d : Deployment) {configured : List (String × BackendConfig)}
    (h : ∀ entry ∈ configured, entry.2.endpoints ≠ []) :
    ∃ backends, (d.addBackends configured).2 = .ok backends := by
  induction configured generalizing d with
  | nil => exact ⟨[], rfl⟩
  | cons entry rest ih =>
    obtain ⟨hendpoints, hrest⟩ := List.forall_mem_cons.1 h
    have hsome : (Connection.clients d.stations.length entry.2.connections).map Client.appliance ≠
        [] := by
      intro hnone
      have hlength := congrArg List.length hnone
      rw [List.length_map, Connection.length_clients, BackendConfig.length_connections] at hlength
      exact hendpoints (List.length_eq_zero_iff.1 hlength)
    obtain ⟨backends, hbackends⟩ := ih (d.employ (Connection.clients d.stations.length
      entry.2.connections)) hrest
    simp only [addBackends, addBackend, connectAll_eq, Backend.ofAppliances, dif_neg hsome,
      hbackends]
    exact ⟨_, rfl⟩

variable {configured : List (String × BackendConfig)} {clients : List Client}
  {backends : List Backend}

/-- The backend at a place stands for what is configured there. -/
lemma Builds.standsFor (h : Builds configured clients backends) {i : ℕ} {name : String}
    {settings : BackendConfig} (hentry : configured[i]? = some (name, settings)) :
    ∃ backend, backends[i]? = some backend ∧ backend.StandsFor name settings := by
  rw [← h.settings, List.getElem?_map, Option.map_eq_some_iff] at hentry
  obtain ⟨backend, hbackend, heq⟩ := hentry
  obtain ⟨rfl, rfl⟩ := Prod.mk.inj heq
  have hendpoints := h.endpoints backend (List.mem_of_getElem? hbackend)
  refine ⟨backend, hbackend, rfl, rfl, hendpoints, ?_, List.length_pos_iff.2 backend.nonempty⟩
  have hlength := congrArg List.length hendpoints
  simpa [BackendConfig.length_connections] using hlength

end Deployment

namespace Fleet

/-- A backend is found by its name if no other has it. -/
lemma find?_of_nodup {fleet : Fleet} (h : (fleet.backends.map Backend.name).Nodup) {i : ℕ}
    {backend : Backend} (hbackend : fleet.backends[i]? = some backend) :
    fleet.find? backend.name = some backend := by
  obtain ⟨hi, rfl⟩ := List.getElem?_eq_some_iff.1 hbackend
  refine List.find?_eq_some_iff_getElem.2 ⟨by simp, i, hi, rfl, fun j hj => ?_⟩
  have hlast : i < (fleet.backends.map Backend.name).length := by simpa using hi
  have hearlier : j < (fleet.backends.map Backend.name).length := Nat.lt_trans hj hlast
  have hne : (fleet.backends.map Backend.name)[j] ≠ (fleet.backends.map Backend.name)[i] := by
    rw [ne_eq, h.getElem_inj_iff]
    omega
  simpa using hne

/-! ## Refusals -/

/-- How a fleet may refuse to select, with what it has asked. -/
inductive Refuses (fleet : Fleet) (name zone path : Option String) : List Asked → Fault → Prop where
  /-- There is no backend of the name. -/
  | unknown {named} (hname : given name = some named) (habsent : fleet.find? named = none) :
      Refuses fleet name zone path [] (.backendNotFound named)
  /-- The backend of the name is not in the zone. -/
  | elsewhere {named backend wanted} (hname : given name = some named)
      (hfind : fleet.find? named = some backend) (hzone : given zone = some wanted)
      (helsewhere : backend.zone ≠ some wanted) :
      Refuses fleet name zone path [] (.zoneMismatch named wanted (backend.zone.getD ""))
  /-- The backend of the name is given no dataset and has no default. -/
  | pathless {named backend} (hname : given name = some named)
      (hfind : fleet.find? named = some backend) (hpath : given path = none)
      (hdefault : backend.config.defaultDataset = none) :
      Refuses fleet name zone path [] backend.pathless
  /-- Without a name, there is nobody to ask. -/
  | nobody {why} (hname : given name = none) :
      Refuses fleet name zone path [] (.noBackendAvailable why)
  /-- The last of those that were asked has failed like this. -/
  | vain {said} {place : Resolution} {fault} (hbackend : place.backend ∈ fleet.backends)
      (happliance : place.appliance ∈ place.backend.appliances) (hpath : place.path ≠ "")
      (hlast : said.getLast? = some (place.looked (.error fault))) :
      Refuses fleet name zone path said (place.missing fault)

variable {fleet : Fleet} {name zone path : Option String} {said : List Asked} {fault : Fault}

/-- A search in vain ends with the fault of the last place. -/
lemma exists_last_of_firstMatch {places : List Resolution}
    (h : FirstMatch places said (.error fault)) : ∃ place ∈ places, ∃ cause,
      fault = place.missing cause ∧ said.getLast? = some (place.looked (.error cause)) := by
  generalize hresult : Except.error fault = result at h
  cases h with
  | found => cases hresult
  | missing before faults split failed =>
    cases hresult
    exact ⟨_, by simp [split], _, rfl, by simp⟩

lemma refuses_of_places {places : List Resolution} (h : FirstMatch places said (.error fault))
    (hplaces : ∀ place ∈ places, place.backend ∈ fleet.backends ∧
      place.appliance ∈ place.backend.appliances ∧ place.path ≠ "") :
    fleet.Refuses name zone path said fault := by
  obtain ⟨place, hmem, cause, rfl, hlast⟩ := exists_last_of_firstMatch h
  obtain ⟨hbackend, happliance, hpath⟩ := hplaces place hmem
  exact .vain hbackend happliance hpath hlast

/-- The places of a backend are its own, and none of them is for an empty path. -/
lemma of_mem_places (hdefaults : ProperDefaults fleet.backends) {backend : Backend}
    (hbackend : backend ∈ fleet.backends) {dataset : String}
    (hpath : backend.pathFor path = some dataset) :
    ∀ place ∈ backend.places dataset, place.backend ∈ fleet.backends ∧
      place.appliance ∈ place.backend.appliances ∧ place.path ≠ "" := by
  intro place hplace
  obtain ⟨appliance, happliance, rfl⟩ := List.mem_map.1 hplace
  have hempty := Backend.isEmpty_pathFor (hdefaults backend hbackend) hpath
  exact ⟨hbackend, happliance, by simpa using hempty⟩

/-- The rule for selecting leaves these refusals. -/
lemma Selects.refuses (hdefaults : ProperDefaults fleet.backends)
    (h : fleet.Selects name zone path said (.error fault)) :
    fleet.Refuses name zone path said fault := by
  generalize hresult : Except.error fault = result at h
  cases h with
  | unknown hname habsent =>
    cases hresult
    exact .unknown hname habsent
  | elsewhere hname hfind hzone helsewhere =>
    cases hresult
    exact .elsewhere hname hfind hzone helsewhere
  | pathless hname hfind hfits hpath =>
    cases hresult
    obtain ⟨hgiven, hdefault⟩ := Option.or_eq_none_iff.1 hpath
    exact .pathless hname hfind hgiven hdefault
  | named hname hfind hfits hpath hmatch =>
    subst hresult
    exact refuses_of_places hmatch
      (of_mem_places hdefaults (List.mem_of_find?_eq_some hfind) hpath)
  | nobody hname hnobody =>
    cases hresult
    exact .nobody hname
  | among hname hmatch =>
    subst hresult
    refine refuses_of_places hmatch fun place hplace => ?_
    obtain ⟨backend, hbackend, hplace⟩ := List.mem_flatMap.1 hplace
    obtain ⟨dataset, hdataset, hplace⟩ := List.mem_flatMap.1 hplace
    exact of_mem_places hdefaults (List.mem_filter.1 hbackend).1 (Option.mem_toList.1 hdataset)
      place hplace

/-- A refusal is never about an empty path. -/
lemma Refuses.ne_emptyPath (h : fleet.Refuses name zone path said fault) (backend : String) :
    fault ≠ .invalidArgument ("backend '" ++ backend ++ "': cannot resolve an empty path") := by
  intro hfault
  cases h with
  | pathless =>
    -- The two messages end differently, whatever the names are.
    have hmessage := Fault.invalidArgument.inj hfault
    have hlast := congrArg (fun text => text.toList.getLast?) hmessage
    simp only [String.toList_append, List.getLast?_append] at hlast
    simp at hlast
  | unknown | elsewhere | nobody | vain => cases hfault

/-- A refusal is never that a backend has no appliances; that is only reported where an appliance
has said so itself. -/
lemma Refuses.ne_withoutAppliances (h : fleet.Refuses name zone path said fault)
    (backend : String) : fault ≠ Backend.withoutAppliances backend := by
  intro hfault
  cases h with
  | unknown | elsewhere | nobody | vain | pathless => cases hfault

end Fleet

/-! ## The result -/

namespace Deployment

/-- **A checked configuration makes a fleet that works.**  There is a backend for each that is
configured, in order, found by its name and with an appliance for each of its addresses.  Whatever
the fleet is asked to select, and whatever the appliances answer, a refusal is one of `Refuses`: it
is never about an empty path, and never about a backend without appliances. -/
theorem addFleet_of_check (d : Deployment) (config : Config) (hnames : config.Unambiguous)
    (hcheck : config.check = .ok ()) :
    ∃ fleet : Fleet, (d.addFleet config).2 = .ok fleet ∧
      fleet.backends.length = config.backends.length ∧
      (∀ (i : ℕ) name settings, config.backends[i]? = some (name, settings) →
        ∃ backend, fleet.backends[i]? = some backend ∧ fleet.find? name = some backend ∧
          backend.StandsFor name settings) ∧
      ∀ name zone path said fault,
        (fleet.select name zone path).run.Transcript said (.error fault) →
          fleet.Refuses name zone path said fault ∧
          (∀ backend, fault ≠
            .invalidArgument ("backend '" ++ backend ++ "': cannot resolve an empty path")) ∧
          ∀ backend, fault ≠ Backend.withoutAppliances backend := by
  obtain ⟨-, husable⟩ := Config.check_eq_ok_iff.1 hcheck
  obtain ⟨backends, hbackends⟩ :=
    d.addBackends_of_endpoints fun entry hmem => (husable entry hmem).endpoints
  obtain ⟨connections, -, hbuilds⟩ := d.addBackends_builds config.backends
  obtain ⟨-, hbuilds⟩ := hbuilds backends hbackends
  have hsettings : backends.map (fun backend => (backend.name, backend.config)) =
      config.backends := hbuilds.settings
  have hnodup : (backends.map Backend.name).Nodup := by
    have hfst : backends.map Backend.name = config.backends.map Prod.fst := by
      rw [← hsettings, List.map_map]
      rfl
    rw [hfst]
    exact hnames
  have hdefaults : Fleet.ProperDefaults backends := by
    intro backend hmem
    have hentry : (backend.name, backend.config) ∈ config.backends := by
      rw [← hsettings]
      exact List.mem_map_of_mem hmem
    exact (husable _ hentry).defaultDataset_ne
  have hlength : backends.length = config.backends.length := by
    rw [← hsettings, List.length_map]
  refine ⟨⟨backends⟩, ?_, hlength, fun i name settings hentry => ?_,
    fun name zone path said fault hsaid => ?_⟩
  · rw [addFleet]
    dsimp only
    rw [hbackends]
    rfl
  · obtain ⟨backend, hbackend, hstands⟩ := hbuilds.standsFor hentry
    refine ⟨backend, hbackend, ?_, hstands⟩
    rw [← hstands.name]
    exact Fleet.find?_of_nodup hnodup hbackend
  · have hselects := ((Fleet.transcript_select_iff ⟨backends⟩ name zone path hdefaults).1 _ _).1
      hsaid
    have hrefuses := hselects.refuses hdefaults
    exact ⟨hrefuses, hrefuses.ne_emptyPath, hrefuses.ne_withoutAppliances⟩

end Deployment

/-! ## An example -/

namespace Pair

def settings (restIp : String) (dataset zone : Option String) : BackendConfig where
  restIp
  username := "admin"
  password := "secret"
  defaultDataset := dataset
  zone

/-- Two appliances with slashes and blanks about their addresses, and one that has no default. -/
def config : Config where
  backends := [("twins", settings " https://a/ , https://b," (some "pool/k8s") none),
    ("bare", settings "https://c" none (some "west"))]

lemma unambiguous : config.Unambiguous := by
  unfold Config.Unambiguous
  decide

lemma check : config.check = .ok () := by
  decide

/-- The first backend is found with both of its appliances. -/
theorem addFleet_of_check_twins : config.Unambiguous ∧ config.check = .ok () ∧
    ∃ (fleet : Fleet) (twins : Backend), (({} : Deployment).addFleet config).2 = .ok fleet ∧
      fleet.find? "twins" = some twins ∧
      twins.appliances.map ApplianceRef.endpoint = ["https://a", "https://b"] := by
  obtain ⟨fleet, hfleet, -, hbackends, -⟩ :=
    Deployment.addFleet_of_check {} config unambiguous check
  obtain ⟨twins, -, hfind, hstands⟩ := hbackends 0 _ _ rfl
  refine ⟨unambiguous, check, fleet, twins, hfleet, hfind, ?_⟩
  rw [hstands.endpoints]
  decide

end Pair
end StorageFleet
