import StorageFleet.Proofs.Plan.Transcript
import StorageFleet.Proofs.Rack.Selection

/-!
# The search for a path

Who serves a path is found by asking.  A place is a backend, one of its appliances, and the path to
look for there; `Fleet.places` lists the places that come into question, in configured order.
`FirstMatch` says what is asked of them and what is found: the places are asked one after the other,
each once, and the first that has its path ends the search.

`Fleet.Selects` is the whole rule, with the requests that are refused before anybody is asked.  No
answer is assumed: an appliance may fail in any way, and the same appliance may answer differently
when it is asked again.
-/

namespace StorageFleet

/-! ## Places -/

namespace Resolution

/-- A look for the path at the place, with its answer. -/
def looked (place : Resolution) (outcome : (Call.getFilesystem place.path).Outcome) : Asked :=
  ⟨place.appliance, .getFilesystem place.path, outcome⟩

/-- What is reported if the place is the last that was asked in vain. -/
def missing (place : Resolution) (fault : Fault) : Fault :=
  .notFoundOnAnyBackend (place.backend.name ++ ":" ++ place.path) fault

end Resolution

namespace Backend

/-- The path to look for on a backend. -/
def pathFor (backend : Backend) (path : Option String) : Option String :=
  (Fleet.given path).or backend.config.defaultDataset

/-- What is reported of a backend that is given no path and has no default. -/
def pathless (backend : Backend) : Fault :=
  .invalidArgument ("backend '" ++ backend.name ++
    "': no dataset given and no defaultDataset configured")

/-- The places of a backend, in configured order. -/
def places (backend : Backend) (path : String) : List Resolution :=
  backend.appliances.map fun appliance => ⟨backend, appliance, path⟩

lemma datasetOrDefault_of_some {backend : Backend} {path : Option String} {dataset : String}
    (h : backend.pathFor path = some dataset) : backend.datasetOrDefault path = .ok dataset := by
  unfold pathFor Fleet.given at h
  unfold datasetOrDefault
  cases hgiven : path.filter fun path => !path.isEmpty with
  | none =>
    rw [hgiven, Option.none_or] at h
    rw [h]
  | some given =>
    rw [hgiven, Option.some_or] at h
    rw [Option.some.inj h]

lemma datasetOrDefault_of_none {backend : Backend} {path : Option String}
    (h : backend.pathFor path = none) :
    backend.datasetOrDefault path = .error backend.pathless := by
  obtain ⟨hgiven, hdefault⟩ := Option.or_eq_none_iff.1 h
  unfold Fleet.given at hgiven
  unfold datasetOrDefault
  rw [hgiven, hdefault]
  rfl

/-- A backend is never asked for an empty path, unless that is its default. -/
lemma isEmpty_pathFor {backend : Backend} {path : Option String} {dataset : String}
    (hdefault : backend.config.defaultDataset ≠ some "")
    (h : backend.pathFor path = some dataset) : dataset.isEmpty = false := by
  rcases Option.or_eq_some_iff.1 h with hgiven | ⟨-, hdataset⟩
  · simpa using (Option.filter_eq_some_iff.1 hgiven).2
  · cases hempty : dataset.isEmpty with
    | false => rfl
    | true => exact absurd (String.isEmpty_iff.1 hempty ▸ hdataset) hdefault

lemma places_ne_nil (backend : Backend) (path : String) : backend.places path ≠ [] := by
  simp [places, backend.nonempty]

end Backend

/-! ## The first match -/

/-- The places are asked in turn, each once, until one has its path.  If none has, the last one and
its fault are reported. -/
inductive FirstMatch (places : List Resolution) : List Asked → Except Fault Resolution → Prop where
  | found (before : List Resolution) (faults : List Fault) {place after answer}
      (split : places = before ++ place :: after) (failed : faults.length = before.length) :
      FirstMatch places
        (List.zipWith (fun place fault => place.looked (.error fault)) before faults ++
          [place.looked (.ok answer)])
        (.ok place)
  | missing (before : List Resolution) (faults : List Fault) {last fault}
      (split : places = before ++ [last]) (failed : faults.length = before.length) :
      FirstMatch places
        (List.zipWith (fun place fault => place.looked (.error fault)) before faults ++
          [last.looked (.error fault)])
        (.error (last.missing fault))

namespace FirstMatch

variable {place : Resolution} {rest : List Resolution} {said : List Asked}
  {result : Except Fault Resolution}

lemma ne_nil : ¬FirstMatch [] said result := by
  rintro (⟨_, _, split, -⟩ | ⟨_, _, split, -⟩) <;> simp at split

/-- The first place has its path, or it is the last, or the search goes on behind it. -/
lemma cons_iff : FirstMatch (place :: rest) said result ↔
    (∃ answer, said = [place.looked (.ok answer)] ∧ result = .ok place) ∨
    ∃ fault later, said = place.looked (.error fault) :: later ∧
      (rest = [] ∧ later = [] ∧ result = .error (place.missing fault) ∨
        FirstMatch rest later result) := by
  constructor
  · rintro (⟨before, faults, split, failed⟩ | ⟨before, faults, split, failed⟩)
    · rename_i found after answer
      cases before with
      | nil =>
        obtain ⟨rfl, rfl⟩ := List.cons.inj split
        exact .inl ⟨answer, by simp, rfl⟩
      | cons first before =>
        obtain ⟨rfl, behind⟩ := List.cons.inj split
        obtain ⟨fault, faults, rfl⟩ := List.exists_cons_of_length_eq_add_one failed
        exact .inr ⟨fault, _, rfl, .inr (.found _ _ behind (by simpa using failed))⟩
    · rename_i last fault
      cases before with
      | nil =>
        obtain ⟨rfl, rfl⟩ := List.cons.inj split
        exact .inr ⟨fault, [], by simp, .inl ⟨rfl, rfl, rfl⟩⟩
      | cons first before =>
        obtain ⟨rfl, behind⟩ := List.cons.inj split
        obtain ⟨fault, faults, rfl⟩ := List.exists_cons_of_length_eq_add_one failed
        exact .inr ⟨fault, _, rfl, .inr (.missing _ _ behind (by simpa using failed))⟩
  · rintro (⟨answer, rfl, rfl⟩ | ⟨fault, later, rfl, ⟨rfl, rfl, rfl⟩ | h⟩)
    · exact .found [] [] rfl rfl
    · exact .missing [] [] rfl rfl
    · obtain ⟨before, faults, rfl, failed⟩ | ⟨before, faults, rfl, failed⟩ := h
      · exact .found (place :: before) (fault :: faults) rfl (by simp [failed])
      · exact .missing (place :: before) (fault :: faults) rfl (by simp [failed])

end FirstMatch

/-! ## The search in turn -/

/-- Looks at the places in turn; `otherwise` is the fault if there is none. -/
def searchAmong (otherwise : Fault) : List Resolution → Attempt Resolution
  | [] => throw otherwise
  | place :: rest => do
    match ← (Attempt.ask place.appliance (.getFilesystem place.path)).outcome with
    | .ok _ => return place
    | .error fault => searchAmong (place.missing fault) rest

/-- A search among places asks for the first match. -/
lemma transcript_searchAmong {otherwise : Fault} {places : List Resolution} {said : List Asked}
    {result : Except Fault Resolution} :
    (searchAmong otherwise places).run.Transcript said result ↔
      places = [] ∧ said = [] ∧ result = .error otherwise ∨ FirstMatch places said result := by
  induction places generalizing otherwise said with
  | nil =>
    have hthrow : (searchAmong otherwise []).run = .done (.error otherwise) := rfl
    rw [hthrow, Plan.transcript_done]
    simp [FirstMatch.ne_nil]
  | cons place rest ih =>
    rw [searchAmong, Attempt.transcript_outcome_bind, FirstMatch.cons_iff]
    simp only [List.cons_ne_nil, false_and, false_or]
    constructor
    · rintro ⟨_, later, outcome, rfl, hask, hlater⟩
      obtain rfl := Attempt.transcript_ask.1 hask
      cases outcome with
      | ok answer =>
        obtain ⟨rfl, rfl⟩ := Plan.transcript_done.1 hlater
        exact .inl ⟨answer, rfl, rfl⟩
      | error fault => exact .inr ⟨fault, later, rfl, ih.1 hlater⟩
    · rintro (⟨answer, rfl, rfl⟩ | ⟨fault, later, rfl, h⟩)
      · exact ⟨_, [], .ok answer, rfl, Attempt.transcript_ask.2 rfl, .done⟩
      · exact ⟨_, later, .error fault, rfl, Attempt.transcript_ask.2 rfl, ih.2 h⟩

namespace Backend

variable {backend : Backend} {path : String}

/-- To try the appliances of a backend, and then other places, is one search. -/
lemma locateAmong_then (last : Fault) (appliances : List ApplianceRef) (rest : List Resolution) :
    ((locateAmong path last appliances).run.bind fun located =>
        (match located with
          | .ok appliance => pure ⟨backend, appliance, path⟩
          | .error fault =>
            searchAmong (.notFoundOnAnyBackend (backend.name ++ ":" ++ path) fault) rest :
          Attempt Resolution).run) =
      (searchAmong (.notFoundOnAnyBackend (backend.name ++ ":" ++ path) last)
        (appliances.map (⟨backend, ·, path⟩) ++ rest)).run := by
  induction appliances generalizing last with
  | nil => rfl
  | cons appliance appliances ih =>
    rw [locateAmong, List.map_cons, List.cons_append, searchAmong, Attempt.run_outcome_bind,
      Attempt.run_outcome_bind]
    refine congrArg (Plan.call appliance _) (funext fun outcome => ?_)
    cases outcome with
    | ok answer => rfl
    | error fault => exact ih fault

/-- To ask a backend, and then other places, is one search. -/
lemma locate_then (hpath : path.isEmpty = false) (otherwise : Fault) (rest : List Resolution) :
    (do
      match ← (backend.locate path).outcome with
      | .ok appliance => return ⟨backend, appliance, path⟩
      | .error fault => searchAmong fault rest) =
      searchAmong otherwise (backend.places path ++ rest) := by
  have hnonempty : ∀ last, searchAmong otherwise (backend.places path ++ rest) =
      searchAmong last (backend.places path ++ rest) := by
    intro last
    cases hplaces : backend.places path with
    | nil => exact absurd hplaces (backend.places_ne_nil path)
    | cons place others => rfl
  rw [hnonempty (.notFoundOnAnyBackend (backend.name ++ ":" ++ path)
    (withoutAppliances backend.name))]
  refine Eq.trans ?_ (locateAmong_then (withoutAppliances backend.name) backend.appliances rest)
  unfold locate
  simp only [hpath, Bool.false_eq_true, if_false]
  refine (Attempt.run_outcome_bind _ _).trans ?_
  rw [Attempt.run_outcome_bind]
  refine (Plan.bind_assoc _ _ _).trans (congrArg (Plan.bind _) (funext fun located => ?_))
  cases located <;> rfl

end Backend

namespace Fleet

variable {fleet : Fleet} {name zone path : Option String} {backends : List Backend}

/-- The places of the backends that fit a zone, in configured order. -/
def placesAmong (zone path : Option String) (backends : List Backend) : List Resolution :=
  (backends.filter (fits zone)).flatMap fun backend =>
    (backend.pathFor path).toList.flatMap backend.places

/-- What is reported of the backends that fit a zone and have no path. -/
def passedOver (zone path : Option String) (backends : List Backend) : List String :=
  (backends.filter fun backend => fits zone backend && (backend.pathFor path).isNone).map
    fun backend => backend.pathless.message

/-- What is reported if no backend can be asked: why those that fit the zone were passed over, and
without any that there are none. -/
def nobodyReason : Option String → List String → String
  | none, [] => "no backend configured"
  | some zone, [] => "no backend configured in zone '" ++ zone ++ "'"
  | _, first :: others => String.intercalate "; " (first :: others)

/-- No backend has an empty default dataset. -/
def ProperDefaults (backends : List Backend) : Prop :=
  ∀ backend ∈ backends, backend.config.defaultDataset ≠ some ""

lemma nothingToAsk_eq (zone : Option String) (skipped : List String) :
    nothingToAsk zone skipped = .noBackendAvailable (nobodyReason zone skipped) := by
  cases skipped with
  | nil => cases zone <;> rfl
  | cons first others => cases zone <;> rfl

lemma selectOn_eq {backend : Backend} {dataset : String} (otherwise : Fault)
    (hpath : backend.pathFor path = some dataset) (hempty : dataset.isEmpty = false) :
    selectOn backend path = searchAmong otherwise (backend.places dataset) := by
  have hsearch := backend.locate_then hempty otherwise []
  rw [List.append_nil] at hsearch
  have hlocate : selectOn backend path = backend.locate dataset >>= fun appliance =>
      pure ⟨backend, appliance, dataset⟩ := by
    rw [selectOn, Backend.datasetOrDefault_of_some hpath]
    rfl
  rw [hlocate, ← hsearch]
  refine (Attempt.run_bind _ _).trans (.trans ?_ (Attempt.run_outcome_bind _ _).symm)
  refine congrArg (Plan.bind _) (funext fun located => ?_)
  cases located <;> rfl

/-- The backends of the zone are searched one after the other. -/
lemma selectAmong_eq (hdefaults : ProperDefaults backends) (last : Option Fault)
    (skipped : List String) :
    selectAmong zone path last skipped backends =
      searchAmong (last.getD (nothingToAsk zone (skipped ++ passedOver zone path backends)))
        (placesAmong zone path backends) := by
  induction backends generalizing last skipped with
  | nil => simp [selectAmong, passedOver, placesAmong, searchAmong]
  | cons backend rest ih =>
    have hrest := ih fun other hmem => hdefaults other (List.mem_cons_of_mem _ hmem)
    unfold selectAmong
    split
    · next hskip =>
      have hfits : ¬fits zone backend = true := fun h => fits_iff.1 h hskip
      rw [hrest, placesAmong, placesAmong, passedOver, passedOver,
        List.filter_cons_of_neg hfits, List.filter_cons_of_neg (by simp [hfits])]
    · next hkeep =>
      have hfits : fits zone backend = true := fits_iff.2 hkeep
      rw [placesAmong, List.filter_cons_of_pos hfits, List.flatMap_cons, ← placesAmong]
      cases hpath : backend.pathFor path with
      | none =>
        rw [Backend.datasetOrDefault_of_none hpath]
        dsimp only
        rw [hrest, passedOver, passedOver, List.filter_cons_of_pos (by simp [hfits, hpath]),
          List.map_cons, List.append_assoc]
        rfl
      | some dataset =>
        have hempty := Backend.isEmpty_pathFor (hdefaults backend (by simp)) hpath
        rw [Backend.datasetOrDefault_of_some hpath, Option.toList_some, List.flatMap_singleton,
          ← backend.locate_then hempty]
        refine congrArg (Plan.bind _) (funext fun located => ?_)
        rcases located with _ | (fault | appliance)
        · rfl
        · exact congrArg ExceptT.run (hrest (some fault) skipped)
        · rfl

/-! ## The rule -/

/-- What is asked, and what comes of it, when a fleet is to find who serves a path. -/
inductive Selects (fleet : Fleet) (name zone path : Option String) :
    List Asked → Except Fault Resolution → Prop where
  /-- There is no backend of the name. -/
  | unknown {named} (hname : given name = some named) (habsent : fleet.find? named = none) :
      Selects fleet name zone path [] (.error (.backendNotFound named))
  /-- The backend is not in the zone. -/
  | elsewhere {named backend wanted} (hname : given name = some named)
      (hfind : fleet.find? named = some backend) (hzone : given zone = some wanted)
      (helsewhere : backend.zone ≠ some wanted) :
      Selects fleet name zone path [] (.error (.zoneMismatch named wanted (backend.zone.getD "")))
  /-- No path is given, and the backend has no default. -/
  | pathless {named backend} (hname : given name = some named)
      (hfind : fleet.find? named = some backend) (hfits : fits (given zone) backend = true)
      (hpath : backend.pathFor path = none) :
      Selects fleet name zone path [] (.error backend.pathless)
  /-- The backend is searched, and no other. -/
  | named {named backend dataset said result} (hname : given name = some named)
      (hfind : fleet.find? named = some backend) (hfits : fits (given zone) backend = true)
      (hpath : backend.pathFor path = some dataset)
      (hmatch : FirstMatch (backend.places dataset) said result) :
      Selects fleet name zone path said result
  /-- No backend is named, and none comes into question. -/
  | nobody (hname : given name = none) (hnobody : ∀ backend ∈ fleet.backends,
        fits (given zone) backend = true → backend.pathFor path = none) :
      Selects fleet name zone path [] (.error (.noBackendAvailable
        (nobodyReason (given zone) (passedOver (given zone) path fleet.backends))))
  /-- No backend is named: those that come into question are searched in configured order. -/
  | among {said result} (hname : given name = none)
      (hmatch : FirstMatch (placesAmong (given zone) path fleet.backends) said result) :
      Selects fleet name zone path said result

/-- There is no place to look at if no backend of the zone has a path. -/
lemma placesAmong_eq_nil : placesAmong zone path backends = [] ↔
    ∀ backend ∈ backends, fits zone backend = true → backend.pathFor path = none := by
  simp only [placesAmong, List.flatMap_eq_nil_iff, List.mem_filter, and_imp]
  refine forall₃_congr fun backend _ _ => ?_
  cases backend.pathFor path with
  | none => simp
  | some dataset => simp [backend.places_ne_nil]

/-- The backend of a name is the only one that can be searched. -/
lemma transcript_selectNamed {named : String} {said : List Asked}
    {result : Except Fault Resolution} (hname : given name = some named)
    (hdefaults : ProperDefaults fleet.backends) :
    (fleet.selectNamed named (given zone) path).run.Transcript said result ↔
      fleet.Selects name zone path said result := by
  have hrefused : ∀ fault, (throw fault : Attempt Resolution).run.Transcript said result ↔
      said = [] ∧ result = .error fault := fun _ => Plan.transcript_done
  unfold selectNamed
  cases hfind : fleet.find? named with
  | none =>
    refine (hrefused _).trans ⟨?_, fun h => ?_⟩
    · rintro ⟨rfl, rfl⟩
      exact .unknown hname hfind
    · cases h <;> simp_all
  | some backend =>
    have hproper := hdefaults backend (List.mem_of_find?_eq_some hfind)
    simp only [filter_zone]
    by_cases hfits : fits (given zone) backend = true
    · rw [if_pos hfits]
      cases hpath : backend.pathFor path with
      | none =>
        rw [selectOn, Backend.datasetOrDefault_of_none hpath]
        refine (hrefused _).trans ⟨?_, fun h => ?_⟩
        · rintro ⟨rfl, rfl⟩
          exact .pathless hname hfind hfits hpath
        · cases h <;> simp_all [fits]
      | some dataset =>
        rw [selectOn_eq backend.pathless hpath (Backend.isEmpty_pathFor hproper hpath),
          transcript_searchAmong]
        simp only [backend.places_ne_nil, false_and, false_or]
        refine ⟨.named hname hfind hfits hpath, fun h => ?_⟩
        cases h <;> simp_all [fits]
    · rw [if_neg hfits]
      cases hzone : given zone with
      | none => exact absurd (by simp [hzone, fits]) hfits
      | some wanted =>
        refine (hrefused _).trans ⟨?_, fun h => ?_⟩
        · rintro ⟨rfl, rfl⟩
          exact .elsewhere hname hfind hzone (by simpa [hzone, fits] using hfits)
        · cases h <;> simp_all

/-- Without a name, the backends of the zone are searched. -/
lemma transcript_selectAmong {said : List Asked} {result : Except Fault Resolution}
    (hname : given name = none) (hdefaults : ProperDefaults fleet.backends) :
    (selectAmong (given zone) path none [] fleet.backends).run.Transcript said result ↔
      fleet.Selects name zone path said result := by
  rw [selectAmong_eq hdefaults, Option.getD_none, List.nil_append, nothingToAsk_eq,
    transcript_searchAmong, placesAmong_eq_nil]
  constructor
  · rintro (⟨hnobody, rfl, rfl⟩ | hmatch)
    · exact .nobody hname hnobody
    · exact .among hname hmatch
  · intro h
    cases h with
    | nobody _ hnobody => exact .inl ⟨hnobody, rfl, rfl⟩
    | among _ hmatch => exact .inr hmatch
    | unknown h | elsewhere h | pathless h | named h => simp [hname] at h

/-- Selecting is the search for the first match, whatever the appliances answer. -/
theorem transcript_select_iff (fleet : Fleet) (name zone path : Option String)
    (hdefaults : ProperDefaults fleet.backends) :
    (∀ said result, (fleet.select name zone path).run.Transcript said result ↔
      fleet.Selects name zone path said result) ∧
    ∀ answers : Nat → (call : Call) → call.Outcome, ∃ said result,
      fleet.Selects name zone path said result ∧
        ∀ i asked, said[i]? = some asked → asked.outcome = answers i asked.call := by
  have hselect : ∀ said result, (fleet.select name zone path).run.Transcript said result ↔
      fleet.Selects name zone path said result := by
    intro said result
    unfold select
    cases hname : given name with
    | none => exact transcript_selectAmong hname hdefaults
    | some named => exact transcript_selectNamed hname hdefaults
  refine ⟨hselect, fun answers => ?_⟩
  obtain ⟨said, result, hsaid, hanswers⟩ :=
    Plan.exists_transcript answers (fleet.select name zone path).run
  exact ⟨said, result, (hselect said result).1 hsaid, hanswers⟩

end Fleet

/-! ## An example -/

namespace Zones

def backend (name zone : String) (dataset : Option String) (appliances : List ApplianceRef)
    (nonempty : appliances ≠ []) : Backend where
  name
  config := { restIp := "https://appliance", username := "admin", password := "secret",
              defaultDataset := dataset, zone := some zone }
  appliances
  nonempty

def twins : Backend := backend "twins" "west" (some "pool") [⟨0, "a"⟩, ⟨1, "b"⟩] (by simp)

def alone : Backend := backend "alone" "west" (some "tank") [⟨2, "c"⟩] (by simp)

/-- Two backends in the west, and before them one elsewhere and one without a default. -/
def fleet : Fleet where
  backends := [backend "far" "east" (some "pool") [⟨3, "d"⟩] (by simp),
    backend "bare" "west" none [⟨4, "e"⟩] (by simp), twins, alone]

lemma properDefaults : Fleet.ProperDefaults fleet.backends := by
  simp [Fleet.ProperDefaults, fleet, twins, alone, backend]

/-- Neither of the twins has the pool, so the tank is found behind them. -/
theorem transcript_select_west : Fleet.ProperDefaults fleet.backends ∧
    (fleet.select none (some "west") none).run.Transcript
      [⟨⟨0, "a"⟩, .getFilesystem "pool", .error (.internal "down")⟩,
        ⟨⟨1, "b"⟩, .getFilesystem "pool", .error (.internal "gone")⟩,
        ⟨⟨2, "c"⟩, .getFilesystem "tank", .ok { path := "tank" }⟩]
      (.ok ⟨alone, ⟨2, "c"⟩, "tank"⟩) := by
  have hplaces : Fleet.placesAmong (some "west") none fleet.backends =
      [⟨twins, ⟨0, "a"⟩, "pool"⟩, ⟨twins, ⟨1, "b"⟩, "pool"⟩] ++ [⟨alone, ⟨2, "c"⟩, "tank"⟩] := by
    decide
  exact ⟨properDefaults,
    ((Fleet.transcript_select_iff fleet none (some "west") none properDefaults).1 _ _).2
      (.among rfl (.found _ [.internal "down", .internal "gone"] hplaces rfl))⟩

end Zones
end StorageFleet
