import StorageFleet.Proofs.Deployment.Pursuit
import StorageFleet.Proofs.Volume.Isolation

/-!
# Readiness

A fleet is ready if it has a backend, and the first appliance of each backend that answers has a
valid license.  So an appliance that answers without one hides those behind it, and an appliance that
fails hides none.

`FirstLicense` says which appliances of a backend are asked, and what comes of it.  Nothing is
assumed about the outcomes: each appliance has one of its own, and together they determine the report
on a fleet (`Fleet.existsUnique_reported`).  The plan that checks a backend asks just these appliances
(`Backend.transcript_checkBackend_iff`), and where all appliances are in memory it is done at once
(`Deployment.checks_atOnce`).

The backends of a fleet are checked side by side, among any other jobs, and the fleet may be replaced
meanwhile.  What a check finds is still one status for each backend of the fleet that it began with,
in configured order, by what the appliances have answered on the way, and nobody is asked behind an
appliance that has answered (`Scene.checks_of_gathers`).  The HTTP interface makes its reply of these
statuses (`Fleet.Reported.ready_iff`).
-/

namespace StorageFleet

/-! ## The first license -/

/-- The queries of the first `count` appliances, with their outcomes. -/
def licenseQueries (appliances : List ApplianceRef) (outcomes : Nat → Except Fault License)
    (count : Nat) : List Asked :=
  (appliances.take count).mapIdx fun k appliance => ⟨appliance, .getLicense, outcomes k⟩

/-- The first `count` appliances are asked, one after the other, and this comes of it. -/
inductive FirstLicense (appliances : List ApplianceRef) (outcomes : Nat → Except Fault License) :
    Nat → Except Fault (String × License) → Prop where
  /-- An appliance answers, and none before it; nobody is asked behind it. -/
  | answered {k appliance license} (found : appliances[k]? = some appliance)
      (answers : outcomes k = .ok license) (failed : ∀ j < k, ∃ fault, outcomes j = .error fault) :
      FirstLicense appliances outcomes (k + 1) (.ok (appliance.endpoint, license))
  /-- No appliance answers, and the last one fails in this way. -/
  | silent {last fault} (length_eq : appliances.length = last + 1)
      (fails : outcomes last = .error fault)
      (failed : ∀ j < last, ∃ fault, outcomes j = .error fault) :
      FirstLicense appliances outcomes (last + 1) (.error fault)

namespace FirstLicense

variable {appliance : ApplianceRef} {appliances rest : List ApplianceRef}
  {outcomes : Nat → Except Fault License} {count count' : Nat}
  {result result' : Except Fault (String × License)}

lemma ne_nil : ¬FirstLicense [] outcomes count result := by
  rintro (⟨found, -, -⟩ | ⟨length_eq, -, -⟩)
  · simp at found
  · simp at length_eq

/-- The first appliance answers, or it is the last, or those behind it are asked. -/
lemma cons_iff : FirstLicense (appliance :: rest) outcomes count result ↔
    (∃ license, outcomes 0 = .ok license ∧ count = 1 ∧
      result = .ok (appliance.endpoint, license)) ∨
    ∃ fault, outcomes 0 = .error fault ∧
      (rest = [] ∧ count = 1 ∧ result = .error fault ∨
        ∃ later, count = later + 1 ∧
          FirstLicense rest (fun k => outcomes (k + 1)) later result) := by
  constructor
  · rintro (⟨found, answers, failed⟩ | ⟨length_eq, fails, failed⟩)
    · rename_i k asked license
      cases k with
      | zero =>
        obtain rfl : appliance = asked := by simpa using found
        exact .inl ⟨license, answers, rfl, rfl⟩
      | succ k =>
        obtain ⟨⟨fault, hfault⟩, hfailed⟩ := Nat.forall_lt_succ_left.1 failed
        exact .inr ⟨fault, hfault, .inr ⟨k + 1, rfl, .answered (by simpa using found) answers hfailed⟩⟩
    · rename_i last fault
      cases last with
      | zero => exact .inr ⟨fault, fails, .inl ⟨by simpa using length_eq, rfl, rfl⟩⟩
      | succ last =>
        obtain ⟨⟨earlier, hearlier⟩, hfailed⟩ := Nat.forall_lt_succ_left.1 failed
        exact .inr ⟨earlier, hearlier, .inr ⟨last + 1, rfl,
          .silent (by simpa using length_eq) fails hfailed⟩⟩
  · rintro (⟨license, answers, rfl, rfl⟩ | ⟨fault, fails, ⟨rfl, rfl, rfl⟩ | ⟨later, rfl, h⟩⟩)
    · exact .answered rfl answers (by simp)
    · exact .silent rfl fails (by simp)
    · obtain ⟨found, answers, failed⟩ | ⟨length_eq, silent, failed⟩ := h
      · exact .answered (by simpa using found) answers
          (Nat.forall_lt_succ_left.2 ⟨⟨fault, fails⟩, failed⟩)
      · exact .silent (by simpa using length_eq) silent
          (Nat.forall_lt_succ_left.2 ⟨⟨fault, fails⟩, failed⟩)

/-- Whatever the outcomes are, something comes of asking. -/
lemma exists_of_ne_nil (h : appliances ≠ []) (outcomes : Nat → Except Fault License) :
    ∃ count result, FirstLicense appliances outcomes count result := by
  induction appliances generalizing outcomes with
  | nil => exact absurd rfl h
  | cons appliance rest ih =>
    simp only [cons_iff]
    cases hfirst : outcomes 0 with
    | ok license => exact ⟨_, _, .inl ⟨license, rfl, rfl, rfl⟩⟩
    | error fault =>
      by_cases hrest : rest = []
      · exact ⟨_, _, .inr ⟨fault, rfl, .inl ⟨hrest, rfl, rfl⟩⟩⟩
      · obtain ⟨later, result, hlater⟩ := ih hrest fun k => outcomes (k + 1)
        exact ⟨_, result, .inr ⟨fault, rfl, .inr ⟨later, rfl, hlater⟩⟩⟩

/-- The outcomes determine what comes of asking. -/
lemma unique (h : FirstLicense appliances outcomes count result)
    (h' : FirstLicense appliances outcomes count' result') : count = count' ∧ result = result' := by
  induction appliances generalizing outcomes count count' with
  | nil => exact absurd h ne_nil
  | cons appliance rest ih =>
    rw [cons_iff] at h h'
    cases hfirst : outcomes 0 with
    | ok license =>
      simp only [hfirst, Except.ok.injEq, reduceCtorEq, false_and, exists_false, or_false,
        exists_eq_left'] at h h'
      obtain ⟨⟨rfl, rfl⟩, rfl, rfl⟩ := And.intro h h'
      exact ⟨rfl, rfl⟩
    | error fault =>
      simp only [hfirst, Except.error.injEq, reduceCtorEq, false_and, exists_false, false_or,
        exists_eq_left'] at h h'
      obtain ⟨rfl, rfl, rfl⟩ | ⟨later, rfl, hlater⟩ := h
      · obtain ⟨-, rfl, rfl⟩ | ⟨later, -, hlater⟩ := h'
        · exact ⟨rfl, rfl⟩
        · exact absurd hlater ne_nil
      · obtain ⟨rfl, -, -⟩ | ⟨later', rfl, hlater'⟩ := h'
        · exact absurd hlater ne_nil
        · obtain ⟨rfl, rfl⟩ := ih hlater hlater'
          exact ⟨rfl, rfl⟩

end FirstLicense

lemma licenseQueries_cons (appliance : ApplianceRef) (rest : List ApplianceRef)
    (outcomes : Nat → Except Fault License) (count : Nat) :
    licenseQueries (appliance :: rest) outcomes (count + 1) =
      ⟨appliance, .getLicense, outcomes 0⟩ ::
        licenseQueries rest (fun k => outcomes (k + 1)) count := by
  rw [licenseQueries, List.take_succ_cons, List.mapIdx_cons]
  rfl

lemma mem_licenseQueries {appliances : List ApplianceRef} {outcomes : Nat → Except Fault License}
    {count : Nat} {asked : Asked} (h : asked ∈ licenseQueries appliances outcomes count) :
    asked.appliance ∈ appliances.take count := by
  obtain ⟨k, hk, rfl⟩ := List.mem_mapIdx.1 h
  exact List.getElem_mem hk

namespace Backend

variable {backend : Backend} {said : List Asked}

/-- To ask appliances for a license is to ask for the first. -/
lemma transcript_licenseAmong {last : Fault} {appliances : List ApplianceRef}
    {result : Except Fault (String × License)} :
    (licenseAmong last appliances).run.Transcript said result ↔
      appliances = [] ∧ said = [] ∧ result = .error last ∨
        ∃ outcomes count, said = licenseQueries appliances outcomes count ∧
          FirstLicense appliances outcomes count result := by
  induction appliances generalizing last said with
  | nil =>
    have hthrow : (licenseAmong last []).run = .done (.error last) := rfl
    rw [hthrow, Plan.transcript_done]
    simp [FirstLicense.ne_nil]
  | cons appliance rest ih =>
    rw [licenseAmong, Attempt.transcript_outcome_bind]
    simp only [List.cons_ne_nil, false_and, false_or, FirstLicense.cons_iff]
    constructor
    · rintro ⟨_, later, outcome, rfl, hask, hlater⟩
      obtain rfl := Attempt.transcript_ask.1 hask
      cases outcome with
      | ok license =>
        obtain ⟨rfl, rfl⟩ := Plan.transcript_done.1 hlater
        exact ⟨fun _ => .ok license, 1, by simp [licenseQueries], .inl ⟨license, rfl, rfl, rfl⟩⟩
      | error fault =>
        rcases ih.1 hlater with ⟨rfl, rfl, rfl⟩ | ⟨outcomes, count, rfl, hfirst⟩
        · exact ⟨fun _ => .error fault, 1, by simp [licenseQueries],
            .inr ⟨fault, rfl, .inl ⟨rfl, rfl, rfl⟩⟩⟩
        · refine ⟨fun k => k.casesOn (.error fault) outcomes, count + 1, ?_,
            .inr ⟨fault, rfl, .inr ⟨count, rfl, hfirst⟩⟩⟩
          rw [licenseQueries_cons]
          rfl
    · rintro ⟨outcomes, _, rfl, ⟨license, hfirst, rfl, rfl⟩ | ⟨fault, hfirst, hbehind⟩⟩
      · refine ⟨_, [], .ok license, ?_, Attempt.transcript_ask.2 rfl, .done⟩
        simp [licenseQueries, hfirst]
      · obtain ⟨rfl, rfl, rfl⟩ | ⟨later, rfl, hlater⟩ := hbehind
        · refine ⟨_, [], .error fault, ?_, Attempt.transcript_ask.2 rfl, .done⟩
          simp [licenseQueries, hfirst]
        · refine ⟨_, _, .error fault, ?_, Attempt.transcript_ask.2 rfl,
            ih.2 (.inr ⟨_, later, rfl, hlater⟩)⟩
          rw [licenseQueries_cons, hfirst]
          rfl

/-- What is said of a backend after its appliances were asked. -/
def statusOf (backend : Backend) : Except Fault (String × License) → BackendStatus
  | .ok (endpoint, license) => ⟨backend.name, some endpoint, license.valid, none⟩
  | .error fault => ⟨backend.name, none, false, some fault.message⟩

/-- With these outcomes the first `count` appliances of the backend are asked, and this is said. -/
def Reports (backend : Backend) (outcomes : Nat → Except Fault License) (count : Nat)
    (status : BackendStatus) : Prop :=
  ∃ result, FirstLicense backend.appliances outcomes count result ∧
    status = backend.statusOf result

/-- What comes of asking is said, with a warning or without. -/
lemma transcript_checkBackend {status : BackendStatus} :
    (Fleet.checkBackend backend).Transcript said status ↔
      ∃ result, backend.license.run.Transcript said result ∧ status = backend.statusOf result := by
  have hcheck : Fleet.checkBackend backend = backend.license.run.bind _ := rfl
  rw [hcheck, Plan.transcript_bind]
  constructor
  · rintro ⟨first, later, result, rfl, hfirst, hlater⟩
    obtain ⟨rfl, rfl⟩ : later = [] ∧ status = backend.statusOf result := by
      rw [← Plan.transcript_done]
      rcases result with fault | ⟨endpoint, license⟩
      · exact Plan.transcript_warn.1 hlater
      · dsimp only at hlater
        split at hlater
        · exact Plan.transcript_warn.1 hlater
        · exact hlater
    exact ⟨result, by simpa using hfirst, rfl⟩
  · rintro ⟨result, hresult, rfl⟩
    refine ⟨said, [], result, by simp, hresult, ?_⟩
    rcases result with fault | ⟨endpoint, license⟩
    · exact .warn .done
    · dsimp only
      split
      · exact .warn .done
      · exact .done

/-- The check of a backend asks for the first license, whatever the appliances answer. -/
theorem transcript_checkBackend_iff {status : BackendStatus} :
    (Fleet.checkBackend backend).Transcript said status ↔
      ∃ outcomes count, said = licenseQueries backend.appliances outcomes count ∧
        backend.Reports outcomes count status := by
  rw [transcript_checkBackend]
  unfold license Reports
  simp only [transcript_licenseAmong, backend.nonempty, false_and, false_or]
  constructor
  · rintro ⟨result, ⟨outcomes, count, rfl, hfirst⟩, rfl⟩
    exact ⟨outcomes, count, rfl, result, hfirst, rfl⟩
  · rintro ⟨outcomes, count, rfl, result, hfirst, rfl⟩
    exact ⟨result, ⟨outcomes, count, rfl, hfirst⟩, rfl⟩

namespace Reports

variable {outcomes : Nat → Except Fault License} {count count' : Nat}
  {status status' : BackendStatus}

lemma unique (h : backend.Reports outcomes count status)
    (h' : backend.Reports outcomes count' status') : (count, status) = (count', status') := by
  obtain ⟨result, hfirst, rfl⟩ := h
  obtain ⟨result', hfirst', rfl⟩ := h'
  obtain ⟨rfl, rfl⟩ := hfirst.unique hfirst'
  rfl

/-- An endpoint is told just if some appliance answers. -/
lemma endpoint_isSome_iff (h : backend.Reports outcomes count status) :
    status.endpoint.isSome = true ↔
      ∃ k < backend.appliances.length, ∃ license, outcomes k = .ok license := by
  obtain ⟨result, ⟨found, answers, failed⟩ | ⟨length_eq, fails, failed⟩, rfl⟩ := h
  · rename_i k appliance license
    have hk : k < backend.appliances.length := (List.getElem?_eq_some_iff.1 found).1
    exact ⟨fun _ => ⟨k, hk, license, answers⟩, fun _ => rfl⟩
  · refine ⟨nofun, ?_⟩
    rintro ⟨k, hk, license, hlicense⟩
    have hfault : ∃ fault, outcomes k = .error fault := by
      rcases Nat.lt_succ_iff_lt_or_eq.1 (length_eq ▸ hk) with hbefore | rfl
      · exact failed k hbefore
      · exact ⟨_, fails⟩
    obtain ⟨fault, hfault⟩ := hfault
    rw [hfault] at hlicense
    cases hlicense

/-- The license is told to be valid just if the first appliance that answers has a valid one. -/
lemma licenseValid_iff (h : backend.Reports outcomes count status) :
    status.licenseValid = true ↔ ∃ k appliance license, backend.appliances[k]? = some appliance ∧
      outcomes k = .ok license ∧ (∀ j < k, ∃ fault, outcomes j = .error fault) ∧
      license.valid = true := by
  constructor
  · intro hvalid
    obtain ⟨result, ⟨found, answers, failed⟩ | ⟨-, -, -⟩, rfl⟩ := h
    · exact ⟨_, _, _, found, answers, failed, hvalid⟩
    · cases hvalid
  · rintro ⟨k, appliance, license, found, answers, failed, hvalid⟩
    obtain ⟨-, rfl⟩ := Prod.mk.inj (h.unique ⟨_, .answered found answers failed, rfl⟩)
    exact hvalid

end Reports
end Backend

/-! ## The report on a fleet -/

namespace Fleet

variable {fleet : Fleet} {outcomes : Nat → Nat → Except Fault License}
  {reports : List (Nat × BackendStatus)}

/-- What a check of all backends finds: for each of them, in configured order, its status, and how
many of its appliances are asked. -/
structure Reported (fleet : Fleet) (outcomes : Nat → Nat → Except Fault License)
    (reports : List (Nat × BackendStatus)) : Prop where
  length_eq : reports.length = fleet.backends.length
  report : ∀ (k : Nat) (backend : Backend) (count : Nat) (status : BackendStatus),
    fleet.backends[k]? = some backend → reports[k]? = some (count, status) →
      backend.Reports (outcomes k) count status

/-- There is a backend, and of each of them the first appliance that answers has a valid license. -/
structure Ready (fleet : Fleet) (outcomes : Nat → Nat → Except Fault License) : Prop where
  nonempty : fleet.backends ≠ []
  licensed : ∀ (k : Nat) (backend : Backend), fleet.backends[k]? = some backend →
    ∃ j appliance license, backend.appliances[j]? = some appliance ∧ outcomes k j = .ok license ∧
      (∀ earlier < j, ∃ fault, outcomes k earlier = .error fault) ∧ license.valid = true

/-- The outcomes of all queries determine the report. -/
theorem existsUnique_reported (fleet : Fleet) (outcomes : Nat → Nat → Except Fault License) :
    ∃! reports, fleet.Reported outcomes reports := by
  have hreport : ∀ (k : Nat) (backend : Backend), ∃ report : Nat × BackendStatus,
      backend.Reports (outcomes k) report.1 report.2 := by
    intro k backend
    obtain ⟨count, result, hfirst⟩ := FirstLicense.exists_of_ne_nil backend.nonempty (outcomes k)
    exact ⟨(count, backend.statusOf result), result, hfirst, rfl⟩
  choose report hreport using hreport
  refine ⟨fleet.backends.mapIdx report, ⟨List.length_mapIdx, ?_⟩, fun others hothers => ?_⟩
  · intro k backend count status hbackend hfound
    rw [List.getElem?_mapIdx, hbackend, Option.map_some, Option.some.injEq] at hfound
    have hreports := hreport k backend
    rwa [hfound] at hreports
  · refine List.ext_getElem (hothers.length_eq.trans List.length_mapIdx.symm) fun k hk hk' => ?_
    have hbackend : k < fleet.backends.length := hothers.length_eq ▸ hk
    rw [List.getElem_mapIdx]
    exact (hothers.report k _ _ _ (List.getElem?_eq_getElem hbackend)
      (List.getElem?_eq_getElem hk)).unique (hreport k _)

/-- The statuses say whether the fleet is ready. -/
theorem Reported.ready_iff (h : fleet.Reported outcomes reports) :
    (!(reports.map Prod.snd).isEmpty && (reports.map Prod.snd).all BackendStatus.licenseValid) =
      true ↔ fleet.Ready outcomes := by
  have hnonempty : reports ≠ [] ↔ fleet.backends ≠ [] := by
    rw [← List.length_pos_iff, h.length_eq, List.length_pos_iff]
  simp only [Bool.and_eq_true, Bool.not_eq_true', List.isEmpty_eq_false_iff, ne_eq,
    List.map_eq_nil_iff, List.all_map, List.all_eq_true, Function.comp_apply]
  constructor
  · rintro ⟨hne, hall⟩
    refine ⟨hnonempty.1 hne, fun k backend hbackend => ?_⟩
    have hk : k < reports.length := h.length_eq ▸ (List.getElem?_eq_some_iff.1 hbackend).1
    exact (h.report k backend _ _ hbackend (List.getElem?_eq_getElem hk)).licenseValid_iff.1
      (hall _ (List.getElem_mem hk))
  · rintro ⟨hne, hlicensed⟩
    refine ⟨hnonempty.2 hne, fun report hreport => ?_⟩
    obtain ⟨k, hk, rfl⟩ := List.getElem_of_mem hreport
    have hbackend := List.getElem?_eq_getElem (h.length_eq ▸ hk : k < fleet.backends.length)
    exact (h.report k _ _ _ hbackend (List.getElem?_eq_getElem hk)).licenseValid_iff.2
      (hlicensed k _ hbackend)

/-- The reply of the HTTP interface to the question whether the fleet is ready. -/
def readinessReply (ready : Bool) (statuses : List BackendStatus) : Api.Reply :=
  .json (if ready then 200 else 503)
    (.object [("ready", .bool ready), ("backends", .array (statuses.map BackendStatus.toJson))])

end Fleet

/-- A GET of this path asks whether the fleet is ready. -/
lemma Api.route_readiness {message : Api.Message} (hmethod : message.method = "GET")
    (hpath : message.path = "/readyz") : Api.route message = .operate .checkBackends := by
  have hresource : Api.resources.lookup "/readyz" =
      some { read := some (Api.always (.operate .checkBackends)) } := by cbv
  rw [Api.route, hpath, hresource]
  simp [Api.Resource.action, Api.isRead, hmethod, Api.always]

/-! ## The check where all appliances are in memory -/

/-- What the appliances answer now when they are asked for a license, by the place of the backend and
that of the appliance. -/
def Deployment.licenses (d : Deployment) (k j : Nat) : Except Fault License :=
  match d.fleet.backends[k]?.bind fun backend => backend.appliances[j]? with
  | some appliance => (d.perform appliance .getLicense).1
  | none => .error default

namespace Fleet.Reported

variable {d : Deployment} {reports : List (Nat × BackendStatus)}

/-- The appliances in memory answer so, and asking does not change them. -/
lemma answer_eq {k count : Nat} {backend : Backend} {asked : Asked}
    (hbackend : d.fleet.backends[k]? = some backend)
    (h : asked ∈ licenseQueries backend.appliances (d.licenses k) count) :
    d.rack.answer asked.appliance asked.call = (asked.outcome, d.rack) := by
  obtain ⟨j, hj, rfl⟩ := List.mem_mapIdx.1 h
  have happliance : backend.appliances[j]? = some (backend.appliances.take count)[j] := by
    rw [List.getElem_take, List.getElem?_eq_getElem]
  have houtcome : d.licenses k j =
      (d.rack.answer (backend.appliances.take count)[j] .getLicense).1 := by
    rw [Deployment.licenses, hbackend, Option.bind_some, happliance]
    exact (d.perform_eq _ _).1
  refine Prod.ext houtcome.symm ?_
  exact Call.harmless_getLicense.answer_eq _ _

/-- The branches of the check come to the report. -/
lemma execAll_eq (h : d.fleet.Reported d.licenses reports) :
    (Plan.execAll (d.fleet.backends.map checkBackend) d.rack).1 = reports.map Prod.snd := by
  have hlook : Operation.checkBackends.isLook = true := rfl
  have hexec := congrArg Prod.fst (Operation.exec_of_isLook hlook d.fleet d.rack)
  refine (Except.ok.inj hexec).trans (List.ext_getElem ?_ fun k hk hk' => ?_)
  · simp [Operation.branches, h.length_eq]
  · simp only [Operation.branches, List.length_map] at hk hk'
    simp only [Operation.branches, List.getElem_map]
    have hbackend := List.getElem?_eq_getElem hk
    have hsaid := Backend.transcript_checkBackend_iff.2
      ⟨_, _, rfl, h.report k _ _ _ hbackend (List.getElem?_eq_getElem hk')⟩
    rw [hsaid.exec_eq fun asked hasked => answer_eq hbackend hasked]
    rfl

end Fleet.Reported

/-- The first look at this work gives it the answer at once. -/
def Deployment.AnswersAtOnce (d : Deployment) (cancelAt : Option Nat) (work : Work)
    (answer : work.Answer) : Prop :=
  ∃ time, (Job.visit d { work, cancelAt }).2.2 =
    { work, cancelAt, progress := .finished answer time }

/-- Where all appliances are in memory, a check is done at once, and so is the question of readiness
unless the HTTP interface is closed. -/
theorem Deployment.checks_atOnce (d : Deployment) (inMemory : ∀ id, d.connected? id = none)
    (cancelAt : Option Nat) : ∃ reports ready, d.fleet.Reported d.licenses reports ∧
      (ready = true ↔ d.fleet.Ready d.licenses) ∧
      d.AnswersAtOnce cancelAt (.operate .checkBackends) (.ok (reports.map Prod.snd)) ∧
      (d.closed = false → d.AnswersAtOnce cancelAt (.serve (.operate .checkBackends) false)
        (Fleet.readinessReply ready (reports.map Prod.snd))) := by
  obtain ⟨reports, hreported, -⟩ := d.fleet.existsUnique_reported d.licenses
  refine ⟨reports, _, hreported, hreported.ready_iff, ?_, fun hopen => ?_⟩
  · obtain ⟨⟨time, hvisit⟩, -⟩ := Job.visit_operate d inMemory .checkBackends cancelAt
    have hexec : (Operation.checkBackends.exec d.fleet d.rack).1 = .ok (reports.map Prod.snd) :=
      congrArg Except.ok hreported.execAll_eq
    rw [hexec] at hvisit
    exact ⟨time, hvisit⟩
  · have hbegin : (Work.serve (.operate .checkBackends) false).begin d =
        (d, (d.fleet.backends.map Fleet.checkBackend).map d.task) := rfl
    obtain ⟨after, -, hactive⟩ := Job.visitActive_of_begin d inMemory cancelAt hbegin
    have hvisit : Job.visit d { work := .serve (.operate .checkBackends) false, cancelAt } =
        Job.visitActive d { work := .serve (.operate .checkBackends) false, cancelAt } := by
      simp [Job.visit, Job.isFinished, Job.isCancelled, Work.isServed, hopen]
    rw [hreported.execAll_eq] at hactive
    unfold AnswersAtOnce
    rw [hvisit, hactive]
    exact ⟨_, rfl⟩

/-! ## The check among other jobs -/

namespace Scene

variable {start : Deployment} {passed : Deployment → Prop} {i : Nat} {entries : List Entry}

/-- What the thread has found that checks the backend at place `k`, and what it has done for it. -/
structure ChecksBackend (start : Deployment) (passed : Deployment → Prop) (i : Nat)
    (entries : List Entry) (k : Nat) (backend : Backend) (outcomes : Nat → Except Fault License)
    (count : Nat) (status : BackendStatus) : Prop where
  reports : backend.Reports outcomes count status
  /-- The appliances that were to be asked have answered so on the way. -/
  heard : ∀ asked ∈ licenseQueries backend.appliances outcomes count, start.Hears passed asked
  /-- The thread has been at no stations but theirs. -/
  visited : ∀ done ∈ entries, done.job = i → done.thread = start.nextThread + k →
    ∃ appliance ∈ backend.appliances.take count, appliance.id = done.station

/-- What a job has found that checks the backends of a fleet, and what it has done for it. -/
structure Checks (start : Deployment) (passed : Deployment → Prop) (i : Nat) (entries : List Entry)
    (outcomes : Nat → Nat → Except Fault License) (reports : List (Nat × BackendStatus)) : Prop where
  length_eq : reports.length = start.fleet.backends.length
  backend : ∀ (k : Nat) (backend : Backend) (count : Nat) (status : BackendStatus),
    start.fleet.backends[k]? = some backend → reports[k]? = some (count, status) →
      ChecksBackend start passed i entries k backend (outcomes k) count status
  /-- There is a thread for each backend, and no other. -/
  thread : ∀ done ∈ entries, done.job = i →
    ∃ k, k < start.fleet.backends.length ∧ done.thread = start.nextThread + k

lemma Checks.reported {outcomes : Nat → Nat → Except Fault License}
    {reports : List (Nat × BackendStatus)} (h : Checks start passed i entries outcomes reports) :
    start.fleet.Reported outcomes reports :=
  ⟨h.length_eq, fun k backend count status hbackend hreport =>
    (h.backend k backend count status hbackend hreport).reports⟩

/-- What the threads of the check have found is the report on the fleet, by what the appliances have
answered. -/
theorem checks_of_gathers {statuses : List BackendStatus}
    (h : Gathers start passed (start.fleet.backends.map Fleet.checkBackend) i entries statuses) :
    ∃ outcomes reports, Checks start passed i entries outcomes reports ∧
      statuses = reports.map Prod.snd := by
  have hbackend : ∀ k : Nat, ∃ outcomes count, ∀ (backend : Backend) (status : BackendStatus),
      start.fleet.backends[k]? = some backend → statuses[k]? = some status →
        ChecksBackend start passed i entries k backend outcomes count status := by
    intro k
    cases hfound : start.fleet.backends[k]? with
    | none => exact ⟨fun _ => .error default, 0, by simp⟩
    | some backend =>
      cases hstatus : statuses[k]? with
      | none => exact ⟨fun _ => .error default, 0, by simp⟩
      | some status =>
        obtain ⟨said, hsaid, hheard, hvisited⟩ :=
          h.part k _ status (by rw [List.getElem?_map, hfound, Option.map_some]) hstatus
        obtain ⟨outcomes, count, rfl, hreports⟩ := Backend.transcript_checkBackend_iff.1 hsaid
        refine ⟨outcomes, count, ?_⟩
        rintro _ _ ⟨⟩ ⟨⟩
        refine ⟨hreports, hheard, fun done hmem hdone hthread => ?_⟩
        obtain ⟨asked, hasked, hstation⟩ := hvisited done hmem hdone hthread
        exact ⟨asked.appliance, mem_licenseQueries hasked, hstation⟩
  choose outcomes counts hbackend using hbackend
  refine ⟨outcomes, statuses.mapIdx fun k status => (counts k, status), ⟨?_, ?_, ?_⟩, ?_⟩
  · rw [List.length_mapIdx, h.length_eq, List.length_map]
  · intro k backend count status hfound hreport
    rw [List.getElem?_mapIdx, Option.map_eq_some_iff] at hreport
    obtain ⟨found, hstatus, heq⟩ := hreport
    obtain ⟨rfl, rfl⟩ := Prod.mk.inj heq
    exact hbackend k backend found hfound hstatus
  · simpa using h.thread
  · exact List.ext_getElem? fun k => by simp

/-- The job at a place gets this answer in the step from one scene to the next. -/
def Gets (before after : Scene) (i : Nat) (work : Work) (answer : work.Answer) : Prop :=
  (∀ answer, ¬Answered before.jobs i work answer) ∧ Answered after.jobs i work answer

/-- The job at a place is to be cancelled. -/
def Stops (scene : Scene) (i : Nat) : Prop :=
  ∃ job, scene.jobs[i]? = some job ∧ job.IsStopped scene.deployment

end Scene

/-- Readiness means that every backend is licensed.  The outcomes of all queries determine one status
for each backend of a fleet, and the plan that checks a backend asks just the appliances that are to be
asked.  Where all appliances are in memory, a check is done at once.  Now consider a job that checks the
backends, along any course of steps from the moment at which it is taken up, with any other jobs beside
it.  If it gets an answer, this is the report on the fleet that was current at that moment, by what its
appliances have answered on the way, and nobody else was asked; or the job was to be cancelled.  A
request of the HTTP interface gets status 200 if by these answers the fleet is ready, and 503 if it is
not, with the same statuses. -/
theorem readiness {start scene begun before after : Scene} {i : Nat} {job : Job}
    {earlier entries : List Entry} {entry : Option Entry} (hwired : start.deployment.Wired)
    (hearlier : start.Leads earlier scene) (hbegins : scene.Begins i job begun)
    (hcourse : begun.Leads entries before) (hnext : before.Next entry after) :
    (∀ (fleet : Fleet) outcomes, ∃! reports, fleet.Reported outcomes reports) ∧
    (∀ (backend : Backend) said status, (Fleet.checkBackend backend).Transcript said status ↔
      ∃ outcomes count, said = licenseQueries backend.appliances outcomes count ∧
        backend.Reports outcomes count status) ∧
    (∀ (backend : Backend) outcomes count status, backend.Reports outcomes count status →
      (status.endpoint.isSome = true ↔
        ∃ k < backend.appliances.length, ∃ license, outcomes k = .ok license)) ∧
    (∀ message : Api.Message, message.method = "GET" → message.path = "/readyz" →
      Api.route message = .operate .checkBackends) ∧
    (∀ (d : Deployment) cancelAt, (∀ id, d.connected? id = none) →
      ∃ reports ready, d.fleet.Reported d.licenses reports ∧
        (ready = true ↔ d.fleet.Ready d.licenses) ∧
        d.AnswersAtOnce cancelAt (.operate .checkBackends) (.ok (reports.map Prod.snd)) ∧
        (d.closed = false → d.AnswersAtOnce cancelAt (.serve (.operate .checkBackends) false)
          (Fleet.readinessReply ready (reports.map Prod.snd)))) ∧
    (job.work = .operate .checkBackends →
      ∀ outcome, before.Gets after i (.operate .checkBackends) outcome →
        (∃ outcomes reports,
          Scene.Checks scene.deployment (begun.Passes entries before) i entries outcomes reports ∧
          outcome = .ok (reports.map Prod.snd)) ∨
        outcome = .error (.cancelled "check_backends") ∧ before.Stops i) ∧
    (job.work = .serve (.operate .checkBackends) false →
      ∀ reply, before.Gets after i (.serve (.operate .checkBackends) false) reply →
        (∃ outcomes reports ready,
          Scene.Checks scene.deployment (begun.Passes entries before) i entries outcomes reports ∧
          (ready = true ↔ scene.deployment.fleet.Ready outcomes) ∧
          reply = Fleet.readinessReply ready (reports.map Prod.snd)) ∨
        reply = .ofFault (.cancelled "check_backends") ∧ before.Stops i) := by
  have hwires := hearlier.wired hwired
  refine ⟨Fleet.existsUnique_reported, fun _ _ _ => Backend.transcript_checkBackend_iff,
    fun _ _ _ _ h => h.endpoint_isSome_iff, fun _ => Api.route_readiness,
    fun d cancelAt inMemory => d.checks_atOnce inMemory cancelAt, fun hwork outcome hgets => ?_,
    fun hwork reply hgets => ?_⟩
  · obtain ⟨work, cancelled, cancelAt, progress⟩ := job
    obtain rfl : work = .operate .checkBackends := hwork
    rcases hnext.gathers hwires hbegins rfl hcourse hgets.1 hgets.2 with
      ⟨statuses, hgathers, rfl⟩ | ⟨hcancelled, hstops⟩
    · obtain ⟨outcomes, reports, hchecks, rfl⟩ := Scene.checks_of_gathers hgathers
      exact .inl ⟨outcomes, reports, hchecks, rfl⟩
    · exact .inr ⟨(Option.some.inj hcancelled).symm, hstops⟩
  · obtain ⟨work, cancelled, cancelAt, progress⟩ := job
    obtain rfl : work = .serve (.operate .checkBackends) false := hwork
    rcases hnext.gathers hwires hbegins rfl hcourse hgets.1 hgets.2 with
      ⟨statuses, hgathers, rfl⟩ | ⟨hcancelled, hstops⟩
    · obtain ⟨outcomes, reports, hchecks, rfl⟩ := Scene.checks_of_gathers hgathers
      exact .inl ⟨outcomes, reports, _, hchecks, hchecks.reported.ready_iff, rfl⟩
    · exact .inr ⟨(Option.some.inj hcancelled).symm, hstops⟩

namespace Shadow

/-- An appliance that fails, one without a license, and one behind them that has a license. -/
def backend : Backend where
  name := "west"
  config := { restIp := "https://appliance", username := "admin", password := "secret" }
  appliances := [⟨0, "a"⟩, ⟨1, "b"⟩, ⟨2, "c"⟩]
  nonempty := by simp

def deployment : Deployment where
  stations := [.simulated { endpoint := "a", offline := true },
    .simulated { endpoint := "b", licensed := false }, .simulated { endpoint := "c" }]
  fleet := { backends := [backend] }

def message : Api.Message where
  method := "GET"
  address := "/readyz"

def asking : Job where
  work := .serve (.operate .checkBackends) false

/-- A request that is about to be taken up. -/
def waiting : Scene where
  deployment
  jobs := [asking]

/-- The request while its only thread has this to do. -/
def underWay (d : Deployment) (task : Task BackendStatus) : Scene where
  deployment := d
  jobs := [asking.withThreads [{ id := 0, task }]]
  active := Function.update waiting.active 0 true

lemma next_underWay {d d' : Deployment} {deed : Option (Nat × Deed)}
    {task task' : Task BackendStatus}
    (h : (⟨0, task, .nothing, none⟩ : Thread BackendStatus).Moves d deed d'
      ⟨0, task', .nothing, none⟩) :
    (underWay d task).Next (deed.map (.of 0 0)) (underWay d' task') := by
  have hjob : (underWay d task).jobs[0]? = some (asking.withThreads [{ id := 0, task }]) := rfl
  exact .moves (k := 0) hjob (Function.update_self ..) rfl rfl h

/-- The request has been taken up. -/
def begun : Scene :=
  underWay { deployment with nextThread := 1 } (deployment.task (Fleet.checkBackend backend))

/-- What is found: the second appliance has answered, without a license. -/
def found : BackendStatus where
  name := "west"
  endpoint := some "b"
  licenseValid := false
  error := none

/-- When this is found, the request is answered. -/
lemma exists_gets (d : Deployment) : ∃ after, (underWay d (.done found)).Next none after ∧
    (underWay d (.done found)).Gets after 0 (.serve (.operate .checkBackends) false)
      (Fleet.readinessReply false [found]) := by
  have hnext : (underWay d (.done found)).Next none _ :=
    .ends (i := 0) rfl (Function.update_self ..) rfl rfl
  refine ⟨_, hnext, ?_, false, none, d.clock, rfl⟩
  rintro answer ⟨_, _, _, hanswer⟩
  cases hanswer

/-- The third appliance is not asked, and the fleet is not ready; a check of its own is done at once. -/
theorem readiness_shadowed : waiting.Begins 0 asking begun ∧
    (message.path = "/readyz" ∧ Api.route message = .operate .checkBackends) ∧
    ∃ before after entries, begun.Leads entries before ∧ before.Next none after ∧
      entries.map Entry.station = [0, 1] ∧
      before.Gets after 0 (.serve (.operate .checkBackends) false)
        (Fleet.readinessReply false [found]) ∧
      ∃ outcomes reports,
        Scene.Checks deployment (begun.Passes entries before) 0 entries outcomes reports ∧
        ¬deployment.fleet.Ready outcomes ∧ ∃ now,
          deployment.fleet.Reported deployment.licenses now ∧
          deployment.AnswersAtOnce none (.operate .checkBackends) (.ok (now.map Prod.snd)) := by
  have hbegins : waiting.Begins 0 asking begun :=
    ⟨rfl, rfl, fun h => absurd h.1 (by decide), rfl, rfl⟩
  have hpath : message.path = "/readyz" := by cbv
  have hwired : waiting.deployment.Wired := by
    intro id client h
    rcases id with _ | _ | _ | id <;> cases h
  have hmemory : ∀ id, deployment.connected? id = none := by
    intro id
    rcases id with _ | _ | _ | id <;> rfl
  have hcourse : begun.Leads _ (underWay _ (.done found)) :=
    .step (.step (.step .here (next_underWay .performs)) (next_underWay .performs))
      (next_underWay .warns)
  obtain ⟨after, hnext, hgets⟩ := exists_gets _
  obtain ⟨-, -, -, hroute, hatOnce, -, hreadiness⟩ := readiness hwired .here hbegins hcourse hnext
  obtain ⟨now, -, hnow, -, hdone, -⟩ := hatOnce deployment none hmemory
  refine ⟨hbegins, ⟨hpath, hroute message rfl hpath⟩, _, _, _, hcourse, hnext, rfl, hgets, ?_⟩
  rcases hreadiness rfl _ hgets with
    ⟨outcomes, reports, ready, hchecks, hready, hreply⟩ | ⟨-, job, hjob, hstopped, -⟩
  · refine ⟨outcomes, reports, hchecks, fun h => ?_, now, hnow, hdone⟩
    rw [hready.2 h] at hreply
    cases congrArg Api.Reply.status hreply
  · cases hjob
    exact absurd hstopped Bool.false_ne_true

end Shadow
end StorageFleet
