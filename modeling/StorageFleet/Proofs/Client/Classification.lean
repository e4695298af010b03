import StorageFleet.Proofs.Session.Submission

/-!
# Classified faults

The appliance says what went wrong with a code, and five questions about a fault go by it.
`Fault.Kind` names the five answers and `Fault.isOf` asks them.  A fault is of a kind iff it is the
appliance's own and has one of the kind's codes, or it is the fault of a path that no backend has,
which is a missing resource (`Fault.isOf_iff`).  No code is of two kinds, so the kinds exclude each
other and the order in which `Fault.applianceStatus` asks for them does not matter
(`Fault.status_of_isOf`).

`classification_by_code` adds how the appliance's answers become faults: nothing of an answer but
the code in its body is looked at.
-/

namespace StorageFleet

/-- What the failure of an appliance may be. -/
inductive Fault.Kind where
  | alreadyExists
  | notFound
  | invalidArgument
  | busy
  | unauthenticated
  deriving DecidableEq, Repr

namespace Fault

/-- The codes of a kind. -/
def Kind.codes : Kind → List String
  | .alreadyExists => ["EEXIST"]
  | .notFound => ["ENOENT"]
  | .invalidArgument => ["EINVAL", "EBADARG"]
  | .busy => ["EBUSY"]
  | .unauthenticated => ["EAUTH"]

/-- The status that a fault of a kind has. -/
def Kind.status : Kind → Status
  | .alreadyExists => .alreadyExists
  | .notFound => .notFound
  | .invalidArgument => .invalidArgument
  | .busy => .failedPrecondition
  | .unauthenticated => .unauthenticated

/-- Whether a fault is of a kind. -/
def isOf (fault : Fault) : Kind → Bool
  | .alreadyExists => fault.isAlreadyExists
  | .notFound => fault.isNotFound
  | .invalidArgument => fault.isInvalidArgument
  | .busy => fault.isBusy
  | .unauthenticated => fault.isUnauthenticated

/-- Two faults that nobody who asks for kind, status or retry can tell apart. -/
structure Agrees (fault other : Fault) : Prop where
  kinds : ∀ kind, fault.isOf kind = other.isOf kind
  status : fault.status = other.status
  retry : fault.isRetryable = other.isRetryable

/-! ## Kinds and codes -/

lemma Kind.eq_of_code {code : String} {kind other : Kind} (h : code ∈ kind.codes)
    (hother : code ∈ other.codes) : kind = other := by
  have hdisjoint : ∀ kind other : Kind, kind ≠ other → ∀ code ∈ kind.codes, code ∉ other.codes := by
    intro kind other hne
    cases kind <;> cases other <;> first | exact absurd rfl hne | simp [codes]
  by_contra hne
  exact hdisjoint kind other hne code h hother

lemma isOf_appliance_iff (error : ApplianceError) (kind : Kind) :
    (appliance error).isOf kind = true ↔ error.code ∈ kind.codes := by
  cases kind <;>
    simp [isOf, isAlreadyExists, isNotFound, isInvalidArgument, isBusy, isUnauthenticated, code?,
      Kind.codes, ApplianceError.codeExists, ApplianceError.codeMissing, ApplianceError.codeInvalid,
      ApplianceError.codeBadArgument, ApplianceError.codeBusy, ApplianceError.codeUnauthenticated]

/-- Which faults are of a kind. -/
lemma isOf_iff (fault : Fault) (kind : Kind) :
    fault.isOf kind = true ↔ (∃ error, fault = .appliance error ∧ error.code ∈ kind.codes) ∨
      (kind = .notFound ∧ ∃ path source, fault = .notFoundOnAnyBackend path source) := by
  cases fault with
  | appliance error => simp [isOf_appliance_iff]
  | _ => cases kind <;> simp [isOf, isAlreadyExists, isNotFound, isInvalidArgument, isBusy,
      isUnauthenticated, code?]

lemma kind_unique {fault : Fault} {kind other : Kind} (h : fault.isOf kind = true)
    (hother : fault.isOf other = true) : kind = other := by
  rw [isOf_iff] at h hother
  rcases h with ⟨error, rfl, hcode⟩ | ⟨rfl, path, source, rfl⟩
  · simp only [appliance.injEq, exists_eq_left', reduceCtorEq, exists_false, and_false,
      or_false] at hother
    exact Kind.eq_of_code hcode hother
  · simp only [reduceCtorEq, false_and, exists_false, false_or] at hother
    exact hother.1.symm

lemma status_appliance_of_isOf {error : ApplianceError} {kind : Kind}
    (h : (appliance error).isOf kind = true) : (appliance error).status = kind.status := by
  -- the answers to the other four questions are known, whatever is asked first
  have hother : ∀ other, other ≠ kind → (appliance error).isOf other = false := by
    intro other hne
    by_contra hof
    exact hne (kind_unique (Bool.not_eq_false _ ▸ hof) h)
  have hexists := hother .alreadyExists
  have hmissing := hother .notFound
  have hinvalid := hother .invalidArgument
  have hbusy := hother .busy
  simp only [isOf] at hexists hmissing hinvalid hbusy
  cases kind <;> simp_all [status, applianceStatus, Kind.status, isOf]

lemma status_of_isOf {fault : Fault} {kind : Kind} (h : fault.isOf kind = true) :
    fault.status = kind.status := by
  rcases (isOf_iff fault kind).mp h with ⟨error, rfl, -⟩ | ⟨rfl, path, source, rfl⟩
  · exact status_appliance_of_isOf h
  · rfl

lemma isRetryable_iff (fault : Fault) : fault.isRetryable = true ↔ fault.isBusy = true ∨
    fault.status = .unavailable ∨ fault.status = .deadlineExceeded ∨ fault.status = .aborted := by
  simp [isRetryable, or_assoc]

/-! ## Faults that agree -/

/-- The appliance's own words say nothing about the kind of a fault. -/
lemma agrees_of_code_eq {error other : ApplianceError} (h : error.code = other.code) :
    (appliance error).Agrees (.appliance other) := by
  obtain ⟨message, code⟩ := error
  obtain ⟨message', code'⟩ := other
  obtain rfl : code = code' := h
  exact ⟨fun kind => by cases kind <;> rfl, rfl, rfl⟩

lemma agrees_notFoundOnAnyBackend (path path' : String) (source source' : Fault) :
    (notFoundOnAnyBackend path source).Agrees (.notFoundOnAnyBackend path' source') :=
  ⟨fun kind => by cases kind <;> rfl, rfl, rfl⟩

/-- What the answers to all questions about a fault have to do with each other. -/
structure Coherent (fault : Fault) : Prop where
  /-- At most one kind fits. -/
  unique : ∀ kind other, fault.isOf kind = true → fault.isOf other = true → kind = other
  /-- The status tells of the kind. -/
  status : ∀ kind, fault.isOf kind = true → fault.status = kind.status
  /-- Only the faults of appliances have a kind, and the fault of a path that no backend has. -/
  origin : ∀ kind, fault.isOf kind = true ↔
    (∃ error, fault = .appliance error ∧ error.code ∈ kind.codes) ∨
      (kind = .notFound ∧ ∃ path source, fault = .notFoundOnAnyBackend path source)
  /-- Of an appliance's fault only the code counts. -/
  words : ∀ error other, fault = .appliance error → error.code = other.code →
    fault.Agrees (.appliance other)
  /-- As the source of another fault, it makes no difference to that one. -/
  source : ∀ path source,
    (notFoundOnAnyBackend path fault).Agrees (.notFoundOnAnyBackend path source)
  /-- Another try may help with what is in use or may be gone soon. -/
  retry : fault.isRetryable = true ↔ fault.isBusy = true ∨
    fault.status = .unavailable ∨ fault.status = .deadlineExceeded ∨ fault.status = .aborted

lemma coherent (fault : Fault) : fault.Coherent where
  unique _ _ := kind_unique
  status _ := status_of_isOf
  origin := isOf_iff fault
  words _ _ heq hcode := heq ▸ agrees_of_code_eq hcode
  source path source := agrees_notFoundOnAnyBackend path path fault source
  retry := isRetryable_iff fault

end Fault

/-! ## Answers of an appliance -/

namespace Response

lemma fault_eq_appliance {response : Response} {body : Json} (hbody : response.body = .json body)
    (h : body.DescribesError) (endpoint : String) (request : Request) :
    ∃ message, response.fault endpoint request = .appliance ⟨message, body.errorCode⟩ := by
  obtain ⟨message, herror⟩ := ApplianceError.ofBody_of_describesError h
    (request.method ++ " " ++ endpoint ++ " " ++ request.path)
  exact ⟨message, by simp [fault, json?, hbody, herror]⟩

lemma fault_eq_unexpectedResponse {response : Response}
    (h : ∀ body, response.body = .json body → ¬ body.DescribesError) (endpoint : String)
    (request : Request) : response.fault endpoint request = .unexpectedResponse
      (request.method ++ " " ++ endpoint ++ " " ++ request.path) response.status response.text := by
  cases hbody : response.body with
  | json body => simp [fault, json?, hbody, ApplianceError.ofBody_eq_none (h body hbody)]
  | _ => simp [fault, json?, hbody]

/-- What the bodies of such answers are reported as. -/
example : [.empty, .json (.array [.string "teapot", .null]), .raw "teapot"].map (fun body =>
      Response.fault "https://a" { method := "GET", path := "p" } ⟨418, body⟩) =
    ["", "[\"teapot\",null]", "teapot"].map (.unexpectedResponse "GET https://a p" 418) := by
  decide

/-- An answer counts as the appliance's own fault, with the body's code, iff the body describes
one. -/
lemma fault_eq_appliance_iff (response : Response) (endpoint : String) (request : Request)
    (code : String) : (∃ message, response.fault endpoint request = .appliance ⟨message, code⟩) ↔
      ∃ body, response.body = .json body ∧ body.DescribesError ∧ body.errorCode = code := by
  constructor
  · rintro ⟨message, heq⟩
    by_cases h : ∃ body, response.body = .json body ∧ body.DescribesError
    · obtain ⟨body, hbody, hdescribes⟩ := h
      obtain ⟨message', heq'⟩ := fault_eq_appliance hbody hdescribes endpoint request
      rw [heq, Fault.appliance.injEq, ApplianceError.mk.injEq] at heq'
      exact ⟨body, hbody, hdescribes, heq'.2.symm⟩
    · have hnone : ∀ body, response.body = .json body → ¬ body.DescribesError :=
        fun body hbody hdescribes => h ⟨body, hbody, hdescribes⟩
      rw [fault_eq_unexpectedResponse hnone] at heq
      cases heq
  · rintro ⟨body, hbody, hdescribes, rfl⟩
    exact fault_eq_appliance hbody hdescribes endpoint request

lemma isOf_fault_iff (response : Response) (endpoint : String) (request : Request)
    (kind : Fault.Kind) : (response.fault endpoint request).isOf kind = true ↔
      ∃ body, response.body = .json body ∧ body.DescribesError ∧ body.errorCode ∈ kind.codes := by
  rw [Fault.isOf_iff]
  constructor
  · rintro (⟨⟨message, code⟩, heq, hcode⟩ | ⟨rfl, path, source, heq⟩)
    · obtain ⟨body, hbody, hdescribes, rfl⟩ :=
        (response.fault_eq_appliance_iff endpoint request code).mp ⟨message, heq⟩
      exact ⟨body, hbody, hdescribes, hcode⟩
    · simp only [fault] at heq
      split at heq <;> cases heq
  · rintro ⟨body, hbody, hdescribes, hcode⟩
    obtain ⟨message, heq⟩ := fault_eq_appliance hbody hdescribes endpoint request
    exact .inl ⟨_, heq, hcode⟩

end Response

/-- Whatever was asked of whom and with whatever status it was answered, two bodies that describe
errors with one code come down to faults that agree.  A body that describes no error never counts as
the appliance's own fault, and a fault has a kind only from the code of such a body.  All faults,
however they are nested, are coherent. -/
theorem classification_by_code :
    (∀ (endpoint endpoint' : String) (request request' : Request) (status status' : Nat)
      (body body' : Json), body.DescribesError → body'.DescribesError →
      body.errorCode = body'.errorCode →
      (Response.fault endpoint request ⟨status, .json body⟩).Agrees
        (Response.fault endpoint' request' ⟨status', .json body'⟩)) ∧
    (∀ (endpoint : String) (request : Request) (response : Response),
      (∃ error, response.fault endpoint request = .appliance error) ↔
        ∃ body, response.body = .json body ∧ body.DescribesError) ∧
    (∀ (endpoint : String) (request : Request) (response : Response) (kind : Fault.Kind),
      (response.fault endpoint request).isOf kind = true ↔
        ∃ body, response.body = .json body ∧ body.DescribesError ∧ body.errorCode ∈ kind.codes) ∧
    ∀ fault : Fault, fault.Coherent := by
  refine ⟨?codes, ?bodies,
    fun endpoint request response => response.isOf_fault_iff endpoint request, Fault.coherent⟩
  case codes =>
    intro endpoint endpoint' request request' status status' body body' h h' hcode
    have hbody : (Response.mk status (.json body)).body = .json body := rfl
    have hbody' : (Response.mk status' (.json body')).body = .json body' := rfl
    obtain ⟨message, heq⟩ := Response.fault_eq_appliance hbody h endpoint request
    obtain ⟨message', heq'⟩ := Response.fault_eq_appliance hbody' h' endpoint' request'
    rw [heq, heq']
    exact Fault.agrees_of_code_eq hcode
  case bodies =>
    intro endpoint request response
    constructor
    · rintro ⟨⟨message, code⟩, heq⟩
      obtain ⟨body, hbody, hdescribes, -⟩ :=
        (response.fault_eq_appliance_iff endpoint request code).mp ⟨message, heq⟩
      exact ⟨body, hbody, hdescribes⟩
    · rintro ⟨body, hbody, hdescribes⟩
      obtain ⟨message, heq⟩ := Response.fault_eq_appliance hbody hdescribes endpoint request
      exact ⟨_, heq⟩

/-- A missing pool that a deletion names and a missing page that a listing gets: the one body has
only a name, the other only a message that speaks of something in use. -/
theorem classification_by_code_missing :
    let deletion := Response.fault "https://a" { method := "DELETE", path := "storage/pools/p" }
      ⟨500, .json (.object [("name", .string "NefError"), ("code", .string "ENOENT")])⟩
    let listing := Response.fault "https://b" { method := "GET", path := "nas/nfs" }
      ⟨404, .json (.object [("code", .string "ENOENT"), ("message", .string "EBUSY")])⟩
    deletion.Agrees listing ∧ listing.isOf .notFound = true ∧ listing.isOf .busy = false := by
  intro deletion listing
  have hfirst : Json.DescribesError
    (.object [("name", .string "NefError"), ("code", .string "ENOENT")]) := .inl rfl
  have hsecond : Json.DescribesError
    (.object [("code", .string "ENOENT"), ("message", .string "EBUSY")]) := .inr rfl
  have hagrees : deletion.Agrees listing :=
    classification_by_code.1 _ _ _ _ _ _ _ _ hfirst hsecond rfl
  have hmissing : listing.isOf .notFound = true :=
    (classification_by_code.2.2.1 _ _ _ _).mpr ⟨_, rfl, hsecond, List.mem_singleton.mpr rfl⟩
  refine ⟨hagrees, hmissing, ?_⟩
  by_contra hbusy
  exact absurd ((classification_by_code.2.2.2 listing).unique _ _ hmissing
    (Bool.not_eq_false _ ▸ hbusy)) (by decide)

end StorageFleet
