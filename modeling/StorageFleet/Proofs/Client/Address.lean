import Mathlib.Data.List.Induction
import Mathlib.Data.List.Nodup
import StorageFleet.Proofs.Client.Destruction
import StorageFleet.Proofs.Text.Percent

/-!
# Addresses

A request is addressed by its method and by a path with a query.  Paths of filesystems and snapshots
stand in it as single segments, and a query has its parameters in one order only.  So an address can
be read back.  `readUri?` cuts a path and its query apart and gives the parameters;
`Request.target?` tells the operation and the dataset or snapshot that a request is about.

`addressing` says that both give what was written.  In particular two calls with one address are the
same operation on the same thing, whatever characters the names of the things are made of.
-/

namespace StorageFleet

/-! ## Reading addresses -/

/-- Reads one parameter of a query. -/
def readPair? (piece : List Char) : Option (String × String) :=
  match Text.splitAll '=' piece with
  | [key, value] => some (Text.percentDecode key, Text.percentDecode value)
  | _ => none

/-- Reads a path and the parameters of its query. -/
def readUri? (uri : String) : Option (String × List (String × String)) :=
  match Text.splitAll '?' uri.toList with
  | [path] => some (String.ofList path, [])
  | [path, query] =>
    ((Text.splitAll '&' query).mapM readPair?).map fun pairs => (String.ofList path, pairs)
  | _ => none

/-- The last value of `key` that is not empty. -/
def lastValue? (key : String) (parameters : List (String × String)) : Option String :=
  ((parameters.filter fun pair => pair.1 = key ∧ pair.2 ≠ "").getLast?).map Prod.snd

namespace Call

/-- The request that a call on a given filesystem or snapshot comes down to. -/
def request? : Call → Option Request
  | .updateFilesystem path quota => some ⟨"PUT", Client.filesystemPath path,
      some (.object (countField "referencedQuotaSize" quota)), none⟩
  | .destroyFilesystem path snapshots _ => some (Client.deletion path snapshots)
  | .promoteFilesystem path => some (Client.promotion path)
  | .setAccess path rule =>
    some ⟨"POST", Client.filesystemPath path ++ "/acl", some rule.toJson, none⟩
  | .deleteNfsShare path => some ⟨"DELETE", "nas/nfs/" ++ segment path, none, none⟩
  | .getSmbShareName path => some ⟨"GET", "nas/smb/" ++ segment path, none, none⟩
  | .deleteSmbShare path => some ⟨"DELETE", "nas/smb/" ++ segment path, none, none⟩
  | .destroySnapshot path => some ⟨"DELETE", Client.snapshotPath path, none, none⟩
  | .cloneSnapshot path target quota => some ⟨"POST", Client.snapshotPath path ++ "/clone",
      some (.object (("targetPath", .string target) :: countField "referencedQuotaSize" quota)),
      none⟩
  | _ => none

/-- The pieces of the path of that request. -/
def pieces : Call → List String
  | .updateFilesystem path _ | .destroyFilesystem path _ _ =>
    ["storage", "filesystems", segment path]
  | .promoteFilesystem path => ["storage", "filesystems", segment path, "promote"]
  | .setAccess path _ => ["storage", "filesystems", segment path, "acl"]
  | .deleteNfsShare path => ["nas", "nfs", segment path]
  | .getSmbShareName path | .deleteSmbShare path => ["nas", "smb", segment path]
  | .destroySnapshot path => ["storage", "snapshots", segment path]
  | .cloneSnapshot path _ _ => ["storage", "snapshots", segment path, "clone"]
  | _ => []

end Call

/-- What comes before the request of a call: the promotion of a clone, if it is asked for. -/
def Client.prelude (client : Client) : Call → Exchange Unit
  | .destroyFilesystem path _ true => client.promoteNewestClone path
  | _ => return ()

/-- The client carries a call out by a request: after what may have to come before, the request is
submitted, and the outcome is read off its response. -/
def Client.CarriesOut (client : Client) (call : Call) (request : Request) : Prop :=
  ∃ conclude : Response → Except Fault call.Answer, client.answer call = (do
    client.prelude call
    let response ← client.submit request
    Exchange.ofExcept (conclude response))

/-- The pieces of the path of a request. -/
def Request.pieces? (request : Request) : Option (List String) :=
  (readUri? request.path).map fun address =>
    (Text.splitAll '/' address.1.toList).map String.ofList

/-- The operation that a method and the pieces of a path stand for, with the segment of what it is
about. -/
def operation? (method : String) (pieces : List String) : Option (String × String) :=
  match method, pieces with
  | "PUT", ["storage", "filesystems", name] => some ("update_filesystem", name)
  | "DELETE", ["storage", "filesystems", name] => some ("destroy_filesystem", name)
  | "POST", ["storage", "filesystems", name, "promote"] => some ("promote_filesystem", name)
  | "POST", ["storage", "filesystems", name, "acl"] => some ("set_filesystem_acl", name)
  | "DELETE", ["nas", "nfs", name] => some ("delete_nfs_share", name)
  | "GET", ["nas", "smb", name] => some ("get_smb_share_name", name)
  | "DELETE", ["nas", "smb", name] => some ("delete_smb_share", name)
  | "DELETE", ["storage", "snapshots", name] => some ("destroy_snapshot", name)
  | "POST", ["storage", "snapshots", name, "clone"] => some ("clone_snapshot", name)
  | _, _ => none

/-- The operation that a request asks for, and what it is about. -/
def Request.target? (request : Request) : Option (String × String) := do
  let (operation, name) ← operation? request.method (← request.pieces?)
  return (operation, Text.percentDecode name.toList)

variable {parameters others : List (String × String)} {path key : String}

/-! ## Segments and pairs -/

lemma percentDecode_segment (text : String) : Text.percentDecode (segment text).toList = text :=
  Text.percentDecode_percentEncode text

/-- No character with a meaning in an address stands in a segment. -/
lemma not_mem_segment (text : String) :
    ∀ c ∈ ['/', '?', '#', '&', '=', '@', ':', ' '], c ∉ (segment text).toList := by
  intro c hc
  simp only [List.mem_cons, List.not_mem_nil, or_false] at hc
  rcases hc with rfl | rfl | rfl | rfl | rfl | rfl | rfl | rfl <;>
    exact Text.not_mem_percentEncode (by decide) (by decide) text

lemma toList_queryPair (pair : String × String) : (queryPair pair).toList =
    ['='].intercalate [(segment pair.1).toList, (segment pair.2).toList] := by
  simp [queryPair, segment]

lemma readPair?_queryPair (pair : String × String) :
    readPair? (queryPair pair).toList = some pair := by
  have hpieces : ∀ piece ∈ [(segment pair.1).toList, (segment pair.2).toList], '=' ∉ piece := by
    simp [not_mem_segment]
  simp only [readPair?, toList_queryPair, Text.splitAll_intercalate hpieces (List.cons_ne_nil _ _),
    percentDecode_segment]

lemma not_mem_queryPair {c : Char} (h : c ∈ ['?', '&']) (pair : String × String) :
    c ∉ (queryPair pair).toList := by
  simp only [List.mem_cons, List.not_mem_nil, or_false] at h
  rcases h with rfl | rfl <;> simp [toList_queryPair, not_mem_segment]

/-! ## Queries -/

lemma ascending_queryParameters (parameters : List (String × String)) :
    Ascending (queryParameters parameters) := by
  unfold queryParameters
  induction parameters.filter fun pair => !pair.2.isEmpty using List.reverseRecOn with
  | nil => exact .nil
  | append_singleton pairs last ih =>
    rw [List.foldl_append]
    exact ascending_insertSorted last.1 last.2 ih

lemma lookup_queryParameters (key : String) (parameters : List (String × String)) :
    (queryParameters parameters).lookup key = lastValue? key parameters := by
  have hfilter : parameters.filter (fun pair => pair.1 = key ∧ pair.2 ≠ "") =
      (parameters.filter fun pair => !pair.2.isEmpty).filter fun pair => pair.1 = key := by
    rw [List.filter_filter]
    congr 1
    funext pair
    rw [Bool.eq_iff_iff]
    simp
  unfold queryParameters lastValue?
  rw [hfilter]
  induction parameters.filter fun pair => !pair.2.isEmpty using List.reverseRecOn with
  | nil => rfl
  | append_singleton pairs last ih =>
    rw [List.foldl_append, List.foldl_cons, List.foldl_nil, Catalog.lookup_insertSorted, ih,
      List.filter_append]
    by_cases h : last.1 = key
    · simp [h]
    · simp [h, Ne.symm h]

/-- Each key stands in a query with its last value that is not empty. -/
lemma mem_queryParameters_iff {value : String} :
    (key, value) ∈ queryParameters parameters ↔ lastValue? key parameters = some value := by
  rw [← lookup_queryParameters, Catalog.lookup_eq_some_iff (ascending_queryParameters parameters)]

lemma lastValue?_eq_none_iff : lastValue? key parameters = none ↔
    ∀ pair ∈ parameters, pair.1 = key → pair.2 = "" := by
  simp [lastValue?]

lemma queryParameters_eq_nil_iff :
    queryParameters parameters = [] ↔ ∀ pair ∈ parameters, pair.2 = "" := by
  constructor
  · intro h pair hpair
    have hnone := lookup_queryParameters pair.1 parameters
    rw [h, List.lookup_nil] at hnone
    exact lastValue?_eq_none_iff.1 hnone.symm pair hpair rfl
  · intro h
    have hfilter : parameters.filter (fun pair => !pair.2.isEmpty) = [] := by
      simpa [List.filter_eq_nil_iff] using h
    rw [queryParameters, hfilter, List.foldl_nil]

lemma nodup_of_ascending {entries : List (String × α)} (h : Ascending entries) :
    entries.Nodup := by
  apply h.imp
  rintro entry _ hlt rfl
  exact String.lt_irrefl entry.1 hlt

/-- A query is determined by the last values of its keys. -/
lemma queryParameters_congr (h : ∀ key, lastValue? key parameters = lastValue? key others) :
    queryParameters parameters = queryParameters others := by
  have hfirst := ascending_queryParameters parameters
  have hsecond := ascending_queryParameters others
  refine List.Perm.eq_of_pairwise (fun a b _ _ hlt hgt => ?_) hfirst hsecond ?_
  · exact absurd (String.lt_trans hlt hgt) (String.lt_irrefl _)
  · rw [List.perm_ext_iff_of_nodup (nodup_of_ascending hfirst) (nodup_of_ascending hsecond)]
    intro pair
    rw [mem_queryParameters_iff, mem_queryParameters_iff, h]

lemma lastValue?_perm (perm : parameters.Perm others)
    (distinct : (parameters.map Prod.fst).Nodup) (key : String) :
    lastValue? key parameters = lastValue? key others := by
  have hperm := perm.filter fun pair => decide (pair.1 = key ∧ pair.2 ≠ "")
  have hkeys : ((parameters.filter fun pair => pair.1 = key ∧ pair.2 ≠ "").map Prod.fst).Nodup :=
    distinct.sublist (List.filter_sublist.map _)
  have hkey : ∀ pair ∈ parameters.filter fun pair => pair.1 = key ∧ pair.2 ≠ "",
      pair.1 = key := by
    intro pair hpair
    exact (of_decide_eq_true (List.mem_filter.1 hpair).2).1
  unfold lastValue?
  generalize parameters.filter (fun pair => decide (pair.1 = key ∧ pair.2 ≠ "")) = kept at *
  match kept with
  | [] => rw [List.nil_perm.1 hperm]
  | [pair] => rw [List.singleton_perm.1 hperm]
  | first :: second :: rest =>
    have hsame : first.1 = second.1 := by
      rw [hkey first (by simp), hkey second (by simp)]
    simp [hsame] at hkeys

lemma mapM_readPair? (pairs : List (String × String)) :
    (pairs.map fun pair => (queryPair pair).toList).mapM readPair? = some pairs := by
  induction pairs with
  | nil => rfl
  | cons pair pairs ih =>
    rw [List.map_cons, List.mapM_cons, readPair?_queryPair, ih]
    rfl

lemma readUri?_queryUri (h : '?' ∉ path.toList) (parameters : List (String × String)) :
    readUri? (queryUri path parameters) = some (path, queryParameters parameters) := by
  unfold queryUri
  cases hpairs : queryParameters parameters with
  | nil =>
    have hpieces : ∀ piece ∈ [path.toList], '?' ∉ piece := by simpa using h
    have hsplit := Text.splitAll_intercalate hpieces (List.cons_ne_nil _ _)
    rw [List.intercalate_singleton] at hsplit
    simp only [readUri?, hsplit, String.ofList_toList]
  | cons first rest =>
    have hquery : ∀ c ∈ ['?', '&'],
        ∀ piece ∈ (first :: rest).map fun pair => (queryPair pair).toList, c ∉ piece := by
      intro c hc piece hpiece
      obtain ⟨pair, -, rfl⟩ := List.mem_map.1 hpiece
      exact not_mem_queryPair hc pair
    have hpieces : ∀ piece ∈ [path.toList,
        ['&'].intercalate ((first :: rest).map fun pair => (queryPair pair).toList)],
        '?' ∉ piece := by
      simp only [List.forall_mem_cons]
      exact ⟨h, Text.not_mem_intercalate (by decide) (hquery '?' (by simp)), by simp⟩
    have huri : (path ++ "?" ++ String.intercalate "&" ((first :: rest).map queryPair)).toList =
        ['?'].intercalate [path.toList,
          ['&'].intercalate ((first :: rest).map fun pair => (queryPair pair).toList)] := by
      simp [String.toList_intercalate, Function.comp_def]
    simp only [readUri?, huri, Text.splitAll_intercalate hpieces (List.cons_ne_nil _ _),
      Text.splitAll_intercalate (hquery '&' (by simp)) (List.cons_ne_nil _ _), mapM_readPair?,
      Option.map_some, String.ofList_toList]

lemma queryUri_eq_iff : queryUri path parameters = path ↔ ∀ pair ∈ parameters, pair.2 = "" := by
  rw [← queryParameters_eq_nil_iff, queryUri]
  cases queryParameters parameters with
  | nil => simp
  | cons first rest =>
    refine iff_of_false (fun h => ?_) (List.cons_ne_nil _ _)
    have hlength := congrArg String.length h
    simp only [String.length_append] at hlength
    have : "?".length = 1 := rfl
    omega

/-! ## Calls -/

/-- The path of a request is cut into the pieces that it is put together from, whatever its
query. -/
lemma pieces?_of_path {request : Request} {pieces : List String} (hne : pieces ≠ [])
    (h : ∀ piece ∈ pieces, '/' ∉ piece.toList ∧ '?' ∉ piece.toList)
    (hpath : request.path = queryUri ("/".intercalate pieces) parameters) :
    request.pieces? = some pieces := by
  have hquery : '?' ∉ ("/".intercalate pieces).toList := by
    rw [String.toList_intercalate]
    refine Text.not_mem_intercalate (by decide) fun piece hpiece => ?_
    obtain ⟨text, htext, rfl⟩ := List.mem_map.1 hpiece
    exact (h text htext).2
  have hsplit : Text.splitAll '/' ("/".intercalate pieces).toList = pieces.map String.toList := by
    rw [String.toList_intercalate]
    refine Text.splitAll_intercalate (fun piece hpiece => ?_) (by simpa using hne)
    obtain ⟨text, htext, rfl⟩ := List.mem_map.1 hpiece
    exact (h text htext).1
  simp only [Request.pieces?, hpath, readUri?_queryUri hquery, Option.map_some, hsplit,
    List.map_map]
  simp [Function.comp_def]

lemma queryUri_nil (path : String) : queryUri path [] = path := rfl

variable {call : Call} {request : Request}

/-- The path of the request of a call is put together from the pieces of the call. -/
lemma path_of_request? (h : call.request? = some request) :
    ∃ parameters, request.path = queryUri ("/".intercalate call.pieces) parameters := by
  cases call <;> cases h
  case destroyFilesystem path snapshots _ =>
    exact ⟨[("force", "true"), ("snapshots", Client.flag snapshots)], rfl⟩
  all_goals
    refine ⟨[], ?_⟩
    simp only [queryUri_nil, Call.pieces, String.intercalate_cons_cons,
      String.intercalate_singleton, String.append_assoc]
    rfl

lemma plain_pieces (h : call.request? = some request) :
    call.pieces ≠ [] ∧ ∀ piece ∈ call.pieces, '/' ∉ piece.toList ∧ '?' ∉ piece.toList := by
  cases call <;> cases h <;> simp [Call.pieces, not_mem_segment]

/-- The method of the request and the pieces of its path make the operation. -/
lemma operation?_pieces (h : call.request? = some request) :
    ∃ path, call.parts = (call.parts.1, path) ∧
      operation? request.method call.pieces = some (call.parts.1, segment path) := by
  cases call <;> cases h <;> exact ⟨_, rfl, rfl⟩

lemma target?_of_request? (h : call.request? = some request) :
    request.target? = some call.parts := by
  obtain ⟨parameters, hpath⟩ := path_of_request? h
  obtain ⟨hne, hplain⟩ := plain_pieces h
  obtain ⟨path, hparts, hoperation⟩ := operation?_pieces h
  rw [Request.target?, pieces?_of_path hne hplain hpath, hparts]
  simp only [Option.bind_eq_bind, Option.bind_some, hoperation, percentDecode_segment]
  rfl

lemma carriesOut (client : Client) (h : call.request? = some request) :
    client.CarriesOut call request := by
  cases call <;> cases h
  case getSmbShareName path =>
    refine ⟨fun response => (response.decode Reader.shareName client.endpoint).map fun name =>
      if name.isEmpty then Text.replaceChar '/' '_' path else name, ?_⟩
    show Task.bind (Task.bind _ _) _ = Task.bind _ _
    rw [Task.bind_assoc]
    congr 1
    funext outcome
    cases outcome with
    | error fault => rfl
    | ok response =>
      show Task.bind (Task.done (response.decode Reader.shareName client.endpoint)) _ =
        Task.done ((response.decode Reader.shareName client.endpoint).map _)
      cases response.decode Reader.shareName client.endpoint <;> rfl
  case destroyFilesystem path snapshots promote =>
    refine ⟨fun _ => .ok (), ?_⟩
    cases promote <;> rfl
  all_goals exact ⟨fun _ => .ok (), rfl⟩

/-! ## The result -/

/-- Addresses can be read back, for all texts, paths and parameters.  A segment gives the text that
it was made of.  A path without a question mark has no query just if no parameter has a value; else
the query gives, in ascending order, each key with its last value that is not empty, and the order
in which different keys were given does not matter.  A request of a call on a filesystem or a
snapshot gives the operation and the path, so two calls with one method and one address agree in
both. -/
theorem addressing :
    (∀ text, Text.percentDecode (segment text).toList = text ∧
      ∀ c ∈ ['/', '?', '#', '&', '=', '@', ':', ' '], c ∉ (segment text).toList) ∧
    Function.Injective segment ∧
    (∀ path parameters, '?' ∉ path.toList →
      (queryUri path parameters = path ↔ ∀ pair ∈ parameters, pair.2 = "") ∧
      ∃ found, readUri? (queryUri path parameters) = some (path, found) ∧ Ascending found ∧
        ∀ key value, (key, value) ∈ found ↔ lastValue? key parameters = some value) ∧
    (∀ path parameters others, parameters.Perm others → (parameters.map Prod.fst).Nodup →
      queryUri path parameters = queryUri path others) ∧
    (∀ call request, call.request? = some request → request.target? = some call.parts ∧
      ∀ client : Client, client.CarriesOut call request) ∧
    ∀ call other : Call, ∀ request request' : Request, call.request? = some request →
      other.request? = some request' → request.method = request'.method →
      request.path = request'.path → call.parts = other.parts := by
  refine ⟨fun text => ⟨percentDecode_segment text, not_mem_segment text⟩,
    Text.percentEncode_injective, fun path parameters hpath => ⟨queryUri_eq_iff, ?_⟩,
    fun path parameters others perm distinct => ?_,
    fun call request h => ⟨target?_of_request? h, fun client => carriesOut client h⟩, ?_⟩
  · exact ⟨queryParameters parameters, readUri?_queryUri hpath parameters,
      ascending_queryParameters parameters, fun _ _ => mem_queryParameters_iff⟩
  · rw [queryUri, queryUri, queryParameters_congr (lastValue?_perm perm distinct)]
  · intro call other request request' h h' hmethod hpath
    have htarget : request.target? = request'.target? := by
      simp only [Request.target?, Request.pieces?, hmethod, hpath]
    rw [target?_of_request? h, target?_of_request? h'] at htarget
    exact Option.some.inj htarget

/-- The addresses of two filesystems differ though the name of one is the segment of the other, and
of two values of a key the later one stands in a query. -/
theorem addressing_lookAlikes :
    (Client.deletion "pool/v" true).path ≠ (Client.deletion "pool%2Fv" true).path ∧
    ∃ found, readUri? (queryUri "storage/pools" [("b", "2"), ("a", "x&y"), ("b", "3"), ("b", "")]) =
      some ("storage/pools", found) ∧ ("a", "x&y") ∈ found ∧ ("b", "3") ∈ found ∧
        ("b", "2") ∉ found := by
  obtain ⟨-, -, queries, -, -, calls⟩ := addressing
  refine ⟨fun same => ?_, ?_⟩
  · have parts := calls (.destroyFilesystem "pool/v" true false)
      (.destroyFilesystem "pool%2Fv" true false) _ _ rfl rfl rfl same
    exact absurd parts (by decide)
  · obtain ⟨-, found, hread, -, hfound⟩ := queries "storage/pools"
      [("b", "2"), ("a", "x&y"), ("b", "3"), ("b", "")] (by decide)
    exact ⟨found, hread, (hfound _ _).2 (by decide), (hfound _ _).2 (by decide),
      fun h => absurd ((hfound _ _).1 h) (by decide)⟩

example : (Client.deletion "pool/v" true).path =
    "storage/filesystems/pool%2Fv?force=true&snapshots=true" := rfl

end StorageFleet
