import StorageFleet.Proofs.Volume.Store

/-!
# Walks from page to page

A `Walk` asks for one page after the other, each with the token of the page before.  In between, any
operation may run that takes no default dataset away.  So each page is cut from another listing, but
all listings are in one order (`listed_ascending`), and the token names a place in that order.  What
a walk keeps is `Walk.Orderly`: the identifiers handed out so far ascend up to the token, and none
that was always listed has been passed over.  The step lemmas are `Orderly.change` and
`Orderly.call`; `page_walk` is what follows for whole walks.
-/

namespace StorageFleet

/-! ## Walks -/

/-- A call that has returned a page, and the appliances at its time. -/
structure Visit where
  rack : Rack
  page : Page Volume

/-- How far a walk is: the appliances now, and the calls so far. -/
structure Walk where
  rack : Rack
  visits : List Visit

namespace Walk

/-- The identifiers that were handed out, in their order. -/
def ids (walk : Walk) : List String :=
  walk.visits.flatMap fun visit => visit.page.entries.map Volume.id

/-- The token of the last page; there is none at first. -/
def token (walk : Walk) : Option String :=
  walk.visits.getLast?.bind fun visit => visit.page.nextToken

/-- The last page had no token. -/
def Over (walk : Walk) : Prop :=
  walk.visits ≠ [] ∧ walk.token = none

lemma visits_ne_nil {walk : Walk} {token : String} (h : walk.token = some token) :
    walk.visits ≠ [] := by
  intro hnone
  simp [Walk.token, hnone] at h

@[simp] lemma ids_snoc (rack : Rack) (visits : List Visit) (visit : Visit) :
    (Walk.mk rack (visits ++ [visit])).ids =
      (Walk.mk rack visits).ids ++ visit.page.entries.map Volume.id := by
  simp [ids]

@[simp] lemma token_snoc (rack : Rack) (visits : List Visit) (visit : Visit) :
    (Walk.mk rack (visits ++ [visit])).token = visit.page.nextToken := by
  simp [token]

end Walk

/-- Every default dataset that was held before is held afterwards. -/
def Operation.Spares (operation : Operation) (fleet : Fleet) (rack : Rack) : Prop :=
  ∀ place ∈ fleet.datasets, (rack.holder? place.2 place.1).isSome = true →
    ((operation.exec fleet rack).2.holder? place.2 place.1).isSome = true

/-- What deletes no default dataset takes none away. -/
theorem Fleet.Proper.spares {fleet : Fleet} {rack : Rack} (proper : fleet.Proper)
    (staffed : fleet.Staffed rack) {operation : Operation} (onStore : operation.OnStore)
    (hother : ∀ id, operation = .deleteVolume id → ∀ place ∈ fleet.datasets,
      Identifier.decodeVolume id ≠ .ok (.ofVolume place.1.name place.2)) :
    operation.Spares fleet rack := by
  rintro ⟨backend, dataset⟩ hplace hheld
  obtain ⟨hmem, -⟩ := mem_datasets_iff.1 hplace
  obtain ⟨hne, hstored⟩ := (proper.isSome_holder?_iff staffed hmem).1 hheld
  refine (proper.isSome_holder?_iff (staffed.exec operation) hmem).2 ⟨hne, ?_⟩
  rw [proper.stored_exec staffed onStore]
  exact Store.isSome_after hstored (fun id hid => hother id hid _ hplace) _

/-- The walks that begin with these appliances. -/
inductive Fleet.Walks (fleet : Fleet) (start : Rack) : Walk → Prop
  | start : fleet.Walks start ⟨start, []⟩
  /-- Some operation between two calls. -/
  | change {rack : Rack} {visits : List Visit} (walks : fleet.Walks start ⟨rack, visits⟩)
      (operation : Operation) (spares : operation.Spares fleet rack) :
      fleet.Walks start ⟨(operation.exec fleet rack).2, visits⟩
  /-- A call with the token of the page before. -/
  | call {walk : Walk} {later : Rack} {page : Page Volume} (walks : fleet.Walks start walk)
      (going : ¬walk.Over) (limit : Nat)
      (returned : (Operation.listVolumes limit walk.token).exec fleet walk.rack =
        (.ok page, later)) :
      fleet.Walks start ⟨later, walk.visits ++ [⟨walk.rack, page⟩]⟩

/-- This is the identifier of a volume directly below the default dataset of its backend. -/
def Fleet.HasChild (fleet : Fleet) (rack : Rack) (id : String) : Prop :=
  ∃ backend ∈ fleet.backends, ∃ dataset leaf fs, backend.config.defaultDataset = some dataset ∧
    '/' ∉ leaf.toList ∧ backend.Has rack (dataset ++ "/" ++ leaf) fs ∧
    id = (Identifier.ofVolume backend.name (dataset ++ "/" ++ leaf)).encode

section

variable {fleet : Fleet} {rack : Rack} {id token : String}

lemma Fleet.mem_ids_listed_iff (staffed : fleet.Staffed rack) (held : fleet.Held rack) :
    id ∈ (fleet.listed rack).map Volume.id ↔ fleet.HasChild rack id := by
  rw [List.mem_map]
  constructor
  · rintro ⟨volume, hvolume, rfl⟩
    obtain ⟨backend, hmem, dataset, leaf, fs, hdataset, hleaf, hhas, rfl⟩ :=
      (mem_listed_iff_of_held staffed held).1 hvolume
    exact ⟨backend, hmem, dataset, leaf, fs, hdataset, hleaf, hhas, rfl⟩
  · rintro ⟨backend, hmem, dataset, leaf, fs, hdataset, hleaf, hhas, rfl⟩
    exact ⟨_, (mem_listed_iff_of_held staffed held).2
      ⟨backend, hmem, dataset, leaf, fs, hdataset, hleaf, hhas, rfl⟩, rfl⟩

/-- No identifier of a listed volume is empty. -/
lemma Fleet.ne_empty_of_listed (h : id ∈ (fleet.listed rack).map Volume.id) : id ≠ "" := by
  rintro rfl
  obtain ⟨volume, hvolume, hempty⟩ := List.mem_map.1 h
  obtain ⟨backend, -, _, -, _, -, fs, -, rfl⟩ := mem_listed_iff.1 hvolume
  have htext : (Identifier.ofVolume backend.name fs.path).encode.toList =
      backend.name.toList ++ Identifier.backendMark :: fs.path.toList :=
    Identifier.toList_encode rfl
  rw [show (Identifier.ofVolume backend.name fs.path).encode = "" from hempty] at htext
  simp at htext

/-! ## What a walk keeps -/

namespace Walk

/-- A walk in order. -/
structure Orderly (fleet : Fleet) (walk : Walk) : Prop where
  staffed : fleet.Staffed walk.rack
  held : walk.visits ≠ [] → fleet.Held walk.rack
  token_ne : walk.token ≠ some ""
  ascending : walk.ids.Pairwise fleet.Precedes
  /-- The token is behind all that was handed out. -/
  reached : ∀ token, walk.token = some token →
    ∀ id ∈ walk.ids, id = token ∨ fleet.Precedes id token
  /-- What was listed at each call, and is not behind the token, was handed out. -/
  caught : walk.visits ≠ [] → ∀ id, (∀ visit ∈ walk.visits, fleet.HasChild visit.rack id) →
    (∀ token, walk.token = some token → ¬fleet.Precedes token id) → id ∈ walk.ids

namespace Orderly

variable {walk : Walk} {later : Rack} {page : Page Volume}

lemma start (staffed : fleet.Staffed rack) : (Walk.mk rack []).Orderly fleet where
  staffed := staffed
  held h := absurd rfl h
  token_ne := nofun
  ascending := .nil
  reached _ h := nomatch h
  caught h := absurd rfl h

lemma change {visits : List Visit} (orderly : (Walk.mk rack visits).Orderly fleet)
    {operation : Operation} (spares : operation.Spares fleet rack) :
    (Walk.mk (operation.exec fleet rack).2 visits).Orderly fleet where
  staffed := orderly.staffed.exec operation
  held h place hplace := spares place hplace (orderly.held h place hplace)
  token_ne := orderly.token_ne
  ascending := orderly.ascending
  reached := orderly.reached
  caught := orderly.caught

/-- What precedes the token was handed out, if it was always listed. -/
lemma passed (orderly : walk.Orderly fleet) (htoken : walk.token = some token)
    (hid : ¬fleet.Precedes token id)
    (hshown : ∀ visit ∈ walk.visits, fleet.HasChild visit.rack id) : id ∈ walk.ids := by
  refine orderly.caught (visits_ne_nil htoken) id hshown fun found hfound => ?_
  obtain rfl : token = found := Option.some.inj (htoken.symm.trans hfound)
  exact hid

/-- What comes behind the token comes behind all that was handed out. -/
lemma ahead (orderly : walk.Orderly fleet) (htoken : walk.token = some token) {next : String}
    (hnext : fleet.Precedes token next) (hid : id ∈ walk.ids) : fleet.Precedes id next := by
  rcases orderly.reached token htoken id hid with rfl | hearlier
  · exact hnext
  · exact hearlier.trans hnext

/-- How the next page of a walk divides what is listed. -/
structure Division (fleet : Fleet) (walk : Walk) (page : Page Volume)
    (before after : List String) : Prop where
  listed : (fleet.listed walk.rack).map Volume.id =
    before ++ page.entries.map Volume.id ++ after
  passed : ∀ id ∈ before, (∀ visit ∈ walk.visits, fleet.HasChild visit.rack id) → id ∈ walk.ids
  ahead : ∀ id ∈ walk.ids, ∀ next ∈ page.entries.map Volume.id, fleet.Precedes id next
  ends : page.nextToken = none ∧ after = [] ∨
    ∃ early last, page.entries.map Volume.id = early ++ [last] ∧ page.nextToken = some last

/-- The next page is cut off behind all that was handed out. -/
lemma exists_division (distinct : fleet.Distinct) (orderly : walk.Orderly fleet)
    (going : ¬walk.Over) {limit : Nat}
    (hcut : Page.cut Volume.id limit walk.token (fleet.listed walk.rack) = .ok page) :
    ∃ before after, Division fleet walk page before after := by
  obtain ⟨front, rear, hlisted, hfront, hends⟩ := Page.cut_eq_ok orderly.token_ne hcut
  have hids : (fleet.listed walk.rack).map Volume.id =
      front.map Volume.id ++ page.entries.map Volume.id ++ rear.map Volume.id := by
    rw [hlisted, List.map_append, List.map_append]
  have hends' : page.nextToken = none ∧ rear.map Volume.id = [] ∨
      ∃ early last, page.entries.map Volume.id = early ++ [last] ∧ page.nextToken = some last := by
    rcases hends with ⟨hnone, rfl⟩ | ⟨last, hlast, hnext⟩
    · exact .inl ⟨hnone, rfl⟩
    · obtain ⟨early, hearly⟩ := List.getLast?_eq_some_iff.1 hlast
      exact .inr ⟨early.map Volume.id, last.id, by simp [hearly], hnext⟩
  cases htoken : walk.token with
  | none =>
    have hvisits : walk.visits = [] := by_contra fun hne => going ⟨hne, htoken⟩
    obtain rfl : front = [] := by simpa [htoken] using hfront
    exact ⟨_, _, hids, by simp, by simp [ids, hvisits], hends'⟩
  | some token =>
    rw [htoken] at hfront
    obtain ⟨named, hnamed, rfl⟩ := Option.map_eq_some_iff.1 hfront
    obtain ⟨init, rfl⟩ := List.getLast?_eq_some_iff.1 hnamed
    have hsorted := Fleet.listed_ascending distinct orderly.staffed
    rw [hids, List.map_append, List.append_assoc, List.append_assoc, List.map_singleton,
      List.singleton_append, List.pairwise_append] at hsorted
    obtain ⟨-, hrest, hinit⟩ := hsorted
    refine ⟨_, _, hids, fun id hid hshown => orderly.passed htoken (fun hbehind => ?_) hshown,
      fun id hid next hnext => orderly.ahead htoken ?_ hid, hends'⟩
    · rw [List.map_append, List.mem_append] at hid
      rcases hid with hid | hid
      · exact Fleet.Precedes.irrefl fleet id ((hinit id hid named.id (by simp)).trans hbehind)
      · obtain rfl : id = named.id := by simpa using hid
        exact Fleet.Precedes.irrefl fleet named.id hbehind
    · exact List.rel_of_pairwise_cons hrest (List.mem_append_left _ hnext)

/-- A call keeps a walk in order. -/
lemma call (distinct : fleet.Distinct) (orderly : walk.Orderly fleet) (going : ¬walk.Over)
    {limit : Nat} (returned : (Operation.listVolumes limit walk.token).exec fleet walk.rack =
      (.ok page, later)) :
    (Walk.mk later (walk.visits ++ [⟨walk.rack, page⟩])).Orderly fleet := by
  obtain ⟨held, hcut, rfl⟩ := Fleet.cut_of_listVolumes returned
  obtain ⟨before, after, division⟩ := exists_division distinct orderly going hcut
  have hsorted := Fleet.listed_ascending distinct orderly.staffed
  rw [division.listed, List.pairwise_append, List.pairwise_append] at hsorted
  obtain ⟨⟨-, hpage, -⟩, -, hbehind⟩ := hsorted
  constructor
  case staffed => exact orderly.staffed
  case held => exact fun _ => held
  case token_ne =>
    rw [token_snoc]
    rcases division.ends with ⟨hnone, -⟩ | ⟨early, last, hlast, hnext⟩
    · simp [hnone]
    · have hlisted : last ∈ (fleet.listed walk.rack).map Volume.id := by
        simp [division.listed, hlast]
      simpa [hnext] using Fleet.ne_empty_of_listed hlisted
  case ascending =>
    rw [ids_snoc, List.pairwise_append]
    exact ⟨orderly.ascending, hpage, division.ahead⟩
  case reached =>
    rw [token_snoc, ids_snoc]
    intro token htoken id hid
    rcases division.ends with ⟨hnone, -⟩ | ⟨early, last, hlast, hnext⟩
    · cases hnone.symm.trans htoken
    obtain rfl : last = token := Option.some.inj (hnext.symm.trans htoken)
    rcases List.mem_append.1 hid with hid | hid
    · exact .inr (division.ahead id hid last (by simp [hlast]))
    · rw [hlast] at hid hpage
      rcases List.mem_append.1 hid with hearly | hid
      · exact .inr ((List.pairwise_append.1 hpage).2.2 id hearly last (by simp))
      · exact .inl (List.mem_singleton.1 hid)
  case caught =>
    rw [token_snoc, ids_snoc]
    rintro - id hshown hahead
    have hlisted : id ∈ (fleet.listed walk.rack).map Volume.id :=
      (Fleet.mem_ids_listed_iff orderly.staffed held).2 (hshown ⟨walk.rack, page⟩ (by simp))
    rw [division.listed, List.mem_append, List.mem_append] at hlisted
    rcases hlisted with (hbefore | hnow) | hafter
    · refine List.mem_append_left _ (division.passed id hbefore fun visit hvisit => ?_)
      exact hshown visit (List.mem_append_left _ hvisit)
    · exact List.mem_append_right _ hnow
    · rcases division.ends with ⟨-, rfl⟩ | ⟨early, last, hlast, hnext⟩
      · cases hafter
      · exact absurd (hbehind last (by simp [hlast]) id hafter) (hahead last hnext)

/-- Without the volume that the token names, there is no next page. -/
lemma call_of_absent (orderly : walk.Orderly fleet) (htoken : walk.token = some token)
    (habsent : ¬fleet.HasChild walk.rack token) (limit : Nat) :
    (Operation.listVolumes limit walk.token).exec fleet walk.rack =
      (.error (.invalidStartingToken token), walk.rack) := by
  have held : fleet.Held walk.rack := orderly.held (visits_ne_nil htoken)
  have hne : token ≠ "" := by
    rintro rfl
    exact orderly.token_ne htoken
  rw [Fleet.exec_listVolumes held, htoken,
    Page.cut_of_not_mem hne ((Fleet.mem_ids_listed_iff orderly.staffed held).not.2 habsent)]

end Orderly

/-- Every walk is in order. -/
theorem orderly (distinct : fleet.Distinct) (staffed : fleet.Staffed rack) {walk : Walk}
    (walks : fleet.Walks rack walk) : walk.Orderly fleet := by
  induction walks with
  | start => exact .start staffed
  | change _ _ spares ih => exact ih.change spares
  | call _ going _ returned ih => exact ih.call distinct going returned

end Walk

end

/-! ## The result -/

/-- A walk hands out nothing twice, and once it is over it has handed out whatever was listed at
each of its calls.  Where the volume that the token names is gone, the next call is aborted. -/
theorem page_walk (fleet : Fleet) (rack : Rack) (distinct : fleet.Distinct)
    (staffed : fleet.Staffed rack) (walk : Walk) (walks : fleet.Walks rack walk) :
    (walk.Over → ∀ id, (∀ visit ∈ walk.visits, fleet.HasChild visit.rack id) →
      walk.ids.count id = 1) ∧
    walk.ids.Nodup ∧
    ∀ token, walk.token = some token → ¬fleet.HasChild walk.rack token → ∀ limit,
      (Operation.listVolumes limit walk.token).exec fleet walk.rack =
        (.error (.invalidStartingToken token), walk.rack) ∧
      (Fault.invalidStartingToken token).status = .aborted := by
  have orderly := Walk.orderly distinct staffed walks
  have hnodup : walk.ids.Nodup := orderly.ascending.imp Fleet.Precedes.ne
  refine ⟨fun hended id hshown => ?_, hnodup, fun token htoken habsent limit => ?_⟩
  · refine List.count_eq_one_of_mem hnodup ?_
    refine orderly.caught hended.1 id hshown fun token htoken => ?_
    cases hended.2.symm.trans htoken
  · exact ⟨orderly.call_of_absent htoken habsent limit, rfl⟩

namespace Pools

/-- What happens between two pages. -/
def resizing : Operation := .expandVolume "other:pool/v" 7

def resized : Rack := (resizing.exec fleet rack).2

/-- A walk after its first page. -/
def begun : Walk where
  rack := rack
  visits := [⟨rack, ⟨[.of (backend "one" "pool" 0) "pool/v" 5 {}], some "one:pool/v"⟩⟩]

/-- The same walk when it is over. -/
def ended : Walk where
  rack := resized
  visits := begun.visits ++ [⟨resized, ⟨[.of (backend "other" "pool" 1) "pool/v" 7 {}], none⟩⟩]

/-- The same walk, if what its token names is deleted. -/
def stranded : Walk where
  rack := ((Operation.deleteVolume "one:pool/v").exec fleet rack).2
  visits := begun.visits

lemma held_rack : fleet.Held rack := by
  unfold Fleet.Held
  decide

lemma walks_begun : fleet.Walks rack begun := by
  refine Fleet.Walks.call .start (fun hended => hended.1 rfl) 1 ?_
  rw [Fleet.exec_listVolumes held_rack]
  rfl

lemma spares_resizing : resizing.Spares fleet rack := by
  refine proper.spares staffed ?_ fun id hid => nomatch hid
  rintro _ ⟨⟩
  rfl

lemma walks_ended : fleet.Walks rack ended := by
  have going : ¬(Walk.mk resized begun.visits).Over := by
    rintro ⟨-, hnone⟩
    cases hnone
  refine Fleet.Walks.call (walks_begun.change resizing spares_resizing) going 1 ?_
  have hheld : fleet.Held resized := fun place hplace =>
    spares_resizing place hplace (held_rack place hplace)
  exact Fleet.exec_listVolumes hheld 1 (some "one:pool/v")

lemma walks_stranded : fleet.Walks rack stranded := by
  refine walks_begun.change (.deleteVolume "one:pool/v") (proper.spares staffed ?_ ?_)
  · rintro _ ⟨⟩
    rfl
  · rintro _ ⟨⟩
    decide

lemma hasChild_ended : ∀ visit ∈ ended.visits, fleet.HasChild visit.rack "other:pool/v" := by
  intro visit hvisit
  refine ⟨backend "other" "pool" 1, by simp [fleet], "pool", "v", ?_⟩
  rcases List.mem_cons.1 hvisit with rfl | hvisit
  · exact ⟨_, rfl, by decide, ⟨appliance 1, by simp [backend], _, rfl, rfl⟩, rfl⟩
  · obtain rfl := List.mem_singleton.1 hvisit
    exact ⟨_, rfl, by decide, ⟨appliance 1, by simp [backend], _, rfl, rfl⟩, rfl⟩

lemma not_hasChild_stranded : ¬fleet.HasChild stranded.rack "one:pool/v" := by
  have orderly := Walk.orderly proper.distinct staffed walks_stranded
  rw [← Fleet.mem_ids_listed_iff orderly.staffed (orderly.held (List.cons_ne_nil _ _))]
  decide

end Pools

/-- Between two pages, either a volume of the second pool is resized or the one that was handed out
first is deleted. -/
theorem page_walk_twoPools :
    Pools.fleet.Distinct ∧ Pools.fleet.Staffed Pools.rack ∧
    (Pools.fleet.Walks Pools.rack Pools.ended ∧ Pools.ended.Over ∧
      Pools.ended.ids.count "other:pool/v" = 1) ∧
    Pools.fleet.Walks Pools.rack Pools.stranded ∧ Pools.stranded.token = some "one:pool/v" ∧
      (Operation.listVolumes 1 (some "one:pool/v")).exec Pools.fleet Pools.stranded.rack =
        (.error (.invalidStartingToken "one:pool/v"), Pools.stranded.rack) := by
  have distinct := Pools.proper.distinct
  have hover : Pools.ended.Over := ⟨List.cons_ne_nil _ _, rfl⟩
  obtain ⟨hreturned, -, -⟩ :=
    page_walk Pools.fleet Pools.rack distinct Pools.staffed Pools.ended Pools.walks_ended
  obtain ⟨-, -, haborted⟩ :=
    page_walk Pools.fleet Pools.rack distinct Pools.staffed Pools.stranded Pools.walks_stranded
  exact ⟨distinct, Pools.staffed,
    ⟨Pools.walks_ended, hover, hreturned hover "other:pool/v" Pools.hasChild_ended⟩,
    Pools.walks_stranded, rfl, (haborted "one:pool/v" rfl Pools.not_hasChild_stranded 1).1⟩

end StorageFleet
