import Mathlib.Data.List.Induction
import StorageFleet.Proofs.Client.Dealing
import StorageFleet.Proofs.Client.Destruction
import StorageFleet.Proofs.Json.Reading

/-!
# Promotion before deletion

What a client does, request by request, to destroy a filesystem that may have clones.  Which clone
it promotes is said by `Client.Dependent`, without a word about how it is found: the first clone of
the snapshot of the latest transaction among those that have clones, and of several such snapshots
the last one in the list.  `Client.Cleared` says that the way to the deletion is free: the snapshots
are listed and read, and if a clone is due it is promoted, with the job that this may start.

`promotion_precedes_deletion` is the result.  The deletion begins when the way is free, and a
`DELETE` is sent just then; whatever fails before is the end, with its fault as it is.  The list of
snapshots may give the numbers of transactions as JSON numbers or as text.
-/

namespace StorageFleet
open StorageFleet.Task (Event Circumstance Moment Playback)

namespace Client

/-- `newest` is the snapshot of the latest transaction among those that have clones, and of several
such snapshots the last one in the list. -/
structure Newest (before : List Snapshot) (newest : Snapshot) (after : List Snapshot) : Prop where
  cloned : newest.clones ≠ []
  atMost : ∀ snapshot ∈ before, snapshot.clones ≠ [] → snapshot.transaction ≤ newest.transaction
  less : ∀ snapshot ∈ after, snapshot.clones ≠ [] → snapshot.transaction < newest.transaction

/-- The clone that has to be promoted before a filesystem with these snapshots can go, if there is
one. -/
inductive Dependent : List Snapshot → Option String → Prop where
  | nothing {found} (h : ∀ snapshot ∈ found, snapshot.clones = []) : Dependent found none
  | clone {before newest after clone others} (h : Newest before newest after)
      (first : newest.clones = clone :: others) :
      Dependent (before ++ newest :: after) (some clone)

variable (client : Client) (world : Nat → Circumstance) (path : String) (snapshots : Bool)

/-- The snapshots of the filesystem are asked for and read. -/
def listing (start : Moment) : Playback (Except Fault (List Snapshot)) :=
  (client.dealing world (snapshotListing path) start).map fun outcome =>
    outcome.bind client.snapshotsIn

/-- The way to the deletion is free at `later`, after `events`: all that comes before it has
succeeded. -/
inductive Cleared (now : Moment) : List (Nat × Event) → Moment → Prop where
  | unhindered {listed later found}
      (listing : client.listing world path now = ⟨listed, some ⟨later, .ok found⟩⟩)
      (dependent : Dependent found none) : Cleared now listed later
  | promoted {listed later found clone said latest}
      (listing : client.listing world path now = ⟨listed, some ⟨later, .ok found⟩⟩)
      (dependent : Dependent found (some clone))
      (promoting : client.ordering world (promotion clone) later = ⟨said, some ⟨latest, .ok ()⟩⟩) :
      Cleared now (listed ++ said) latest

/-- What becomes of a filesystem that is to be destroyed from `now` on.  Where a step does not come
to an end there is no ending. -/
structure Destroys (now : Moment) (run : Playback (Except Fault Unit)) : Prop where
  cleared : ∀ events later, client.Cleared world path now events later →
    run = (client.ordering world (deletion path snapshots) later).after events
  unlisted : ∀ listed later fault,
    client.listing world path now = ⟨listed, some ⟨later, .error fault⟩⟩ →
    run = ⟨listed, some ⟨later, .error fault⟩⟩
  notListed : ∀ listed, client.listing world path now = ⟨listed, none⟩ → run = ⟨listed, none⟩
  unpromoted : ∀ listed later found clone said latest fault,
    client.listing world path now = ⟨listed, some ⟨later, .ok found⟩⟩ →
    Dependent found (some clone) →
    client.ordering world (promotion clone) later = ⟨said, some ⟨latest, .error fault⟩⟩ →
    run = ⟨listed ++ said, some ⟨latest, .error fault⟩⟩
  notPromoted : ∀ listed later found clone said,
    client.listing world path now = ⟨listed, some ⟨later, .ok found⟩⟩ →
    Dependent found (some clone) →
    client.ordering world (promotion clone) later = ⟨said, none⟩ → run = ⟨listed ++ said, none⟩
  deletes : (∃ time sent, (time, .sent sent) ∈ run.events ∧ sent.method = "DELETE") ↔
    ∃ events later, client.Cleared world path now events later

variable {client world path snapshots} {now : Moment} {found : List Snapshot}
  {clone? : Option String}

/-! ## Which clone is due -/

/-- The newest of some snapshots is one of them; none before it is newer, and all behind it are
older. -/
lemma exists_foldl_newer (first : Snapshot) (rest : List Snapshot) :
    ∃ before after, first :: rest = before ++ rest.foldl newer first :: after ∧
      (∀ snapshot ∈ before, snapshot.transaction ≤ (rest.foldl newer first).transaction) ∧
      ∀ snapshot ∈ after, snapshot.transaction < (rest.foldl newer first).transaction := by
  -- On the list from its end: the last snapshot is compared with the newest of those before it.
  induction rest using List.reverseRecOn with
  | nil => exact ⟨[], [], rfl, by simp, by simp⟩
  | append_singleton rest last ih =>
    obtain ⟨before, after, hsplit, hbefore, hafter⟩ := ih
    rw [List.foldl_append, List.foldl_cons, List.foldl_nil]
    generalize rest.foldl newer first = newest at *
    rw [← List.cons_append, hsplit, newer]
    by_cases hle : newest.transaction ≤ last.transaction
    · rw [if_pos hle]
      refine ⟨before ++ newest :: after, [], rfl, ?_, by simp⟩
      intro snapshot hmem
      rcases List.mem_append.1 hmem with hmem | hmem
      · exact Nat.le_trans (hbefore snapshot hmem) hle
      · rcases List.mem_cons.1 hmem with rfl | hmem
        · exact hle
        · exact Nat.le_trans (Nat.le_of_lt (hafter snapshot hmem)) hle
    · rw [if_neg hle]
      refine ⟨before, after ++ [last], by simp, hbefore, ?_⟩
      intro snapshot hmem
      rcases List.mem_append.1 hmem with hmem | hmem
      · exact hafter snapshot hmem
      · obtain rfl := List.mem_singleton.1 hmem
        exact Nat.lt_of_not_le hle

/-- The clone that a client promotes is the one that is due. -/
lemma dependent_dependent? (found : List Snapshot) : Dependent found (dependent? found) := by
  unfold dependent? newestCloned
  cases hcloned : found.filter fun snapshot => !snapshot.clones.isEmpty with
  | nil =>
    refine .nothing fun snapshot hmem => ?_
    simpa using List.filter_eq_nil_iff.1 hcloned snapshot hmem
  | cons first rest =>
    obtain ⟨before', after', hsplit, hbefore, hafter⟩ := exists_foldl_newer first rest
    simp only
    generalize rest.foldl newer first = newest at *
    rw [hsplit] at hcloned
    obtain ⟨before, later, rfl, rfl, hlater⟩ := List.filter_eq_append_iff.1 hcloned
    obtain ⟨between, after, rfl, hbetween, hhas, rfl⟩ := List.filter_eq_cons_iff.1 hlater
    have hbetween : ∀ snapshot ∈ between, snapshot.clones = [] := by simpa using hbetween
    have hnewest : Newest (before ++ between) newest after := by
      refine ⟨by simpa using hhas, fun snapshot hmem hcloned => ?_, fun snapshot hmem hcloned => ?_⟩
      · rcases List.mem_append.1 hmem with hmem | hmem
        · exact hbefore snapshot (List.mem_filter.2 ⟨hmem, by simpa using hcloned⟩)
        · exact absurd (hbetween snapshot hmem) hcloned
      · exact hafter snapshot (List.mem_filter.2 ⟨hmem, by simpa using hcloned⟩)
    obtain ⟨clone, others, hclones⟩ := List.exists_cons_of_ne_nil hnewest.cloned
    simp only [Option.bind_some, hclones, List.head?_cons]
    rw [← List.append_assoc]
    exact .clone hnewest hclones

/-- Of two snapshots that are the newest of one list neither comes before the other. -/
lemma Newest.eq_of_append {before rest after after' : List Snapshot} {newest newest' : Snapshot}
    (h : Newest before newest after) (h' : Newest (before ++ rest) newest' after')
    (split : newest :: after = rest ++ newest' :: after') : newest = newest' := by
  cases rest with
  | nil => exact (List.cons.inj split).1
  | cons first rest =>
    obtain ⟨rfl, rfl⟩ := List.cons.inj split
    have hless := h.less newest' (by simp) h'.cloned
    have hatMost := h'.atMost newest (by simp) h.cloned
    exact absurd hless (Nat.not_lt.2 hatMost)

lemma Newest.unique {before after before' after' : List Snapshot} {newest newest' : Snapshot}
    (h : Newest before newest after) (h' : Newest before' newest' after')
    (split : before ++ newest :: after = before' ++ newest' :: after') : newest = newest' := by
  rcases List.append_eq_append_iff.1 split with ⟨rest, rfl, hsplit⟩ | ⟨rest, rfl, hsplit⟩
  · exact h.eq_of_append h' hsplit
  · exact (h'.eq_of_append h hsplit).symm

/-- Only one answer is right. -/
lemma Dependent.unique {other : Option String} (h : Dependent found clone?)
    (h' : Dependent found other) : clone? = other := by
  generalize hfound : found = found' at h'
  cases h with
  | nothing hnone =>
    cases h' with
    | nothing => rfl
    | clone newest first => exact absurd (hnone _ (by simp [hfound])) newest.cloned
  | clone newest first =>
    cases h' with
    | nothing hnone => exact absurd (hnone _ (by simp [← hfound])) newest.cloned
    | clone newest' first' =>
      rw [newest.unique newest' hfound, first'] at first
      rw [(List.cons.inj first).1]

/-! ## The steps in sequence -/

variable {listed said events : List (Nat × Event)} {later latest : Moment} {fault : Fault}
  {clone : String}

lemma play_delete : (client.delete (deletion path snapshots).path).run.play world none now =
    client.ordering world (deletion path snapshots) now :=
  play_order _ _ _

lemma play_promoteFilesystem : (client.promoteFilesystem clone).run.play world none now =
    client.ordering world (promotion clone) now :=
  play_order _ _ _

/-- The steps before the deletion. -/
lemma play_promoteNewestClone : (client.promoteNewestClone path).run.play world none now =
    (client.listing world path now).andThen (Exchange.proceed world fun found =>
      match dependent? found with
      | some clone => client.promoteFilesystem clone
      | none => return ()) := by
  refine (Exchange.play_bind world _ now (tidy_fetch _ _)).trans ?_
  rw [play_fetch]
  rfl

lemma play_destroyFilesystem :
    (client.destroyFilesystem path snapshots true).run.play world none now =
      ((client.promoteNewestClone path).run.play world none now).andThen
        (Exchange.proceed world fun _ => client.delete (deletion path snapshots).path) :=
  Exchange.play_bind world _ now (tidy_promoteNewestClone path)

lemma play_of_unlisted
    (listing : client.listing world path now = ⟨listed, some ⟨later, .error fault⟩⟩) :
    (client.promoteNewestClone path).run.play world none now =
      ⟨listed, some ⟨later, .error fault⟩⟩ := by
  rw [play_promoteNewestClone, listing, Playback.andThen_of_some rfl]
  simp [Exchange.proceed, Playback.after]

lemma play_of_independent
    (listing : client.listing world path now = ⟨listed, some ⟨later, .ok found⟩⟩)
    (dependent : Dependent found none) :
    (client.promoteNewestClone path).run.play world none now =
      ⟨listed, some ⟨later, .ok ()⟩⟩ := by
  rw [play_promoteNewestClone, listing, Playback.andThen_of_some rfl]
  simp only [Exchange.proceed, (dependent_dependent? found).unique dependent]
  show Playback.mk (listed ++ []) _ = _
  rw [List.append_nil]
  rfl

lemma play_of_dependent
    (listing : client.listing world path now = ⟨listed, some ⟨later, .ok found⟩⟩)
    (dependent : Dependent found (some clone)) :
    (client.promoteNewestClone path).run.play world none now =
      (client.ordering world (promotion clone) later).after listed := by
  rw [play_promoteNewestClone, listing, Playback.andThen_of_some rfl]
  simp only [Exchange.proceed, (dependent_dependent? found).unique dependent]
  exact congrArg (Playback.after · listed) play_promoteFilesystem

/-- The way to the deletion is free just if the steps before it end well. -/
lemma cleared_iff : client.Cleared world path now events later ↔
    (client.promoteNewestClone path).run.play world none now =
      ⟨events, some ⟨later, .ok ()⟩⟩ := by
  constructor
  · intro cleared
    cases cleared with
    | unhindered listing dependent => exact play_of_independent listing dependent
    | promoted listing dependent promoting =>
      rw [play_of_dependent listing dependent, promoting]
      rfl
  · intro h
    cases hlisting : client.listing world path now with
    | mk listed ending =>
      rcases ending with _ | ⟨moment, fault | found⟩
      · rw [play_promoteNewestClone, hlisting, Playback.andThen_of_none rfl] at h
        cases h
      · rw [play_of_unlisted hlisting] at h
        cases h
      · have hdependent := dependent_dependent? found
        cases hclone : dependent? found with
        | none =>
          rw [hclone] at hdependent
          rw [play_of_independent hlisting hdependent] at h
          cases h
          exact .unhindered hlisting hdependent
        | some clone =>
          rw [hclone] at hdependent
          rw [play_of_dependent hlisting hdependent] at h
          cases hpromoting : client.ordering world (promotion clone) moment with
          | mk said ending =>
            rw [hpromoting] at h
            cases h
            exact .promoted hlisting hdependent hpromoting

/-- Nothing is deleted before the way is free. -/
lemma method_ne_of_prelude {time : Nat} {sent : Request} (h : (time, .sent sent) ∈
    ((client.promoteNewestClone path).run.play world none now).events) :
    sent.method ≠ "DELETE" := by
  rw [play_promoteNewestClone] at h
  rcases Playback.mem_events_andThen h with hlisted | ⟨⟨moment, outcome⟩, -, hlater⟩
  · exact (sentFor_of_dealing hlisted).method_ne (by simp [snapshotListing])
  · cases outcome with
    | error fault => simp [Exchange.proceed] at hlater
    | ok found =>
      simp only [Exchange.proceed] at hlater
      split at hlater
      · next clone _ =>
        rw [play_promoteFilesystem] at hlater
        exact (sentFor_of_dealing hlater).method_ne (by simp [promotion])
      · exact absurd hlater List.not_mem_nil

lemma deletes_iff : (∃ time sent, (time, .sent sent) ∈
      ((client.destroyFilesystem path snapshots true).run.play world none now).events ∧
        sent.method = "DELETE") ↔
    ∃ events later, client.Cleared world path now events later := by
  simp only [cleared_iff]
  rw [play_destroyFilesystem]
  constructor
  · rintro ⟨time, sent, hsent, hdelete⟩
    rcases Playback.mem_events_andThen hsent with hprelude | ⟨⟨moment, outcome⟩, hending, hlater⟩
    · exact absurd hdelete (method_ne_of_prelude hprelude)
    · cases outcome with
      | error fault => simp [Exchange.proceed] at hlater
      | ok _ => exact ⟨_, moment, congrArg (Playback.mk _) hending⟩
  · rintro ⟨events, later, hprelude⟩
    obtain ⟨session, rest, hsent⟩ :=
      (client.deals_dealing world (deletion path snapshots) later).sends
    refine ⟨later.time, (deletion path snapshots).signed session, ?_, rfl⟩
    rw [hprelude, Playback.andThen_of_some rfl, Playback.events_after]
    refine List.mem_append_right _ ?_
    rw [Exchange.proceed, play_delete]
    show _ ∈ (client.dealing world (deletion path snapshots) later).events
    rw [hsent]
    simp

lemma destroys_destroyFilesystem : client.Destroys world path snapshots now
    ((client.destroyFilesystem path snapshots true).run.play world none now) where
  cleared events later cleared := by
    rw [play_destroyFilesystem, cleared_iff.1 cleared, Playback.andThen_of_some rfl]
    exact congrArg (Playback.after · events) play_delete
  unlisted listed later fault listing := by
    rw [play_destroyFilesystem, play_of_unlisted listing, Playback.andThen_of_some rfl]
    simp [Exchange.proceed, Playback.after]
  notListed listed listing := by
    rw [play_destroyFilesystem, play_promoteNewestClone, listing, Playback.andThen_of_none rfl,
      Playback.andThen_of_none rfl]
  unpromoted listed later found clone said latest fault listing dependent promoting := by
    rw [play_destroyFilesystem, play_of_dependent listing dependent, promoting,
      Playback.andThen_after, Playback.andThen_of_some rfl]
    simp [Exchange.proceed, Playback.after]
  notPromoted listed later found clone said listing dependent promoting := by
    rw [play_destroyFilesystem, play_of_dependent listing dependent, promoting,
      Playback.andThen_after, Playback.andThen_of_none rfl]
    rfl
  deletes := deletes_iff

end Client

/-! ## How snapshots are given -/

/-- The forms in which an appliance gives a snapshot: the number of its transaction is a JSON number
or decimal text. -/
inductive Snapshot.Given (snapshot : Snapshot) : Json → Prop where
  | item {transaction created} (fits : snapshot.transaction ≤ Number.max64)
      (counts : Json.Counts snapshot.transaction transaction)
      (stamp : Instant.read created = some snapshot.created) :
      Given snapshot (.object [("path", .string snapshot.path), ("name", .string snapshot.name),
        ("parent", .string snapshot.parent), ("clones", .ofStrings snapshot.clones),
        ("creationTxg", transaction), ("creationTime", .string created)])

lemma Json.decode_ofStrings (texts : List String) :
    (Json.ofStrings texts).decode (Reader.list Reader.string) = .ok texts := by
  rw [ofStrings, decode_list_eq_ok_iff, List.forall₂_map_right_iff, List.forall₂_same]
  exact fun _ _ => rfl

lemma Snapshot.Given.decode {snapshot : Snapshot} {item : Json} (h : snapshot.Given item) :
    item.decode Snapshot.record.read = .ok snapshot := by
  cases h with
  | @item transaction created fits counts stamp =>
    have hclones := Json.decode_ofStrings snapshot.clones
    have hcount := counts.decode fits
    have hcreated : Reader.instant (.string created) = .ok snapshot.created := by
      simp [Reader.instant, Reader.string, stamp, bind, Except.bind, pure, Except.pure]
    simp (disch := decide) only [Json.object, List.foldl, insertSorted_nil, insertSorted_of_lt,
      insertSorted_of_gt]
    simp only [Json.decode] at hclones hcount ⊢
    simp [Snapshot.record, Draft.ofJson, Draft.ofEntries, Record.required, Record.defaulted,
      Record.withField, Record.of, Record.read, Record.collect, Record.content, Reader.string,
      hclones, hcount, hcreated, Except.map, bind, Except.bind, pure, Except.pure]

lemma Client.snapshotsIn_of_given (client : Client) {found : List Snapshot} {items : List Json}
    (given : List.Forall₂ Snapshot.Given found items) (status : Nat) :
    client.snapshotsIn ⟨status, .json (.object [("data", .array items)])⟩ = .ok found := by
  have hread := Json.decode_dataList_eq_ok_iff.2 (given.imp fun _ _ h => h.decode)
  simp only [snapshotsIn, Response.decode, hread]

/-! ## The result -/

/-- What a client does to destroy a filesystem and to promote a clone of it before, for every list
of snapshots and for every way in which a request goes.  Which clone is due is determined by the
list; the list is read in whichever form it gives the numbers of transactions; every step is a
dealing with its request; and from their playbacks it follows what becomes of the whole. -/
theorem promotion_precedes_deletion (client : Client) (world : Nat → Circumstance) (path : String)
    (snapshots : Bool) (now : Moment) :
    (∀ found, ∃! clone?, Client.Dependent found clone?) ∧
    (∀ found items status, List.Forall₂ Snapshot.Given found items →
      client.snapshotsIn ⟨status, .json (.object [("data", .array items)])⟩ = .ok found) ∧
    (∀ request start, client.Deals world request start (client.dealing world request start)) ∧
    client.Destroys world path snapshots now
      ((client.answer (.destroyFilesystem path snapshots true)).run.play world none now) :=
  ⟨fun found => ⟨_, Client.dependent_dependent? found,
      fun _ h => h.unique (Client.dependent_dependent? found)⟩,
    fun _ _ status given => client.snapshotsIn_of_given given status,
    client.deals_dealing world,
    Client.destroys_destroyFilesystem⟩

namespace Tied

def client : Client where
  appliance := ⟨0, "https://appliance"⟩
  username := "admin"
  password := "secret"

/-- Two snapshots from one transaction have clones, and a newer one has none. -/
def found : List Snapshot :=
  let created : Instant := ⟨2024, 1, 1, 0, 0, 0, 0⟩
  [⟨"pool/fs@a", "a", "pool/fs", ["pool/a"], 20, created⟩,
    ⟨"pool/fs@b", "b", "pool/fs", ["pool/b", "pool/c"], 20, created⟩,
    ⟨"pool/fs@d", "d", "pool/fs", [], 30, created⟩]

/-- The snapshots as they are given, the first one with its transaction as text. -/
def items : List Json :=
  found.map fun snapshot =>
    .object [("path", .string snapshot.path), ("name", .string snapshot.name),
      ("parent", .string snapshot.parent), ("clones", .ofStrings snapshot.clones),
      ("creationTxg", if snapshot.name = "a" then .string "0020" else .nat snapshot.transaction),
      ("creationTime", .string "2024-01-01T00:00:00Z")]

/-- The appliance lists the snapshots and then does what it is asked for. -/
def world : Nat → Circumstance
  | 1 => { answer := .ok ⟨200, .json (.object [("data", .array items)])⟩ }
  | _ => { answer := .ok ⟨200, .empty⟩ }

lemma given : List.Forall₂ Snapshot.Given found items :=
  .cons (.item (by decide) (.text 4) rfl) <|
    .cons (.item (by decide) .number rfl) <|
      .cons (.item (by decide) .number rfl) .nil

lemma dependent : Client.Dependent found (some "pool/b") := by
  have newest : Client.Newest (found.take 1) found[1] (found.drop 2) :=
    ⟨by decide, by decide, by decide⟩
  exact .clone newest rfl

end Tied

/-- Of two snapshots from one transaction the last one listed counts, and a newer one without clones
does not. -/
theorem promotion_precedes_deletion_tie :
    List.Forall₂ Snapshot.Given Tied.found Tied.items ∧
    ((Tied.client.answer (.destroyFilesystem "pool/fs" true true)).run.play Tied.world none
      ⟨0, 0⟩).events.filterMap (fun entry => entry.2.sent?) =
        [Client.snapshotListing "pool/fs", Client.promotion "pool/b",
          Client.deletion "pool/fs" true] := by
  obtain ⟨-, reads, -, destroys⟩ :=
    promotion_precedes_deletion Tied.client Tied.world "pool/fs" true ⟨0, 0⟩
  obtain ⟨events, listed, asked⟩ : ∃ events, Tied.client.listing Tied.world "pool/fs" ⟨0, 0⟩ =
      ⟨events, some ⟨⟨2, 0⟩, .ok Tied.found⟩⟩ ∧
      events.filterMap (fun entry => entry.2.sent?) = [Client.snapshotListing "pool/fs"] := by
    rw [Client.listing, Client.dealing_of_success 0 rfl rfl (by decide) (by decide)]
    simp only [Playback.map, Option.map_some, Except.bind, reads _ _ _ Tied.given]
    exact ⟨_, rfl, rfl⟩
  obtain ⟨said, promoted, ordered⟩ : ∃ said, 
      Tied.client.ordering Tied.world (Client.promotion "pool/b") ⟨2, 0⟩ =
      ⟨said, some ⟨⟨4, 0⟩, .ok ()⟩⟩ ∧
      said.filterMap (fun entry => entry.2.sent?) = [Client.promotion "pool/b"] := by
    rw [Client.ordering, Client.dealing_of_success 0 rfl rfl (by decide) (by decide)]
    exact ⟨_, rfl, rfl⟩
  have cleared := Client.Cleared.promoted listed Tied.dependent promoted
  refine ⟨Tied.given, ?_⟩
  rw [destroys.cleared _ _ cleared, Client.ordering,
    Client.dealing_of_success 0 rfl rfl (by decide) (by decide), Playback.events_after,
    List.filterMap_append, List.filterMap_append, asked, ordered]
  rfl

end StorageFleet
