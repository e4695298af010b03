import StorageFleet.Proofs.Deployment.Frame
import StorageFleet.Proofs.Volume.Inventory
import StorageFleet.Proofs.Volume.Refusal
import StorageFleet.Proofs.Volume.Retry

/-!
# The books of an appliance

An appliance in memory keeps its filesystems and its snapshots in tables by path, and numbers its
snapshots.  `Simulated.InOrder` says what holds of these books: everything is filed under its own
path, a snapshot belongs to a filesystem that is there, and no two snapshots have one number.

The calls take paths as they come.  They may have any number of at signs, and a filesystem is
destroyed with whatever begins like its snapshots.  That no call brings the books into disorder rests
on three facts, each kept by every call: everything is filed (`Filed.step`), each snapshot has its
filesystem (`Rooted.step`), and the numbers are those of transactions that have been
(`Numbered.step`).  So all three hold after any history that begins without snapshots
(`Vacant.sound`, `Sound.afterAll`), and the books are in order (`Sound.inOrder`).  The numbers are
natural numbers, so there is always a next one.

`bookkeeping` adds what can be read off a call in such a state: a new snapshot has the greatest
number, a listing is in strictly ascending order of paths, and a call that fails leaves no trace but
the record that it was made.
-/

namespace StorageFleet

namespace Simulated

variable {a b start : Simulated} {path : String} {quota : Option Nat} {call : Call}

/-! ## The numbers of snapshots -/

/-- Each snapshot has a number of its own, and that of a transaction that has been. -/
structure Numbered (a : Simulated) : Prop where
  range : a.snapshots.Each fun _ snapshot =>
    0 < snapshot.transaction ∧ snapshot.transaction ≤ a.transaction
  distinct : ∀ key other one two, a.snapshots.find? key = some one →
    a.snapshots.find? other = some two → one.transaction = two.transaction → key = other

/-- Snapshots may be removed, and changed in everything but their numbers. -/
lemma Numbered.mono (h : a.Numbered) (same : b.transaction = a.transaction)
    (fewer : ∀ key snapshot, b.snapshots.find? key = some snapshot → ∃ original,
      a.snapshots.find? key = some original ∧ snapshot.transaction = original.transaction) :
    b.Numbered := by
  constructor
  · intro key snapshot hfound
    obtain ⟨original, horiginal, hnumber⟩ := fewer key snapshot hfound
    have hrange := h.range key original horiginal
    omega
  · intro key other one two hone htwo hnumbers
    obtain ⟨one', hone', hnumber⟩ := fewer key one hone
    obtain ⟨two', htwo', hnumber'⟩ := fewer other two htwo
    apply h.distinct key other one' two' hone' htwo'
    omega

lemma Numbered.of_same (h : a.Numbered) (number : b.transaction = a.transaction)
    (same : b.snapshots = a.snapshots) : b.Numbered :=
  h.mono number fun _ snapshot hfound => ⟨snapshot, by rwa [same] at hfound, rfl⟩

lemma Numbered.eraseWhere (h : a.Numbered) (number : b.transaction = a.transaction)
    (p : String → Bool) (erased : b.snapshots = a.snapshots.eraseWhere p) : b.Numbered := by
  apply h.mono number
  intro key snapshot hfound
  rw [erased, Catalog.find?_eraseWhere] at hfound
  split_ifs at hfound
  exact ⟨snapshot, hfound, rfl⟩

/-- A snapshot is taken of a filesystem that is there, under a path that is free, or nothing
happens.  The path is cut at its first at sign, so there is none in that of the filesystem. -/
lemma createSnapshot_eq (a : Simulated) (path : String) :
    (∃ fault, a.createSnapshot path = (.error fault, a)) ∨
    ∃ parent name, '@' ∉ parent.toList ∧ path = parent ++ "@" ++ name ∧
      a.snapshots.find? path = none ∧ a.createSnapshot path = (.ok (), { a with
        transaction := a.transaction + 1
        snapshots := a.snapshots.insert path (a.nextSnapshot parent name) }) := by
  cases hcut : Text.splitOnce '@' path.toList with
  | none =>
    left
    unfold createSnapshot
    rw [hcut]
    exact ⟨_, rfl⟩
  | some pieces =>
    obtain ⟨before, behind⟩ := pieces
    obtain ⟨hpath, hunmarked⟩ := Text.splitOnce_eq_some_iff.1 hcut
    obtain ⟨parent, rfl⟩ : ∃ parent : String, parent.toList = before :=
      ⟨String.ofList before, by simp⟩
    obtain ⟨name, rfl⟩ : ∃ name : String, name.toList = behind := ⟨String.ofList behind, by simp⟩
    obtain rfl : path = parent ++ "@" ++ name := by
      rw [← String.toList_inj, hpath]
      simp
    by_cases hthere : a.filesystems.contains parent = true
    · by_cases hfree : a.snapshots.find? (parent ++ "@" ++ name) = none
      · right
        exact ⟨parent, name, hunmarked, rfl, hfree, createSnapshot_of_none hunmarked hthere hfree⟩
      · left
        obtain ⟨snapshot, hfound⟩ := Option.ne_none_iff_exists'.1 hfree
        exact ⟨_, createSnapshot_of_some hunmarked hthere hfound⟩
    · left
      unfold createSnapshot
      rw [hcut]
      simp [hthere]

/-- A new snapshot has a number that none has had before. -/
lemma Numbered.createSnapshot (h : a.Numbered) : (a.createSnapshot path).2.Numbered := by
  rcases a.createSnapshot_eq path with ⟨fault, heq⟩ | ⟨parent, name, -, -, -, heq⟩
  · rw [heq]
    exact h
  · rw [heq]
    have hcases : ∀ key snapshot,
        (a.snapshots.insert path (a.nextSnapshot parent name)).find? key = some snapshot →
          key = path ∧ snapshot.transaction = a.transaction + 1 ∨
            a.snapshots.find? key = some snapshot ∧
              0 < snapshot.transaction ∧ snapshot.transaction ≤ a.transaction := by
      intro key snapshot hfound
      rw [Catalog.find?_insert] at hfound
      split_ifs at hfound with hkey
      · cases hfound
        exact .inl ⟨hkey, rfl⟩
      · exact .inr ⟨hfound, h.range key snapshot hfound⟩
    constructor
    · intro key snapshot hfound
      rcases hcases key snapshot hfound with ⟨-, hnew⟩ | ⟨-, hpos, hle⟩
      · exact ⟨by omega, by dsimp only; omega⟩
      · exact ⟨hpos, by dsimp only; omega⟩
    · intro key other one two hone htwo hnumbers
      rcases hcases key one hone with ⟨hkey, hnew⟩ | ⟨hold, -, hle⟩
      · rcases hcases other two htwo with ⟨hother, -⟩ | ⟨-, -, hle'⟩
        · rw [hkey, hother]
        · omega
      · rcases hcases other two htwo with ⟨-, hnew'⟩ | ⟨hold', -, -⟩
        · omega
        · exact h.distinct key other one two hold hold' hnumbers

lemma Numbered.destroySnapshot (h : a.Numbered) : (a.destroySnapshot path).2.Numbered := by
  unfold Simulated.destroySnapshot
  cases a.snapshots.find? path with
  | none => exact h
  | some snapshot =>
    dsimp only
    split_ifs
    · exact h.eraseWhere rfl (· == path) rfl
    · exact h

lemma Numbered.destroyFilesystem (h : a.Numbered) {withSnapshots : Bool} :
    (a.destroyFilesystem path withSnapshots).2.Numbered := by
  unfold Simulated.destroyFilesystem
  split_ifs
  · exact h
  · exact h
  · exact h.eraseWhere rfl _ rfl

lemma Numbered.cloneSnapshot (h : a.Numbered) {target : String} :
    (a.cloneSnapshot path target quota).2.Numbered := by
  unfold Simulated.cloneSnapshot
  cases hthere : a.snapshots.find? path with
  | none => exact h
  | some snapshot =>
    dsimp only
    split_ifs
    · exact h
    · refine Numbered.mono h ?_ ?_
      · rfl
      intro key other hfound
      rw [Catalog.find?_insert] at hfound
      split_ifs at hfound with hkey
      · cases hfound
        exact ⟨snapshot, by rw [hkey, hthere], rfl⟩
      · exact ⟨other, hfound, rfl⟩

lemma Numbered.createFilesystem (h : a.Numbered) : (a.createFilesystem path quota).2.Numbered := by
  unfold Simulated.createFilesystem
  split_ifs
  · exact h
  · exact h.of_same rfl rfl

lemma Numbered.updateFilesystem (h : a.Numbered) : (a.updateFilesystem path quota).2.Numbered := by
  unfold Simulated.updateFilesystem
  cases a.filesystems.find? path with
  | none => exact h
  | some fs =>
    cases quota with
    | none => exact h
    | some quota => exact h.of_same rfl rfl

/-- No call gives a number twice. -/
theorem Numbered.step (h : a.Numbered) (call : Call) : (a.step call).2.Numbered := by
  unfold Simulated.step
  split_ifs
  · exact h
  · cases call with
    | createFilesystem => exact h.createFilesystem
    | updateFilesystem => exact h.updateFilesystem
    | destroyFilesystem => exact h.destroyFilesystem
    | createSnapshot => exact h.createSnapshot
    | destroySnapshot => exact h.destroySnapshot
    | cloneSnapshot => exact h.cloneSnapshot
    | setAccess | createNfsShare | deleteNfsShare | createSmbShare | deleteSmbShare =>
      exact h.of_same rfl rfl
    | _ => exact h

/-! ## Histories -/

/-- What happens to an appliance.  A call has any arguments, and is answered or refused. -/
inductive Incident where
  | called (call : Call)
  /-- It goes off line or comes back, and its license expires or is renewed. -/
  | switched (offline licensed : Bool)

/-- The appliance after an incident. -/
def after (a : Simulated) : Incident → Simulated
  | .called call => (a.step call).2
  | .switched offline licensed => { a with offline, licensed }

/-- The appliance after a history, the earliest incident first. -/
def afterAll (a : Simulated) (history : List Incident) : Simulated :=
  history.foldl after a

/-- There are no snapshots, and each filesystem is where it was put. -/
structure Vacant (a : Simulated) : Prop where
  filesystems : a.filesystems.Each fun path fs => fs.path = path
  snapshots : a.snapshots = .empty

/-- An appliance is set up without snapshots. -/
lemma vacant_ofContents (endpoint : String) (filesystems : List (String × Nat))
    (clusters : List String) : (ofContents endpoint filesystems clusters).Vacant :=
  ⟨(filed_ofContents endpoint filesystems clusters).filesystems, rfl⟩

/-- What the calls rely on and keep. -/
structure Sound (a : Simulated) : Prop where
  filed : a.Filed
  rooted : a.Rooted
  numbered : a.Numbered

lemma Vacant.sound (h : a.Vacant) : a.Sound := by
  have hnone : ∀ key snapshot, a.snapshots.find? key ≠ some snapshot := by
    intro key snapshot hfound
    rw [h.snapshots] at hfound
    cases hfound
  exact ⟨⟨h.filesystems, fun key snapshot hfound => (hnone key snapshot hfound).elim⟩,
    rooted_of_empty h.snapshots, fun key snapshot hfound => (hnone key snapshot hfound).elim,
    fun key _ one _ hone => (hnone key one hone).elim⟩

lemma Sound.after (h : a.Sound) (incident : Incident) : (a.after incident).Sound := by
  cases incident with
  | called call => exact ⟨h.filed.step call, h.rooted.step h.filed call, h.numbered.step call⟩
  | switched offline licensed =>
    exact ⟨⟨h.filed.filesystems, h.filed.snapshots⟩, h.rooted, h.numbered.of_same rfl rfl⟩

theorem Sound.afterAll (h : a.Sound) (history : List Incident) : (a.afterAll history).Sound := by
  induction history generalizing a with
  | nil => exact h
  | cons incident rest ih => exact ih (h.after incident)

/-! ## Books in order -/

/-- The books of an appliance are in order. -/
structure InOrder (a : Simulated) : Prop where
  filesystem_path : ∀ key fs, a.filesystems.find? key = some fs → fs.path = key
  snapshot_path : ∀ key snapshot, a.snapshots.find? key = some snapshot →
    snapshot.path = key ∧ key = snapshot.parent ++ "@" ++ snapshot.name ∧
      '@' ∉ snapshot.parent.toList
  snapshot_parent : ∀ key snapshot, a.snapshots.find? key = some snapshot →
    a.filesystems.contains snapshot.parent = true
  number_range : ∀ key snapshot, a.snapshots.find? key = some snapshot →
    0 < snapshot.transaction ∧ snapshot.transaction ≤ a.transaction
  number_distinct : ∀ key other one two, a.snapshots.find? key = some one →
    a.snapshots.find? other = some two → one.transaction = two.transaction → key = other

lemma Sound.inOrder (h : a.Sound) : a.InOrder := by
  refine ⟨h.filed.filesystems, fun key snapshot hfound => ?_, h.rooted, h.numbered.range,
    h.numbered.distinct⟩
  obtain ⟨hpath, hcut⟩ := h.filed.snapshots key snapshot hfound
  obtain ⟨hkey, hunmarked⟩ := Text.splitOnce_eq_some_iff.1 hcut
  refine ⟨hpath, ?_, hunmarked⟩
  rw [← String.toList_inj, hkey]
  simp

/-- A snapshot that has just been taken has the greatest number. -/
lemma Sound.newest (h : a.Sound) (htaken : (a.step (.createSnapshot path)).1 = .ok ()) :
    ∃ new, (a.step (.createSnapshot path)).2.snapshots.find? path = some new ∧
      ∀ key old, a.snapshots.find? key = some old → old.transaction < new.transaction := by
  unfold step at htaken ⊢
  split_ifs at htaken ⊢
  change (a.createSnapshot path).1 = .ok () at htaken
  change ∃ new, (a.createSnapshot path).2.snapshots.find? path = some new ∧ _
  rcases a.createSnapshot_eq path with ⟨fault, heq⟩ | ⟨parent, name, -, -, -, heq⟩
  · rw [heq] at htaken
    cases htaken
  · rw [heq]
    refine ⟨a.nextSnapshot parent name, by rw [Catalog.find?_insert, if_pos rfl], ?_⟩
    intro key old hfound
    have hrange := h.numbered.range key old hfound
    exact Nat.lt_succ_of_le hrange.2

/-- Whoever is answered can be reached. -/
lemma answered {outcome : call.Answer} (h : (a.step call).1 = .ok outcome) :
    (a.answer call).1 = .ok outcome := by
  unfold step at h
  split_ifs at h
  exact h

end Simulated

/-- A call to an appliance in memory that fails leaves nothing but the record of the call. -/
lemma Deployment.perform_of_error {d : Deployment} {appliance : ApplianceRef} {call : Call}
    {a : Simulated} {fault : Fault} (here : d.simulated? appliance.id = some a)
    (h : (d.perform appliance call).1 = .error fault) :
    (d.perform appliance call).2 = d.receive appliance.id (.call call) := by
  unfold perform at h ⊢
  rw [here] at h ⊢
  dsimp only at h ⊢
  rw [Simulated.step_of_error h]
  obtain ⟨hlt, hstation⟩ := List.getElem?_eq_some_iff.1 (station?_of_simulated? here)
  have hsame : d.stations.set appliance.id (.simulated a) = d.stations := by
    rw [← hstation, List.set_getElem_self]
  simp only [setStation, receive, hsame]

/-! ## The result -/

/-- **The books of an appliance are always in order.**  Consider an appliance in any state that it
can come to from one without snapshots, by calls of all kinds with any arguments.  Then everything is
filed under its own path, each snapshot under the path that is made of its filesystem, which is
there and has no at sign, and its name; and the numbers of the snapshots are positive, distinct and
not beyond that of the last transaction.  A snapshot that is taken now gets a greater number than any
that is there.  The listings have each of their entries once, in ascending order of the paths.  And a
call that fails changes nothing but the record of calls. -/
theorem bookkeeping {start : Simulated} (vacant : start.Vacant)
    (history : List Simulated.Incident) {a : Simulated} (now : a = start.afterAll history) :
    a.InOrder ∧
    (∀ path, (a.step (.createSnapshot path)).1 = .ok () →
      ∃ new, (a.step (.createSnapshot path)).2.snapshots.find? path = some new ∧
        ∀ key old, a.snapshots.find? key = some old → old.transaction < new.transaction) ∧
    (∀ parent list, (a.step (.getFilesystems parent)).1 = .ok list →
      list.Pairwise (fun one other => one.path < other.path) ∧ ∀ fs, fs ∈ list ↔
        a.filesystems.find? fs.path = some fs ∧ Simulated.isChild parent fs.path = true) ∧
    (∀ parent recursive list, (a.step (.getSnapshots parent recursive)).1 = .ok list →
      list.Pairwise (fun one other => one.path < other.path) ∧ ∀ snapshot, snapshot ∈ list ↔
        a.snapshots.find? snapshot.path = some snapshot ∧
          Simulated.isSnapshotOf parent recursive snapshot = true) ∧
    ∀ (d : Deployment) appliance call fault, d.simulated? appliance.id = some a →
      (d.perform appliance call).1 = .error fault →
        (d.perform appliance call).2 = d.receive appliance.id (.call call) := by
  subst now
  have sound := vacant.sound.afterAll history
  refine ⟨sound.inOrder, fun path htaken => sound.newest htaken, fun parent list hlist => ?_,
    fun parent recursive list hlist => ?_, fun d appliance call fault here hfailed => ?_⟩
  · obtain rfl := Except.ok.inj (Simulated.answered hlist)
    exact ⟨sound.filed.children_ascending parent, fun fs => sound.filed.mem_children_iff⟩
  · obtain rfl := Except.ok.inj (Simulated.answered hlist)
    exact ⟨sound.filed.snapshotsOf_ascending parent recursive,
      fun snapshot => sound.filed.mem_snapshotsOf_iff⟩
  · exact Deployment.perform_of_error here hfailed

/-- An appliance with one filesystem. -/
def Simulated.shelf : Simulated :=
  ofContents "https://shelf" [("pool/v", 1)] []

/-- Two snapshots of the one filesystem; and a clone with an at sign in its path, whose destruction
takes the second of them along. -/
def Simulated.mistaken : List Incident :=
  [.called (.createSnapshot "pool/v@a@b"), .called (.cloneSnapshot "pool/v@a@b" "pool/v@c" none),
    .called (.createSnapshot "pool/v@c@d"), .called (.destroyFilesystem "pool/v@c" true false)]

/-- The books are in order after that, and the next snapshot gets a number of its own. -/
theorem bookkeeping_of_mistaken :
    Simulated.shelf.Vacant ∧ (Simulated.shelf.afterAll Simulated.mistaken).InOrder ∧
    (Simulated.shelf.afterAll Simulated.mistaken).snapshots.keys = ["pool/v@a@b"] ∧
    ∃ new, ((Simulated.shelf.afterAll Simulated.mistaken).step
        (.createSnapshot "pool/v@c@d")).2.snapshots.find? "pool/v@c@d" = some new ∧
      ∀ key old, (Simulated.shelf.afterAll Simulated.mistaken).snapshots.find? key = some old →
        old.transaction < new.transaction := by
  have vacant : Simulated.shelf.Vacant := Simulated.vacant_ofContents ..
  obtain ⟨inOrder, newest, -⟩ := bookkeeping vacant Simulated.mistaken rfl
  exact ⟨vacant, inOrder, rfl, newest "pool/v@c@d" rfl⟩

end StorageFleet
