import StorageFleet.Proofs.Rack.Concert
import StorageFleet.Proofs.Rack.Selection
import StorageFleet.Proofs.Volume.Blueprint

/-!
# What a recipe does to an appliance

Following a recipe, an appliance only grows: `Simulated.Grows`.  Each of the two changes happens at
most once.  A snapshot that was taken is found to exist from then on (`takeIn_of_grows`), and so is
a filesystem that was `Made`, with the size that its maker asked for.  Where somebody fails to make
the filesystem, nobody can make it, whatever its size (`makeIn_cases`).
-/

namespace StorageFleet

namespace Simulated

/-- The second appliance has all that the first has, and can be reached just if it can. -/
structure Grows (a b : Simulated) : Prop where
  offline : b.offline = a.offline
  filesystem : ∀ path fs, a.filesystems.find? path = some fs → b.filesystems.find? path = some fs
  snapshot : ∀ path, a.snapshots.contains path = true → b.snapshots.contains path = true

variable {a b c : Simulated}

lemma Grows.refl (a : Simulated) : a.Grows a :=
  ⟨rfl, fun _ _ h => h, fun _ h => h⟩

lemma Grows.trans (h : a.Grows b) (h' : b.Grows c) : a.Grows c where
  offline := h'.offline.trans h.offline
  filesystem path fs hfound := h'.filesystem path fs (h.filesystem path fs hfound)
  snapshot path hfound := h'.snapshot path (h.snapshot path hfound)

lemma Grows.contains (h : a.Grows b) {path : String} (hfound : a.filesystems.contains path = true) :
    b.filesystems.contains path = true := by
  obtain ⟨fs, hfs⟩ := Option.isSome_iff_exists.1 hfound
  exact Option.isSome_iff_exists.2 ⟨fs, h.filesystem path fs hfs⟩

lemma contains_insert {table : Catalog α} {key k : String} {value : α} :
    (table.insert key value).contains k = true ↔ k = key ∨ table.contains k = true := by
  unfold Catalog.contains
  rw [Catalog.find?_insert]
  by_cases hk : k = key <;> simp [hk]

/-! ## Snapshots -/

/-- The snapshot is there, with the filesystem it belongs to, and can be found. -/
def Keeps (a : Simulated) (path : String) : Prop :=
  a.offline = false ∧ a.snapshots.contains path = true ∧
    ∃ parent name, Text.splitOnce '@' path.toList = some (parent, name) ∧
      a.filesystems.contains (String.ofList parent) = true

lemma Keeps.grows {path : String} (h : a.Keeps path) (hgrows : a.Grows b) : b.Keeps path := by
  obtain ⟨honline, hthere, parent, name, hsplit, hparent⟩ := h
  exact ⟨hgrows.offline.trans honline, hgrows.snapshot path hthere, parent, name, hsplit,
    hgrows.contains hparent⟩

/-- A snapshot that is there is not taken again. -/
lemma Keeps.step_createSnapshot {path : String} (h : a.Keeps path) :
    a.step (.createSnapshot path) = (.error (takenSnapshot path), a) := by
  obtain ⟨honline, hthere, parent, name, hsplit, hparent⟩ := h
  simp [step, honline, answer, createSnapshot, hsplit, hparent, hthere]

/-- Taking a snapshot fails and changes nothing, or adds the snapshot to a filesystem that is
there. -/
lemma step_createSnapshot_cases (a : Simulated) (path : String) :
    (∃ fault, a.step (.createSnapshot path) = (.error fault, a) ∧
      (fault.isAlreadyExists = true → a.Keeps path)) ∨
    ∃ transaction snapshot, a.step (.createSnapshot path) =
        (.ok (), { a with transaction, snapshots := a.snapshots.insert path snapshot }) ∧
      (a.step (.createSnapshot path)).2.Keeps path := by
  by_cases honline : a.offline = true
  · exact .inl ⟨.internal (a.endpoint ++ " is unreachable"), by rw [step, if_pos honline],
      fun h => by cases h⟩
  have hanswer : a.step (.createSnapshot path) = a.createSnapshot path := by
    rw [step, if_neg honline]
    rfl
  rw [hanswer]
  unfold createSnapshot
  cases hsplit : Text.splitOnce '@' path.toList with
  | none => exact .inl ⟨_, rfl, fun h => by cases h⟩
  | some pieces =>
    obtain ⟨parent, name⟩ := pieces
    dsimp only
    cases hparent : a.filesystems.contains (String.ofList parent) with
    | false => exact .inl ⟨_, rfl, fun h => by cases h⟩
    | true =>
      have hparent' : ∃ parent name, Text.splitOnce '@' path.toList = some (parent, name) ∧
          a.filesystems.contains (String.ofList parent) = true :=
        ⟨parent, name, hsplit, hparent⟩
      cases hthere : a.snapshots.contains path with
      | true => exact .inl ⟨_, rfl, fun _ => ⟨by simpa using honline, hthere, hparent'⟩⟩
      | false =>
        exact .inr ⟨_, _, rfl, by simpa using honline, contains_insert.2 (.inl rfl), hparent'⟩

end Simulated

namespace Recipe

variable {recipe : Recipe} {a b : Simulated}

/-- Takes the snapshot: whether it is there then, and the appliance afterwards. -/
def takeIn (recipe : Recipe) (a : Simulated) : Except Fault Unit × Simulated :=
  match recipe.taken with
  | none => (.ok (), a)
  | some snapshot => (Fleet.tolerateExisting (a.step (.createSnapshot snapshot)).1,
      (a.step (.createSnapshot snapshot)).2)

/-- Makes the filesystem: how that ends, and the appliance afterwards. -/
def makeIn (recipe : Recipe) (capacity : Option Nat) (a : Simulated) :
    Except Fault Unit × Simulated :=
  match recipe.origin with
  | none => a.step (.createFilesystem recipe.target capacity none)
  | some snapshot => a.step (.cloneSnapshot snapshot recipe.target capacity)

lemma takeIn_of_none (h : recipe.taken = none) : recipe.takeIn a = (.ok (), a) := by
  rw [takeIn, h]

lemma takeIn_of_some {snapshot : String} (h : recipe.taken = some snapshot) :
    recipe.takeIn a = (Fleet.tolerateExisting (a.step (.createSnapshot snapshot)).1,
      (a.step (.createSnapshot snapshot)).2) := by
  rw [takeIn, h]

lemma takeIn_grows : a.Grows (recipe.takeIn a).2 := by
  cases htaken : recipe.taken with
  | none =>
    rw [takeIn_of_none htaken]
    exact .refl a
  | some snapshot =>
    rw [takeIn_of_some htaken]
    rcases a.step_createSnapshot_cases snapshot with ⟨fault, hstep, -⟩ | ⟨_, _, hstep, -⟩
    · rw [hstep]
      exact .refl a
    · rw [hstep]
      exact ⟨rfl, fun _ _ h => h, fun _ h => Simulated.contains_insert.2 (.inr h)⟩

/-- Failing to take the snapshot changes nothing. -/
lemma takeIn_of_error {fault : Fault} (h : (recipe.takeIn a).1 = .error fault) :
    (recipe.takeIn a).2 = a := by
  cases htaken : recipe.taken with
  | none => rw [takeIn_of_none htaken]
  | some snapshot =>
    rw [takeIn_of_some htaken] at h ⊢
    rcases a.step_createSnapshot_cases snapshot with ⟨_, hstep, -⟩ | ⟨_, _, hstep, -⟩
    · rw [hstep]
    · rw [hstep] at h
      cases h

/-- Once the snapshot is there it stays, whatever is added. -/
lemma takeIn_of_grows (h : (recipe.takeIn a).1 = .ok ()) (hgrows : (recipe.takeIn a).2.Grows b) :
    recipe.takeIn b = (.ok (), b) := by
  cases htaken : recipe.taken with
  | none => rw [takeIn_of_none htaken]
  | some snapshot =>
    rw [takeIn_of_some htaken] at h hgrows ⊢
    have hkeeps : (a.step (.createSnapshot snapshot)).2.Keeps snapshot := by
      rcases a.step_createSnapshot_cases snapshot with ⟨fault, hstep, hkeeps⟩ | ⟨_, _, -, hkeeps⟩
      · rw [hstep] at h ⊢
        cases hexists : fault.isAlreadyExists with
        | true => exact hkeeps hexists
        | false => simp [Fleet.tolerateExisting, hexists] at h
      · exact hkeeps
    rw [(hkeeps.grows hgrows).step_createSnapshot]
    rfl

/-- No snapshot is taken but the one that the recipe says. -/
lemma contains_of_takeIn {path : String} (h : (recipe.takeIn a).2.snapshots.contains path = true) :
    a.snapshots.contains path = true ∨ recipe.taken = some path := by
  cases htaken : recipe.taken with
  | none =>
    rw [takeIn_of_none htaken] at h
    exact .inl h
  | some snapshot =>
    rw [takeIn_of_some htaken] at h
    rcases a.step_createSnapshot_cases snapshot with ⟨fault, hstep, -⟩ | ⟨_, _, hstep, -⟩
    · rw [hstep] at h
      exact .inl h
    · rw [hstep] at h
      rcases Simulated.contains_insert.1 h with rfl | hthere
      · exact .inr rfl
      · exact .inl hthere

/-! ## The filesystem -/

/-- The filesystem was made with this size, and nothing else that counts has changed. -/
structure Made (recipe : Recipe) (a : Simulated) (capacity : Option Nat) (b : Simulated) :
    Prop where
  outcome : recipe.makeIn capacity a = (.ok (), b)
  grows : a.Grows b
  found : b.filesystems.find? recipe.target =
    some (Simulated.freshFilesystem recipe.target (capacity.getD 0))
  snapshots : ∀ path, b.snapshots.contains path = true → a.snapshots.contains path = true
  /-- It is not made again. -/
  again : ∀ other, recipe.makeIn other b = (.error (Simulated.takenFilesystem recipe.target), b)

lemma addFilesystem_grows {path : String} (h : a.filesystems.contains path = false)
    (quota : Option Nat) : a.Grows (a.addFilesystem path quota) := by
  refine ⟨rfl, fun other fs hfound => ?_, fun _ h => h⟩
  have hne : other ≠ path := by
    rintro rfl
    simp [Catalog.contains, hfound] at h
  simp [Simulated.addFilesystem, Catalog.find?_insert, hne, hfound]

lemma step_createFilesystem_cases (a : Simulated) (path : String) :
    (∃ fault, ∀ quota, a.step (.createFilesystem path quota none) = (.error fault, a)) ∨
    a.offline = false ∧ a.filesystems.contains path = false ∧
      ∀ quota, a.step (.createFilesystem path quota none) =
        (.ok (), a.addFilesystem path quota) := by
  by_cases honline : a.offline = true
  · exact .inl ⟨_, fun _ => by rw [Simulated.step, if_pos honline]⟩
  have hanswer : ∀ quota, a.step (.createFilesystem path quota none) =
      a.createFilesystem path quota := by
    intro quota
    rw [Simulated.step, if_neg honline]
    rfl
  simp only [hanswer, Simulated.createFilesystem]
  cases hthere : a.filesystems.contains path with
  | true => exact .inl ⟨_, fun _ => rfl⟩
  | false => exact .inr ⟨by simpa using honline, rfl, fun _ => rfl⟩

/-- The appliance after a snapshot was cloned. -/
def afterClone (a : Simulated) (path target : String) (snapshot : Snapshot) (quota : Option Nat) :
    Simulated :=
  { a.addFilesystem target quota with
    snapshots := a.snapshots.insert path { snapshot with clones := snapshot.clones ++ [target] } }

lemma step_cloneSnapshot_cases (a : Simulated) (path target : String) :
    (∃ fault, ∀ quota, a.step (.cloneSnapshot path target quota) = (.error fault, a)) ∨
    ∃ snapshot, a.snapshots.find? path = some snapshot ∧ a.offline = false ∧
      a.filesystems.contains target = false ∧
      ∀ quota, a.step (.cloneSnapshot path target quota) =
        (.ok (), afterClone a path target snapshot quota) := by
  by_cases honline : a.offline = true
  · exact .inl ⟨_, fun _ => by rw [Simulated.step, if_pos honline]⟩
  have hanswer : ∀ quota, a.step (.cloneSnapshot path target quota) =
      a.cloneSnapshot path target quota := by
    intro quota
    rw [Simulated.step, if_neg honline]
    rfl
  simp only [hanswer, Simulated.cloneSnapshot]
  cases hsnapshot : a.snapshots.find? path with
  | none => exact .inl ⟨_, fun _ => rfl⟩
  | some snapshot =>
    cases hthere : a.filesystems.contains target with
    | true => exact .inl ⟨_, fun _ => rfl⟩
    | false => exact .inr ⟨snapshot, rfl, by simpa using honline, rfl, fun _ => rfl⟩

/-- Whoever tries fails and changes nothing, or whoever tries first makes the filesystem. -/
lemma makeIn_cases (recipe : Recipe) (a : Simulated) :
    (∃ fault, ∀ capacity, recipe.makeIn capacity a = (.error fault, a)) ∨
    ∀ capacity, ∃ b, recipe.Made a capacity b := by
  unfold makeIn
  cases horigin : recipe.origin with
  | none =>
    rcases step_createFilesystem_cases a recipe.target with hfails | ⟨honline, hfree, hmakes⟩
    · exact .inl hfails
    · refine .inr fun capacity => ⟨a.addFilesystem recipe.target capacity, ?_,
        addFilesystem_grows hfree capacity, ?_, fun _ h => h, fun other => ?_⟩
      · simp only [makeIn, horigin, hmakes]
      · simp [Simulated.addFilesystem, Catalog.find?_insert]
      · have hthere := a.contains_addFilesystem recipe.target capacity
        have honline' : (a.addFilesystem recipe.target capacity).offline = false := honline
        simp [makeIn, horigin, Simulated.step, honline', Simulated.answer,
          Simulated.createFilesystem, hthere]
  | some path =>
    rcases step_cloneSnapshot_cases a path recipe.target with
      hfails | ⟨snapshot, hsnapshot, honline, hfree, hmakes⟩
    · exact .inl hfails
    · refine .inr fun capacity => ⟨afterClone a path recipe.target snapshot capacity, ?_, ?_, ?_,
        fun other hother => ?_, fun other => ?_⟩
      · simp only [makeIn, horigin, hmakes]
      · have hgrows := addFilesystem_grows hfree capacity
        exact ⟨rfl, hgrows.filesystem, fun _ h => Simulated.contains_insert.2 (.inr h)⟩
      · simp [afterClone, Simulated.addFilesystem, Catalog.find?_insert]
      · rcases Simulated.contains_insert.1 hother with rfl | hthere
        · simp [Catalog.contains, hsnapshot]
        · exact hthere
      · have hthere : (afterClone a path recipe.target snapshot capacity).filesystems.contains
            recipe.target = true := a.contains_addFilesystem recipe.target capacity
        have hfound : (afterClone a path recipe.target snapshot capacity).snapshots.find? path =
            some { snapshot with clones := snapshot.clones ++ [recipe.target] } := by
          simp [afterClone, Catalog.find?_insert]
        have honline' : (afterClone a path recipe.target snapshot capacity).offline = false :=
          honline
        simp [makeIn, horigin, Simulated.step, honline', Simulated.answer,
          Simulated.cloneSnapshot, hfound, hthere]

end Recipe
end StorageFleet
