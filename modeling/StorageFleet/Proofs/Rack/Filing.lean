import StorageFleet.Proofs.Rack.Operation

/-!
# What every appliance keeps to

An appliance files each filesystem under its own path, and each snapshot under the path that is made
of its filesystem and its name: `Simulated.Filed`.  An appliance with given contents is filed, and
no call changes that (`Filed.step`); nor does a call change whether the appliance can be reached.

What no call changes holds on after any operation (`Operation.exec_keeps`).  So does, in particular,
that each backend has one appliance, online and filed: `Fleet.Staffed`.
-/

namespace StorageFleet

/-! ## Tables all of whose entries have a property -/

namespace Catalog

/-- What is under each key has a property, which may depend on the key. -/
def Each (P : String → α → Prop) (table : Catalog α) : Prop :=
  ∀ key value, table.find? key = some value → P key value

variable {P : String → α → Prop} {table : Catalog α} {key : String} {value : α}

lemma each_empty (P : String → α → Prop) : Each P empty :=
  fun _ _ h => nomatch h

lemma Each.insert (h : table.Each P) (hnew : P key value) : (table.insert key value).Each P := by
  intro k v hfound
  rw [find?_insert] at hfound
  split_ifs at hfound with hk
  · cases hfound
    exact hk ▸ hnew
  · exact h k v hfound

lemma Each.eraseWhere (h : table.Each P) (p : String → Bool) : (table.eraseWhere p).Each P := by
  intro k v hfound
  rw [find?_eraseWhere] at hfound
  split_ifs at hfound
  exact h k v hfound

lemma Each.adjust {change : α → α} (h : table.Each P)
    (hchange : ∀ value, P key value → P key (change value)) : (table.adjust key change).Each P := by
  intro k v hfound
  rw [find?_adjust] at hfound
  split_ifs at hfound with hk
  · obtain ⟨value, hvalue, rfl⟩ := Option.map_eq_some_iff.1 hfound
    rw [hk] at hvalue ⊢
    exact hchange value (h key value hvalue)
  · exact h k v hfound

end Catalog

/-! ## Filed appliances -/

/-- A snapshot that belongs under this path: cut at its first at sign, the path is the filesystem
and the name of the snapshot. -/
structure Snapshot.BelongsUnder (path : String) (snapshot : Snapshot) : Prop where
  path_eq : snapshot.path = path
  cut : Text.splitOnce '@' path.toList = some (snapshot.parent.toList, snapshot.name.toList)

namespace Simulated

/-- Everything is filed under its own path. -/
structure Filed (a : Simulated) : Prop where
  filesystems : a.filesystems.Each fun path fs => fs.path = path
  snapshots : a.snapshots.Each Snapshot.BelongsUnder

variable {a : Simulated} {path : String} {quota : Option Nat}

lemma Filed.addFilesystem (h : a.Filed) : (a.addFilesystem path quota).Filed :=
  ⟨h.filesystems.insert rfl, h.snapshots⟩

lemma Filed.createFilesystem (h : a.Filed) : (a.createFilesystem path quota).2.Filed := by
  unfold Simulated.createFilesystem
  split
  · exact h
  · exact h.addFilesystem

lemma Filed.updateFilesystem (h : a.Filed) : (a.updateFilesystem path quota).2.Filed := by
  unfold Simulated.updateFilesystem
  cases hfound : a.filesystems.find? path with
  | none => exact h
  | some fs =>
    cases quota with
    | none => exact h
    | some quota => exact ⟨h.filesystems.insert (h.filesystems path fs hfound), h.snapshots⟩

lemma Filed.destroyFilesystem (h : a.Filed) {withSnapshots : Bool} :
    (a.destroyFilesystem path withSnapshots).2.Filed := by
  unfold Simulated.destroyFilesystem
  split_ifs
  · exact h
  · exact h
  · exact ⟨h.filesystems.eraseWhere _, h.snapshots.eraseWhere _⟩

lemma Filed.createSnapshot (h : a.Filed) : (a.createSnapshot path).2.Filed := by
  unfold Simulated.createSnapshot
  cases hcut : Text.splitOnce '@' path.toList with
  | none => exact h
  | some pieces =>
    dsimp only
    split_ifs
    · exact h
    · exact h
    · refine ⟨h.filesystems, h.snapshots.insert ⟨rfl, ?_⟩⟩
      simp [hcut]

lemma Filed.destroySnapshot (h : a.Filed) : (a.destroySnapshot path).2.Filed := by
  unfold Simulated.destroySnapshot
  cases a.snapshots.find? path with
  | none => exact h
  | some snapshot =>
    dsimp only
    split_ifs
    · exact ⟨h.filesystems, h.snapshots.eraseWhere _⟩
    · exact h

lemma Filed.cloneSnapshot (h : a.Filed) {target : String} :
    (a.cloneSnapshot path target quota).2.Filed := by
  unfold Simulated.cloneSnapshot
  cases hfound : a.snapshots.find? path with
  | none => exact h
  | some snapshot =>
    dsimp only
    split_ifs
    · exact h
    · obtain ⟨hpath, hcut⟩ := h.snapshots path snapshot hfound
      exact ⟨h.addFilesystem.filesystems, h.snapshots.insert ⟨hpath, hcut⟩⟩

/-- Every call leaves everything under its own path. -/
theorem Filed.step (h : a.Filed) (call : Call) : (a.step call).2.Filed := by
  unfold Simulated.step
  split_ifs
  · exact h
  · cases call with
    | createFilesystem => exact h.createFilesystem
    | updateFilesystem => exact h.updateFilesystem
    | destroyFilesystem => exact h.destroyFilesystem
    | createNfsShare => exact ⟨h.filesystems.adjust fun _ hpath => hpath, h.snapshots⟩
    | createSmbShare => exact ⟨h.filesystems.adjust fun _ hpath => hpath, h.snapshots⟩
    | createSnapshot => exact h.createSnapshot
    | destroySnapshot => exact h.destroySnapshot
    | cloneSnapshot => exact h.cloneSnapshot
    | setAccess | deleteNfsShare | deleteSmbShare => exact ⟨h.filesystems, h.snapshots⟩
    | _ => exact h

lemma filed_ofContents (endpoint : String) (filesystems : List (String × Nat))
    (clusters : List String) : (ofContents endpoint filesystems clusters).Filed := by
  have hfold : ∀ table : Catalog Filesystem, (table.Each fun path fs => fs.path = path) →
      (filesystems.foldl (fun table entry => table.insert entry.1
        { path := entry.1, mountPoint := "/" ++ entry.1,
          bytesAvailable := 10 * max entry.2 1, quota := entry.2 }) table).Each
        fun path fs => fs.path = path := by
    induction filesystems with
    | nil => exact fun table h => h
    | cons entry rest ih => exact fun table h => ih _ (h.insert rfl)
  exact ⟨hfold .empty (Catalog.each_empty _), Catalog.each_empty _⟩

/-- No call brings an appliance on line or off. -/
theorem step_offline (a : Simulated) (call : Call) : (a.step call).2.offline = a.offline := by
  unfold step
  split_ifs
  · rfl
  · cases call with
    | createFilesystem path =>
      change (a.createFilesystem path _).2.offline = _
      unfold createFilesystem
      split_ifs <;> rfl
    | updateFilesystem path quota =>
      change (a.updateFilesystem path quota).2.offline = _
      unfold updateFilesystem
      cases a.filesystems.find? path <;> cases quota <;> rfl
    | destroyFilesystem path =>
      change (a.destroyFilesystem path _).2.offline = _
      unfold destroyFilesystem
      split_ifs <;> rfl
    | createSnapshot path =>
      change (a.createSnapshot path).2.offline = _
      unfold createSnapshot
      cases Text.splitOnce '@' path.toList with
      | none => rfl
      | some pieces =>
        dsimp only
        split_ifs <;> rfl
    | destroySnapshot path =>
      change (a.destroySnapshot path).2.offline = _
      unfold destroySnapshot
      cases a.snapshots.find? path with
      | none => rfl
      | some snapshot =>
        dsimp only
        split_ifs <;> rfl
    | cloneSnapshot path =>
      change (a.cloneSnapshot path _ _).2.offline = _
      unfold cloneSnapshot
      cases a.snapshots.find? path with
      | none => rfl
      | some snapshot =>
        dsimp only
        split_ifs <;> rfl
    | _ => rfl

end Simulated

/-! ## Racks -/

/-- Whatever appliance is there is filed. -/
def Rack.Filed (rack : Rack) : Prop :=
  ∀ id a, rack id = some a → a.Filed

/-- What a call leaves true of an appliance stays true wherever the call is made. -/
lemma Rack.answer_keeps_of {P : Simulated → Prop} {call : Call}
    (keeps : ∀ a, P a → P (a.step call).2) {rack : Rack} {id : Nat}
    (h : ∃ a, rack id = some a ∧ P a) (appliance : ApplianceRef) :
    ∃ a, (rack.answer appliance call).2 id = some a ∧ P a := by
  obtain ⟨a, ha, hP⟩ := h
  by_cases hid : id = appliance.id
  · subst hid
    rw [answer_of_some ha]
    exact ⟨_, set_self .., keeps a hP⟩
  · rw [answer_of_ne hid]
    exact ⟨a, ha, hP⟩

/-- What every call leaves true of an appliance stays true wherever the appliance is called. -/
lemma Rack.answer_keeps {P : Simulated → Prop} (keeps : ∀ a call, P a → P (a.step call).2)
    {rack : Rack} {id : Nat} (h : ∃ a, rack id = some a ∧ P a) (appliance : ApplianceRef)
    (call : Call) : ∃ a, (rack.answer appliance call).2 id = some a ∧ P a :=
  answer_keeps_of (keeps · call) h appliance

/-- Nobody comes to a rack by a call. -/
lemma Rack.isSome_of_answer {rack : Rack} {appliance : ApplianceRef} {call : Call} {id : Nat}
    (h : ((rack.answer appliance call).2 id).isSome) : (rack id).isSome := by
  by_cases hid : id = appliance.id
  · subst hid
    cases hnone : rack appliance.id with
    | some a => rfl
    | none => simp [answer, hnone] at h
  · rwa [answer_of_ne hid] at h

lemma Rack.Filed.answer {rack : Rack} (h : rack.Filed) (appliance : ApplianceRef) (call : Call) :
    (rack.answer appliance call).2.Filed := by
  intro id b hb
  obtain ⟨a, ha⟩ := Option.isSome_iff_exists.1 (isSome_of_answer (by rw [hb]; rfl))
  obtain ⟨_, hafter, hfiled⟩ := answer_keeps (fun _ call hfiled => hfiled.step call)
    ⟨a, ha, h id a ha⟩ appliance call
  rw [hb] at hafter
  cases hafter
  exact hfiled

/-- What every call keeps is kept by every operation. -/
lemma Operation.exec_keeps (holds : Rack → Prop)
    (keeps : ∀ rack appliance call, holds rack → holds (rack.answer appliance call).2)
    (operation : Operation) (fleet : Fleet) {rack : Rack} (h : holds rack) :
    holds (operation.exec fleet rack).2 :=
  Plan.execAll_keeps keeps (operation.branches fleet) h

lemma Rack.Filed.exec {rack : Rack} (h : rack.Filed) (fleet : Fleet) (operation : Operation) :
    (operation.exec fleet rack).2.Filed :=
  Operation.exec_keeps Rack.Filed (fun _ appliance call hfiled => hfiled.answer appliance call)
    operation fleet h

/-- The only appliance of a backend is there, can be reached, and is filed. -/
structure Backend.StaffedBy (backend : Backend) (rack : Rack) (appliance : ApplianceRef)
    (a : Simulated) : Prop where
  single : backend.appliances = [appliance]
  here : rack appliance.id = some a
  online : a.offline = false
  filed : a.Filed

/-- A backend with one appliance. -/
def Backend.Staffed (backend : Backend) (rack : Rack) : Prop :=
  ∃ appliance a, backend.StaffedBy rack appliance a

namespace Backend

variable {backend : Backend} {rack : Rack} {appliance : ApplianceRef} {a : Simulated}

lemma Staffed.staffedBy (h : backend.Staffed rack) (hmem : appliance ∈ backend.appliances)
    (ha : rack appliance.id = some a) : backend.StaffedBy rack appliance a := by
  obtain ⟨single, b, hsingle, here, online, filed⟩ := h
  obtain rfl : appliance = single := by simpa [hsingle] using hmem
  obtain rfl : b = a := Option.some.inj (here.symm.trans ha)
  exact ⟨hsingle, here, online, filed⟩

lemma Staffed.answer (h : backend.Staffed rack) (appliance : ApplianceRef) (call : Call) :
    backend.Staffed (rack.answer appliance call).2 := by
  obtain ⟨single, a, hsingle, here, online, filed⟩ := h
  have hkeeps : ∀ (a : Simulated) call, a.offline = false ∧ a.Filed →
      (a.step call).2.offline = false ∧ (a.step call).2.Filed :=
    fun a call h => ⟨(a.step_offline call).trans h.1, h.2.step call⟩
  obtain ⟨b, hb, hstill, hfiled⟩ :=
    Rack.answer_keeps hkeeps ⟨a, here, online, filed⟩ appliance call
  exact ⟨single, b, hsingle, hb, hstill, hfiled⟩

end Backend

/-- Each backend has one appliance. -/
def Fleet.Staffed (fleet : Fleet) (rack : Rack) : Prop :=
  ∀ backend ∈ fleet.backends, backend.Staffed rack

/-- No operation takes an appliance away. -/
theorem Fleet.Staffed.exec {fleet : Fleet} {rack : Rack} (h : fleet.Staffed rack)
    (operation : Operation) : fleet.Staffed (operation.exec fleet rack).2 :=
  Operation.exec_keeps fleet.Staffed
    (fun _ appliance call hstaffed backend hmem => (hstaffed backend hmem).answer appliance call)
    operation fleet h

/-! ## Two pools -/

namespace Pools

def appliance (id : Nat) : ApplianceRef := ⟨id, "https://appliance"⟩

def backend (name dataset : String) (id : Nat) : Backend where
  name
  config := { restIp := (appliance id).endpoint, username := "admin", password := "secret",
              defaultDataset := some dataset }
  appliances := [appliance id]
  nonempty := by simp

/-- The appliance with these filesystems. -/
def holding (id : Nat) (filesystems : List (String × Nat)) : Simulated :=
  .ofContents (appliance id).endpoint filesystems []

lemma staffedBy {rack : Rack} {id : Nat} {filesystems : List (String × Nat)}
    (h : rack id = some (holding id filesystems)) (name dataset : String) :
    (backend name dataset id).StaffedBy rack (appliance id) (holding id filesystems) :=
  ⟨rfl, h, rfl, Simulated.filed_ofContents ..⟩

/-- Two backends with a pool each. -/
def fleet : Fleet where
  backends := [backend "one" "pool" 0, backend "other" "pool" 1]

/-- There is a volume in each pool. -/
def rack : Rack
  | 0 => some (holding 0 [("pool", 0), ("pool/v", 5)])
  | 1 => some (holding 1 [("pool", 0), ("pool/v", 6)])
  | _ => none

lemma staffed : fleet.Staffed rack := by
  intro backend hmem
  rcases List.mem_cons.1 hmem with rfl | hmem
  · exact ⟨_, _, staffedBy rfl ..⟩
  · obtain rfl := List.mem_singleton.1 hmem
    exact ⟨_, _, staffedBy rfl ..⟩

/-- A backend whose default dataset is the empty path. -/
def nameless : Fleet where
  backends := [backend "one" "" 0]

def namelessRack : Rack
  | 0 => some (holding 0 [("", 1), ("/v", 2)])
  | _ => none

lemma staffed_nameless : nameless.Staffed namelessRack := by
  intro backend hmem
  obtain rfl := List.mem_singleton.1 hmem
  exact ⟨_, _, staffedBy rfl ..⟩

end Pools
end StorageFleet
