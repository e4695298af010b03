import StorageFleet.Proofs.Identifier.Codec
import StorageFleet.Proofs.Rack.Removal
import StorageFleet.Proofs.Rack.Rooting
import StorageFleet.Proofs.Volume.Effects

/-!
# What a deletion takes away

A deletion takes one filesystem away, with its snapshots and its shares, and leaves everything else
as it is: `Simulated.Cleared`.  The appliance removes every snapshot whose path begins with the path
of the filesystem and an at sign.  That this takes neither too many nor too few rests on two facts.
On a filed appliance the path of a snapshot is cut at its first at sign into its filesystem and its
name, and there is no at sign in the path of a volume that an identifier can be read as.  So the
beginning that is looked for ends at this first at sign (`isSnapshotPath_iff`); what merely begins
alike, as `pool/v-2` does with `pool/v`, is not touched.

Which appliance is cleared is said by `Fleet.Addresses`: that of the named backend, or without a
name that of the first backend, in configured order, which has the path.  If there is none, nothing is
changed (`deleteVolume_clears`).

All this is said of the racks that operations can bring about (`Rack.Reached`), with one appliance
on line for each backend: the appliances stay on line and filed (`Fleet.Staffed.reached`).
-/

namespace StorageFleet

variable {fleet : Fleet} {start rack : Rack} {backend : Backend} {appliance : ApplianceRef}
  {a b : Simulated} {id path key : String} {identifier : Identifier}

/-! ## The appliance -/

namespace Simulated

/-- The second appliance is the first without a filesystem, its snapshots and its shares. -/
structure Cleared (path : String) (a b : Simulated) : Prop where
  filesystem_gone : b.filesystems.find? path = none
  filesystems : ∀ other, other ≠ path → b.filesystems.find? other = a.filesystems.find? other
  snapshots_gone : ∀ key snapshot, a.snapshots.find? key = some snapshot →
    snapshot.parent = path → b.snapshots.find? key = none
  snapshots : ∀ key, (∀ snapshot, a.snapshots.find? key = some snapshot →
    snapshot.parent ≠ path) → b.snapshots.find? key = a.snapshots.find? key
  nfsShare_gone : b.nfsShares.find? path = none
  nfsShares : ∀ other, other ≠ path → b.nfsShares.find? other = a.nfsShares.find? other
  smbShare_gone : b.smbShares.find? path = none
  smbShares : ∀ other, other ≠ path → b.smbShares.find? other = a.smbShares.find? other
  /-- Whatever else there is of the appliance is the same. -/
  rest : { b with filesystems := a.filesystems, snapshots := a.snapshots, nfsShares := a.nfsShares,
                  smbShares := a.smbShares } = a

/-- On a filed appliance the path of a snapshot begins like those of a filesystem just if it is one
of its snapshots. -/
lemma isSnapshotPath_iff (filed : a.Filed) (hunmarked : '@' ∉ path.toList) {snapshot : Snapshot}
    (h : a.snapshots.find? key = some snapshot) :
    isSnapshotPath path key = true ↔ snapshot.parent = path := by
  obtain ⟨hkey, hparent⟩ := Text.splitOnce_eq_some_iff.1 (filed.snapshots key snapshot h).cut
  rw [isSnapshotPath, Text.startsWith, List.isPrefixOf_iff_prefix]
  constructor
  · rintro ⟨rest, hrest⟩
    have hcut : Text.splitOnce '@' key.toList = some (path.toList, rest) :=
      Text.splitOnce_eq_some_iff.2 ⟨by simp [← hrest], hunmarked⟩
    rw [(filed.snapshots key snapshot h).cut] at hcut
    exact String.toList_inj.1 (Prod.mk.inj (Option.some.inj hcut)).1
  · rintro rfl
    exact ⟨snapshot.name.toList, by simp [hkey]⟩

/-- What destroying a filesystem with its snapshots makes of an appliance that has it. -/
lemma cleared_destroy (filed : a.Filed) (online : a.offline = false)
    (hunmarked : '@' ∉ path.toList) (hthere : a.filesystems.contains path = true) :
    a.Cleared path (a.step (.destroyFilesystem path true true)).2 := by
  have hstep : (a.step (.destroyFilesystem path true true)).2 = { a with
      snapshots := a.snapshots.eraseWhere (isSnapshotPath path)
      filesystems := a.filesystems.erase path
      nfsShares := a.nfsShares.erase path
      smbShares := a.smbShares.erase path } := by
    simp [step, online, answer, destroyFilesystem, hthere]
  have herased {α : Type} (table : Catalog α) : (table.erase path).find? path = none := by
    rw [Catalog.find?_erase, if_pos rfl]
  have hothers {α : Type} (table : Catalog α) (other : String) (hne : other ≠ path) :
      (table.erase path).find? other = table.find? other := by
    rw [Catalog.find?_erase, if_neg hne]
  rw [hstep]
  refine ⟨herased _, hothers _, fun key snapshot hfound hparent => ?_, fun key hparent => ?_,
    herased _, hothers _, herased _, hothers _, rfl⟩
  · rw [Catalog.find?_eraseWhere, if_pos ((isSnapshotPath_iff filed hunmarked hfound).2 hparent)]
  · rw [Catalog.find?_eraseWhere]
    cases hfound : a.snapshots.find? key with
    | none => exact ite_self none
    | some snapshot =>
      have hkept : ¬ isSnapshotPath path key = true := fun h =>
        hparent snapshot hfound ((isSnapshotPath_iff filed hunmarked hfound).1 h)
      rw [if_neg hkept]

end Simulated

/-! ## The appliance that is addressed -/

/-- The backend has the path, on this appliance. -/
structure Backend.HoldsAt (backend : Backend) (rack : Rack) (path : String)
    (appliance : ApplianceRef) (a : Simulated) : Prop where
  appliance_mem : appliance ∈ backend.appliances
  here : rack appliance.id = some a
  contains : a.filesystems.contains path = true

/-- The path of an identifier is held by this appliance: on the backend that the identifier names,
or, if it names none, on the first backend in configured order that holds the path. -/
inductive Fleet.Addresses (fleet : Fleet) (rack : Rack) (identifier : Identifier)
    (appliance : ApplianceRef) (a : Simulated) : Prop where
  | named (name : String) (backend : Backend) (hname : identifier.backend = some name)
      (hfind : fleet.find? name = some backend)
      (holds : backend.HoldsAt rack identifier.path appliance a)
  | first (before after : List Backend) (backend : Backend) (hname : identifier.backend = none)
      (split : fleet.backends = before ++ backend :: after)
      (holds : backend.HoldsAt rack identifier.path appliance a)
      (earlier : ∀ other ∈ before, ∀ appliance a,
        ¬ other.HoldsAt rack identifier.path appliance a)

namespace Backend

/-- Of a staffed backend a path is asked for where it is held. -/
lemma Staffed.find?_eq_some_iff (h : backend.Staffed rack) :
    backend.appliances.find? (rack.has path) = some appliance ↔
      ∃ a, backend.HoldsAt rack path appliance a := by
  obtain ⟨single, b, hsingle, here, online, -⟩ := h
  have hhas : rack.has path single = true ↔ b.filesystems.contains path = true := by
    rw [Rack.has_iff, here]
    simp [online]
  rw [hsingle, List.find?_singleton]
  constructor
  · intro hfound
    split_ifs at hfound with hhere
    obtain rfl := Option.some.inj hfound
    exact ⟨b, by simp [hsingle], here, hhas.1 hhere⟩
  · rintro ⟨a, hmem, ha, hcontains⟩
    obtain rfl : appliance = single := by simpa [hsingle] using hmem
    obtain rfl : b = a := Option.some.inj (here.symm.trans ha)
    rw [if_pos (hhas.2 hcontains)]

lemma Staffed.find?_eq_none_iff (h : backend.Staffed rack) :
    backend.appliances.find? (rack.has path) = none ↔
      ∀ appliance a, ¬ backend.HoldsAt rack path appliance a := by
  rw [Option.eq_none_iff_forall_ne_some]
  simp only [ne_eq, h.find?_eq_some_iff, not_exists]

end Backend

namespace Fleet

/-- No operation takes an appliance off line or out of order. -/
lemma Staffed.reached (h : fleet.Staffed start) (hreached : start.Reached rack) :
    fleet.Staffed rack := by
  have hkeeps : ∀ (a : Simulated) (call : Call), call.Harmless ∨ call.Titled →
      a.offline = false ∧ a.Filed → (a.step call).2.offline = false ∧ (a.step call).2.Filed :=
    fun a call _ h => ⟨(a.step_offline call).trans h.1, h.2.step call⟩
  intro backend hmem
  obtain ⟨appliance, a, single, here, online, filed⟩ := h backend hmem
  obtain ⟨b, hb, hstill, hfiled⟩ := hreached.keeps hkeeps ⟨a, here, online, filed⟩
  exact ⟨appliance, b, single, hb, hstill, hfiled⟩

lemma addresses_iff_of_named {name : String} (hname : identifier.backend = some name) :
    fleet.Addresses rack identifier appliance a ↔ ∃ backend, fleet.find? name = some backend ∧
      backend.HoldsAt rack identifier.path appliance a := by
  constructor
  · rintro (⟨other, backend, hother, hfind, holds⟩ | ⟨_, _, _, hnone, -⟩)
    · obtain rfl : name = other := Option.some.inj (hname.symm.trans hother)
      exact ⟨backend, hfind, holds⟩
    · rw [hname] at hnone
      cases hnone
  · rintro ⟨backend, hfind, holds⟩
    exact .named name backend hname hfind holds

lemma addresses_iff_of_unnamed (hname : identifier.backend = none) :
    fleet.Addresses rack identifier appliance a ↔ ∃ before backend after,
      fleet.backends = before ++ backend :: after ∧
      backend.HoldsAt rack identifier.path appliance a ∧
      ∀ other ∈ before, ∀ appliance a, ¬ other.HoldsAt rack identifier.path appliance a := by
  constructor
  · rintro (⟨_, _, hsome, -⟩ | ⟨before, after, backend, -, split, holds, earlier⟩)
    · rw [hname] at hsome
      cases hsome
    · exact ⟨before, backend, after, split, holds, earlier⟩
  · rintro ⟨before, backend, after, split, holds, earlier⟩
    exact .first before after backend hname split holds earlier

/-- Among the appliances that an identifier may mean, the path is found on the one that is
addressed. -/
lemma Staffed.find?_addressed_iff (staffed : fleet.Staffed rack)
    (hlegible : identifier.Legible) :
    (fleet.addressed identifier).find? (rack.has identifier.path) = some appliance ↔
      ∃ a, fleet.Addresses rack identifier appliance a := by
  cases hname : identifier.backend with
  | some name =>
    have hne := (hlegible.named name hname).1
    simp only [addressed, hname, candidates_named hne, addresses_iff_of_named hname]
    cases hfind : fleet.find? name with
    | none => simp
    | some backend =>
      have hstaffed := staffed backend (List.mem_of_find?_eq_some hfind)
      simp [hstaffed.find?_eq_some_iff]
  | none =>
    have hall : fleet.candidates none none = fleet.backends :=
      List.filter_eq_self.2 fun _ _ => rfl
    simp only [addressed, hname, hall, List.find?_flatMap, List.findSome?_eq_some_iff,
      addresses_iff_of_unnamed hname]
    constructor
    · rintro ⟨before, backend, after, split, hfound, hearlier⟩
      have hstaffed := staffed backend (by simp [split])
      obtain ⟨a, holds⟩ := hstaffed.find?_eq_some_iff.1 hfound
      refine ⟨a, before, backend, after, split, holds, fun other hother => ?_⟩
      exact (staffed other (by simp [split, hother])).find?_eq_none_iff.1 (hearlier other hother)
    · rintro ⟨a, before, backend, after, split, holds, hearlier⟩
      have hstaffed := staffed backend (by simp [split])
      refine ⟨before, backend, after, split, hstaffed.find?_eq_some_iff.2 ⟨a, holds⟩, ?_⟩
      intro other hother
      exact (staffed other (by simp [split, hother])).find?_eq_none_iff.2 (hearlier other hother)

lemma Addresses.exists_holdsAt (h : fleet.Addresses rack identifier appliance a) :
    ∃ backend ∈ fleet.backends, backend.HoldsAt rack identifier.path appliance a := by
  cases h with
  | named name backend hname hfind holds =>
    exact ⟨backend, List.mem_of_find?_eq_some hfind, holds⟩
  | first before after backend hname split holds hearlier =>
    exact ⟨backend, by simp [split], holds⟩

/-- The appliance that is addressed is cleared of the path. -/
lemma Staffed.withoutFirst_of_addresses (staffed : fleet.Staffed rack)
    (hlegible : identifier.Legible) (h : fleet.Addresses rack identifier appliance a) :
    ∃ b, rack.withoutFirst identifier.path (fleet.addressed identifier) =
      rack.set appliance.id b ∧ a.Cleared identifier.path b := by
  obtain ⟨backend, hmem, holds⟩ := h.exists_holdsAt
  have hstaffed := (staffed backend hmem).staffedBy holds.appliance_mem holds.here
  refine ⟨(a.step (.destroyFilesystem identifier.path true true)).2, ?_,
    Simulated.cleared_destroy hstaffed.filed hstaffed.online hlegible.divisible.unmarked
      holds.contains⟩
  rw [Rack.withoutFirst, (staffed.find?_addressed_iff hlegible).2 ⟨a, h⟩]
  exact congrArg Prod.snd (Rack.answer_of_some holds.here)

/-- Where nobody is addressed nothing is removed. -/
lemma Staffed.withoutFirst_of_unheld (staffed : fleet.Staffed rack)
    (hlegible : identifier.Legible)
    (h : ∀ appliance a, ¬ fleet.Addresses rack identifier appliance a) :
    rack.withoutFirst identifier.path (fleet.addressed identifier) = rack := by
  have hnone : (fleet.addressed identifier).find? (rack.has identifier.path) = none := by
    rw [Option.eq_none_iff_forall_ne_some]
    intro appliance hfound
    obtain ⟨a, haddressed⟩ := (staffed.find?_addressed_iff hlegible).1 hfound
    exact h appliance a haddressed
  rw [Rack.withoutFirst, hnone]

/-- A text that names no volume is not asked about. -/
lemma deleteVolume_asksNothing (fleet : Fleet)
    (hid : ∀ identifier, Identifier.decodeVolume id ≠ .ok identifier) :
    (fleet.deleteVolume id).run.Asks fun _ _ => False := by
  unfold deleteVolume
  cases hread : volumeId id with
  | error fault => trivial
  | ok identifier => exact absurd (volumeId_eq_ok_iff.1 hread) (hid identifier)

end Fleet

/-! ## The result -/

/-- **What a deletion does**, wherever operations have got, with one appliance on line for each
backend.  It is reported as done.  A text that names no volume is not asked about.  If the path that
it names is held, the appliance that is addressed is cleared of the path, and everything else is as
it was; if not, so is everything. -/
theorem deleteVolume_clears (fleet : Fleet) (somebody : fleet.backends ≠ []) (start rack : Rack)
    (staffed : fleet.Staffed start) (reached : start.Reached rack) (id : String) :
    ((Operation.deleteVolume id).exec fleet rack).1 = .ok () ∧
    ((∀ identifier, Identifier.decodeVolume id ≠ .ok identifier) →
      ((fleet.deleteVolume id).run.Asks fun _ _ => False) ∧
      ((Operation.deleteVolume id).exec fleet rack).2 = rack) ∧
    ∀ identifier, Identifier.decodeVolume id = .ok identifier →
      (∀ appliance a, fleet.Addresses rack identifier appliance a →
        ∃ b, ((Operation.deleteVolume id).exec fleet rack).2 = rack.set appliance.id b ∧
          a.Cleared identifier.path b) ∧
      ((∀ appliance a, ¬ fleet.Addresses rack identifier appliance a) →
        ((Operation.deleteVolume id).exec fleet rack).2 = rack) := by
  have hstaffed := staffed.reached reached
  have hnobody (hid : ∀ identifier, Identifier.decodeVolume id ≠ .ok identifier) :
      (Operation.deleteVolume id).exec fleet rack = (.ok (), rack) := by
    cases hread : Fleet.volumeId id with
    | error fault => exact Fleet.deleteVolume_of_error hread rack
    | ok identifier => exact absurd (Fleet.volumeId_eq_ok_iff.1 hread) (hid identifier)
  have hasked (identifier : Identifier) (hid : Identifier.decodeVolume id = .ok identifier) :
      (Operation.deleteVolume id).exec fleet rack =
        (.ok (), rack.withoutFirst identifier.path (fleet.addressed identifier)) :=
    Fleet.deleteVolume_exec_of_asked (Fleet.volumeId_eq_ok_iff.2 hid)
      (fun h => somebody h.2) rack
  refine ⟨?_, fun hid => ⟨fleet.deleteVolume_asksNothing hid, by rw [hnobody hid]⟩,
    fun identifier hid => ?_⟩
  · by_cases hid : ∃ identifier, Identifier.decodeVolume id = .ok identifier
    · obtain ⟨identifier, hid⟩ := hid
      rw [hasked identifier hid]
    · rw [hnobody (by simpa using hid)]
  · have hlegible : identifier.Legible :=
      (Identifier.decode_eq_ok_iff.1 (Identifier.decodeVolume_eq_ok_iff.1 hid).1).1
    rw [hasked identifier hid]
    exact ⟨fun appliance a h => hstaffed.withoutFirst_of_addresses hlegible h,
      fun h => hstaffed.withoutFirst_of_unheld hlegible h⟩

/-- A volume beside another whose path begins alike. -/
def Pools.neighbours : Rack
  | 0 => some (holding 0 [("pool", 0), ("pool/v", 5), ("pool/v-2", 5), ("pool/v/w", 5)])
  | 1 => some (holding 1 [("pool", 0), ("pool/v", 6)])
  | _ => none

/-- An identifier without a backend means the volume of the first backend; what begins like its path
stays, and so does the volume of the other backend. -/
theorem deleteVolume_clears_first :
    Pools.fleet.backends ≠ [] ∧ Pools.fleet.Staffed Pools.neighbours ∧
    Pools.neighbours.Reached Pools.neighbours ∧
    ∃ b, ((Operation.deleteVolume "pool/v").exec Pools.fleet Pools.neighbours).2 =
        Pools.neighbours.set 0 b ∧
      b.filesystems.find? "pool/v" = none ∧ b.filesystems.contains "pool/v-2" = true ∧
      b.filesystems.contains "pool/v/w" = true := by
  have staffed : Pools.fleet.Staffed Pools.neighbours := by
    intro backend hmem
    rcases List.mem_cons.1 hmem with rfl | hmem
    · exact ⟨_, _, Pools.staffedBy rfl ..⟩
    · obtain rfl := List.mem_singleton.1 hmem
      exact ⟨_, _, Pools.staffedBy rfl ..⟩
  have somebody : Pools.fleet.backends ≠ [] := by simp [Pools.fleet]
  have reached : Pools.neighbours.Reached Pools.neighbours := .refl
  refine ⟨somebody, staffed, reached, ?_⟩
  obtain ⟨-, -, hclears⟩ := deleteVolume_clears Pools.fleet somebody Pools.neighbours
    Pools.neighbours staffed reached "pool/v"
  obtain ⟨hclears, -⟩ := hclears ⟨none, "pool/v", none⟩ rfl
  have haddressed : Pools.fleet.Addresses Pools.neighbours ⟨none, "pool/v", none⟩
      (Pools.appliance 0) (Pools.holding 0
        [("pool", 0), ("pool/v", 5), ("pool/v-2", 5), ("pool/v/w", 5)]) :=
    .first [] _ _ rfl rfl ⟨by simp [Pools.backend], rfl, rfl⟩ (by simp)
  obtain ⟨b, hb, hcleared⟩ := hclears _ _ haddressed
  refine ⟨b, hb, hcleared.filesystem_gone, ?_, ?_⟩
  · rw [Catalog.contains, hcleared.filesystems "pool/v-2" (by decide)]
    rfl
  · rw [Catalog.contains, hcleared.filesystems "pool/v/w" (by decide)]
    rfl

end StorageFleet
