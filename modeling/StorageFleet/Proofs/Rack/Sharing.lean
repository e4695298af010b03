import StorageFleet.Proofs.Rack.Rooting

/-!
# Shares and what is said of them

An appliance notes at each filesystem whether it is shared over NFS or over SMB, and keeps the
shares themselves in tables of their own.  Nothing in an appliance ties the two together: a call
that deletes a share leaves the note.  No operation makes such a call, and none asks for an SMB
share under a name of its own choice (`Operation.asks_keepsShares`).  So wherever operations get
from appliances without shares, what is noted as shared is shared, and under the name that the
appliance gives (`Rack.Reached.flagged`).
-/

namespace StorageFleet

/-! ## The appliance -/

/-- The call takes no share away from a filesystem that stays, and leaves the names of SMB shares to
the appliance. -/
def Call.KeepsShares : Call → Prop
  | .deleteNfsShare _ | .deleteSmbShare _ => False
  | .createSmbShare _ name => name = none
  | _ => True

namespace Simulated

/-- What is noted as shared is shared, and SMB shares have the names that the appliance gives. -/
structure Flagged (a : Simulated) : Prop where
  nfs : a.filesystems.Each fun path fs => fs.sharedOverNfs = true →
    a.nfsShares.contains path = true
  smb : a.filesystems.Each fun path fs => fs.sharedOverSmb = true →
    a.smbShares.contains path = true
  named : a.smbShares.Each fun path name => name = defaultShareName path

variable {a b : Simulated} {path : String} {quota : Option Nat} {call : Call}

/-- Shares are only added, and each filesystem is noted as it was before or as not shared. -/
lemma Flagged.of_notes (h : a.Flagged)
    (notes : b.filesystems.Each fun path fs =>
      (fs.sharedOverNfs = false ∧ fs.sharedOverSmb = false) ∨ ∃ old,
        a.filesystems.find? path = some old ∧ fs.sharedOverNfs = old.sharedOverNfs ∧
          fs.sharedOverSmb = old.sharedOverSmb)
    (hnfs : b.nfsShares = a.nfsShares) (hsmb : b.smbShares = a.smbShares) : b.Flagged := by
  refine ⟨fun key fs hfound hshared => ?_, fun key fs hfound hshared => ?_, hsmb ▸ h.named⟩
  · rcases notes key fs hfound with ⟨hnot, -⟩ | ⟨old, hold, hsame, -⟩
    · rw [hnot] at hshared
      cases hshared
    · rw [hnfs]
      exact h.nfs key old hold (hsame ▸ hshared)
  · rcases notes key fs hfound with ⟨-, hnot⟩ | ⟨old, hold, -, hsame⟩
    · rw [hnot] at hshared
      cases hshared
    · rw [hsmb]
      exact h.smb key old hold (hsame ▸ hshared)

lemma Flagged.addFilesystem (h : a.Flagged) : (a.addFilesystem path quota).Flagged := by
  refine h.of_notes (fun key fs hfound => ?_) rfl rfl
  rw [Simulated.addFilesystem, Catalog.find?_insert] at hfound
  split_ifs at hfound
  · cases hfound
    exact .inl ⟨rfl, rfl⟩
  · exact .inr ⟨fs, hfound, rfl, rfl⟩

/-- Where the tables are the same it does not matter what else there is. -/
lemma Flagged.of_same (h : a.Flagged) (hfs : b.filesystems = a.filesystems)
    (hnfs : b.nfsShares = a.nfsShares) (hsmb : b.smbShares = a.smbShares) : b.Flagged :=
  h.of_notes (fun _ fs hfound => .inr ⟨fs, hfs ▸ hfound, rfl, rfl⟩) hnfs hsmb

lemma Flagged.updateFilesystem (h : a.Flagged) : (a.updateFilesystem path quota).2.Flagged := by
  unfold Simulated.updateFilesystem
  cases hthere : a.filesystems.find? path with
  | none => exact h
  | some old =>
    cases quota with
    | none => exact h
    | some quota =>
      refine h.of_notes (fun key fs hfound => .inr ?_) rfl rfl
      dsimp only at hfound
      rw [Catalog.find?_insert] at hfound
      split_ifs at hfound with hkey
      · cases hfound
        exact ⟨old, hkey ▸ hthere, rfl, rfl⟩
      · exact ⟨fs, hfound, rfl, rfl⟩

lemma Flagged.destroyFilesystem (h : a.Flagged) {withSnapshots : Bool} :
    (a.destroyFilesystem path withSnapshots).2.Flagged := by
  unfold Simulated.destroyFilesystem
  split_ifs
  · exact h
  · exact h
  · have hkept {α : Type} (table : Catalog α) {key : String} (hkey : key ≠ path) :
        (table.erase path).contains key = table.contains key := by
      rw [Catalog.contains, Catalog.find?_erase, if_neg hkey, Catalog.contains]
    have hother {key : String} {fs : Filesystem}
        (hfound : (a.filesystems.erase path).find? key = some fs) :
        key ≠ path ∧ a.filesystems.find? key = some fs := by
      rw [Catalog.find?_erase] at hfound
      split_ifs at hfound with hkey
      exact ⟨hkey, hfound⟩
    refine ⟨fun key fs hfound hshared => ?_, fun key fs hfound hshared => ?_, h.named.eraseWhere _⟩
    · obtain ⟨hkey, hold⟩ := hother hfound
      exact (hkept a.nfsShares hkey).trans (h.nfs key fs hold hshared)
    · obtain ⟨hkey, hold⟩ := hother hfound
      exact (hkept a.smbShares hkey).trans (h.smb key fs hold hshared)

lemma Flagged.createNfsShare (h : a.Flagged) : (a.createNfsShare path).Flagged := by
  refine ⟨fun key fs hfound hshared => ?_, fun key fs hfound hshared => ?_, h.named⟩
  · dsimp only [Simulated.createNfsShare] at hfound ⊢
    rw [contains_insert]
    rw [Catalog.find?_adjust] at hfound
    split_ifs at hfound with hkey
    · exact .inl hkey
    · exact .inr (h.nfs key fs hfound hshared)
  · dsimp only [Simulated.createNfsShare] at hfound ⊢
    rw [Catalog.find?_adjust] at hfound
    split_ifs at hfound with hkey
    · obtain ⟨old, hold, rfl⟩ := Option.map_eq_some_iff.1 hfound
      exact h.smb key old hold hshared
    · exact h.smb key fs hfound hshared

lemma Flagged.createSmbShare (h : a.Flagged) : (a.createSmbShare path none).Flagged := by
  refine ⟨fun key fs hfound hshared => ?_, fun key fs hfound hshared => ?_, h.named.insert rfl⟩
  · dsimp only [Simulated.createSmbShare] at hfound ⊢
    rw [Catalog.find?_adjust] at hfound
    split_ifs at hfound with hkey
    · obtain ⟨old, hold, rfl⟩ := Option.map_eq_some_iff.1 hfound
      exact h.nfs key old hold hshared
    · exact h.nfs key fs hfound hshared
  · dsimp only [Simulated.createSmbShare] at hfound ⊢
    rw [contains_insert]
    rw [Catalog.find?_adjust] at hfound
    split_ifs at hfound with hkey
    · exact .inl hkey
    · exact .inr (h.smb key fs hfound hshared)

lemma Flagged.cloneSnapshot (h : a.Flagged) {target : String} :
    (a.cloneSnapshot path target quota).2.Flagged := by
  unfold Simulated.cloneSnapshot
  cases a.snapshots.find? path with
  | none => exact h
  | some snapshot =>
    dsimp only
    split_ifs
    · exact h
    · exact h.addFilesystem.of_same rfl rfl rfl

/-- Such calls keep the notes right. -/
theorem Flagged.step (h : a.Flagged) (hcall : call.KeepsShares) : (a.step call).2.Flagged := by
  unfold Simulated.step
  split_ifs
  · exact h
  · cases call with
    | createFilesystem path quota =>
      change (a.createFilesystem path quota).2.Flagged
      unfold Simulated.createFilesystem
      split_ifs
      · exact h
      · exact h.addFilesystem
    | updateFilesystem => exact h.updateFilesystem
    | destroyFilesystem => exact h.destroyFilesystem
    | createNfsShare => exact h.createNfsShare
    | createSmbShare path name =>
      obtain rfl : name = none := hcall
      exact h.createSmbShare
    | createSnapshot path =>
      change (a.createSnapshot path).2.Flagged
      unfold Simulated.createSnapshot
      cases Text.splitOnce '@' path.toList with
      | none => exact h
      | some pieces =>
        dsimp only
        split_ifs <;> exact h.of_same rfl rfl rfl
    | destroySnapshot path =>
      change (a.destroySnapshot path).2.Flagged
      unfold Simulated.destroySnapshot
      cases a.snapshots.find? path with
      | none => exact h
      | some snapshot =>
        dsimp only
        split_ifs <;> exact h.of_same rfl rfl rfl
    | cloneSnapshot => exact h.cloneSnapshot
    | setAccess => exact h.of_same rfl rfl rfl
    | deleteNfsShare | deleteSmbShare => exact hcall.elim
    | _ => exact h

/-- An appliance with nothing but filesystems. -/
lemma flagged_ofContents (endpoint : String) (filesystems : List (String × Nat))
    (clusters : List String) : (ofContents endpoint filesystems clusters).Flagged := by
  have hfold : ∀ table : Catalog Filesystem,
      (table.Each fun _ fs => fs.sharedOverNfs = false ∧ fs.sharedOverSmb = false) →
      (filesystems.foldl (fun table entry => table.insert entry.1
        { path := entry.1, mountPoint := "/" ++ entry.1,
          bytesAvailable := 10 * max entry.2 1, quota := entry.2 }) table).Each
        fun _ fs => fs.sharedOverNfs = false ∧ fs.sharedOverSmb = false := by
    induction filesystems with
    | nil => exact fun table h => h
    | cons entry rest ih => exact fun table h => ih _ (h.insert ⟨rfl, rfl⟩)
  have hnotes := hfold .empty (Catalog.each_empty _)
  refine ⟨fun key fs hfound hshared => ?_, fun key fs hfound hshared => ?_, Catalog.each_empty _⟩
  · rw [(hnotes key fs hfound).1] at hshared
    cases hshared
  · rw [(hnotes key fs hfound).2] at hshared
    cases hshared

end Simulated

/-! ## Operations -/

namespace Fleet

variable (fleet : Fleet)

lemma asks_select (name zone path : Option String) :
    (fleet.select name zone path).run.Asks fun _ call => call.KeepsShares := by
  refine (fleet.ensures_select name zone path).mono (fun _ call h => ?_) fun _ _ => trivial
  obtain ⟨-, path, rfl⟩ := h
  trivial

lemma asks_resolveExisting (identifier : Identifier) :
    (fleet.resolveExisting identifier).run.Asks fun _ call => call.KeepsShares := by
  refine Attempt.asks_outcome_bind (fleet.asks_select _ _ _) fun outcome => ?_
  cases outcome with
  | ok resolution => trivial
  | error fault =>
    dsimp only
    split_ifs <;> trivial

lemma asks_placeClone (resolution : Resolution) (snapshot path : String)
    (request : CreateVolumeRequest) :
    (placeClone resolution snapshot path request).run.Asks fun _ call => call.KeepsShares :=
  Attempt.asks_outcome_bind (Attempt.asks_ask trivial) fun _ => trivial

lemma asks_place (request : CreateVolumeRequest) :
    (fleet.place request).run.Asks fun _ call => call.KeepsShares := by
  unfold place
  split
  · refine Attempt.asks_bind (fleet.asks_select _ _ _) fun resolution => ?_
    exact Attempt.asks_outcome_bind (Attempt.asks_ask trivial) fun _ => trivial
  · refine asks_ofExcept_bind fun source => ?_
    refine Attempt.asks_bind (fleet.asks_select _ _ _) fun resolution => ?_
    exact asks_ofExcept_bind fun path => asks_placeClone _ _ _ _
  · refine asks_ofExcept_bind fun source => ?_
    refine Attempt.asks_bind (fleet.asks_select _ _ _) fun resolution => ?_
    refine asks_ofExcept_bind fun path => ?_
    refine Attempt.asks_outcome_bind (Attempt.asks_ask trivial) fun taken => ?_
    exact asks_ofExcept_bind fun _ => asks_placeClone _ _ _ _

lemma asks_createVolume (request : CreateVolumeRequest) :
    (fleet.createVolume request).run.Asks fun _ call => call.KeepsShares := by
  unfold createVolume
  split_ifs
  · trivial
  · refine Attempt.asks_bind (fleet.asks_place request) fun placement => ?_
    refine Attempt.asks_bind ?_ fun size => trivial
    unfold placedSize
    split
    · trivial
    · split
      · refine Attempt.asks_bind (Attempt.asks_ask trivial) fun existing => ?_
        split <;> trivial
      · trivial

lemma asks_deleteVolume (id : String) :
    (fleet.deleteVolume id).run.Asks fun _ call => call.KeepsShares := by
  unfold deleteVolume
  split
  · trivial
  · refine Attempt.asks_bind (fleet.asks_resolveExisting _) fun found => ?_
    cases found with
    | none => trivial
    | some resolution =>
      refine Attempt.asks_outcome_bind (Attempt.asks_ask trivial) fun outcome => ?_
      unfold volumeDestroyed
      split
      · trivial
      · split_ifs <;> trivial

lemma asks_expandVolume (id : String) (capacity : Nat) :
    (fleet.expandVolume id capacity).run.Asks fun _ call => call.KeepsShares := by
  unfold expandVolume
  split_ifs
  · trivial
  · refine asks_ofExcept_bind fun identifier => ?_
    refine Attempt.asks_bind (fleet.asks_select _ _ _) fun resolution => ?_
    exact Attempt.asks_bind (Attempt.asks_ask trivial) fun _ => trivial

lemma asks_share (resolution : Resolution) (fs : Filesystem) (mount : MountType)
    (address : String) :
    (share resolution fs mount address).run.Asks fun _ call => call.KeepsShares := by
  unfold share
  split
  · split_ifs
    · refine Attempt.asks_outcome_bind (Attempt.asks_ask trivial) fun outcome => ?_
      exact asks_ofExcept_bind fun _ => trivial
    · trivial
  · split_ifs
    · refine Attempt.asks_outcome_bind (Attempt.asks_ask rfl) fun outcome => ?_
      refine asks_ofExcept_bind fun _ => ?_
      exact Attempt.asks_bind (Attempt.asks_ask trivial) fun _ => trivial
    · exact Attempt.asks_bind (Attempt.asks_ask trivial) fun _ => trivial

lemma asks_prepareShare (id : String) (mount : Option MountType) (address : Option String) :
    (fleet.prepareShare id mount address).run.Asks fun _ call => call.KeepsShares := by
  refine asks_ofExcept_bind fun identifier => ?_
  refine Attempt.asks_bind (fleet.asks_select _ _ _) fun resolution => ?_
  refine asks_ofExcept_bind fun address => ?_
  refine Attempt.asks_bind (Attempt.asks_ask trivial) fun fs => ?_
  refine Attempt.asks_bind (asks_share _ _ _ _) fun source => ?_
  exact Attempt.asks_bind (Attempt.asks_ask trivial) fun _ => trivial

lemma asks_createSnapshot (id name : String) :
    (fleet.createSnapshot id name).run.Asks fun _ call => call.KeepsShares := by
  unfold createSnapshot
  split_ifs
  · trivial
  · refine asks_ofExcept_bind fun identifier => ?_
    refine Attempt.asks_bind (fleet.asks_select _ _ _) fun resolution => ?_
    refine Attempt.asks_outcome_bind (Attempt.asks_ask trivial) fun taken => ?_
    refine asks_ofExcept_bind fun _ => ?_
    exact Attempt.asks_bind (Attempt.asks_ask trivial) fun _ => trivial

lemma asks_deleteSnapshot (id : String) :
    (fleet.deleteSnapshot id).run.Asks fun _ call => call.KeepsShares := by
  unfold deleteSnapshot
  split
  · trivial
  · refine Attempt.asks_bind (fleet.asks_resolveExisting _) fun found => ?_
    cases found with
    | none => trivial
    | some resolution =>
      refine Attempt.asks_outcome_bind (Attempt.asks_ask trivial) fun outcome => ?_
      unfold snapshotDestroyed
      split
      · trivial
      · split_ifs <;> trivial

end Fleet

/-- What an operation asks for keeps shares, unless it changes nothing at all. -/
theorem Operation.asks_keepsShares {operation : Operation} {fleet : Fleet}
    {branch : Plan operation.Part} (hmem : branch ∈ operation.branches fleet) :
    branch.Asks fun _ call => call.Harmless ∨ call.KeepsShares := by
  have hkeeps {α : Type} {plan : Plan α} (h : plan.Asks fun _ call => call.KeepsShares) :
      plan.Asks fun _ call => call.Harmless ∨ call.KeepsShares :=
    h.mono (fun _ _ hcall => .inr hcall) fun _ _ => trivial
  cases hlook : operation.isLook with
  | true => exact (asks hmem).mono (fun _ _ h => .inl (h.2 hlook)) fun _ h => h
  | false =>
    cases operation with
    | createVolume request =>
      obtain rfl := List.mem_singleton.1 hmem
      exact hkeeps (fleet.asks_createVolume request)
    | deleteVolume id =>
      obtain rfl := List.mem_singleton.1 hmem
      exact hkeeps (fleet.asks_deleteVolume id)
    | expandVolume id capacity =>
      obtain rfl := List.mem_singleton.1 hmem
      exact hkeeps (fleet.asks_expandVolume id capacity)
    | prepareShare id mount address =>
      obtain rfl := List.mem_singleton.1 hmem
      exact hkeeps (fleet.asks_prepareShare id mount address)
    | createSnapshot id name =>
      obtain rfl := List.mem_singleton.1 hmem
      exact hkeeps (fleet.asks_createSnapshot id name)
    | deleteSnapshot id =>
      obtain rfl := List.mem_singleton.1 hmem
      exact hkeeps (fleet.asks_deleteSnapshot id)
    | validateVolume | listVolumes | getCapacity | listSnapshots | checkBackends => cases hlook

/-- Wherever operations get, what is noted as shared is shared, and appliances that could be reached
can still be reached. -/
theorem Rack.Reached.flagged {start rack : Rack} (h : start.Reached rack)
    (hstart : ∀ id a, start id = some a → a.offline = false ∧ a.Flagged) :
    ∀ id a, rack id = some a → a.offline = false ∧ a.Flagged := by
  induction h with
  | refl => exact hstart
  | @tail middle _ _ hcalled ih =>
    obtain ⟨fleet, operation, branch, said, result, asked, hmem, hsaid, hasked, rfl⟩ := hcalled
    have hcall := ((Operation.asks_keepsShares hmem).transcript hsaid).1 asked hasked
    have hkeeps : ∀ a : Simulated, a.offline = false ∧ a.Flagged →
        (a.step asked.call).2.offline = false ∧ (a.step asked.call).2.Flagged := by
      rintro a ⟨online, flagged⟩
      refine ⟨(a.step_offline asked.call).trans online, ?_⟩
      rcases hcall with hharmless | hshares
      · rwa [hharmless a]
      · exact flagged.step hshares
    intro id b hb
    rw [Rack.after] at hb
    have hthere : ((middle.answer asked.appliance asked.call).2 id).isSome = true := by
      rw [hb]
      rfl
    obtain ⟨a, ha⟩ := Option.isSome_iff_exists.1 (Rack.isSome_of_answer hthere)
    obtain ⟨c, hafter, hc⟩ :=
      Rack.answer_keeps_of hkeeps ⟨a, ha, ih id a ha⟩ asked.appliance
    obtain rfl := Option.some.inj (hafter.symm.trans hb)
    exact hc

end StorageFleet
