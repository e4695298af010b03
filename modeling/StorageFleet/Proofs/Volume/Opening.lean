import Mathlib.Data.Fintype.Basic
import StorageFleet.Proofs.Rack.Advance
import StorageFleet.Proofs.Rack.Sharing
import StorageFleet.Proofs.Rack.Tables
import StorageFleet.Proofs.Volume.Effects

/-!
# Volumes that are shared side by side

Sharing a volume does up to three things to it: it is shared over NFS, shared over SMB, and opened
to everyone.  `Simulated.opened` is an appliance after some of them were done.  Each is done by one
call, and doing it again changes nothing (`createNfsShare_opened` and its like), so requests to
share a volume only add, and `Concert.Advancing` applies.

A request does not ask for a share that is noted at the filesystem when it looks, and somebody else
may make the share between this look and the request's own call.  Neither matters: what is noted has
been done (`opened_of_noted`), and what is done twice is done.
-/

namespace StorageFleet

/-- What is done to a volume when it is shared. -/
inductive Opening where
  | nfs
  | smb
  | access
  deriving DecidableEq, Repr

/-- The share that a way of mounting needs. -/
def MountType.opening : MountType → Opening
  | .nfs => .nfs
  | .cifs => .smb

/-- The filesystem as it is after these were done to it. -/
def Filesystem.opened (fs : Filesystem) (openings : Finset Opening) : Filesystem :=
  { fs with
    sharedOverNfs := fs.sharedOverNfs || decide (.nfs ∈ openings)
    sharedOverSmb := fs.sharedOverSmb || decide (.smb ∈ openings) }

/-- Whether a filesystem is noted as shared for a way of mounting. -/
def Filesystem.notes (fs : Filesystem) : MountType → Bool
  | .nfs => fs.sharedOverNfs
  | .cifs => fs.sharedOverSmb

namespace Simulated

/-- The appliance as it is after these were done to the filesystem at `path`. -/
def opened (a : Simulated) (path : String) (openings : Finset Opening) : Simulated :=
  { a with
    nfsShares := if .nfs ∈ openings then a.nfsShares.insert path () else a.nfsShares
    smbShares := if .smb ∈ openings then a.smbShares.insert path (defaultShareName path)
      else a.smbShares
    accessRules := if .access ∈ openings then a.accessRules.insert path () else a.accessRules
    filesystems := a.filesystems.adjust path fun fs => fs.opened openings }

variable {a : Simulated} {path : String} {openings : Finset Opening} {fs : Filesystem}

@[simp] lemma opened_offline : (a.opened path openings).offline = a.offline := rfl

lemma find?_opened (key : String) : (a.opened path openings).filesystems.find? key =
    if key = path then (a.filesystems.find? key).map fun fs => fs.opened openings
    else a.filesystems.find? key :=
  Catalog.find?_adjust ..

/-- Nothing was done. -/
lemma opened_empty (a : Simulated) (path : String) : a.opened path ∅ = a := by
  have hsame : a.filesystems.adjust path (fun fs => fs.opened ∅) = a.filesystems := by
    refine Catalog.ext_find? fun key => ?_
    rw [Catalog.find?_adjust]
    split_ifs
    · simp [Filesystem.opened]
    · rfl
  simp [opened, hsame]

/-- A second share of the same kind is the first. -/
lemma createNfsShare_opened :
    (a.opened path openings).createNfsShare path = a.opened path (openings ∪ {.nfs}) := by
  have hshares : (a.opened path openings).nfsShares.insert path () =
      a.nfsShares.insert path () := by
    dsimp only [opened]
    split_ifs
    · exact Catalog.insert_insert ..
    · rfl
  have hfilesystems : (a.opened path openings).filesystems.adjust path
      (fun fs => { fs with sharedOverNfs := true }) =
        a.filesystems.adjust path fun fs => fs.opened (openings ∪ {.nfs}) := by
    refine Catalog.ext_find? fun key => ?_
    rw [Catalog.find?_adjust, find?_opened, Catalog.find?_adjust]
    split_ifs
    · simp [Option.map_map, Function.comp_def, Filesystem.opened]
    · rfl
  rw [createNfsShare, hshares, hfilesystems]
  simp [opened]

lemma createSmbShare_opened : (a.opened path openings).createSmbShare path none =
    a.opened path (openings ∪ {.smb}) := by
  have hshares : (a.opened path openings).smbShares.insert path (defaultShareName path) =
      a.smbShares.insert path (defaultShareName path) := by
    dsimp only [opened]
    split_ifs
    · exact Catalog.insert_insert ..
    · rfl
  have hfilesystems : (a.opened path openings).filesystems.adjust path
      (fun fs => { fs with sharedOverSmb := true }) =
        a.filesystems.adjust path fun fs => fs.opened (openings ∪ {.smb}) := by
    refine Catalog.ext_find? fun key => ?_
    rw [Catalog.find?_adjust, find?_opened, Catalog.find?_adjust]
    split_ifs
    · simp [Option.map_map, Function.comp_def, Filesystem.opened]
    · rfl
  rw [createSmbShare, Option.getD_none, hshares, hfilesystems]
  simp [opened]

lemma setAccess_opened : { a.opened path openings with
      accessRules := (a.opened path openings).accessRules.insert path () } =
    a.opened path (openings ∪ {.access}) := by
  have hrules : (a.opened path openings).accessRules.insert path () =
      a.accessRules.insert path () := by
    dsimp only [opened]
    split_ifs
    · exact Catalog.insert_insert ..
    · rfl
  rw [hrules]
  simp [opened, Filesystem.opened]

/-- What is noted has been done. -/
lemma opened_of_noted (flagged : a.Flagged) (hfound : a.filesystems.find? path = some fs)
    {mount : MountType} (hnoted : (fs.opened openings).notes mount = true) :
    a.opened path (openings ∪ {mount.opening}) = a.opened path openings := by
  by_cases hmem : mount.opening ∈ openings
  · rw [Finset.union_eq_left.2 (Finset.singleton_subset_iff.2 hmem)]
  -- then somebody had shared it before anything was done to it here
  have hbefore : fs.notes mount = true := by
    cases mount <;>
      exact (Bool.or_eq_true_iff.1 hnoted).resolve_right (mt of_decide_eq_true hmem)
  have hfilesystems : (a.filesystems.adjust path fun fs => fs.opened (openings ∪ {mount.opening})) =
      a.filesystems.adjust path fun fs => fs.opened openings := by
    refine Catalog.ext_find? fun key => ?_
    rw [Catalog.find?_adjust, Catalog.find?_adjust]
    split_ifs with hkey
    · rw [hkey, hfound, Option.map_some, Option.map_some]
      cases mount with
      | nfs =>
        have hnfs : fs.sharedOverNfs = true := hbefore
        simp [Filesystem.opened, MountType.opening, hnfs]
      | cifs =>
        have hsmb : fs.sharedOverSmb = true := hbefore
        simp [Filesystem.opened, MountType.opening, hsmb]
    · rfl
  rw [opened, hfilesystems]
  cases mount with
  | nfs =>
    obtain ⟨entry, hentry⟩ := Option.isSome_iff_exists.1 (flagged.nfs path fs hfound hbefore)
    have hsame : a.nfsShares.insert path () = a.nfsShares := Catalog.insert_of_some hentry
    simp [opened, MountType.opening, hsame]
  | cifs =>
    obtain ⟨name, hname⟩ := Option.isSome_iff_exists.1 (flagged.smb path fs hfound hbefore)
    have hsame : a.smbShares.insert path (defaultShareName path) = a.smbShares :=
      Catalog.insert_of_some (flagged.named path name hname ▸ hname)
    simp [opened, MountType.opening, hsame]

end Simulated

section

/-! ## The calls -/

/-- A volume on an appliance that can be reached, and where what is noted as shared is shared. -/
structure Rack.Keeps (rack : Rack) (id : Nat) (path : String) (a : Simulated) (fs : Filesystem) :
    Prop where
  here : rack id = some a
  online : a.offline = false
  flagged : a.Flagged
  found : a.filesystems.find? path = some fs

/-- The rack after these were done to a volume on the appliance `a`. -/
def Rack.opened (rack : Rack) (id : Nat) (path : String) (a : Simulated)
    (openings : Finset Opening) : Rack :=
  rack.set id (a.opened path openings)

/-- What a worker mounts. -/
def Filesystem.mountSource (fs : Filesystem) (path : String) (address : String) :
    MountType → String
  | .nfs => address ++ ":" ++ fs.mountPoint
  | .cifs => "//" ++ address ++ "/" ++ Simulated.defaultShareName path

variable {rack : Rack} {id : Nat} {path : String} {a : Simulated} {fs : Filesystem}
  {openings bound known : Finset Opening} {appliance : ApplianceRef} {resolution : Resolution}
  {mount : MountType}

namespace Rack.Keeps

lemma answer_opened (h : rack.Keeps appliance.id path a fs) (call : Call) :
    (rack.opened appliance.id path a openings).answer appliance call =
      (((a.opened path openings).answer call).1,
        rack.set appliance.id ((a.opened path openings).answer call).2) := by
  have hstep : (a.opened path openings).step call = (a.opened path openings).answer call := by
    rw [Simulated.step, Simulated.opened_offline, h.online]
    rfl
  rw [opened, answer_of_some (set_self ..), hstep, set_set]

lemma answer_getFilesystem (h : rack.Keeps appliance.id path a fs) :
    (rack.opened appliance.id path a openings).answer appliance (.getFilesystem path) =
      (.ok (fs.opened openings), rack.opened appliance.id path a openings) := by
  have hfound : (a.opened path openings).filesystem path = .ok (fs.opened openings) := by
    rw [Simulated.filesystem, Simulated.find?_opened, if_pos rfl, h.found]
    rfl
  rw [h.answer_opened, Simulated.answer, hfound]
  rfl

lemma answer_createNfsShare (h : rack.Keeps appliance.id path a fs) :
    (rack.opened appliance.id path a openings).answer appliance (.createNfsShare path) =
      (.ok (), rack.opened appliance.id path a (openings ∪ {.nfs})) := by
  rw [h.answer_opened, Simulated.answer, Simulated.createNfsShare_opened]
  rfl

lemma answer_createSmbShare (h : rack.Keeps appliance.id path a fs) :
    (rack.opened appliance.id path a openings).answer appliance (.createSmbShare path none) =
      (.ok (), rack.opened appliance.id path a (openings ∪ {.smb})) := by
  rw [h.answer_opened, Simulated.answer, Simulated.createSmbShare_opened]
  rfl

lemma answer_setAccess (h : rack.Keeps appliance.id path a fs) (rule : AccessRule) :
    (rack.opened appliance.id path a openings).answer appliance (.setAccess path rule) =
      (.ok (), rack.opened appliance.id path a (openings ∪ {.access})) := by
  rw [h.answer_opened, Simulated.answer, Simulated.setAccess_opened]
  rfl

/-- Whoever made the share, it has the same name. -/
lemma answer_getSmbShareName (h : rack.Keeps appliance.id path a fs) (hshared : .smb ∈ openings) :
    (rack.opened appliance.id path a openings).answer appliance (.getSmbShareName path) =
      (.ok (Simulated.defaultShareName path), rack.opened appliance.id path a openings) := by
  have hname : (a.opened path openings).smbShareName path =
      .ok (Simulated.defaultShareName path) := by
    rw [Simulated.smbShareName, Simulated.opened, if_pos hshared, Catalog.find?_insert, if_pos rfl]
  rw [h.answer_opened, Simulated.answer, hname]
  rfl

/-- A volume that is noted as shared might as well be shared now. -/
lemma opened_of_noted (h : rack.Keeps id path a fs)
    (hnoted : (fs.opened openings).notes mount = true) :
    rack.opened id path a (openings ∪ {mount.opening}) = rack.opened id path a openings :=
  congrArg (rack.set id) (Simulated.opened_of_noted h.flagged h.found hnoted)

/-- Looking at a volume, one learns that it is shared if this is noted. -/
lemma exists_known (h : rack.Keeps id path a fs) (openings : Finset Opening) (mount : MountType) :
    ∃ gain : Finset Opening, gain ≤ {mount.opening} ∧
      rack.opened id path a (openings ⊔ gain) = rack.opened id path a openings ∧
      ((fs.opened openings).notes mount = true → mount.opening ∈ openings ⊔ gain) := by
  by_cases hnoted : (fs.opened openings).notes mount = true
  · exact ⟨{mount.opening}, le_rfl, h.opened_of_noted hnoted, fun _ =>
      Finset.mem_union_right _ (Finset.mem_singleton_self _)⟩
  · exact ⟨⊥, bot_le, by rw [sup_bot_eq], fun hthen => absurd hthen hnoted⟩

/-- What is done to a volume does not decide where filesystems are found. -/
lemma probe_opened (h : rack.Keeps id path a fs) (other : String) (appliance : ApplianceRef) :
    ((rack.opened id path a openings).probe other appliance).map (fun _ => ()) =
      (rack.probe other appliance).map fun _ => () := by
  by_cases hid : appliance.id = id
  · subst hid
    have hstep : a.step (.getFilesystem other) = (a.filesystem other, a) := by
      rw [Simulated.step, h.online]
      rfl
    rw [probe, probe, h.answer_opened, answer_of_some h.here, hstep, Simulated.answer,
      Simulated.filesystem, Simulated.filesystem, Simulated.find?_opened]
    split_ifs
    · cases a.filesystems.find? other <;> rfl
    · rfl
  · have hsame : rack.opened id path a openings appliance.id = rack appliance.id := set_of_ne hid ..
    rw [probe_congr hsame]

end Rack.Keeps

/-! ## One request -/

namespace Fleet

/-- Sharing a volume whose share is known of if it was noted. -/
lemma advances_share (h : rack.Keeps resolution.appliance.id resolution.path a fs)
    (hnoted : (fs.opened openings).notes mount = true → mount.opening ∈ known)
    (hbound : mount.opening ∈ bound) (address : String) :
    (share resolution (fs.opened openings) mount address).run.Advances
      (rack.opened resolution.appliance.id resolution.path a) bound
      (fun outcome k => outcome = .ok (fs.mountSource resolution.path address mount) ∧
        known ≤ k ∧ mount.opening ∈ k) known := by
  have hadds (s : Finset Opening) : mount.opening ∈ s ⊔ {mount.opening} :=
    Finset.mem_union_right _ (Finset.mem_singleton_self _)
  have hgain : ({mount.opening} : Finset Opening) ≤ bound := Finset.singleton_subset_iff.2 hbound
  cases mount with
  | nfs =>
    unfold share
    cases hflag : (fs.opened openings).sharedOverNfs with
    | true => exact ⟨rfl, le_rfl, hnoted hflag⟩
    | false =>
      exact Attempt.advances_ask_outcome_bind fun s hs =>
        ⟨_, _, hgain, h.answer_createNfsShare, rfl, hs.trans le_sup_left, hadds s⟩
  | cifs =>
    have hlook {k : Finset Opening} (hk : known ≤ k) (hmem : .smb ∈ k) :
        (do
          let name ← Attempt.ask resolution.appliance (.getSmbShareName resolution.path)
          return "//" ++ address ++ "/" ++ name : Attempt String).run.Advances
        (rack.opened resolution.appliance.id resolution.path a) bound
        (fun outcome k => outcome = .ok (fs.mountSource resolution.path address .cifs) ∧
          known ≤ k ∧ .smb ∈ k) k :=
      Attempt.advances_ask_bind fun s hs =>
        ⟨⊥, .ok (Simulated.defaultShareName resolution.path), bot_le,
          by rw [sup_bot_eq]; exact h.answer_getSmbShareName (hs hmem), rfl,
          (hk.trans hs).trans le_sup_left, Finset.mem_union_left _ (hs hmem)⟩
    unfold share
    cases hflag : (fs.opened openings).sharedOverSmb with
    | true => exact hlook le_rfl (hnoted hflag)
    | false =>
      exact Attempt.advances_ask_outcome_bind fun s hs =>
        ⟨_, _, hgain, h.answer_createSmbShare, hlook (hs.trans le_sup_left) (hadds s)⟩

end Fleet

/-- A request to share a volume. -/
structure ShareRequest where
  id : String
  mount : Option MountType
  address : Option String

/-- The identifier leads to this filesystem. -/
def Fleet.LeadsTo (fleet : Fleet) (rack : Rack) (id : String) (resolution : Resolution) : Prop :=
  ∃ identifier, volumeId id = .ok identifier ∧
    ((fleet.resolve identifier).run.exec rack).1 = .ok resolution

/-- What was done to a volume by a request that ended like this. -/
def openingsOf : Except Fault ShareInfo → Finset Opening
  | .ok info => {info.mountFsType.opening, .access}
  | .error _ => ∅

namespace ShareRequest

/-- What is done for a request. -/
def plan (fleet : Fleet) (request : ShareRequest) : Plan (Except Fault ShareInfo) :=
  (fleet.prepareShare request.id request.mount request.address).run

/-- The address that workers mount from, if there is one. -/
def address? (request : ShareRequest) (backend : Backend) : Option String :=
  Fleet.given request.address <|> backend.config.defaultDataIp

/-- How the volume is mounted. -/
def mountType (request : ShareRequest) (backend : Backend) : MountType :=
  request.mount.getD backend.config.defaultMountFsType

/-- How a request ends for a volume that is found. -/
def outcome (request : ShareRequest) (resolution : Resolution) (fs : Filesystem) :
    Except Fault ShareInfo :=
  (Fleet.dataAddress resolution.backend request.address).map fun address =>
    ⟨request.id, request.mountType resolution.backend,
      fs.mountSource resolution.path address (request.mountType resolution.backend),
      resolution.backend.config.defaultMountOptions⟩

variable {fleet : Fleet} {request : ShareRequest}

lemma dataAddress_of_some {backend : Backend} {address : String}
    (h : request.address? backend = some address) :
    Fleet.dataAddress backend request.address = .ok address := by
  unfold address? at h
  rw [Fleet.dataAddress, h]

lemma dataAddress_of_none {backend : Backend} (h : request.address? backend = none) :
    Fleet.dataAddress backend request.address = .error (.failedPrecondition ("backend '" ++
      backend.name ++ "' has no defaultDataIp and none was given")) := by
  unfold address? at h
  rw [Fleet.dataAddress, h]

lemma outcome_of_some {address : String} (h : request.address? resolution.backend = some address)
    (fs : Filesystem) : request.outcome resolution fs = .ok ⟨request.id,
      request.mountType resolution.backend,
      fs.mountSource resolution.path address (request.mountType resolution.backend),
      resolution.backend.config.defaultMountOptions⟩ := by
  rw [outcome, dataAddress_of_some h]
  rfl

lemma outcome_of_none (h : request.address? resolution.backend = none) (fs : Filesystem) :
    request.outcome resolution fs = .error (.failedPrecondition ("backend '" ++
      resolution.backend.name ++ "' has no defaultDataIp and none was given")) := by
  rw [outcome, dataAddress_of_none h]
  rfl

/-- A request ends the same wherever it runs, and does what it has to do. -/
lemma advances_plan (h : rack.Keeps resolution.appliance.id resolution.path a fs)
    (hfinds : fleet.LeadsTo rack request.id resolution) :
    (request.plan fleet).Advances (rack.opened resolution.appliance.id resolution.path a)
      (openingsOf (request.outcome resolution fs))
      (fun result k => result = request.outcome resolution fs ∧
        openingsOf (request.outcome resolution fs) ≤ k) ⊥ := by
  obtain ⟨identifier, hid, hresolve⟩ := hfinds
  unfold plan Fleet.prepareShare
  rw [hid]
  change (fleet.resolve identifier >>= _).run.Advances _ _ _ _
  rw [Attempt.run_bind]
  refine ((fleet.probing_select _ _ _).advances (fun s => h.probe_opened) _ _).bind
    fun found k hfound => ?_
  have hfound : found = .ok resolution := hfound.trans hresolve
  rw [hfound]
  cases haddress : request.address? resolution.backend with
  | none =>
    rw [outcome_of_none haddress]
    dsimp only [Attempt.andThen]
    rw [dataAddress_of_none haddress]
    exact ⟨rfl, bot_le⟩
  | some address =>
    rw [outcome_of_some haddress]
    dsimp only [Attempt.andThen, openingsOf]
    rw [dataAddress_of_some haddress]
    have hshare : (request.mountType resolution.backend).opening ∈
        ({(request.mountType resolution.backend).opening, .access} : Finset Opening) :=
      Finset.mem_insert_self ..
    have haccess : ({.access} : Finset Opening) ≤
        {(request.mountType resolution.backend).opening, .access} := Finset.subset_insert ..
    refine Attempt.advances_ask_bind fun s _ => ?_
    obtain ⟨gain, hgain, hworld, hknown⟩ := h.exists_known s (request.mountType resolution.backend)
    refine ⟨gain, .ok (fs.opened s), hgain.trans (Finset.singleton_subset_iff.2 hshare),
      by rw [h.answer_getFilesystem, hworld], ?_⟩
    dsimp only [Attempt.andThen]
    rw [Attempt.run_bind]
    refine (Fleet.advances_share h hknown hshare address).bind fun found k hfound => ?_
    obtain ⟨rfl, -, hshared⟩ := hfound
    refine Attempt.advances_ask_bind fun s hs =>
      ⟨{.access}, .ok (), haccess, ?_, rfl, ?_⟩
    · exact h.answer_setAccess .everyone
    · exact Finset.insert_subset (Finset.mem_union_left _ (hs hshared)) Finset.subset_union_right

end ShareRequest

/-! ## Requests side by side -/

namespace Fleet

variable {fleet : Fleet} {n : Nat} {requests : Fin n → ShareRequest}
  {resolutions : Fin n → Resolution}

/-- Requests that are made side by side. -/
def sharing (fleet : Fleet) (requests : Fin n → ShareRequest) (rack : Rack) :
    Concert (Fin n) (Except Fault ShareInfo) where
  rack := rack
  plans i := (requests i).plan fleet

lemma advancing_sharing (h : rack.Keeps id path a fs)
    (hfinds : ∀ i, fleet.LeadsTo rack (requests i).id (resolutions i))
    (same : ∀ i, (resolutions i).appliance.id = id ∧ (resolutions i).path = path) :
    (fleet.sharing requests rack).Advancing (rack.opened id path a)
      (fun i => openingsOf ((requests i).outcome (resolutions i) fs))
      (fun i result => result = (requests i).outcome (resolutions i) fs) ∅ where
  rack_eq := by
    rw [Rack.opened, Simulated.opened_empty, Rack.set_eq_self h.here]
    rfl
  le := bot_le
  plans i := by
    obtain ⟨rfl, rfl⟩ := same i
    exact ⟨⊥, le_rfl, ShareRequest.advances_plan h (hfinds i)⟩

/-- What a request comes to, it would come to alone. -/
lemma exec_plan {request : ShareRequest} {resolution : Resolution}
    (h : rack.Keeps resolution.appliance.id resolution.path a fs)
    (hfinds : fleet.LeadsTo rack request.id resolution) :
    ((request.plan fleet).exec rack).1 = request.outcome resolution fs := by
  have hrack : rack.opened resolution.appliance.id resolution.path a ∅ = rack := by
    rw [Rack.opened, Simulated.opened_empty, Rack.set_eq_self h.here]
  obtain ⟨_, houtcome, -⟩ := (ShareRequest.advances_plan h hfinds).exec (s := ∅) le_rfl
  rwa [hrack] at houtcome

lemma mem_openingsOf {opening : Opening} {result : Except Fault ShareInfo} :
    opening ∈ openingsOf result ↔ ∃ info, result = .ok info ∧
      (opening = info.mountFsType.opening ∨ opening = .access) := by
  cases result <;> simp [openingsOf]

end Fleet

/-- Requests to share a volume may be made side by side, in any mix of ways to mount it and of
addresses.  Whatever the order of their calls, each that has an address to mount from succeeds with
what it would give alone, and each other fails and does nothing.  In the end the volume is shared
and opened as those that succeeded asked, and is otherwise what it was, like everything else. -/
theorem concurrent_sharing (fleet : Fleet) (start rack : Rack)
    (fresh : ∀ id a, start id = some a → a.offline = false ∧ a.Flagged)
    (reached : start.Reached rack) (id : Nat) (path : String) (a : Simulated) (fs : Filesystem)
    (here : rack id = some a) (found : a.filesystems.find? path = some fs) {n : Nat}
    (requests : Fin n → ShareRequest) (resolutions : Fin n → Resolution)
    (existing : ∀ i, fleet.LeadsTo rack (requests i).id (resolutions i))
    (same : ∀ i, (resolutions i).appliance.id = id ∧ (resolutions i).path = path) :
    (∀ schedule, ∃ more, ∀ i, ∃ result,
      ((fleet.sharing requests rack).run (schedule ++ more)).plans i = .done result) ∧
    (∀ schedule i result, ((fleet.sharing requests rack).run schedule).plans i = .done result →
      result = (((requests i).plan fleet).exec rack).1 ∧
      (∀ address, (requests i).address? (resolutions i).backend = some address →
        ∃ info, result = .ok info ∧
          info.mountFsType = (requests i).mountType (resolutions i).backend) ∧
      ((requests i).address? (resolutions i).backend = none →
        result = .error (.failedPrecondition ("backend '" ++ (resolutions i).backend.name ++
          "' has no defaultDataIp and none was given")))) ∧
    (∀ schedule i, (requests i).address? (resolutions i).backend = none →
      (((fleet.sharing requests rack).run schedule).step i).rack =
        ((fleet.sharing requests rack).run schedule).rack) ∧
    (∀ schedule (results : Fin n → Except Fault ShareInfo),
      (∀ i, ((fleet.sharing requests rack).run schedule).plans i = .done (results i)) →
      ∃ openings : Finset Opening,
        ((fleet.sharing requests rack).run schedule).rack =
          rack.set id (a.opened path openings) ∧
        ∀ opening, opening ∈ openings ↔ ∃ i info, results i = .ok info ∧
          (opening = info.mountFsType.opening ∨ opening = .access)) := by
  obtain ⟨online, flagged⟩ := reached.flagged fresh id a here
  have keeps : rack.Keeps id path a fs := ⟨here, online, flagged, found⟩
  have hrun := fun schedule => (Fleet.advancing_sharing keeps existing same).run schedule
  refine ⟨fun schedule => ?_, fun schedule i result hdone => ?_, fun schedule i hnone => ?_,
    fun schedule results finished => ?_⟩
  · obtain ⟨more, hmore⟩ := ((fleet.sharing requests rack).run schedule).exists_schedule_done
    exact ⟨more, by rw [Concert.run_append]; exact hmore⟩
  · obtain ⟨s, advancing⟩ := hrun schedule
    obtain ⟨rfl, -⟩ := advancing.of_done hdone
    obtain ⟨rfl, rfl⟩ := same i
    refine ⟨(Fleet.exec_plan keeps (existing i)).symm, fun address haddress => ?_, fun hnone => ?_⟩
    · exact ⟨_, ShareRequest.outcome_of_some haddress fs, rfl⟩
    · exact ShareRequest.outcome_of_none hnone fs
  · obtain ⟨s, advancing⟩ := hrun schedule
    refine advancing.step_rack_of_bot ?_
    rw [ShareRequest.outcome_of_none hnone]
    rfl
  · obtain ⟨s, advancing⟩ := hrun schedule
    have hresult : ∀ i, results i = (requests i).outcome (resolutions i) fs :=
      fun i => (advancing.of_done (finished i)).1
    refine ⟨s, advancing.rack_eq, fun opening => ?_⟩
    rw [advancing.eq_of_finished fun i => ⟨_, finished i⟩, Finset.mem_sup]
    simp only [Finset.mem_univ, true_and, Fleet.mem_openingsOf, hresult]

end

namespace Pools

/-- Requests for both ways of mounting, and one without an address. -/
def workers : Fin 3 → ShareRequest
  | 0 => ⟨"one:pool/v", some .nfs, some "10.0.0.1"⟩
  | 1 => ⟨"one:pool/v", some .cifs, some "10.0.0.2"⟩
  | 2 => ⟨"one:pool/v", none, some ""⟩

lemma flagged : ∀ id a, rack id = some a → a.offline = false ∧ a.Flagged := by
  intro id a h
  match id with
  | 0 | 1 =>
    obtain rfl := Option.some.inj h
    exact ⟨rfl, Simulated.flagged_ofContents ..⟩
  | _ + 2 => cases h

/-- Both workers look before either shares; in the end the volume is shared over both protocols. -/
theorem concurrent_sharing_workers :
    (∀ id a, rack id = some a → a.offline = false ∧ a.Flagged) ∧ rack.Reached rack ∧
    rack 0 = some (holding 0 [("pool", 0), ("pool/v", 5)]) ∧
    (∀ i, fleet.LeadsTo rack (workers i).id ⟨backend "one" "pool" 0, appliance 0, "pool/v"⟩) ∧
    ∃ fs, (holding 0 [("pool", 0), ("pool/v", 5)]).filesystems.find? "pool/v" = some fs ∧
    ∃ more openings, ((fleet.sharing workers rack).run ([0, 1, 0, 1] ++ more)).rack =
        rack.set 0 ((holding 0 [("pool", 0), ("pool/v", 5)]).opened "pool/v" openings) ∧
      ∀ opening, opening ∈ openings := by
  have existing : ∀ i, fleet.LeadsTo rack (workers i).id
      ⟨backend "one" "pool" 0, appliance 0, "pool/v"⟩ := by
    intro i
    match i with
    | 0 | 1 | 2 => exact ⟨.ofVolume "one" "pool/v", rfl, rfl⟩
  obtain ⟨fs, found⟩ : ∃ fs,
      (holding 0 [("pool", 0), ("pool/v", 5)]).filesystems.find? "pool/v" = some fs := ⟨_, rfl⟩
  obtain ⟨hends, hresults, -, hfinal⟩ := concurrent_sharing fleet rack rack flagged .refl 0 "pool/v"
    (holding 0 [("pool", 0), ("pool/v", 5)]) fs rfl found workers (fun _ => _) existing
    fun _ => ⟨rfl, rfl⟩
  obtain ⟨more, hmore⟩ := hends [0, 1, 0, 1]
  choose results finished using hmore
  obtain ⟨openings, hrack, hopenings⟩ := hfinal _ results finished
  obtain ⟨overNfs, hnfs, hmountNfs⟩ := (hresults _ 0 _ (finished 0)).2.1 "10.0.0.1" rfl
  obtain ⟨overSmb, hsmb, hmountSmb⟩ := (hresults _ 1 _ (finished 1)).2.1 "10.0.0.2" rfl
  refine ⟨flagged, .refl, rfl, existing, fs, found, more, openings, hrack, fun opening => ?_⟩
  rw [hopenings]
  cases opening with
  | nfs => exact ⟨0, overNfs, hnfs, .inl (congrArg MountType.opening hmountNfs).symm⟩
  | smb => exact ⟨1, overSmb, hsmb, .inl (congrArg MountType.opening hmountSmb).symm⟩
  | access => exact ⟨0, overNfs, hnfs, .inr rfl⟩

end Pools
end StorageFleet
