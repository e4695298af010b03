import Mathlib.Logic.Relation
import StorageFleet.Proofs.Plan.Transcript
import StorageFleet.Proofs.Rack.Filing
import StorageFleet.Proofs.Rack.Recipe
import StorageFleet.Proofs.Volume.Requests

/-!
# Every snapshot has its filesystem

A filesystem is only destroyed together with its snapshots, so the filesystem that a snapshot was
taken of is there as long as the snapshot is: `Simulated.Rooted`.  This holds after any call
(`Rooted.step`).  That every snapshot has a name (`Simulated.Titled`) holds after the calls that
operations make, which give a name to each snapshot that they take.

`Rack.Reached` are the racks that operations can bring about: by any of their calls, in any order.
So operations may run one after the other or side by side, be cut off, and run on different fleets.

A backend is `Housed` if it has one appliance, in good order, which need not be reachable.
-/

namespace StorageFleet

namespace Simulated

variable {a b : Simulated} {path : String} {quota : Option Nat} {call : Call}

/-! ## Rooted appliances -/

/-- Each snapshot is one of a filesystem that is there. -/
def Rooted (a : Simulated) : Prop :=
  a.snapshots.Each fun _ snapshot => a.filesystems.contains snapshot.parent = true

/-- Filesystems may be added and snapshots removed. -/
lemma Rooted.mono (h : a.Rooted)
    (grows : ∀ path, a.filesystems.contains path = true → b.filesystems.contains path = true)
    (fewer : ∀ path snapshot, b.snapshots.find? path = some snapshot →
      ∃ original, a.snapshots.find? path = some original ∧ snapshot.parent = original.parent) :
    b.Rooted := by
  intro path snapshot hfound
  obtain ⟨original, horiginal, hparent⟩ := fewer path snapshot hfound
  rw [hparent]
  exact grows _ (h path original horiginal)

lemma Rooted.of_same (h : a.Rooted)
    (grows : ∀ path, a.filesystems.contains path = true → b.filesystems.contains path = true)
    (same : b.snapshots = a.snapshots) : b.Rooted :=
  h.mono grows fun _ snapshot hfound => ⟨snapshot, by rwa [same] at hfound, rfl⟩

lemma contains_adjust {table : Catalog α} {key k : String} {change : α → α} :
    (table.adjust key change).contains k = table.contains k := by
  unfold Catalog.contains
  rw [Catalog.find?_adjust]
  split_ifs <;> simp

lemma Rooted.createFilesystem (h : a.Rooted) : (a.createFilesystem path quota).2.Rooted := by
  unfold Simulated.createFilesystem
  split_ifs
  · exact h
  · exact h.of_same (fun _ hthere => contains_insert.2 (.inr hthere)) rfl

lemma Rooted.updateFilesystem (h : a.Rooted) : (a.updateFilesystem path quota).2.Rooted := by
  unfold Simulated.updateFilesystem
  cases a.filesystems.find? path with
  | none => exact h
  | some fs =>
    cases quota with
    | none => exact h
    | some quota => exact h.of_same (fun _ hthere => contains_insert.2 (.inr hthere)) rfl

/-- Where a filesystem goes, its snapshots go with it. -/
lemma Rooted.destroyFilesystem (h : a.Rooted) (filed : a.Filed) {withSnapshots : Bool} :
    (a.destroyFilesystem path withSnapshots).2.Rooted := by
  unfold Simulated.destroyFilesystem
  split_ifs
  · exact h
  · exact h
  · intro key snapshot hfound
    rw [Catalog.find?_eraseWhere] at hfound
    split_ifs at hfound with hkept
    have hparent : snapshot.parent ≠ path := by
      rintro rfl
      obtain ⟨hkey, -⟩ := Text.splitOnce_eq_some_iff.1 (filed.snapshots key snapshot hfound).cut
      apply hkept
      rw [isSnapshotPath, Text.startsWith, hkey, List.isPrefixOf_iff_prefix]
      exact ⟨snapshot.name.toList, by simp⟩
    rw [Catalog.contains, Catalog.find?_erase, if_neg hparent]
    exact h key snapshot hfound

lemma Rooted.createSnapshot (h : a.Rooted) : (a.createSnapshot path).2.Rooted := by
  unfold Simulated.createSnapshot
  cases Text.splitOnce '@' path.toList with
  | none => exact h
  | some pieces =>
    dsimp only
    split_ifs with hparent
    · exact h
    · exact h
    · exact Catalog.Each.insert h (by simpa using hparent)

lemma Rooted.destroySnapshot (h : a.Rooted) : (a.destroySnapshot path).2.Rooted := by
  unfold Simulated.destroySnapshot
  cases a.snapshots.find? path with
  | none => exact h
  | some snapshot =>
    dsimp only
    split_ifs
    · exact Catalog.Each.eraseWhere h _
    · exact h

lemma Rooted.cloneSnapshot (h : a.Rooted) {target : String} :
    (a.cloneSnapshot path target quota).2.Rooted := by
  unfold Simulated.cloneSnapshot
  cases hfound : a.snapshots.find? path with
  | none => exact h
  | some snapshot =>
    dsimp only
    split_ifs
    · exact h
    · refine h.mono (fun _ hthere => contains_insert.2 (.inr hthere)) fun key other hother => ?_
      rw [Catalog.find?_insert] at hother
      split_ifs at hother with hkey
      · cases hother
        exact ⟨snapshot, by rw [hkey, hfound], rfl⟩
      · exact ⟨other, hother, rfl⟩

/-- No call leaves a snapshot without its filesystem. -/
theorem Rooted.step (h : a.Rooted) (filed : a.Filed) (call : Call) : (a.step call).2.Rooted := by
  unfold Simulated.step
  split_ifs
  · exact h
  · cases call with
    | createFilesystem => exact h.createFilesystem
    | updateFilesystem => exact h.updateFilesystem
    | destroyFilesystem => exact h.destroyFilesystem filed
    | createNfsShare => exact h.of_same (fun _ hthere => contains_adjust.trans hthere) rfl
    | createSmbShare => exact h.of_same (fun _ hthere => contains_adjust.trans hthere) rfl
    | createSnapshot => exact h.createSnapshot
    | destroySnapshot => exact h.destroySnapshot
    | cloneSnapshot => exact h.cloneSnapshot
    | setAccess | deleteNfsShare | deleteSmbShare => exact h.of_same (fun _ hthere => hthere) rfl
    | _ => exact h

lemma rooted_of_empty (h : a.snapshots = .empty) : a.Rooted := by
  rw [Rooted, h]
  exact Catalog.each_empty _

/-! ## Names -/

/-- Each snapshot has a name. -/
def Titled (a : Simulated) : Prop :=
  a.snapshots.Each fun _ snapshot => snapshot.name ≠ ""

lemma titled_of_empty (h : a.snapshots = .empty) : a.Titled := by
  rw [Titled, h]
  exact Catalog.each_empty _

/-- However a path with a name at its end is cut, there is a name behind the cut. -/
lemma name_ne_of_splitOnce {parent name : String} {before behind : List Char} (hname : name ≠ "")
    (hcut : Text.splitOnce '@' (parent ++ "@" ++ name).toList = some (before, behind)) :
    behind ≠ [] := by
  obtain ⟨htext, hunmarked⟩ := Text.splitOnce_eq_some_iff.1 hcut
  rintro rfl
  have hne : name.toList ≠ [] := by simpa using hname
  have hparent : parent.toList ++ '@' :: name.toList = before ++ ['@'] := by simpa using htext
  rw [← List.dropLast_append_getLast hne, ← List.cons_append, ← List.append_assoc] at hparent
  rw [← (List.append_inj' hparent rfl).1] at hunmarked
  simp at hunmarked

lemma Titled.createSnapshot (h : a.Titled) {parent name : String} (hname : name ≠ "") :
    (a.createSnapshot (parent ++ "@" ++ name)).2.Titled := by
  unfold Simulated.createSnapshot
  cases hcut : Text.splitOnce '@' (parent ++ "@" ++ name).toList with
  | none => exact h
  | some pieces =>
    dsimp only
    split_ifs
    · exact h
    · exact h
    · refine Catalog.Each.insert h ?_
      simpa using name_ne_of_splitOnce hname hcut

/-- No call of an operation leaves a snapshot without a name. -/
theorem Titled.step (h : a.Titled) (hcall : call.Harmless ∨ call.Titled) :
    (a.step call).2.Titled := by
  rcases hcall with hharmless | htitled
  · rwa [hharmless a]
  unfold Simulated.step
  split_ifs
  · exact h
  · cases call with
    | createSnapshot path =>
      obtain ⟨parent, name, hname, rfl⟩ := htitled path rfl
      exact h.createSnapshot hname
    | createFilesystem path =>
      change (a.createFilesystem path _).2.Titled
      unfold createFilesystem
      split_ifs <;> exact h
    | updateFilesystem path quota =>
      change (a.updateFilesystem path quota).2.Titled
      unfold updateFilesystem
      cases a.filesystems.find? path <;> cases quota <;> exact h
    | destroyFilesystem path =>
      change (a.destroyFilesystem path _).2.Titled
      unfold destroyFilesystem
      split_ifs
      · exact h
      · exact h
      · exact Catalog.Each.eraseWhere h _
    | destroySnapshot path =>
      change (a.destroySnapshot path).2.Titled
      unfold destroySnapshot
      cases a.snapshots.find? path with
      | none => exact h
      | some snapshot =>
        dsimp only
        split_ifs
        · exact Catalog.Each.eraseWhere h _
        · exact h
    | cloneSnapshot path =>
      change (a.cloneSnapshot path _ _).2.Titled
      unfold cloneSnapshot
      cases hfound : a.snapshots.find? path with
      | none => exact h
      | some snapshot =>
        dsimp only
        split_ifs
        · exact h
        · exact Catalog.Each.insert h (h path snapshot hfound)
    | _ => exact h

end Simulated

/-! ## Housed backends -/

/-- The only appliance of a backend, in good order. -/
structure Backend.HousedBy (backend : Backend) (rack : Rack) (appliance : ApplianceRef)
    (a : Simulated) : Prop where
  single : backend.appliances = [appliance]
  here : rack appliance.id = some a
  filed : a.Filed
  rooted : a.Rooted

/-- A backend with one appliance in good order. -/
def Backend.Housed (backend : Backend) (rack : Rack) : Prop :=
  ∃ appliance a, backend.HousedBy rack appliance a

/-- Each backend has one appliance in good order. -/
def Fleet.Housed (fleet : Fleet) (rack : Rack) : Prop :=
  ∀ backend ∈ fleet.backends, backend.Housed rack

section

variable {fleet : Fleet} {rack later start : Rack} {backend : Backend}
  {appliance : ApplianceRef} {a : Simulated} {path : String}

lemma Backend.Housed.answer (h : backend.Housed rack) (appliance : ApplianceRef) (call : Call) :
    backend.Housed (rack.answer appliance call).2 := by
  obtain ⟨single, a, hsingle, here, filed, rooted⟩ := h
  have hkeeps : ∀ (a : Simulated) call, a.Filed ∧ a.Rooted →
      (a.step call).2.Filed ∧ (a.step call).2.Rooted :=
    fun a call h => ⟨h.1.step call, h.2.step h.1 call⟩
  obtain ⟨b, hb, hfiled, hrooted⟩ :=
    Rack.answer_keeps hkeeps ⟨a, here, filed, rooted⟩ appliance call
  exact ⟨single, b, hsingle, hb, hfiled, hrooted⟩

/-- No operation brings an appliance into disorder. -/
theorem Fleet.Housed.exec (h : fleet.Housed rack) (operation : Operation) :
    fleet.Housed (operation.exec fleet rack).2 :=
  Operation.exec_keeps fleet.Housed
    (fun _ appliance call hhoused backend hmem => (hhoused backend hmem).answer appliance call)
    operation fleet h

/-- A path is held if its backend can be reached and has it. -/
lemma Backend.HousedBy.holder?_eq (h : backend.HousedBy rack appliance a) (hpath : path ≠ "") :
    rack.holder? path backend =
      if a.offline = false ∧ a.filesystems.contains path = true then some appliance else none := by
  have hhas : rack.has path appliance = true ↔
      a.offline = false ∧ a.filesystems.contains path = true := by
    rw [Rack.has_iff, h.here]
    simp
  rw [Rack.holder?, if_neg (by simpa using hpath), h.single, List.find?_singleton]
  exact if_congr hhas rfl rfl

/-! ## Reached racks -/

/-- The second rack is the first after a call that an operation may make. -/
def Rack.Called (rack later : Rack) : Prop :=
  ∃ (fleet : Fleet) (operation : Operation) (branch : Plan operation.Part) (said : List Asked)
    (result : operation.Part) (asked : Asked), branch ∈ operation.branches fleet ∧
      branch.Transcript said result ∧ asked ∈ said ∧ later = rack.after asked

/-- What operations can make of a rack. -/
def Rack.Reached (start rack : Rack) : Prop :=
  Relation.ReflTransGen Rack.Called start rack

lemma Rack.Reached.trans (h : start.Reached rack) (h' : rack.Reached later) :
    start.Reached later :=
  Relation.ReflTransGen.trans h h'

lemma Rack.reached_after {operation : Operation} {branch : Plan operation.Part}
    {said : List Asked} {result : operation.Part} (hmem : branch ∈ operation.branches fleet)
    (hsaid : branch.Transcript said result) {made : List Asked} (hmade : made ⊆ said)
    (rack : Rack) : rack.Reached (made.foldl Rack.after rack) := by
  induction made generalizing rack with
  | nil => exact .refl
  | cons asked rest ih =>
    obtain ⟨hasked, hrest⟩ := List.cons_subset.1 hmade
    exact Relation.ReflTransGen.head
      ⟨fleet, operation, branch, said, result, asked, hmem, hsaid, hasked, rfl⟩ (ih hrest _)

/-- What an operation makes of a rack is reached. -/
theorem Operation.reached_exec (operation : Operation) (fleet : Fleet) (rack : Rack) :
    rack.Reached (operation.exec fleet rack).2 := by
  have hall : ∀ plans : List (Plan operation.Part), plans ⊆ operation.branches fleet →
      ∀ rack : Rack, rack.Reached (Plan.execAll plans rack).2 := by
    intro plans hplans
    induction plans with
    | nil => exact fun _ => .refl
    | cons plan rest ih =>
      intro rack
      obtain ⟨hplan, hrest⟩ := List.cons_subset.1 hplans
      have hfirst := Rack.reached_after hplan (Plan.transcript_exec plan rack)
        (List.Subset.refl _) rack
      rw [← Plan.exec_eq_after] at hfirst
      exact hfirst.trans (ih hrest _)
  exact hall _ (List.Subset.refl _) rack

/-- What the calls of operations leave true of an appliance is true of it wherever it is reached. -/
theorem Rack.Reached.keeps {P : Simulated → Prop}
    (keeps : ∀ (a : Simulated) (call : Call), call.Harmless ∨ call.Titled → P a →
      P (a.step call).2)
    (h : start.Reached rack) {id : Nat} (hstart : ∃ a, start id = some a ∧ P a) :
    ∃ a, rack id = some a ∧ P a := by
  induction h with
  | refl => exact hstart
  | tail _ hcalled ih =>
    obtain ⟨fleet, operation, branch, said, result, asked, hmem, hsaid, hasked, rfl⟩ := hcalled
    have hcall := ((Operation.asks_titled hmem).transcript hsaid).1 asked hasked
    exact Rack.answer_keeps_of (keeps · asked.call hcall) ih asked.appliance

end
end StorageFleet
