import StorageFleet.Page
import StorageFleet.Proofs.Json.Records
import StorageFleet.Proofs.Rack.Tables
import StorageFleet.Proofs.Time.Stamp
import StorageFleet.Volume.Basic

/-!
# What goes over the wire

Whatever is decoded is encoded so that it is decoded the same (`wire_round_trips`).  For each type
`decode_toJson` says that its written form is read back.  Some values of a type have a written form
that is not: a number of more than 64 bits, or a moment that is on no calendar.  No reader gives
such a value (`yields_fits`).

An appliance may give the number of a transaction as a number or in decimal, and the time of a
snapshot at an offset of its own choice.  The record of a snapshot does not tell the difference
(`Snapshot.ignores_transaction`, `Snapshot.ignores_created`).
-/

namespace StorageFleet

/-! ## Parts -/

namespace Reader

lemma yields_count : count.Yields (· ≤ Number.max64) := by
  intro draft n h
  unfold count at h
  split at h
  · split_ifs at h with hn
    cases h
    exact hn
  · cases h
  · cases h
  · cases h

lemma Yields.optional {reader : Reader α} {good : α → Prop} (h : reader.Yields good) :
    reader.optional.Yields fun found => ∀ value, found = some value → good value := by
  intro draft found hread value hvalue
  unfold Reader.optional at hread
  split at hread
  · cases hread
    cases hvalue
  · cases hinner : reader draft with
    | error flaw =>
      rw [hinner] at hread
      cases hread
    | ok inner =>
      rw [hinner] at hread
      cases hread
      cases hvalue
      exact h _ _ hinner

lemma le_max64_of_zero : ∀ n, (Except.ok 0 : Except Flaw Nat) = .ok n → n ≤ Number.max64 := by
  rintro n ⟨⟩
  exact Nat.zero_le _

lemma yields_countOrText : countOrText.Yields (· ≤ Number.max64) := by
  intro draft n h
  unfold countOrText at h
  split at h
  · split at h
    · next text n hread =>
      cases h
      exact Number.le_of_readUnsigned hread
    · cases h
  · exact yields_count _ _ h

lemma yields_instant : Reader.instant.Yields fun i =>
    i.Proper ∧ Instant.yearInRange i.year = true := by
  intro draft i h
  obtain ⟨text, -, hread⟩ := except_bind_eq_ok_iff.1 h
  split at hread
  · next instant htext =>
    cases hread
    exact Instant.proper_of_read htext
  · cases hread

end Reader

namespace Json

lemma decode_nat {n : Nat} (h : n ≤ Number.max64) : (nat n).decode Reader.count = .ok n := by
  simp [decode, nat, Draft.ofJson, Reader.count, h]

lemma decode_ofOption (text : Option String) :
    (ofOption text).decode Reader.string.optional = .ok text := by
  cases text <;> rfl

lemma decode_array {reader : Reader α} {write : α → Json}
    (h : ∀ value, (write value).decode reader = .ok value) (values : List α) :
    (Json.array (values.map write)).decode (Reader.list reader) = .ok values :=
  decode_list_eq_ok_iff.2
    (List.forall₂_map_right_iff.2 (List.forall₂_same.2 fun value _ => h value))

lemma decode_instant {i : Instant} (proper : i.Proper) (hyear : Instant.yearInRange i.year = true) :
    (Json.string i.render).decode Reader.instant = .ok i := by
  simp [decode, Draft.ofJson, Reader.instant, Reader.string, Instant.read_render proper hyear,
    bind, Except.bind, pure, Except.pure]

lemma decode_mountType (mount : MountType) :
    (Json.string mount.name).decode MountType.reader = .ok mount := by
  cases mount <;> rfl

end Json

/-! ## Resources of an appliance -/

namespace Pool

theorem decode_toJson (pool : Pool) : pool.toJson.decode record.read = .ok pool := by
  obtain ⟨poolName, health, status⟩ := pool
  refine Record.Holds.decode (.present (.present ?_ rfl rfl) rfl rfl)
  exact .present (Record.holds_of ..) rfl rfl

end Pool

namespace Filesystem

/-- The numbers of a filesystem have 64 bits. -/
def Fits (fs : Filesystem) : Prop :=
  fs.bytesAvailable ≤ Number.max64 ∧ fs.bytesUsed ≤ Number.max64 ∧ fs.quota ≤ Number.max64

lemma yields_fits : Reader.Yields record.read Fits := by
  refine Record.Builds.yields ?_
  refine .withField ?_ Reader.yields_count Reader.le_max64_of_zero
  refine .withField ?_ Reader.yields_count Reader.le_max64_of_zero
  refine .withField ?_ Reader.yields_count Reader.le_max64_of_zero
  refine .skip (.skip (.skip (.skip (Record.builds_of ?_))))
  exact fun _ _ _ _ available havailable used hused quota hquota => ⟨havailable, hused, hquota⟩

theorem decode_toJson {fs : Filesystem} (fits : fs.Fits) :
    fs.toJson.decode record.read = .ok fs := by
  obtain ⟨path, mountPoint, overNfs, overSmb, available, used, quota⟩ := fs
  obtain ⟨havailable, hused, hquota⟩ := fits
  refine Record.Holds.decode ?_
  refine .present ?_ rfl (Json.decode_nat hquota)
  refine .present ?_ rfl (Json.decode_nat hused)
  refine .present ?_ rfl (Json.decode_nat havailable)
  refine .present (.present ?_ rfl rfl) rfl rfl
  exact .present (.present (Record.holds_of ..) rfl rfl) rfl rfl

end Filesystem

namespace Snapshot

/-- The number has 64 bits, and the moment is one of the calendar. -/
structure Fits (snapshot : Snapshot) : Prop where
  transaction : snapshot.transaction ≤ Number.max64
  created : snapshot.created.Proper ∧ Instant.yearInRange snapshot.created.year = true

lemma yields_fits : Reader.Yields record.read Fits := by
  refine Record.Builds.yields ?_
  refine .withField ?_ Reader.yields_instant nofun
  refine .withField ?_ Reader.yields_countOrText Reader.le_max64_of_zero
  refine .skip (.skip (.skip (.skip (Record.builds_of ?_))))
  exact fun _ _ _ _ transaction htransaction created hcreated => ⟨htransaction, hcreated⟩

theorem decode_toJson {snapshot : Snapshot} (fits : snapshot.Fits) :
    snapshot.toJson.decode record.read = .ok snapshot := by
  obtain ⟨path, name, parent, clones, transaction, created⟩ := snapshot
  refine Record.Holds.decode ?_
  refine .present ?_ rfl (Json.decode_instant fits.created.1 fits.created.2)
  refine .present ?_ rfl (Json.Counts.number.decode fits.transaction)
  refine .present ?_ rfl (Json.decode_array (fun _ => rfl) clones)
  refine .present (.present ?_ rfl rfl) rfl rfl
  exact .present (Record.holds_of ..) rfl rfl

end Snapshot

namespace License

theorem decode_toJson (license : License) : license.toJson.decode record.read = .ok license := by
  obtain ⟨valid, expires⟩ := license
  refine Record.Holds.decode (.present ?_ rfl (Json.decode_ofOption expires))
  exact .present (Record.holds_of ..) rfl rfl

end License

namespace ClusterNode

lemma decode_toJson (node : ClusterNode) : node.toJson.decode record.read = .ok node := by
  obtain ⟨name, machineId⟩ := node
  exact Record.Holds.decode (.present (.present (Record.holds_of ..) rfl rfl) rfl rfl)

end ClusterNode

namespace Cluster

theorem decode_toJson (cluster : Cluster) : cluster.toJson.decode record.read = .ok cluster := by
  obtain ⟨clusterName, nodes⟩ := cluster
  refine Record.Holds.decode (.present ?_ rfl (Json.decode_array ClusterNode.decode_toJson nodes))
  exact .present (Record.holds_of ..) rfl rfl

end Cluster

/-! ## Volumes -/

namespace VolumeParameters

lemma decode_toJson (parameters : VolumeParameters) :
    parameters.toJson.decode record.read = .ok parameters := by
  obtain ⟨configName, dataset, mountFsType, dataIp, mountOptions⟩ := parameters
  have hmount : (Json.ofOption (mountFsType.map MountType.name)).decode MountType.reader.optional =
      .ok mountFsType := by
    rcases mountFsType with _ | _ | _ <;> rfl
  refine Record.Holds.decode (.present ?_ rfl (Json.decode_ofOption mountOptions))
  refine .present ?_ rfl (Json.decode_ofOption dataIp)
  refine .present ?_ rfl hmount
  refine .present ?_ rfl (Json.decode_ofOption dataset)
  exact .present (Record.holds_of ..) rfl (Json.decode_ofOption configName)

end VolumeParameters

namespace CreateVolumeRequest

/-- The size has 64 bits. -/
def Fits (request : CreateVolumeRequest) : Prop :=
  ∀ size, request.capacityBytes = some size → size ≤ Number.max64

lemma yields_fits : Reader.Yields record.read Fits := by
  refine Record.Builds.yields (.skip (.skip (.skip ?_)))
  refine .withField ?_ Reader.yields_count.optional nofun
  refine .skip (Record.builds_of ?_)
  exact fun _ _ hsize _ _ _ => hsize

theorem decode_toJson {request : CreateVolumeRequest} (fits : request.Fits) :
    request.toJson.decode record.read = .ok request := by
  obtain ⟨name, capacityBytes, parameters, source, zone⟩ := request
  have hsource : ((source.map VolumeSource.toJson).getD .null).decode VolumeSource.reader.optional =
      .ok source := by
    rcases source with _ | _ | _ <;> rfl
  have hsize : ((capacityBytes.map Json.nat).getD .null).decode Reader.count.optional =
      .ok capacityBytes := by
    cases capacityBytes with
    | none => rfl
    | some size => exact congrArg (Except.map some) (Json.decode_nat (fits size rfl))
  refine Record.Holds.decode (.present ?_ rfl (Json.decode_ofOption zone))
  refine .present ?_ rfl hsource
  refine .present ?_ rfl parameters.decode_toJson
  refine .present ?_ rfl hsize
  exact .present (Record.holds_of ..) rfl rfl

end CreateVolumeRequest

/-- The texts of a table are written in the order of their keys, and read in this order. -/
lemma Reader.entries_texts {found texts : List (String × String)}
    (h : Ascending (found ++ texts)) : Reader.entries insertSorted Reader.string .closed found
      (Draft.ofEntries (texts.map fun entry => (entry.1, .string entry.2))) =
        .ok (found ++ texts) := by
  induction texts generalizing found with
  | nil => rw [List.append_nil]; rfl
  | cons entry rest ih =>
    have hlast : insertSorted entry.1 entry.2 found = found ++ [entry] :=
      insertSorted_last fun old hold =>
        (List.pairwise_append.1 h).2.2 old hold entry List.mem_cons_self
    rw [List.append_cons] at h ⊢
    rw [← ih h, ← hlast]
    rfl

lemma Json.decode_texts (table : Catalog String) :
    (Json.object (table.entries.map fun entry => (entry.1, .string entry.2))).decode Reader.texts =
      .ok table := by
  have hascending : Ascending (table.entries.map fun entry => (entry.1, Json.string entry.2)) :=
    List.pairwise_map.2 table.ascending
  have hread : Reader.entries insertSorted Reader.string .closed []
      (Draft.ofEntries (table.entries.map fun entry => (entry.1, .string entry.2))) =
        .ok table.entries := Reader.entries_texts table.ascending
  have hsame : Catalog.ofList table.entries = table := Catalog.ext_find? fun key => by
    rw [Catalog.find?, Catalog.entries_ofList_of_ascending table.ascending, Catalog.find?]
  rw [Json.object_eq, Catalog.entries_ofList_of_ascending hascending, Json.decode, Draft.ofJson,
    Reader.texts, Reader.table, hread]
  exact congrArg Except.ok hsame

namespace Volume

/-- The size has 64 bits. -/
def Fits (volume : Volume) : Prop :=
  volume.capacityBytes ≤ Number.max64

lemma yields_fits : Reader.Yields record.read Fits := by
  refine Record.Builds.yields (.skip (.skip (.withField ?_ Reader.yields_count nofun)))
  refine .skip (Record.builds_of ?_)
  exact fun _ _ hsize _ _ => hsize

theorem decode_toJson {volume : Volume} (fits : volume.Fits) :
    volume.toJson.decode record.read = .ok volume := by
  obtain ⟨id, capacityBytes, context, zone⟩ := volume
  refine Record.Holds.decode (.text ?_ (by cases zone <;> rfl))
  refine .present ?_ (by cases zone <;> rfl) (Json.decode_texts context)
  refine .present ?_ (by cases zone <;> rfl) (Json.decode_nat fits)
  exact .present (Record.holds_of ..) (by cases zone <;> rfl) rfl

end Volume

namespace VolumeSnapshot

/-- The moment is one of the calendar. -/
def Fits (snapshot : VolumeSnapshot) : Prop :=
  snapshot.creationTime.Proper ∧ Instant.yearInRange snapshot.creationTime.year = true

lemma yields_fits : Reader.Yields record.read Fits := by
  refine Record.Builds.yields (.skip (.withField ?_ Reader.yields_instant nofun))
  refine .skip (.skip (Record.builds_of ?_))
  exact fun _ _ _ hcreated _ => hcreated

theorem decode_toJson {snapshot : VolumeSnapshot} (fits : snapshot.Fits) :
    snapshot.toJson.decode record.read = .ok snapshot := by
  obtain ⟨id, sourceVolumeId, creationTime, readyToUse⟩ := snapshot
  refine Record.Holds.decode (.present ?_ rfl rfl)
  refine .present ?_ rfl (Json.decode_instant fits.1 fits.2)
  exact .present (.present (Record.holds_of ..) rfl rfl) rfl rfl

end VolumeSnapshot

namespace ShareInfo

theorem decode_toJson (share : ShareInfo) : share.toJson.decode record.read = .ok share := by
  obtain ⟨volumeId, mountFsType, source, mountOptions⟩ := share
  refine Record.Holds.decode (.text ?_ (by cases mountOptions <;> rfl))
  refine .present ?_ (by cases mountOptions <;> rfl) rfl
  refine .present ?_ (by cases mountOptions <;> rfl) (Json.decode_mountType mountFsType)
  exact .present (Record.holds_of ..) (by cases mountOptions <;> rfl) rfl

end ShareInfo

namespace BackendStatus

theorem decode_toJson (status : BackendStatus) : status.toJson.decode record.read = .ok status := by
  obtain ⟨name, endpoint, licenseValid, error⟩ := status
  refine Record.Holds.decode (.text ?_ (by cases endpoint <;> cases error <;> rfl))
  refine .present ?_ (by cases endpoint <;> cases error <;> rfl) rfl
  refine .text ?_ (by cases endpoint <;> cases error <;> rfl)
  exact .present (Record.holds_of ..) (by cases endpoint <;> cases error <;> rfl) rfl

end BackendStatus

namespace Page

theorem decode_toJson (page : Page String) :
    (page.toJson .string).decode (record Reader.string).read = .ok page := by
  obtain ⟨entries, nextToken⟩ := page
  refine Record.Holds.decode (.text ?_ (by cases nextToken <;> rfl))
  exact .present (Record.holds_of ..) (by cases nextToken <;> rfl)
    (Json.decode_array (fun _ => rfl) entries)

end Page

namespace BackendConfig

theorem decode_toJson (config : BackendConfig) :
    config.toJson.decode record.read = .ok config := by
  obtain ⟨restIp, username, password, dataset, dataIp, mountFsType, mountOptions, permissions, zone,
    insecure⟩ := config
  refine Record.Holds.decode (.present ?_ rfl rfl)
  refine .present ?_ rfl (Json.decode_ofOption zone)
  refine .present ?_ rfl (Json.decode_ofOption permissions)
  refine .present ?_ rfl (Json.decode_ofOption mountOptions)
  refine .present ?_ rfl (Json.decode_mountType mountFsType)
  refine .present ?_ rfl (Json.decode_ofOption dataIp)
  refine .present ?_ rfl (Json.decode_ofOption dataset)
  exact .present (.present (.present (Record.holds_of ..) rfl rfl) rfl rfl) rfl rfl

end BackendConfig

/-! ## Other forms of the same -/

lemma Reader.countOrText_toString (n : Nat) :
    Reader.countOrText (Draft.ofJson (.nat n)) =
      Reader.countOrText (Draft.ofJson (.string (toString n))) := by
  have htext : toString n = Number.padded 0 n := by simp [Number.padded]
  simp only [Draft.ofJson, Json.nat, Reader.countOrText, Reader.count, htext,
    Number.readUnsigned_padded_eq]
  by_cases h : n ≤ Number.max64 <;> simp [h]

lemma Snapshot.ignores_transaction {draft other : Draft}
    (h : Reader.countOrText draft = Reader.countOrText other) :
    record.Ignores "creationTxg" draft other := by
  refine .otherField ?_ (by decide)
  refine .withField ?_ fun _ => h
  refine .otherField ?_ (by decide)
  refine .otherField ?_ (by decide)
  refine .otherField ?_ (by decide)
  exact .otherField (Record.ignores_of _) (by decide)

lemma Snapshot.ignores_created {draft other : Draft}
    (h : Reader.instant draft = Reader.instant other) :
    record.Ignores "creationTime" draft other := by
  refine .withField ?_ fun _ => h
  refine .otherField ?_ (by decide)
  refine .otherField ?_ (by decide)
  refine .otherField ?_ (by decide)
  refine .otherField ?_ (by decide)
  exact .otherField (Record.ignores_of _) (by decide)

lemma VolumeSnapshot.ignores_created {draft other : Draft}
    (h : Reader.instant draft = Reader.instant other) :
    record.Ignores "creationTime" draft other := by
  refine .otherField ?_ (by decide)
  refine .withField ?_ fun _ => h
  refine .otherField ?_ (by decide)
  exact .otherField (Record.ignores_of _) (by decide)

lemma Reader.instant_eq {text other : String} (h : Instant.read text = Instant.read other) :
    Reader.instant (Draft.ofJson (.string text)) =
      Reader.instant (Draft.ofJson (.string other)) := by
  simp only [Reader.instant, Draft.ofJson, Reader.string, bind, Except.bind, h]

/-- What is decoded is encoded so that it is decoded the same.  A number may as well be given in
decimal, and a moment at any offset. -/
theorem wire_round_trips :
    (Reader.Echoes Pool.record.read Pool.toJson ∧
      Reader.Echoes Filesystem.record.read Filesystem.toJson ∧
      Reader.Echoes Snapshot.record.read Snapshot.toJson ∧
      Reader.Echoes License.record.read License.toJson ∧
      Reader.Echoes Cluster.record.read Cluster.toJson ∧
      Reader.Echoes CreateVolumeRequest.record.read CreateVolumeRequest.toJson ∧
      Reader.Echoes Volume.record.read Volume.toJson ∧
      Reader.Echoes VolumeSnapshot.record.read VolumeSnapshot.toJson ∧
      Reader.Echoes ShareInfo.record.read ShareInfo.toJson ∧
      Reader.Echoes BackendStatus.record.read BackendStatus.toJson ∧
      Reader.Echoes (Page.record Reader.string).read (Page.toJson .string) ∧
      Reader.Echoes BackendConfig.record.read BackendConfig.toJson) ∧
    (∀ (n : Nat) (before after : List (String × Json)),
      (Json.fields (before ++ ("creationTxg", .nat n) :: after)).decode Snapshot.record.read =
        (Json.fields (before ++ ("creationTxg", .string (toString n)) :: after)).decode
          Snapshot.record.read) ∧
    ∀ stamp other : TimeStamp, stamp.Correct → other.Correct → stamp.Same other →
      (∃ i, Instant.read stamp.text = some i ∧ Instant.read other.text = some i) ∧
      ∀ before after : List (String × Json),
        (Json.fields (before ++ ("creationTime", .string stamp.text) :: after)).decode
            Snapshot.record.read =
          (Json.fields (before ++ ("creationTime", .string other.text) :: after)).decode
            Snapshot.record.read ∧
        (Json.fields (before ++ ("creationTime", .string stamp.text) :: after)).decode
            VolumeSnapshot.record.read =
          (Json.fields (before ++ ("creationTime", .string other.text) :: after)).decode
            VolumeSnapshot.record.read := by
  refine ⟨⟨.of_forall Pool.decode_toJson,
    Filesystem.yields_fits.echoes fun _ => Filesystem.decode_toJson,
    Snapshot.yields_fits.echoes fun _ => Snapshot.decode_toJson,
    .of_forall License.decode_toJson, .of_forall Cluster.decode_toJson,
    CreateVolumeRequest.yields_fits.echoes fun _ => CreateVolumeRequest.decode_toJson,
    Volume.yields_fits.echoes fun _ => Volume.decode_toJson,
    VolumeSnapshot.yields_fits.echoes fun _ => VolumeSnapshot.decode_toJson,
    .of_forall ShareInfo.decode_toJson, .of_forall BackendStatus.decode_toJson,
    .of_forall Page.decode_toJson, .of_forall BackendConfig.decode_toJson⟩, ?number, ?moment⟩
  case number =>
    exact fun n => (Snapshot.ignores_transaction (Reader.countOrText_toString n)).decode_eq
  case moment =>
    intro stamp other hstamp hother hsame
    obtain ⟨i, hread, hread'⟩ := TimeStamp.read_text_of_same hstamp hother hsame
    have halike := Reader.instant_eq (hread.trans hread'.symm)
    exact ⟨⟨i, hread, hread'⟩, fun before after =>
      ⟨(Snapshot.ignores_created halike).decode_eq before after,
        (VolumeSnapshot.ignores_created halike).decode_eq before after⟩⟩

/-- Half past one on New Year's Day, two hours to the east. -/
def TimeStamp.eastern : TimeStamp :=
  ⟨2024, 1, 1, 'T', 1, 30, 0, ['5'], .offset false 2 0⟩

/-- The same in universal time, on New Year's Eve. -/
def TimeStamp.universal : TimeStamp :=
  ⟨2023, 12, 31, ' ', 23, 30, 0, ['5', '0', '0'], .universal true⟩

theorem wire_round_trips_new_year :
    (Json.object [("valid", .bool true)]).decode License.record.read = .ok ⟨true, none⟩ ∧
    (License.toJson ⟨true, none⟩).decode License.record.read = .ok ⟨true, none⟩ ∧
    TimeStamp.eastern.text = "2024-01-01T01:30:00.5+02:00" ∧
    TimeStamp.universal.text = "2023-12-31 23:30:00.500z" ∧
    TimeStamp.eastern.Correct ∧ TimeStamp.universal.Correct ∧
    TimeStamp.eastern.Same TimeStamp.universal ∧
    ∃ i, Instant.read TimeStamp.eastern.text = some i ∧
      Instant.read TimeStamp.universal.text = some i := by
  have hread : (Json.object [("valid", .bool true)]).decode License.record.read =
      .ok ⟨true, none⟩ := rfl
  have hwritten := wire_round_trips.1.2.2.2.1 _ _ hread
  have heastern : TimeStamp.eastern.Correct :=
    ⟨by decide, Instant.isValid_iff.1 (by decide), by decide, List.all_eq_true.1 (by decide),
      by decide, by decide, by decide⟩
  have huniversal : TimeStamp.universal.Correct :=
    ⟨by decide, Instant.isValid_iff.1 (by decide), by decide, List.all_eq_true.1 (by decide),
      by decide, trivial⟩
  have hsame : TimeStamp.eastern.Same TimeStamp.universal := ⟨by decide, rfl, rfl⟩
  exact ⟨hread, hwritten, by decide, by decide, heastern, huniversal, hsame,
    (wire_round_trips.2.2 _ _ heastern huniversal hsame).1⟩

end StorageFleet
