import StorageFleet.Proofs.Json.Reading

/-!
# Records that are read as they were written

A record is read from the fields of an object, in whatever order they stand.  `Record.Holds` says
that some fields make up a value: each field of the record finds its content among them, or has a
default.  It is built up field by field like the record itself (`Holds.present`, `Holds.absent`),
and an object of these fields is read as the value (`Holds.decode`).

A reader accepts more than is ever written, but not every value comes out of it: numbers have 64
bits and moments are those of the calendar.  `Reader.Yields` says what holds of all that a reader
accepts.  Where this is enough to read the written form again, the reader `Echoes` the writer.
-/

namespace StorageFleet

variable {α β : Type}

namespace Reader

/-- All that the reader accepts is like this. -/
def Yields (reader : Reader α) (good : α → Prop) : Prop :=
  ∀ draft value, reader draft = .ok value → good value

/-- Whatever the reader accepts, it reads the same from what is written of it. -/
def Echoes (reader : Reader α) (write : α → Json) : Prop :=
  ∀ draft value, reader draft = .ok value → (write value).decode reader = .ok value

variable {reader : Reader α} {good : α → Prop} {write : α → Json}

lemma Yields.echoes (h : reader.Yields good)
    (hwritten : ∀ value, good value → (write value).decode reader = .ok value) :
    reader.Echoes write :=
  fun draft value hread => hwritten value (h draft value hread)

lemma Echoes.of_forall (hwritten : ∀ value, (write value).decode reader = .ok value) :
    reader.Echoes write :=
  fun _ value _ => hwritten value

end Reader

/-! ## Objects -/

namespace Draft

mutual

/-- A value has no flaws. -/
lemma isWhole_ofJson : ∀ value : Json, (ofJson value).isWhole = true
  | .null | .bool _ | .number _ | .string _ => rfl
  | .array items => by simp [ofJson, isWhole, itemsWhole_ofItems items]
  | .fields entries => by simp [ofJson, isWhole, entriesWhole_ofEntries entries]

lemma itemsWhole_ofItems : ∀ items : List Json, itemsWhole (ofItems items) = true
  | [] => rfl
  | item :: rest => by simp [ofItems, itemsWhole, isWhole_ofJson item, itemsWhole_ofItems rest]

lemma entriesWhole_ofEntries : ∀ entries : List (String × Json),
    entriesWhole (ofEntries entries) = true
  | [] => rfl
  | (_, item) :: rest => by
    simp [ofEntries, entriesWhole, isWhole_ofJson item, entriesWhole_ofEntries rest]

end

end Draft

lemma Catalog.entries_ofList (entries : List (String × α)) : (Catalog.ofList entries).entries =
    entries.foldl (fun sorted entry => insertSorted entry.1 entry.2 sorted) [] := by
  have hfold : ∀ table : Catalog α,
      (entries.foldl (fun table entry => table.insert entry.1 entry.2) table).entries =
        entries.foldl (fun sorted entry => insertSorted entry.1 entry.2 sorted) table.entries := by
    induction entries with
    | nil => exact fun table => rfl
    | cons entry rest ih => exact fun table => ih (table.insert entry.1 entry.2)
  exact hfold .empty

/-- An object is a table of its fields. -/
lemma Json.object_eq (fields : List (String × Json)) :
    Json.object fields = .fields (Catalog.ofList fields).entries := by
  rw [Catalog.entries_ofList]
  rfl

/-- The last entry of a key counts. -/
lemma Catalog.find?_ofList (entries : List (String × α)) (key : String) :
    (Catalog.ofList entries).find? key = entries.reverse.lookup key := by
  have hfold : ∀ table : Catalog α,
      (entries.foldl (fun table entry => table.insert entry.1 entry.2) table).find? key =
        (entries.reverse.lookup key).or (table.find? key) := by
    induction entries with
    | nil => exact fun table => rfl
    | cons entry rest ih =>
      intro table
      rw [List.foldl_cons, ih, find?_insert, List.reverse_cons, List.lookup_append, Option.or_assoc,
        lookup_cons_eq_ite, List.lookup_nil]
      split_ifs <;> rfl
  rw [ofList, hfold]
  exact Option.or_none

/-! Entries that are given in the order of their keys stay where they are. -/

lemma insertSorted_last {entries : List (String × α)} {key : String} {value : α}
    (h : ∀ entry ∈ entries, entry.1 < key) :
    insertSorted key value entries = entries ++ [(key, value)] := by
  induction entries with
  | nil => rfl
  | cons entry rest ih =>
    obtain ⟨k, other⟩ := entry
    rw [insertSorted_of_gt (h _ List.mem_cons_self),
      ih fun entry hmem => h entry (List.mem_cons_of_mem _ hmem)]
    rfl

lemma foldl_insertSorted {found entries : List (String × α)} (h : Ascending (found ++ entries)) :
    entries.foldl (fun sorted entry => insertSorted entry.1 entry.2 sorted) found =
      found ++ entries := by
  induction entries generalizing found with
  | nil => exact (List.append_nil found).symm
  | cons entry rest ih =>
    have hlast : insertSorted entry.1 entry.2 found = found ++ [entry] :=
      insertSorted_last fun old hold =>
        (List.pairwise_append.1 h).2.2 old hold entry List.mem_cons_self
    rw [List.append_cons] at h
    rw [List.foldl_cons, hlast, ih h, ← List.append_cons]

lemma Catalog.entries_ofList_of_ascending {entries : List (String × α)} (h : Ascending entries) :
    (Catalog.ofList entries).entries = entries := by
  have hempty : Ascending ([] ++ entries) := h
  rw [entries_ofList, foldl_insertSorted hempty, List.nil_append]

/-! ## Records -/

/-- What was found under a key. -/
def Found.look (found : Found) (key : String) : Option Draft :=
  (found.find? fun entry => entry.1 == key).map Prod.snd

lemma Found.look_cons (key other : String) (draft : Draft) (found : Found) :
    Found.look ((key, draft) :: found) other = if other = key then some draft else
      Found.look found other := by
  unfold Found.look
  rw [List.find?_cons]
  by_cases h : other = key
  · simp [h]
  · have hne : (key == other) = false := by simpa using Ne.symm h
    simp [h, hne]

namespace Record

variable {record : Record α} {found : Found} {parts : List RecordField}

lemma content_eq (key : String) (reader : Reader α) (absent : Except Flaw α) (found : Found) :
    content key reader absent found = match found.look key with
      | some draft => reader draft
      | none => absent := by
  unfold content Found.look
  cases found.find? fun entry => entry.1 == key <;> rfl

/-- The known fields of an object are all collected, if their contents are right. -/
lemma collect_ofEntries {entries : List (String × Json)}
    (checks : ∀ entry ∈ entries, ∀ part ∈ parts, part.key = entry.1 →
      part.check (Draft.ofJson entry.2) = .ok ())
    (distinct : entries.Pairwise fun a b => a.1 ≠ b.1)
    (fresh : ∀ entry ∈ entries, ∀ old ∈ found, old.1 ≠ entry.1) :
    ∃ all, collect parts .closed found (Draft.ofEntries entries) = .ok all ∧
      ∀ part ∈ parts, Found.look all part.key =
        ((entries.lookup part.key).map Draft.ofJson).or (Found.look found part.key) := by
  induction entries generalizing found with
  | nil => exact ⟨found, rfl, fun part _ => rfl⟩
  | cons entry rest ih =>
    obtain ⟨key, value⟩ := entry
    obtain ⟨hhead, hrest⟩ := List.pairwise_cons.1 distinct
    have hchecks := fun entry hmem => checks entry (List.mem_cons_of_mem _ hmem)
    have hlook : ∀ part ∈ parts, ((key, value) :: rest).lookup part.key =
        if part.key = key then some value else rest.lookup part.key :=
      fun part _ => Catalog.lookup_cons_eq_ite ..
    unfold Draft.ofEntries collect
    cases hpart : parts.find? fun part => part.key == key with
    | none =>
      have hunknown : ∀ part ∈ parts, part.key ≠ key := by simpa using hpart
      obtain ⟨all, hall, hfound⟩ := ih hchecks hrest
        fun entry hmem => fresh entry (List.mem_cons_of_mem _ hmem)
      refine ⟨all, ?_, fun part hmem => ?_⟩
      · simp only [Draft.isWhole_ofJson, if_true]
        exact hall
      · rw [hfound part hmem, hlook part hmem, if_neg (hunknown part hmem)]
    | some part =>
      have hkey : part.key = key := by simpa using List.find?_some hpart
      have hcheck := checks _ List.mem_cons_self part (List.mem_of_find?_eq_some hpart) hkey
      have hnew : (found.any fun entry => entry.1 == key) = false := by
        simpa using fun old => fresh _ List.mem_cons_self old
      have hfresh : ∀ entry ∈ rest, ∀ old ∈ (key, Draft.ofJson value) :: found,
          old.1 ≠ entry.1 := by
        intro entry hmem old hold
        rcases List.mem_cons.1 hold with rfl | hold
        · exact hhead entry hmem
        · exact fresh entry (List.mem_cons_of_mem _ hmem) old hold
      obtain ⟨all, hall, hfound⟩ := ih hchecks hrest hfresh
      refine ⟨all, ?_, fun other hmem => ?_⟩
      · simp only [hnew, Bool.false_eq_true, if_false, hcheck]
        exact hall
      · rw [hfound other hmem, hlook other hmem, Found.look_cons]
        split_ifs with hother
        · have hnone : rest.lookup other.key = none := by
            rw [List.lookup_eq_none_iff]
            intro entry hentry
            simpa [hother] using hhead entry hentry
          rw [hnone]
          rfl
        · rfl

/-! ## What makes up a value -/

/-- These fields make up the value: the record's own checks pass, and it is built from them. -/
structure Holds (record : Record α) (fields : List (String × Json)) (value : α) : Prop where
  checks : ∀ part ∈ record.parts, ∀ json, fields.reverse.lookup part.key = some json →
    part.check (Draft.ofJson json) = .ok ()
  builds : ∀ found : Found, (∀ part ∈ record.parts,
    found.look part.key = (fields.reverse.lookup part.key).map Draft.ofJson) →
      record.build found = .ok value

variable {fields : List (String × Json)} {key : String} {reader : Reader α} {missing : Absent}
  {default : Except Flaw α} {json : Json} {value : α} {make : α → β} {record : Record (α → β)}

lemma holds_of (make : α) (fields : List (String × Json)) : (of make).Holds fields make :=
  ⟨fun _ hmem => absurd hmem List.not_mem_nil, fun _ _ => rfl⟩

namespace Holds

lemma withField (h : record.Holds fields make)
    (hchecks : ∀ json, fields.reverse.lookup key = some json →
      ∃ read, json.decode reader = .ok read)
    (hcontent : ∀ found : Found,
      found.look key = (fields.reverse.lookup key).map Draft.ofJson →
        content key reader default found = .ok value) :
    (record.withField key reader missing default).Holds fields (make value) := by
  refine ⟨fun part hmem json hjson => ?_, fun found hfound => ?_⟩
  · rcases List.mem_append.1 hmem with hmem | hmem
    · exact h.checks part hmem json hjson
    · obtain rfl := List.mem_singleton.1 hmem
      obtain ⟨read, hread⟩ := hchecks json hjson
      exact congrArg (Except.map fun _ => ()) hread
  · have hmake := h.builds found fun part hmem => hfound part (List.mem_append_left _ hmem)
    have hvalue := hcontent found
      (hfound _ (List.mem_append_right _ (List.mem_singleton_self _)))
    simp only [Record.withField, hmake, hvalue]
    rfl

/-- A field whose content is there. -/
lemma present (h : record.Holds fields make) (hfound : fields.reverse.lookup key = some json)
    (hread : json.decode reader = .ok value) :
    (record.withField key reader missing default).Holds fields (make value) := by
  refine h.withField (fun other hother => ?_) fun found hlook => ?_
  · obtain rfl := Option.some.inj (hfound.symm.trans hother)
    exact ⟨value, hread⟩
  · rw [content_eq, hlook, hfound]
    exact hread

/-- A field that is not there has its default. -/
lemma absent (h : record.Holds fields make) (hfound : fields.reverse.lookup key = none)
    (hdefault : default = .ok value) :
    (record.withField key reader missing default).Holds fields (make value) := by
  refine h.withField (fun other hother => ?_) fun found hlook => ?_
  · rw [hfound] at hother
    cases hother
  · rw [content_eq, hlook, hfound]
    exact hdefault

/-- A text that is only written if there is one. -/
lemma text {text : Option String} {record : Record (Option String → β)} {make : Option String → β}
    (h : record.Holds fields make) (hfound : fields.reverse.lookup key = text.map Json.string) :
    (record.nullable key Reader.string).Holds fields (make text) := by
  cases text with
  | none => exact h.absent hfound rfl
  | some text => exact h.present hfound rfl

/-- The object of the fields is read as the value. -/
theorem decode {record : Record α} (h : record.Holds fields value) :
    (Json.object fields).decode record.read = .ok value := by
  rw [Json.object_eq, Json.decode, Draft.ofJson, read]
  have hlookup : ∀ key, (Catalog.ofList fields).entries.lookup key = fields.reverse.lookup key :=
    Catalog.find?_ofList fields
  have hascending := (Catalog.ofList fields).ascending
  have hchecks : ∀ entry ∈ (Catalog.ofList fields).entries, ∀ part ∈ record.parts,
      part.key = entry.1 → part.check (Draft.ofJson entry.2) = .ok () := by
    intro entry hentry part hpart hkey
    refine h.checks part hpart entry.2 ?_
    rw [← hlookup, hkey]
    exact (Catalog.lookup_eq_some_iff hascending).2 hentry
  have hdistinct : (Catalog.ofList fields).entries.Pairwise fun a b => a.1 ≠ b.1 := by
    refine hascending.imp fun {a b} hlt heq => ?_
    rw [heq] at hlt
    exact String.lt_irrefl _ hlt
  obtain ⟨all, hall, hfound⟩ := collect_ofEntries hchecks hdistinct
    fun _ _ old hold => absurd hold List.not_mem_nil
  rw [hall]
  refine h.builds all fun part hpart => ?_
  rw [hfound part hpart, hlookup]
  exact Option.or_none

end Holds

/-! ## What comes out of a record -/

/-- All that the record builds is like this. -/
def Builds (record : Record α) (good : α → Prop) : Prop :=
  ∀ found value, record.build found = .ok value → good value

lemma builds_of {make : α} {good : α → Prop} (h : good make) : (of make).Builds good := by
  intro found value hbuild
  cases hbuild
  exact h

lemma Builds.withField {good : β → Prop} {part : α → Prop}
    (h : record.Builds fun make => ∀ value, part value → good (make value))
    (hreader : reader.Yields part) (hdefault : ∀ value, default = .ok value → part value) :
    (record.withField key reader missing default).Builds good := by
  intro found value hbuild
  simp only [Record.withField, except_bind_eq_ok_iff, content_eq] at hbuild
  obtain ⟨make, hmake, content, hcontent, hvalue⟩ := hbuild
  cases hvalue
  refine h found make hmake content ?_
  split at hcontent
  · exact hreader _ _ hcontent
  · exact hdefault _ hcontent

/-- A field of which nothing is asked. -/
lemma Builds.skip {good : β → Prop} (h : record.Builds fun make => ∀ value, good (make value)) :
    (record.withField key reader missing default).Builds good := by
  have hany : reader.Yields fun _ => True := fun _ _ _ => trivial
  exact Builds.withField (fun found make hbuild value _ => h found make hbuild value) hany
    fun _ _ => trivial

lemma Builds.yields {record : Record α} {good : α → Prop} (h : record.Builds good) :
    Reader.Yields record.read good := by
  intro draft value hread
  unfold read at hread
  split at hread
  · obtain ⟨found, -, hbuild⟩ := except_bind_eq_ok_iff.1 hread
    exact h found value hbuild
  · obtain ⟨found, -, hbuild⟩ := except_bind_eq_ok_iff.1 hread
    exact h found value hbuild
  all_goals cases hread

/-! ## Contents that are read alike -/

/-- The entries are the same, or give one key different contents. -/
def Alike (key : String) (draft other : Draft) (entry entry' : String × Draft) : Prop :=
  entry = entry' ∨ entry = (key, draft) ∧ entry' = (key, other)

/-- It makes no difference to the record which of the two contents is given under the key. -/
structure Ignores (record : Record α) (key : String) (draft other : Draft) : Prop where
  checks : ∀ part ∈ record.parts, part.key = key → part.check draft = part.check other
  builds : ∀ found found' : Found, List.Forall₂ (Alike key draft other) found found' →
    record.build found = record.build found'

section

variable {draft other : Draft} {entry entry' : String × Draft} {found found' : Found}

lemma Alike.fst_eq (h : Alike key draft other entry entry') : entry.1 = entry'.1 := by
  rcases h with rfl | ⟨rfl, rfl⟩ <;> rfl

lemma Alike.refl (entry : String × Draft) : Alike key draft other entry entry := .inl rfl

lemma forall₂_alike_refl (found : Found) : List.Forall₂ (Alike key draft other) found found :=
  List.forall₂_same.2 fun entry _ => .refl entry

lemma content_congr {name : String} {absent : Except Flaw α}
    (hreader : name = key → reader draft = reader other)
    (h : List.Forall₂ (Alike key draft other) found found') :
    content name reader absent found = content name reader absent found' := by
  induction h with
  | nil => rfl
  | @cons entry entry' found found' halike _ ih =>
    obtain ⟨k, content⟩ := entry
    obtain ⟨k', content'⟩ := entry'
    obtain rfl : k = k' := halike.fst_eq
    simp only [content_eq, Found.look_cons] at ih ⊢
    split_ifs with hname
    · rcases halike with hsame | ⟨hdraft, hother⟩
      · cases hsame
        rfl
      · cases hdraft
        cases hother
        exact hreader hname
    · exact ih

lemma ignores_of (make : α) : (of make).Ignores key draft other :=
  ⟨fun _ hmem => absurd hmem List.not_mem_nil, fun _ _ _ => rfl⟩

lemma Ignores.withField {name : String} (h : record.Ignores key draft other)
    (hreader : name = key → reader draft = reader other) :
    (record.withField name reader missing default).Ignores key draft other := by
  refine ⟨fun part hmem hpart => ?_, fun found found' hfound => ?_⟩
  · rcases List.mem_append.1 hmem with hmem | hmem
    · exact h.checks part hmem hpart
    · obtain rfl := List.mem_singleton.1 hmem
      exact congrArg (Except.map fun _ => ()) (hreader hpart)
  · simp only [Record.withField, h.builds found found' hfound, content_congr hreader hfound]

lemma Ignores.otherField {name : String} (h : record.Ignores key draft other) (hne : name ≠ key) :
    (record.withField name reader missing default).Ignores key draft other :=
  h.withField fun hkey => absurd hkey hne

lemma any_congr {name : String} (h : List.Forall₂ (Alike key draft other) found found') :
    (found.any fun entry => entry.1 == name) = found'.any fun entry => entry.1 == name := by
  induction h with
  | nil => rfl
  | cons halike _ ih => rw [List.any_cons, List.any_cons, halike.fst_eq, ih]

/-- What is collected from either list of fields builds the same. -/
lemma Ignores.collect_bind {record : Record α} (h : record.Ignores key draft other)
    (hdraft : draft.isWhole = true) (hother : other.isWhole = true) (ending : Draft.Ending)
    {entries entries' : List (String × Draft)}
    (hentries : List.Forall₂ (Alike key draft other) entries entries')
    (hfound : List.Forall₂ (Alike key draft other) found found') :
    (collect record.parts ending found entries >>= record.build) =
      collect record.parts ending found' entries' >>= record.build := by
  induction hentries generalizing found found' with
  | nil =>
    cases ending with
    | closed => exact h.builds found found' hfound
    | cut => rfl
  | @cons entry entry' rest rest' halike _ ih =>
    have hnext := ih (.cons halike hfound)
    obtain ⟨k, content⟩ := entry
    obtain ⟨k', content'⟩ := entry'
    obtain rfl : k = k' := halike.fst_eq
    have hwhole : content.isWhole = content'.isWhole := by
      rcases halike with hsame | ⟨hx, hy⟩
      · cases hsame
        rfl
      · cases hx
        cases hy
        rw [hdraft, hother]
    have hcheck : ∀ part ∈ record.parts, part.key = k →
        part.check content = part.check content' := by
      intro part hmem hkey
      rcases halike with hsame | ⟨hx, hy⟩
      · cases hsame
        rfl
      · cases hx
        cases hy
        exact h.checks part hmem hkey
    unfold collect
    cases hpart : record.parts.find? fun part => part.key == k with
    | none =>
      dsimp only
      rw [hwhole]
      split_ifs
      · exact ih hfound
      · rfl
    | some part =>
      have hkey : part.key = k := by simpa using List.find?_some hpart
      dsimp only
      rw [any_congr hfound, hcheck part (List.mem_of_find?_eq_some hpart) hkey]
      split_ifs
      · rfl
      · cases part.check content' with
        | error flaw => rfl
        | ok _ => exact hnext

/-- An object reads the same with either content. -/
theorem Ignores.decode_eq {record : Record α} {json json' : Json}
    (h : record.Ignores key (Draft.ofJson json) (Draft.ofJson json'))
    (before after : List (String × Json)) :
    (Json.fields (before ++ (key, json) :: after)).decode record.read =
      (Json.fields (before ++ (key, json') :: after)).decode record.read := by
  have hentries : ∀ before : List (String × Json),
      List.Forall₂ (Alike key (Draft.ofJson json) (Draft.ofJson json'))
        (Draft.ofEntries (before ++ (key, json) :: after))
        (Draft.ofEntries (before ++ (key, json') :: after)) := by
    intro before
    induction before with
    | nil => exact .cons (.inr ⟨rfl, rfl⟩) (forall₂_alike_refl _)
    | cons entry rest ih =>
      obtain ⟨k, value⟩ := entry
      exact .cons (.refl _) ih
  exact h.collect_bind (Draft.isWhole_ofJson json) (Draft.isWhole_ofJson json') .closed
    (hentries before) .nil

end

end Record
end StorageFleet
