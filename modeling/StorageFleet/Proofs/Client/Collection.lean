import StorageFleet.Proofs.Client.Dealing
import StorageFleet.Proofs.Json.Wire

/-!
# Collecting a list that comes in pages

The filesystems below a parent come a hundred at a time, and the parent may be among them.  A client
asks for one page after the other, up to the first that is not full, and leaves the parent out.  The
two do not go together by themselves: whether a page is full is asked of the page as it came, before
anything is left out of it.

`Client.Serves` is an appliance that has one list: whoever asks it for some entries from an offset
on gets these entries.  `collection` says what a client collects from it: the list without the
parent, by requests for a hundred entries each, one more than there are full pages.  A request that
fails, or that is not answered, is the end.

What the loop has collected after some full pages is the beginning of the list without the parent
(`play_of_serves`), by induction on the pages.
-/

namespace StorageFleet
open StorageFleet.Task (Event Circumstance Moment Ending Playback)

namespace Client

variable (client : Client) (world : Nat → Circumstance) (parent : String)

/-- Asks for the filesystems below a parent: for `limit` of them, from `offset` on. -/
def pageRequest (parent : String) (offset limit : Nat) : Request where
  method := "GET"
  path := queryUri "storage/filesystems"
    [("parent", parent),
      ("fields",
        "path,mountPoint,sharedOverNfs,sharedOverSmb,bytesAvailable,bytesUsed,referencedQuotaSize"),
      ("limit", toString limit), ("offset", toString offset)]

/-- The filesystems in a response. -/
def filesystemsIn (response : Response) : Except Fault (List Filesystem) :=
  response.decode (Reader.dataList Filesystem.record.read) client.endpoint

/-- A request for `limit` entries from `offset` on, and what is found in the response. -/
def turn (offset limit : Nat) (start : Moment) : Playback (Except Fault (List Filesystem)) :=
  (client.dealing world (pageRequest parent offset limit) start).map fun outcome =>
    outcome.bind client.filesystemsIn

/-- The `limit` entries of a list from `offset` on, or as many as there are. -/
def entriesAt (served : List Filesystem) (offset limit : Nat) : List Filesystem :=
  (served.drop offset).take limit

/-- What is collected of a list: all but the parent. -/
def below (parent : String) (served : List Filesystem) : List Filesystem :=
  served.filter fun fs => fs.path ≠ parent

/-- An appliance that has a list is asked for entries of it, from `now` on and once after the other,
with these offsets and limits, and answers with what it is asked for: `events` is all that the
client does for it, and at `later` the last answer is there. -/
inductive Serves (served : List Filesystem) (now : Moment) :
    List (Nat × Nat) → List (Nat × Event) → Moment → Prop where
  | start : Serves served now [] [] now
  | next {asked events said later latest offset limit}
      (before : Serves served now asked events later)
      (page : client.turn world parent offset limit later =
        ⟨said, some ⟨latest, .ok (entriesAt served offset limit)⟩⟩) :
      Serves served now (asked ++ [(offset, limit)]) (events ++ said) latest

/-- The first pages of a hundred entries: from 0 on, from 100 on, from 200 on. -/
def hundreds (count : Nat) : List (Nat × Nat) :=
  (List.range count).map fun k => (k * 100, 100)

/-- What is collected from `now` on: all of a list that is served, by one page more than there are
full ones, and nothing as soon as a page fails.  For a page that does not come there is no
ending. -/
structure Collects (served : List Filesystem) (now : Moment)
    (run : Playback (Except Fault (List Filesystem))) : Prop where
  complete : ∀ events later,
    client.Serves world parent served now (hundreds (served.length / 100 + 1)) events later →
    run = ⟨events, some ⟨later, .ok (below parent served)⟩⟩
  failed : ∀ count events later said latest fault, count ≤ served.length / 100 →
    client.Serves world parent served now (hundreds count) events later →
    client.turn world parent (count * 100) 100 later = ⟨said, some ⟨latest, .error fault⟩⟩ →
    run = ⟨events ++ said, some ⟨latest, .error fault⟩⟩
  unanswered : ∀ count events later said, count ≤ served.length / 100 →
    client.Serves world parent served now (hundreds count) events later →
    client.turn world parent (count * 100) 100 later = ⟨said, none⟩ → run = ⟨events ++ said, none⟩

variable {client world parent} {served : List Filesystem} {now later : Moment} {count pages : Nat}
  {events : List (Nat × Event)}

/-! ## Pages of a list -/

lemma length_entriesAt (served : List Filesystem) (offset limit : Nat) :
    (entriesAt served offset limit).length = min limit (served.length - offset) := by
  simp [entriesAt]

lemma le_length_of_full (h : count + 1 ≤ served.length / 100) :
    100 ≤ (entriesAt served (count * 100) 100).length := by
  have hfull := Nat.mul_le_of_le_div 100 _ _ h
  rw [length_entriesAt]
  omega

lemma length_last_lt (served : List Filesystem) :
    (entriesAt served (served.length / 100 * 100) 100).length < 100 := by
  rw [length_entriesAt]
  omega

lemma take_succ_pages (served : List Filesystem) (k : Nat) :
    served.take ((k + 1) * 100) = served.take (k * 100) ++ entriesAt served (k * 100) 100 := by
  rw [Nat.succ_mul, List.take_add]
  rfl

/-- The page behind the full ones is the last. -/
lemma take_append_last_page (served : List Filesystem) :
    served.take (served.length / 100 * 100) ++ entriesAt served (served.length / 100 * 100) 100 =
      served := by
  rw [← take_succ_pages, List.take_of_length_le]
  omega

lemma below_append (parent : String) (first second : List Filesystem) :
    below parent (first ++ second) = below parent first ++ below parent second :=
  List.filter_append first second

lemma eq_of_serves_nil (h : client.Serves world parent served now [] events later) :
    events = [] ∧ later = now := by
  generalize hasked : [] = asked at h
  cases h with
  | start => exact ⟨rfl, rfl⟩
  | next before page => simp at hasked

/-- The last of the pages is served behind the others. -/
lemma serves_hundreds_succ {latest : Moment} :
    client.Serves world parent served now (hundreds (count + 1)) events latest ↔
      ∃ earlier said later, client.Serves world parent served now (hundreds count) earlier later ∧
        client.turn world parent (count * 100) 100 later =
          ⟨said, some ⟨latest, .ok (entriesAt served (count * 100) 100)⟩⟩ ∧
        events = earlier ++ said := by
  have hlast : hundreds (count + 1) = hundreds count ++ [(count * 100, 100)] := by
    simp [hundreds, List.range_succ]
  rw [hlast]
  constructor
  · intro h
    generalize hasked : hundreds count ++ [(count * 100, 100)] = asked at h
    cases h with
    | start => simp at hasked
    | @next before earlier said later _ offset limit serves page =>
      obtain ⟨rfl, hpage⟩ := List.append_inj' hasked rfl
      cases hpage
      exact ⟨earlier, said, later, serves, page, rfl⟩
  · rintro ⟨earlier, said, later, serves, page, rfl⟩
    exact .next serves page

/-! ## One page -/

/-- What is kept of a page, before all others. -/
def keeping (parent : String) (page : List Filesystem)
    (outcome : Except Fault (List Filesystem)) : Except Fault (List Filesystem) :=
  outcome.map fun rest => below parent page ++ rest

lemma keeping_nil (outcome : Except Fault (List Filesystem)) :
    keeping parent [] outcome = outcome := by
  cases outcome <;> rfl

lemma keeping_keeping (first second : List Filesystem)
    (outcome : Except Fault (List Filesystem)) :
    keeping parent first (keeping parent second outcome) =
      keeping parent (first ++ second) outcome := by
  cases outcome with
  | error fault => rfl
  | ok rest => simp [keeping, below_append, Except.map]

lemma map_keeping_nil (run : Playback (Except Fault (List Filesystem))) :
    run.map (keeping parent []) = run := by
  obtain ⟨events, ending⟩ := run
  cases ending <;> simp [Playback.map, keeping_nil]

lemma map_keeping_keeping (first second : List Filesystem)
    (run : Playback (Except Fault (List Filesystem))) :
    (run.map (keeping parent second)).map (keeping parent first) =
      run.map (keeping parent (first ++ second)) := by
  obtain ⟨events, ending⟩ := run
  cases ending <;> simp [Playback.map, keeping_keeping]

/-- The address of a page, as the client writes it. -/
lemma pageUri_eq (parent : String) (offset : Nat) :
    pageUri parent offset = (pageRequest parent offset 100).path := rfl

lemma play_childrenFrom_succ (offset pages : Nat) (now : Moment) :
    (client.childrenFrom parent (pages + 1) offset).run.play world none now =
      (client.turn world parent offset 100 now).andThen fun ending => match ending.result with
        | .error fault => ⟨[], some ⟨ending.moment, .error fault⟩⟩
        | .ok page =>
          if page.length < 100 then ⟨[], some ⟨ending.moment, .ok (below parent page)⟩⟩
          else ((client.childrenFrom parent pages (offset + 100)).run.play world none
            ending.moment).map (keeping parent page) := by
  refine (Exchange.play_bind world _ now (tidy_fetch _ _)).trans ?_
  rw [play_fetch, pageUri_eq]
  show Playback.andThen (client.turn world parent offset 100 now) _ = _
  congr 1
  funext ending
  obtain ⟨moment, outcome⟩ := ending
  cases outcome with
  | error fault => rfl
  | ok page =>
    by_cases hshort : page.length < 100
    · have hsize : page.length < pageSize := hshort
      simp only [Exchange.proceed, if_pos hsize, if_pos hshort]
      rfl
    · have hsize : ¬page.length < pageSize := hshort
      simp only [Exchange.proceed, if_neg hsize, if_neg hshort]
      exact Exchange.play_bind_ofExcept world _ (fun rest => .ok (below parent page ++ rest)) moment

section
variable {offset : Nat} {page : List Filesystem} {said : List (Nat × Event)} {latest : Moment}

lemma play_of_full
    (hturn : client.turn world parent offset 100 now = ⟨said, some ⟨latest, .ok page⟩⟩)
    (hfull : 100 ≤ page.length) (pages : Nat) :
    (client.childrenFrom parent (pages + 1) offset).run.play world none now =
      (((client.childrenFrom parent pages (offset + 100)).run.play world none
        latest).map (keeping parent page)).after said := by
  rw [play_childrenFrom_succ, hturn, Playback.andThen_of_some rfl]
  simp only [if_neg (Nat.not_lt.2 hfull)]

lemma play_of_short
    (hturn : client.turn world parent offset 100 now = ⟨said, some ⟨latest, .ok page⟩⟩)
    (hshort : page.length < 100) (pages : Nat) :
    (client.childrenFrom parent (pages + 1) offset).run.play world none now =
      ⟨said, some ⟨latest, .ok (below parent page)⟩⟩ := by
  rw [play_childrenFrom_succ, hturn, Playback.andThen_of_some rfl]
  simp [if_pos hshort, Playback.after]

lemma play_of_failed {fault : Fault}
    (hturn : client.turn world parent offset 100 now = ⟨said, some ⟨latest, .error fault⟩⟩)
    (pages : Nat) : (client.childrenFrom parent (pages + 1) offset).run.play world none now =
      ⟨said, some ⟨latest, .error fault⟩⟩ := by
  rw [play_childrenFrom_succ, hturn, Playback.andThen_of_some rfl]
  simp [Playback.after]

lemma play_of_unanswered (hturn : client.turn world parent offset 100 now = ⟨said, none⟩)
    (pages : Nat) : (client.childrenFrom parent (pages + 1) offset).run.play world none now =
      ⟨said, none⟩ := by
  rw [play_childrenFrom_succ, hturn, Playback.andThen_of_none rfl]

end

/-! ## All pages -/

/-- What has been collected when `count` full pages have come: the beginning of the list without the
parent. -/
lemma play_of_serves
    (serves : client.Serves world parent served now (hundreds count) events later)
    (hfull : count ≤ served.length / 100) (pages : Nat) :
    (client.childrenFrom parent (count + pages) 0).run.play world none now =
      (((client.childrenFrom parent pages (count * 100)).run.play world none later).map
        (keeping parent (served.take (count * 100)))).after events := by
  -- On the pages that have come; the last of them is taken off what is left of the loop.
  induction count generalizing events later pages with
  | zero =>
    obtain ⟨rfl, rfl⟩ := eq_of_serves_nil serves
    rw [Nat.zero_add, Nat.zero_mul, List.take_zero, map_keeping_nil]
    rfl
  | succ count ih =>
    obtain ⟨earlier, said, between, before, page, rfl⟩ := serves_hundreds_succ.1 serves
    rw [Nat.add_assoc, Nat.add_comm 1 pages, ih before (by omega),
      play_of_full page (le_length_of_full hfull), Playback.map_after, map_keeping_keeping,
      ← take_succ_pages, Playback.after_after, Nat.succ_mul]

lemma collects_childrenFrom (parent : String) (enough : served.length / 100 < pages) :
    client.Collects world parent served now
      ((client.childrenFrom parent pages 0).run.play world none now) where
  complete events later serves := by
    obtain ⟨earlier, said, between, before, page, rfl⟩ := serves_hundreds_succ.1 serves
    obtain ⟨rest, rfl⟩ := Nat.exists_eq_add_of_lt enough
    have hkept : keeping parent (served.take (served.length / 100 * 100))
        (.ok (below parent (entriesAt served (served.length / 100 * 100) 100))) =
        .ok (below parent served) := by
      rw [keeping, Except.map, ← below_append, take_append_last_page]
    rw [Nat.add_assoc, play_of_serves before (Nat.le_refl _),
      play_of_short page (length_last_lt served)]
    simp [Playback.map, Playback.after, hkept]
  failed count events later said latest fault hcount serves page := by
    obtain ⟨rest, rfl⟩ := Nat.exists_eq_add_of_lt (Nat.lt_of_le_of_lt hcount enough)
    rw [Nat.add_assoc, play_of_serves serves hcount, play_of_failed page]
    rfl
  unanswered count events later said hcount serves page := by
    obtain ⟨rest, rfl⟩ := Nat.exists_eq_add_of_lt (Nat.lt_of_le_of_lt hcount enough)
    rw [Nat.add_assoc, play_of_serves serves hcount, play_of_unanswered page]
    rfl

end Client

/-! ## What is served -/

/-- The response with a page. -/
def Response.ofPage (page : List Filesystem) : Response where
  status := 200
  body := .json (.object [("data", .array (page.map Filesystem.toJson))])

lemma Client.filesystemsIn_ofPage (client : Client) {page : List Filesystem}
    (fits : ∀ fs ∈ page, fs.Fits) : client.filesystemsIn (.ofPage page) = .ok page := by
  have hitems : List.Forall₂
      (fun fs item => Json.decode Filesystem.record.read item = .ok fs)
      page (page.map Filesystem.toJson) := by
    rw [List.forall₂_map_right_iff, List.forall₂_same]
    exact fun fs hfs => Filesystem.decode_toJson (fits fs hfs)
  have hread := Json.decode_dataList_eq_ok_iff.2 hitems
  simp only [filesystemsIn, Response.decode, Response.ofPage, hread]

/-! ## The result -/

/-- What a client collects from an appliance that serves a list, for every list and every way in
which it comes or fails to come.  Entries in a response are read as they are.  For each page the
client deals with one request, which asks for a hundred entries from an offset on.  A loop of enough
pages collects the whole list, and the pages that a client allows are as many as 64 bits can
count. -/
theorem collection (client : Client) (world : Nat → Circumstance) (parent : String)
    (served : List Filesystem) (now : Moment) :
    (∀ page, (∀ fs ∈ page, fs.Fits) → client.filesystemsIn (.ofPage page) = .ok page) ∧
    (∀ offset limit start, client.Deals world (Client.pageRequest parent offset limit) start
      (client.dealing world (Client.pageRequest parent offset limit) start)) ∧
    (∀ pages, served.length / 100 < pages → client.Collects world parent served now
      ((client.childrenFrom parent pages 0).run.play world none now)) ∧
    (served.length / 100 < Number.max64 → client.Collects world parent served now
      ((client.answer (.getFilesystems parent)).run.play world none now)) :=
  ⟨fun _ fits => client.filesystemsIn_ofPage fits,
    fun _ _ start => client.deals_dealing world _ start,
    fun _ enough => Client.collects_childrenFrom parent enough,
    fun enough => Client.collects_childrenFrom parent enough⟩

namespace Hundred

def client : Client where
  appliance := ⟨0, "https://appliance"⟩
  username := "admin"
  password := "secret"

def child : Filesystem where
  path := "pool/v"

/-- One page exactly, and the parent is on it. -/
def served : List Filesystem :=
  { path := "pool" } :: List.replicate 99 child

/-- The entries from 0 on come after 5 ms, and those from 100 on, which are none, at once. -/
def world : Nat → Circumstance
  | 1 => { answer := .ok (.ofPage (Client.entriesAt served 0 100)), delay := some 5 }
  | _ => { answer := .ok (.ofPage (Client.entriesAt served 100 100)) }

lemma fits_of_mem_entriesAt {offset limit : Nat} {fs : Filesystem}
    (h : fs ∈ Client.entriesAt served offset limit) : fs.Fits := by
  have hmem : fs ∈ served := List.mem_of_mem_drop (List.mem_of_mem_take h)
  rcases List.mem_cons.1 hmem with rfl | hmem
  · exact ⟨Nat.zero_le _, Nat.zero_le _, Nat.zero_le _⟩
  · rw [List.eq_of_mem_replicate hmem]
    exact ⟨Nat.zero_le _, Nat.zero_le _, Nat.zero_le _⟩

lemma turn_of_entries (offset limit : Nat) (start : Moment) {delay : Nat}
    (answered : (world (start.used + 1)).answer =
      .ok (.ofPage (Client.entriesAt served offset limit)))
    (delayed : (world (start.used + 1)).delay = some delay) :
    ∃ said, client.turn world "pool" offset limit start =
      ⟨said, some ⟨⟨start.used + 2, start.time + delay⟩,
        .ok (Client.entriesAt served offset limit)⟩⟩ := by
  have hfits : ∀ fs ∈ Client.entriesAt served offset limit, fs.Fits :=
    fun _ h => fits_of_mem_entriesAt h
  have hread := client.filesystemsIn_ofPage hfits
  rw [Client.turn, Client.dealing_of_success delay answered delayed (by simp [Response.ofPage])
    (by simp [Response.ofPage])]
  simp only [Playback.map, Option.map_some, Except.bind, hread]
  exact ⟨_, rfl⟩

end Hundred

/-- A list that fills its last page is collected with one request more. -/
theorem collection_hundred :
    Hundred.served.length / 100 < Number.max64 ∧
    ∃ events later,
      Hundred.client.Serves Hundred.world "pool" Hundred.served ⟨0, 0⟩ [(0, 100), (100, 100)]
        events later ∧
      (Hundred.client.answer (.getFilesystems "pool")).run.play Hundred.world none ⟨0, 0⟩ =
        ⟨events, some ⟨later, .ok (List.replicate 99 Hundred.child)⟩⟩ := by
  have enough : Hundred.served.length / 100 < Number.max64 := by decide
  obtain ⟨-, -, -, collects⟩ :=
    collection Hundred.client Hundred.world "pool" Hundred.served ⟨0, 0⟩
  obtain ⟨first, full⟩ := Hundred.turn_of_entries 0 100 ⟨0, 0⟩ rfl rfl
  obtain ⟨second, empty⟩ := Hundred.turn_of_entries 100 100 ⟨2, 5⟩ rfl rfl
  have serves : Hundred.client.Serves Hundred.world "pool" Hundred.served ⟨0, 0⟩
      [(0, 100), (100, 100)] _ _ := .next (.next .start full) empty
  exact ⟨enough, _, _, serves, (collects enough).complete _ _ serves⟩

end StorageFleet
