import Mathlib.Algebra.Order.Floor.Div
import Mathlib.Tactic.Common
import StorageFleet.Page

/-!
# Pages of a list

A page is cut off behind the entry that a token names.  `Page.IsRun` says what a page must be: the
run of items from there on, as long as the limit lets it be, with the key of its last entry as the
token if anything is left.  `Page.Turned` is a reader that goes from page to page, each time with
the token of the page before.

`pagination` is the result.  A single page is what `IsRun` asks for, whatever the list; equal keys
only mean that the first entry counts.  If all keys differ, the pages one after the other are the
list.  What carries the induction is that the token then says how much of the list was handed out
(`remaining_of_getLast?`).
-/

namespace StorageFleet
namespace Page

variable {key : α → String} {limit : Nat} {token : Option String} {items rest : List α}
  {page : Page α}

/-! ## One page -/

lemma cut_eq_ok_iff : cut key limit token items = .ok page ↔
    ∃ rest, remaining key token items = .ok rest ∧ first key limit rest = page := by
  unfold cut
  cases remaining key token items <;> simp [Except.map]

lemma behind_eq_some {token : String} (h : behind key token items = some rest) :
    ∃ before item, items = before ++ item :: rest ∧ key item = token := by
  induction items with
  | nil => cases h
  | cons item tail ih =>
    unfold behind at h
    split_ifs at h with hkey
    · cases h
      exact ⟨[], item, rfl, hkey⟩
    · obtain ⟨before, found, rfl, hfound⟩ := ih h
      exact ⟨item :: before, found, rfl, hfound⟩

lemma behind_eq_none_iff {token : String} :
    behind key token items = none ↔ token ∉ items.map key := by
  induction items with
  | nil => simp [behind]
  | cons item tail ih =>
    unfold behind
    split_ifs with hkey
    · simp [hkey]
    · simpa [Ne.symm hkey] using ih

/-- What remains lies behind the entry that the token names. -/
lemma remaining_eq_ok (h : remaining key token items = .ok rest) :
    ∃ before, items = before ++ rest ∧
      before.getLast?.map key = token.filter fun token => !token.isEmpty := by
  unfold remaining at h
  split at h
  · next hnone =>
    cases h
    exact ⟨[], rfl, hnone.symm⟩
  · next token hsome =>
    cases hbehind : behind key token items with
    | none => simp [hbehind] at h
    | some found =>
      obtain rfl : found = rest := by simpa [hbehind] using h
      obtain ⟨before, item, rfl, rfl⟩ := behind_eq_some hbehind
      exact ⟨before ++ [item], by simp, by simp [hsome]⟩

lemma prefix_first (key : α → String) (limit : Nat) (items : List α) :
    (first key limit items).entries <+: items := by
  unfold first
  split_ifs
  · exact List.prefix_rfl
  · exact List.take_prefix limit items

/-- A page goes to the end, or up to the entry that its token names. -/
lemma first_ends (key : α → String) (limit : Nat) (items : List α) :
    (first key limit items).nextToken = none ∧ (first key limit items).entries = items ∨
      ∃ last, (first key limit items).entries.getLast? = some last ∧
        (first key limit items).nextToken = some (key last) := by
  unfold first
  split_ifs with hall
  · exact .inl ⟨rfl, rfl⟩
  · push Not at hall
    have hne : items.take limit ≠ [] := by
      rw [Ne, List.take_eq_nil_iff]
      rintro (rfl | rfl)
      · exact hall.1 rfl
      · exact absurd hall.2 (by simp)
    have hlast := List.getLast?_eq_some_getLast hne
    exact .inr ⟨_, hlast, congrArg (Option.map key) hlast⟩

/-- A page has nothing on it that is not listed. -/
lemma mem_of_cut (h : cut key limit token items = .ok page) {item : α}
    (hmem : item ∈ page.entries) : item ∈ items := by
  obtain ⟨rest, hrest, rfl⟩ := cut_eq_ok_iff.1 h
  obtain ⟨before, rfl, -⟩ := remaining_eq_ok hrest
  exact List.mem_append_right before ((prefix_first key limit rest).subset hmem)

/-- A page begins behind the entry that its starting token names and ends with the one that its own
token names, or with the last one. -/
lemma cut_eq_ok (htoken : token ≠ some "") (h : cut key limit token items = .ok page) :
    ∃ before after, items = before ++ page.entries ++ after ∧ before.getLast?.map key = token ∧
      (page.nextToken = none ∧ after = [] ∨
        ∃ last, page.entries.getLast? = some last ∧ page.nextToken = some (key last)) := by
  obtain ⟨rest, hrest, rfl⟩ := cut_eq_ok_iff.1 h
  obtain ⟨before, rfl, hbefore⟩ := remaining_eq_ok hrest
  obtain ⟨after, hafter⟩ := prefix_first key limit rest
  have hfilter : (token.filter fun token => !token.isEmpty) = token := by
    cases token with
    | none => rfl
    | some token => simpa using htoken
  refine ⟨before, after, by rw [List.append_assoc, hafter], hbefore.trans hfilter, ?_⟩
  refine (first_ends key limit rest).imp_left fun ⟨hlast, hall⟩ => ⟨hlast, ?_⟩
  simpa [hall] using hafter

/-- A token that names nothing of what is listed leads nowhere. -/
lemma cut_of_not_mem {token : String} (hne : token ≠ "") (h : token ∉ items.map key) (limit : Nat) :
    cut key limit (some token) items = .error (.invalidStartingToken token) := by
  have hfilter : (some token).filter (fun token => !token.isEmpty) = some token := by
    simpa using hne
  unfold cut remaining
  rw [hfilter]
  dsimp only
  rw [behind_eq_none_iff.2 h]
  rfl

/-! ## Which entries are on a page -/

/-- Where the page of a token starts: behind the first entry with that key, and without a token or
with an empty one at the beginning. -/
def start (key : α → String) (token : Option String) (items : List α) : Nat :=
  match token with
  | none => 0
  | some token => if token = "" then 0 else (items.map key).idxOf token + 1

/-- The token is one that a page can be asked for with: if it is not empty it names an entry. -/
def Known (key : α → String) (token : Option String) (items : List α) : Prop :=
  ∀ text, token = some text → text ≠ "" → text ∈ items.map key

/-- The page that starts at `start`. -/
structure IsRun (key : α → String) (limit start : Nat) (items : List α) (page : Page α) :
    Prop where
  /-- Its entries follow one another in the list. -/
  contiguous : page.entries <+: items.drop start
  length : page.entries.length =
    if limit = 0 then items.length - start else min limit (items.length - start)
  /-- There is a token just if something is left. -/
  isSome_nextToken : page.nextToken.isSome ↔ start + page.entries.length < items.length
  /-- The token is the key of the last entry. -/
  nextToken_eq : ∀ next, page.nextToken = some next →
    ∃ last, page.entries.getLast? = some last ∧ next = key last

lemma behind_eq_drop {token : String} (h : token ∈ items.map key) :
    behind key token items = some (items.drop ((items.map key).idxOf token + 1)) := by
  induction items with
  | nil => simp at h
  | cons item tail ih =>
    unfold behind
    split_ifs with hkey
    · simp [hkey]
    · have htail : token ∈ tail.map key := by
        simpa [Ne.symm hkey] using h
      rw [ih htail, List.map_cons, List.idxOf_cons_ne _ hkey]
      rfl

lemma remaining_of_known (h : Known key token items) :
    remaining key token items = .ok (items.drop (start key token items)) := by
  cases token with
  | none => rfl
  | some text =>
    by_cases hempty : text = ""
    · subst hempty
      rfl
    · have hfilter : (some text).filter (fun token => !token.isEmpty) = some text := by
        simpa using hempty
      unfold remaining
      rw [hfilter]
      dsimp only
      rw [behind_eq_drop (h text rfl hempty), start, if_neg hempty]

lemma first_of_fits (h : limit = 0 ∨ items.length ≤ limit) :
    first key limit items = ⟨items, none⟩ :=
  if_pos h

lemma first_of_lt (hlimit : limit ≠ 0) (h : limit < items.length) :
    first key limit items = ⟨items.take limit, (items.take limit).getLast?.map key⟩ := by
  unfold first
  rw [if_neg (by omega)]

lemma isRun_first (key : α → String) (limit start : Nat) (items : List α) :
    IsRun key limit start items (first key limit (items.drop start)) where
  contiguous := prefix_first key limit _
  length := by
    have hlength : (items.drop start).length = items.length - start := List.length_drop
    by_cases h : limit = 0 ∨ (items.drop start).length ≤ limit
    · rw [first_of_fits h]
      dsimp only
      split_ifs <;> omega
    · rw [first_of_lt (by omega) (by omega), List.length_take, if_neg (by omega), hlength]
  isSome_nextToken := by
    have hlength : (items.drop start).length = items.length - start := List.length_drop
    by_cases h : limit = 0 ∨ (items.drop start).length ≤ limit
    · rw [first_of_fits h]
      simp only [Option.isSome_none, Bool.false_eq_true, false_iff]
      omega
    · rw [first_of_lt (by omega) (by omega)]
      have hne : (items.drop start).take limit ≠ [] := by
        rw [← List.length_pos_iff, List.length_take]
        omega
      simp only [Option.isSome_map, List.getLast?_eq_some_getLast hne, Option.isSome_some,
        List.length_take, true_iff]
      omega
  nextToken_eq next hnext := by
    rcases first_ends key limit (items.drop start) with ⟨hnone, -⟩ | ⟨last, hlast, hkey⟩
    · simp [hnone] at hnext
    · exact ⟨last, hlast, Option.some.inj (hnext.symm.trans hkey)⟩

/-- The page of a token. -/
lemma exists_isRun (h : Known key token items) (limit : Nat) :
    ∃ page, cut key limit token items = .ok page ∧
      IsRun key limit (start key token items) items page := by
  refine ⟨_, ?_, isRun_first key limit (start key token items) items⟩
  rw [cut, remaining_of_known h]
  rfl

/-! ## From page to page -/

/-- The pages from a token on, each asked for with the token of the page before, up to the one that
has none. -/
inductive Turned (key : α → String) (limit : Nat) (items : List α) :
    Option String → List (Page α) → Prop where
  | last {asked found} (cut : cut key limit asked items = .ok found)
      (ends : found.nextToken = none) : Turned key limit items asked [found]
  | turn {asked found next pages} (cut : cut key limit asked items = .ok found)
      (goes : found.nextToken = some next) (more : Turned key limit items (some next) pages) :
      Turned key limit items asked (found :: pages)

lemma Turned.ne_nil {pages : List (Page α)} (h : Turned key limit items token pages) :
    pages ≠ [] := by
  cases h <;> exact List.cons_ne_nil _ _

/-- There is only one way to go from page to page. -/
lemma Turned.unique {pages others : List (Page α)} (h : Turned key limit items token pages)
    (hothers : Turned key limit items token others) : pages = others := by
  induction h generalizing others with
  | last found ends =>
    cases hothers with
    | last found' => rw [Except.ok.inj (found.symm.trans found')]
    | turn found' goes' =>
      cases Except.ok.inj (found.symm.trans found')
      cases ends.symm.trans goes'
  | turn found goes _ ih =>
    cases hothers with
    | last found' ends' =>
      cases Except.ok.inj (found.symm.trans found')
      cases ends'.symm.trans goes
    | turn found' goes' rest' =>
      cases Except.ok.inj (found.symm.trans found')
      cases Option.some.inj (goes.symm.trans goes')
      rw [ih rest']

/-- If all keys differ, the token of the last entry that was handed out leads to what was not. -/
lemma remaining_of_getLast? {before : List α} (distinct : ((before ++ rest).map key).Nodup)
    (nonempty : "" ∉ (before ++ rest).map key) :
    remaining key (before.getLast?.map key) (before ++ rest) = .ok rest := by
  cases hlast : before.getLast? with
  | none =>
    obtain rfl := List.getLast?_eq_none_iff.1 hlast
    rfl
  | some last =>
    obtain ⟨early, rfl⟩ := List.getLast?_eq_some_iff.1 hlast
    have hmem : key last ∈ (early ++ [last] ++ rest).map key := by simp
    have hne : key last ≠ "" := fun hempty => nonempty (hempty ▸ hmem)
    have hfirst : (early.map key ++ key last :: rest.map key).idxOf (key last) = early.length := by
      have hearly : key last ∉ early.map key := by
        intro hmem
        rw [List.map_append, List.map_append, List.append_assoc, List.nodup_append'] at distinct
        exact distinct.2.2 hmem (by simp)
      rw [List.idxOf_append_of_notMem hearly, List.idxOf_cons_self, List.length_map, Nat.add_zero]
    have known : Known key (some (key last)) (early ++ [last] ++ rest) := by
      rintro text htext -
      exact Option.some.inj htext ▸ hmem
    have hkeys : (early ++ [last] ++ rest).map key =
        early.map key ++ key last :: rest.map key := by simp
    have hstart : start key (some (key last)) (early ++ [last] ++ rest) =
        (early ++ [last]).length := by
      rw [start, if_neg hne, hkeys, hfirst, List.length_append, List.length_singleton]
    rw [Option.map_some, remaining_of_known known, hstart, List.drop_left]

/-- A full page less is a page less. -/
lemma max_ceilDiv_sub {n : Nat} (hlimit : 1 ≤ limit) (h : limit < n) :
    max 1 ((n - limit) ⌈/⌉ limit) + 1 = max 1 (n ⌈/⌉ limit) := by
  obtain ⟨m, rfl⟩ : ∃ m, n = m + limit := ⟨n - limit, by omega⟩
  have hpos : 0 < (m + limit - 1) / limit := Nat.div_pos (by omega) hlimit
  have hstep : (m + limit + limit - 1) / limit = (m + limit - 1) / limit + 1 := by
    rw [← Nat.add_div_right _ hlimit]
    congr 1
    omega
  rw [Nat.add_sub_cancel, Nat.ceilDiv_eq_add_pred_div, Nat.ceilDiv_eq_add_pred_div, hstep]
  omega

/-- Turning the pages hands out what is left, in full pages up to the last one. -/
lemma exists_turned (hlimit : 1 ≤ limit) (before rest : List α)
    (distinct : ((before ++ rest).map key).Nodup) (nonempty : "" ∉ (before ++ rest).map key) :
    ∃ pages, Turned key limit (before ++ rest) (before.getLast?.map key) pages ∧
      pages.length = max 1 (rest.length ⌈/⌉ limit) ∧
      (∀ page ∈ pages.dropLast, page.entries.length = limit) ∧
      pages.flatMap entries = rest := by
  -- On what is left: a full page makes it shorter.
  induction hleft : rest.length using Nat.strong_induction_on generalizing before rest with
  | _ left ih =>
  have hcut : cut key limit (before.getLast?.map key) (before ++ rest) =
      .ok (first key limit rest) := by
    rw [cut, remaining_of_getLast? distinct nonempty]
    rfl
  by_cases hfits : rest.length ≤ limit
  · rw [first_of_fits (.inr hfits)] at hcut
    refine ⟨_, .last hcut rfl, ?_, by simp, by simp⟩
    have hone : rest.length ⌈/⌉ limit ≤ 1 := by
      rw [ceilDiv_le_iff_le_mul hlimit]
      omega
    rw [List.length_singleton, ← hleft, Nat.max_eq_left hone]
  · have hne : rest.take limit ≠ [] := by
      rw [← List.length_pos_iff, List.length_take]
      omega
    have hlast := List.getLast?_eq_some_getLast hne
    rw [first_of_lt (by omega) (by omega), hlast] at hcut
    have hparts : before ++ rest.take limit ++ rest.drop limit = before ++ rest := by
      rw [List.append_assoc, List.take_append_drop]
    have hshorter : (rest.drop limit).length < left := by
      rw [List.length_drop]
      omega
    obtain ⟨pages, hturned, hlength, hfull, hall⟩ := ih _ hshorter (before ++ rest.take limit)
      (rest.drop limit) (by rwa [hparts]) (by rwa [hparts]) rfl
    rw [hparts, List.getLast?_append, hlast] at hturned
    refine ⟨_, .turn hcut rfl hturned, ?_, ?_, ?_⟩
    · rw [List.length_cons, hlength, List.length_drop, max_ceilDiv_sub hlimit (by omega), hleft]
    · rw [List.dropLast_cons_of_ne_nil hturned.ne_nil]
      refine List.forall_mem_cons.2 ⟨?_, hfull⟩
      rw [List.length_take]
      omega
    · rw [List.flatMap_cons, hall, List.take_append_drop]

/-! ## The result -/

/-- Pages of every list.  If no key is empty and none occurs twice, the pages one after the other
are the list: there is one way to turn them, they are as many as the limit asks for, and all but the
last are full.  And whatever the keys are, a token that names nothing is refused, and any other
leads to the run of entries behind the one that it names. -/
theorem pagination (key : α → String) (items : List α) :
    ((items.map key).Nodup → "" ∉ items.map key → ∀ limit, 1 ≤ limit →
      ∃ pages, (∀ others, Turned key limit items none others ↔ others = pages) ∧
        pages.length = max 1 (items.length ⌈/⌉ limit) ∧
        (∀ page ∈ pages.dropLast, page.entries.length = limit) ∧
        pages.flatMap entries = items) ∧
    ∀ limit token,
      (∀ text, token = some text → text ≠ "" → text ∉ items.map key →
        cut key limit token items = .error (.invalidStartingToken text)) ∧
      (Known key token items → ∃ page, cut key limit token items = .ok page ∧
        IsRun key limit (start key token items) items page) := by
  refine ⟨fun distinct nonempty limit hlimit => ?_, fun limit token => ⟨?_, ?_⟩⟩
  · obtain ⟨pages, hturned, hlength, hfull, hall⟩ := exists_turned hlimit [] items distinct nonempty
    refine ⟨pages, fun others => ⟨fun hothers => hothers.unique hturned, ?_⟩, hlength, hfull, hall⟩
    rintro rfl
    exact hturned
  · rintro text rfl hne habsent
    exact cut_of_not_mem hne habsent limit
  · exact fun known => exists_isRun known limit

/-- Five entries are three pages of two.  Of two entries with the key `x` the first counts. -/
theorem pagination_five :
    ((["a", "b", "c", "d", "e"].map id).Nodup ∧ "" ∉ ["a", "b", "c", "d", "e"].map id ∧
      ∃ pages, (∀ others, Turned id 2 ["a", "b", "c", "d", "e"] none others ↔ others = pages) ∧
        pages.length = 3 ∧ (∀ page ∈ pages.dropLast, page.entries.length = 2) ∧
        pages.flatMap entries = ["a", "b", "c", "d", "e"]) ∧
    Known id (some "x") ["w", "x", "y", "x"] ∧
      ∃ page, cut id 0 (some "x") ["w", "x", "y", "x"] = .ok page ∧
        IsRun id 0 2 ["w", "x", "y", "x"] page := by
  have distinct : (["a", "b", "c", "d", "e"].map id).Nodup := by decide
  have nonempty : "" ∉ ["a", "b", "c", "d", "e"].map id := by decide
  have known : Known id (some "x") ["w", "x", "y", "x"] := by
    rintro _ ⟨⟩ -
    decide
  exact ⟨⟨distinct, nonempty, (pagination id _).1 distinct nonempty 2 (by decide)⟩, known,
    ((pagination id _).2 0 (some "x")).2 known⟩

end Page
end StorageFleet
