import Mathlib.Order.Bounds.Basic
import Mathlib.Tactic.IntervalCases
import StorageFleet.Config.Loader
import StorageFleet.Proofs.Text.Utf8

/-!
# What a watched configuration reports over time

A configuration file is written and removed by others while a loader reads it again and again.  A
`Watch` is the loader together with the file.  `Event` lists what can happen to the two, and
`Watch.reports` is what a whole run of events reports.  Nothing is assumed of the run: what is
written need not be a configuration, nor even a text.

## What is remembered

A reading is remembered if it has succeeded and no order to forget came after it
(`Watch.Remembered`).  Where several readings are, the latest counts.  The loader keeps no more than
one text.  The invariant `Watch.last_eq_some_iff` says which one this is at any time of a run: the
text in the file at the latest remembered reading.  It goes through a run event by event
(`Watch.remembered_succ_iff`): an event can add its own reading, or remove all, or do neither.

`reports_of_refresh` draws the conclusions.  Since a text has one spelling, that the texts agree is
the same as that the bytes of the file do.
-/

namespace StorageFleet

open Text (encodeUtf8 decodeUtf8?_eq_some_iff encodeUtf8_injective)

/-- What happens to a configuration file and to the loader that reads it. -/
inductive Event where
  /-- The file is given this content. -/
  | write (content : List UInt8)
  /-- The file is removed. -/
  | remove
  /-- The loader reads the file. -/
  | refresh
  /-- The loader forgets what it has read. -/
  | invalidate
  deriving DecidableEq, Repr

/-- The file after an event. -/
def Event.onFile (file : Option (List UInt8)) : Event → Option (List UInt8)
  | .write content => some content
  | .remove => none
  | .refresh => file
  | .invalidate => file

/-- The file before the event at `n` of a run. -/
def fileAt (file : Option (List UInt8)) (events : List Event) (n : ℕ) : Option (List UInt8) :=
  (events.take n).foldl Event.onFile file

/-- A loader with the file that it reads. -/
structure Watch where
  loader : Loader
  file : Option (List UInt8)

namespace Watch

/-- A loader that has read nothing yet. -/
def opened (path : String) (file : Option (List UInt8)) : Watch :=
  ⟨{ path := path }, file⟩

/-- What reading the file reports now. -/
def report (watch : Watch) : Except Fault (Bool × Config) :=
  (watch.loader.refresh watch.file).1

/-- The loader after an event. -/
def loaderAfter (watch : Watch) : Event → Loader
  | .write _ => watch.loader
  | .remove => watch.loader
  | .refresh => (watch.loader.refresh watch.file).2
  | .invalidate => watch.loader.invalidate

def step (watch : Watch) (event : Event) : Watch :=
  ⟨watch.loaderAfter event, event.onFile watch.file⟩

/-- What an event reports; only reading the file reports anything. -/
def answer (watch : Watch) : Event → Option (Except Fault (Bool × Config))
  | .refresh => some watch.report
  | _ => none

def after (watch : Watch) (events : List Event) : Watch :=
  events.foldl step watch

/-- What each event of a run reports. -/
def reports (watch : Watch) : List Event → List (Option (Except Fault (Bool × Config)))
  | [] => []
  | event :: events => watch.answer event :: (watch.step event).reports events

/-- The event at `m` of a run is a reading that succeeds. -/
def Succeeds (watch : Watch) (events : List Event) (m : ℕ) : Prop :=
  ∃ result, (watch.reports events)[m]? = some (some (.ok result))

/-- Before the event at `n` of a run, the one at `m` is a reading that has succeeded, with no order
to forget after it. -/
structure Remembered (watch : Watch) (events : List Event) (n m : ℕ) : Prop where
  earlier : m < n
  succeeds : watch.Succeeds events m
  kept : ∀ k, m < k → k < n → events[k]? ≠ some .invalidate

/-- The latest of the remembered readings. -/
def Latest (watch : Watch) (events : List Event) (n m : ℕ) : Prop :=
  IsGreatest {k | watch.Remembered events n k} m

variable {watch : Watch} {events : List Event} {event : Event} {n m : ℕ}

/-! ## One event -/

lemma readText_eq_ok_iff (path : String) {text : String} {file : Option (List UInt8)} :
    Loader.readText path file = .ok text ↔ file = some (encodeUtf8 text.toList) := by
  unfold Loader.readText
  cases file with
  | none => simp
  | some bytes =>
    rw [Option.some_inj, ← decodeUtf8?_eq_some_iff]
    cases hread : Text.decodeUtf8? bytes <;> simp [hread]

/-- Two texts agree if they are in the same file. -/
lemma some_encodeUtf8_inj {text other : String} :
    some (encodeUtf8 text.toList) = some (encodeUtf8 other.toList) ↔ text = other := by
  constructor
  · intro h
    exact String.toList_inj.1 (encodeUtf8_injective (Option.some.inj h))
  · rintro rfl
    rfl

/-- A reading succeeds just if the text of a configuration is in the file, and tells whether the
text is another one than is remembered. -/
lemma report_eq_ok_iff {changed : Bool} {config : Config} :
    watch.report = .ok (changed, config) ↔ ∃ text, watch.file = some (encodeUtf8 text.toList) ∧
      Config.ofYaml text = .ok config ∧ changed = decide (watch.loader.last ≠ some text) := by
  unfold report Loader.refresh
  cases hread : Loader.readText watch.loader.path watch.file with
  | error fault =>
    have hnone (text : String) : watch.file ≠ some (encodeUtf8 text.toList) := by
      rw [ne_eq, ← readText_eq_ok_iff watch.loader.path, hread]
      simp
    simp [hnone]
  | ok text =>
    simp only [(readText_eq_ok_iff _).1 hread, some_encodeUtf8_inj, exists_eq_left']
    cases hconfig : Config.ofYaml text with
    | error fault => simp
    | ok config' => simp [and_comm, eq_comm]

/-- A reading that succeeds keeps the text. -/
lemma last_step_of_report {result : Bool × Config} (h : watch.report = .ok result) :
    ∃ text, watch.file = some (encodeUtf8 text.toList) ∧
      (watch.step .refresh).loader.last = some text := by
  simp only [report, step, loaderAfter, Loader.refresh] at h ⊢
  cases hread : Loader.readText watch.loader.path watch.file with
  | error fault => simp [hread] at h
  | ok text =>
    refine ⟨text, (readText_eq_ok_iff _).1 hread, ?_⟩
    rw [hread] at h
    cases hconfig : Config.ofYaml text with
    | error fault => simp [hconfig] at h
    | ok config => simp [hconfig]

/-- A reading that fails leaves everything as it is. -/
lemma step_refresh_of_error {fault : Fault} (h : watch.report = .error fault) :
    watch.step .refresh = watch := by
  have hloader : (watch.loader.refresh watch.file).2 = watch.loader := by
    unfold report Loader.refresh at h
    unfold Loader.refresh
    cases hread : Loader.readText watch.loader.path watch.file with
    | error fault' => rfl
    | ok text =>
      rw [hread] at h
      cases hconfig : Config.ofYaml text with
      | error fault' => simp [hconfig]
      | ok config => simp [hconfig] at h
  rw [step, loaderAfter, hloader]
  rfl

/-! ## A run of events -/

lemma after_take_succ (h : events[n]? = some event) :
    watch.after (events.take (n + 1)) = (watch.after (events.take n)).step event := by
  rw [List.take_add_one, h, after, List.foldl_append]
  rfl

lemma file_after (watch : Watch) (events : List Event) (n : ℕ) :
    (watch.after (events.take n)).file = fileAt watch.file events n := by
  unfold after fileAt
  generalize events.take n = past
  induction past generalizing watch with
  | nil => rfl
  | cons event past ih => exact ih (watch.step event)

lemma getElem?_reports (watch : Watch) (events : List Event) (n : ℕ) :
    (watch.reports events)[n]? = events[n]?.map (watch.after (events.take n)).answer := by
  induction events generalizing watch n with
  | nil => rfl
  | cons event events ih =>
    cases n with
    | zero => rfl
    | succ n => exact ih (watch.step event) n

/-- A reading reports what it finds in the file then. -/
lemma reports_of_refresh_at (h : events[n]? = some .refresh) :
    (watch.reports events)[n]? = some (some (watch.after (events.take n)).report) := by
  rw [getElem?_reports, h]
  rfl

/-- An event that leaves everything as it is may be left out of a run. -/
lemma reports_eraseIdx (h : events[n]? = some event)
    (hsame : (watch.after (events.take n)).step event = watch.after (events.take n)) :
    watch.reports (events.eraseIdx n) = (watch.reports events).eraseIdx n := by
  induction events generalizing watch n with
  | nil => cases h
  | cons first events ih =>
    cases n with
    | zero =>
      obtain rfl : first = event := Option.some.inj h
      have hstep : watch.step first = watch := hsame
      simp [reports, hstep]
    | succ n =>
      have hrest : (watch.step first).reports (events.eraseIdx n) =
          ((watch.step first).reports events).eraseIdx n := ih h hsame
      simp [reports, hrest]

/-! ## What is remembered -/

lemma succeeds_iff : watch.Succeeds events m ↔ events[m]? = some .refresh ∧
    ∃ result, (watch.after (events.take m)).report = .ok result := by
  unfold Succeeds
  rw [getElem?_reports]
  cases events[m]? with
  | none => simp
  | some event => cases event <;> simp [answer]

/-- What is remembered changes with the event that comes next: a success is added, an order to
forget removes all. -/
lemma remembered_succ_iff (h : events[n]? = some event) :
    watch.Remembered events (n + 1) m ↔
      event ≠ .invalidate ∧ watch.Remembered events n m ∨ m = n ∧ watch.Succeeds events n := by
  constructor
  · rintro ⟨hearlier, hsucceeds, hkept⟩
    obtain hlt | rfl := Nat.lt_succ_iff_lt_or_eq.1 hearlier
    · refine .inl ⟨?_, hlt, hsucceeds, fun k hk hkn => hkept k hk (by omega)⟩
      rintro rfl
      exact hkept n hlt (by omega) h
    · exact .inr ⟨rfl, hsucceeds⟩
  · rintro (⟨hevent, hlt, hsucceeds, hkept⟩ | ⟨rfl, hsucceeds⟩)
    · refine ⟨by omega, hsucceeds, fun k hk hkn => ?_⟩
      obtain hkn | rfl := Nat.lt_succ_iff_lt_or_eq.1 hkn
      · exact hkept k hk hkn
      · rw [h]
        exact fun heq => hevent (Option.some.inj heq)
    · exact ⟨by omega, hsucceeds, fun k hk hkn => by omega⟩

lemma not_latest_of_forall (h : ∀ k, ¬ watch.Remembered events n k) :
    ¬ watch.Latest events n m :=
  fun hlatest => h m hlatest.1

/-- A reading that succeeds is the latest then. -/
lemma latest_succ_of_succeeds (h : watch.Succeeds events n) :
    watch.Latest events (n + 1) m ↔ m = n := by
  have hevent := (succeeds_iff.1 h).1
  have hgreatest : watch.Latest events (n + 1) n :=
    ⟨(remembered_succ_iff hevent).2 (.inr ⟨rfl, h⟩), fun k hk => Nat.lt_succ_iff.1 hk.earlier⟩
  constructor
  · intro hm
    exact IsGreatest.unique hm hgreatest
  · rintro rfl
    exact hgreatest

/-- Nothing changes with an event that neither succeeds in reading nor makes forget. -/
lemma latest_succ_of_not_succeeds (h : events[n]? = some event) (hevent : event ≠ .invalidate)
    (hfail : ¬ watch.Succeeds events n) :
    watch.Latest events (n + 1) m ↔ watch.Latest events n m := by
  have hsame (k : ℕ) : watch.Remembered events (n + 1) k ↔ watch.Remembered events n k := by
    simp [remembered_succ_iff h, hevent, hfail]
  unfold Latest
  simp only [hsame]

/-- **The invariant of a run.**  The loader keeps the text that was in the file at the latest
remembered reading, and no text if none is remembered. -/
theorem last_eq_some_iff (path : String) (file : Option (List UInt8)) (events : List Event)
    {n : ℕ} (hn : n ≤ events.length) (text : String) :
    ((opened path file).after (events.take n)).loader.last = some text ↔
      ∃ m, (opened path file).Latest events n m ∧
        fileAt file events m = some (encodeUtf8 text.toList) := by
  -- On how much of the run is over.
  induction n generalizing text with
  | zero =>
    have hnone (k : ℕ) : ¬ (opened path file).Remembered events 0 k := fun h => by
      have hlt := h.earlier
      omega
    simp only [not_latest_of_forall hnone, false_and, exists_false]
    simp [after, opened]
  | succ n ih =>
    have ih := ih (by omega)
    obtain ⟨event, hevent⟩ : ∃ event, events[n]? = some event :=
      ⟨_, List.getElem?_eq_getElem (by omega)⟩
    rw [after_take_succ hevent]
    have hfail (hne : event ≠ .refresh) : ¬ (opened path file).Succeeds events n := fun h =>
      hne (Option.some.inj (hevent.symm.trans (succeeds_iff.1 h).1))
    cases event with
    | write content =>
      simp only [latest_succ_of_not_succeeds hevent (by simp) (hfail (by simp))]
      exact ih text
    | remove =>
      simp only [latest_succ_of_not_succeeds hevent (by simp) (hfail (by simp))]
      exact ih text
    | invalidate =>
      have hnone (k : ℕ) : ¬ (opened path file).Remembered events (n + 1) k := by
        simp [remembered_succ_iff hevent, hfail]
      simp [step, loaderAfter, Loader.invalidate, not_latest_of_forall hnone]
    | refresh =>
      cases hreport : ((opened path file).after (events.take n)).report with
      | error fault =>
        have hfail : ¬ (opened path file).Succeeds events n := by
          rw [succeeds_iff, hreport]
          simp
        rw [step_refresh_of_error hreport]
        simp only [latest_succ_of_not_succeeds hevent (by simp) hfail]
        exact ih text
      | ok result =>
        have hsucceeds : (opened path file).Succeeds events n :=
          succeeds_iff.2 ⟨hevent, result, hreport⟩
        obtain ⟨read, hfile, hlast⟩ := last_step_of_report hreport
        rw [file_after] at hfile
        have hread : fileAt file events n = some (encodeUtf8 read.toList) := hfile
        simp only [latest_succ_of_succeeds hsucceeds, exists_eq_left, hlast, hread,
          some_encodeUtf8_inj]
        exact Option.some_inj

/-! ## What is reported -/

/-- **What reading the file reports in a run.**  A reading succeeds just if the text of a
configuration is in the file, and gives this configuration.  It reports no change just if a reading
is remembered and the file was the same at the latest of these.  A reading that fails might as well
not have been made: all others of the run report what they would report without it. -/
theorem reports_of_refresh (path : String) (file : Option (List UInt8)) (events : List Event)
    (n : ℕ) (h : events[n]? = some .refresh) :
    ∃ result, ((opened path file).reports events)[n]? = some (some result) ∧
      (∀ config, (∃ changed, result = .ok (changed, config)) ↔
        ∃ text, fileAt file events n = some (encodeUtf8 text.toList) ∧
          Config.ofYaml text = .ok config) ∧
      (∀ changed config, result = .ok (changed, config) → (changed = false ↔
        ∃ m, (opened path file).Latest events n m ∧
          fileAt file events m = fileAt file events n)) ∧
      ∀ fault, result = .error fault → (opened path file).reports (events.eraseIdx n) =
        ((opened path file).reports events).eraseIdx n := by
  have hn : n ≤ events.length := (List.getElem?_eq_some_iff.1 h).1.le
  have hfile : ((opened path file).after (events.take n)).file = fileAt file events n :=
    file_after (opened path file) events n
  refine ⟨_, reports_of_refresh_at h, fun config => ?_, fun changed config hreport => ?_,
    fun fault hreport => ?_⟩
  · simp only [report_eq_ok_iff, hfile]
    constructor
    · rintro ⟨changed, text, htext, hconfig, -⟩
      exact ⟨text, htext, hconfig⟩
    · rintro ⟨text, htext, hconfig⟩
      exact ⟨_, text, htext, hconfig, rfl⟩
  · obtain ⟨text, htext, -, rfl⟩ := report_eq_ok_iff.1 hreport
    rw [hfile] at htext
    rw [htext, ← last_eq_some_iff path file events hn]
    simp
  · exact reports_eraseIdx h (step_refresh_of_error hreport)

/-- The text of a configuration with one backend. -/
def usable : String :=
  "nexentastor_map: \x7ba: \x7brestIp: 'http://h', username: u, password: p\x7d\x7d"

/-- A file that is gone for a while and then comes back as it was. -/
def restored : List Event :=
  [.write (encodeUtf8 usable.toList), .refresh, .remove, .refresh,
    .write (encodeUtf8 usable.toList), .refresh]

/-- A file that comes back as it was has not changed, for a loader that has missed it meanwhile. -/
theorem reports_of_refresh_restored : ∃ config, Config.ofYaml usable = .ok config ∧
    ((opened "config.yaml" none).reports restored)[5]? = some (some (.ok (false, config))) := by
  have hok : (Config.ofYaml usable).isOk = true := by decide +kernel
  obtain ⟨config, hconfig⟩ : ∃ config, Config.ofYaml usable = .ok config := by
    cases h : Config.ofYaml usable with
    | error fault => simp [h, Except.isOk, Except.toBool] at hok
    | ok config => exact ⟨config, rfl⟩
  have hfirst : (opened "config.yaml" none).Succeeds restored 1 :=
    succeeds_iff.2 ⟨rfl, _, report_eq_ok_iff.2 ⟨usable, rfl, hconfig, rfl⟩⟩
  have hgone : ¬ (opened "config.yaml" none).Succeeds restored 3 := by
    intro h
    obtain ⟨-, ⟨changed, config⟩, hreport⟩ := succeeds_iff.1 h
    obtain ⟨text, hfile, -⟩ := report_eq_ok_iff.1 hreport
    cases hfile
  have hlatest : (opened "config.yaml" none).Latest restored 5 1 := by
    refine ⟨⟨by omega, hfirst, fun k hk hk5 => ?_⟩, fun k hk => ?_⟩
    · interval_cases k <;> simp [restored]
    · have hlt := hk.earlier
      have hread := (succeeds_iff.1 hk.succeeds).1
      interval_cases k
      · omega
      · omega
      · simp [restored] at hread
      · exact absurd hk.succeeds hgone
      · simp [restored] at hread
  obtain ⟨result, hresult, hreads, hchanged, -⟩ :=
    reports_of_refresh "config.yaml" none restored 5 rfl
  obtain ⟨changed, rfl⟩ := (hreads config).2 ⟨usable, rfl, hconfig⟩
  obtain rfl := (hchanged changed config rfl).2 ⟨1, hlatest, rfl⟩
  exact ⟨config, hconfig, hresult⟩

end Watch
end StorageFleet
