import Mathlib.Data.List.TakeWhile
import Mathlib.Data.Nat.Digits.Defs
import Mathlib.Tactic.Ring
import StorageFleet.Proofs.Config.Assembly
import StorageFleet.Proofs.Json.Reading
import StorageFleet.Proofs.Text.Percent

/-!
# The grammar of a configuration

The check of a configuration works by cutting, trimming and reading.  Here is said what it lets
through, without any of that: `BackendConfig.Keeps` has a line for each of the five rules that a
backend is under, in terms of the texts themselves.  A list of addresses is made of pieces with
commas between them, a dataset of parts with slashes between them (`Text.Pieces`), and permissions
are written with digits (`Number.Numeral`).

The rules are checked one after the other (`BackendConfig.check_eq_forM`), and so are the backends
(`Config.checkBackends_eq_forM`).  The first failure of such a row of checks is the one that is
reported (`forM_eq_error_iff`), so a refusal is about the first backend that breaks a rule, and
about the first rule that it breaks (`Config.grammar`).
-/

namespace StorageFleet

/-! ## Rows of checks -/

section Rows

variable {α ε : Type} {f : α → Except ε Unit} {xs : List α}

lemma forM_eq_ok_iff : xs.forM f = .ok () ↔ ∀ x ∈ xs, f x = .ok () := by
  induction xs with
  | nil => simp [List.forM, pure, Except.pure]
  | cons x rest ih =>
    change (f x >>= fun _ => rest.forM f) = .ok () ↔ _
    rw [List.forall_mem_cons]
    cases f x with
    | error e => simp [bind, Except.bind]
    | ok done => simpa [bind, Except.bind] using ih

/-- The first check that fails decides. -/
lemma forM_eq_error_iff {e : ε} :
    xs.forM f = .error e ↔ ∃ before x after, xs = before ++ x :: after ∧
      (∀ y ∈ before, f y = .ok ()) ∧ f x = .error e := by
  induction xs with
  | nil => simp [List.forM, pure, Except.pure]
  | cons x rest ih =>
    change (f x >>= fun _ => rest.forM f) = .error e ↔ _
    constructor
    · intro h
      cases hx : f x with
      | error e' =>
        rw [hx] at h
        exact ⟨[], x, rest, rfl, by simp, hx.trans h⟩
      | ok done =>
        rw [hx] at h
        obtain ⟨before, y, after, rfl, hbefore, hy⟩ := ih.1 h
        exact ⟨x :: before, y, after, rfl, List.forall_mem_cons.2 ⟨hx, hbefore⟩, hy⟩
    · rintro ⟨before, y, after, hxs, hbefore, hy⟩
      cases before with
      | nil =>
        obtain ⟨rfl, rfl⟩ := List.cons.inj hxs
        rw [hy]
        rfl
      | cons z before =>
        obtain ⟨rfl, rfl⟩ := List.cons.inj hxs
        obtain ⟨hz, hbefore⟩ := List.forall_mem_cons.1 hbefore
        rw [hz]
        exact ih.2 ⟨before, y, after, rfl, hbefore, hy⟩

end Rows

/-! ## Pieces and blanks -/

namespace Text

variable {sep : Char} {cs : List Char} {pieces : List (List Char)}

/-- The text is made of these pieces, with one `sep` between two of them and none inside. -/
structure Pieces (sep : Char) (cs : List Char) (pieces : List (List Char)) : Prop where
  some_piece : pieces ≠ []
  unseparated : ∀ piece ∈ pieces, sep ∉ piece
  joined : cs = [sep].intercalate pieces

lemma not_mem_of_mem_splitAll {piece : List Char} (h : piece ∈ splitAll sep cs) : sep ∉ piece := by
  induction cs generalizing piece with
  | nil =>
    obtain rfl := List.mem_singleton.1 h
    exact List.not_mem_nil
  | cons c rest ih =>
    by_cases hsep : c = sep
    · simp only [splitAll, hsep, if_true, List.mem_cons] at h
      rcases h with rfl | h
      · exact List.not_mem_nil
      · exact ih h
    · simp only [splitAll, hsep, if_false] at h
      cases hrest : splitAll sep rest with
      | nil =>
        rw [hrest, List.mem_singleton] at h
        simpa [h] using Ne.symm hsep
      | cons first others =>
        rw [hrest, List.mem_cons] at h
        rcases h with rfl | h
        · have hfirst : sep ∉ first := ih (hrest ▸ List.mem_cons_self)
          simpa [hfirst] using Ne.symm hsep
        · exact ih (hrest ▸ List.mem_cons_of_mem first h)

/-- Cutting finds the pieces that a text is made of, and there are no others. -/
lemma pieces_iff : Pieces sep cs pieces ↔ splitAll sep cs = pieces := by
  constructor
  · rintro ⟨hne, hunseparated, rfl⟩
    exact splitAll_intercalate hunseparated hne
  · rintro rfl
    refine ⟨?_, fun piece hpiece => not_mem_of_mem_splitAll hpiece, ?_⟩
    · rw [splitAll_eq_splitOn]
      exact List.splitOn_ne_nil sep cs
    · rw [splitAll_eq_splitOn, List.intercalate_splitOn]

lemma trim_eq_nil_iff : trim cs = [] ↔ ∀ c ∈ cs, isBlank c = true := by
  unfold trim trimWhere
  rw [List.reverse_eq_nil_iff, List.dropWhile_eq_nil_iff]
  simp only [List.mem_reverse]
  constructor
  · intro h
    by_contra hsome
    obtain ⟨c, rest, hdrop⟩ : ∃ c rest, cs.dropWhile isBlank = c :: rest :=
      List.exists_cons_of_ne_nil fun hnil => hsome (List.dropWhile_eq_nil_iff.1 hnil)
    have hhead : isBlank c = false := by
      have := List.head_dropWhile_not (p := isBlank) (l := cs) (by simp [hdrop])
      simpa [hdrop] using this
    have hblank := h c (by simp [hdrop])
    simp [hhead] at hblank
  · intro h c hmem
    exact h c (List.dropWhile_sublist _ |>.mem hmem)

end Text

/-! ## Numerals -/

namespace Number

variable {base limit value result : Nat} {cs : List Char}

/-- A numeral: one digit or more, with a plus sign in front or without, of value at most `limit`. -/
def Numeral (base limit : Nat) (cs : List Char) : Prop :=
  ∃ digits : List Nat, digits ≠ [] ∧ (∀ d ∈ digits, d < base) ∧
    (cs = digits.map Nat.digitChar ∨ cs = '+' :: digits.map Nat.digitChar) ∧
    Nat.ofDigits base digits.reverse ≤ limit

lemma digit?_eq_some_iff {c : Char} {d : Nat} :
    digit? c = some d ↔ d < 10 ∧ c = Nat.digitChar d := by
  constructor
  · intro h
    unfold digit? at h
    split_ifs at h with hdigit
    have hlow : '0'.toNat ≤ c.toNat := by simpa [Char.le_def, UInt32.le_iff_toNat_le] using hdigit.1
    have hhigh : c.toNat ≤ '9'.toNat := by simpa [Char.le_def, UInt32.le_iff_toNat_le] using hdigit.2
    obtain rfl := Option.some.inj h
    simp at hlow hhigh ⊢
    have hlt : c.toNat - 48 < 10 := by omega
    refine ⟨hlt, ?_⟩
    apply Char.ext
    apply UInt32.toNat_inj.1
    change c.toNat = (Nat.digitChar (c.toNat - 48)).toNat
    rw [Nat.toNat_digitChar_of_lt_ten hlt]
    omega
  · rintro ⟨hlt, rfl⟩
    have hdigit : d.digitChar.isDigit = true := by
      rw [Nat.isDigit_digitChar]
      exact decide_eq_true hlt
    rw [digit?_of_isDigit hdigit, Nat.toNat_digitChar_of_lt_ten hlt]
    simp

/-- Reading goes through if there are only digits of the base, and gives their value. -/
lemma readDigits_eq_some_iff (hbase : base ≤ 10) :
    readDigits base value cs = some result ↔ ∃ digits : List Nat, (∀ d ∈ digits, d < base) ∧
      cs = digits.map Nat.digitChar ∧
      result = value * base ^ digits.length + Nat.ofDigits base digits.reverse := by
  induction cs generalizing value with
  | nil =>
    constructor
    · intro h
      obtain rfl := Option.some.inj h
      exact ⟨[], by simp, rfl, by simp⟩
    · rintro ⟨digits, -, hnil, rfl⟩
      obtain rfl := List.map_eq_nil_iff.1 hnil.symm
      simp [readDigits]
  | cons c rest ih =>
    constructor
    · intro h
      rw [readDigits] at h
      cases hc : digit? c with
      | none =>
        rw [hc] at h
        cases h
      | some d =>
        rw [hc] at h
        dsimp only at h
        split_ifs at h with hd
        obtain ⟨digits, hdigits, rfl, rfl⟩ := ih.1 h
        obtain ⟨-, rfl⟩ := digit?_eq_some_iff.1 hc
        refine ⟨d :: digits, List.forall_mem_cons.2 ⟨hd, hdigits⟩, rfl, ?_⟩
        rw [Nat.ofDigits_reverse_cons, List.length_cons]
        ring
    · rintro ⟨digits, hdigits, hcs, rfl⟩
      cases digits with
      | nil => cases hcs
      | cons d digits =>
        obtain ⟨rfl, rfl⟩ := List.cons.inj hcs
        obtain ⟨hd, hdigits⟩ := List.forall_mem_cons.1 hdigits
        rw [readDigits, digit?_eq_some_iff.2 ⟨by omega, rfl⟩]
        dsimp only
        rw [if_pos hd, ih]
        refine ⟨digits, hdigits, rfl, ?_⟩
        rw [Nat.ofDigits_reverse_cons, List.length_cons]
        ring

/-- No digit is a sign. -/
lemma digitChar_ne_plus {d : Nat} (hd : d < 10) : Nat.digitChar d ≠ '+' := by
  intro h
  have hdigit := Nat.isDigit_digitChar (n := d)
  rw [h, decide_eq_true hd] at hdigit
  exact absurd hdigit (by decide)

/-- Numerals are what can be read. -/
theorem isSome_readUnsigned_iff (hbase : base ≤ 10) :
    (readUnsigned base limit cs).isSome = true ↔ Numeral base limit cs := by
  have hunsigned : ∀ ds : List Char,
      (if ds.isEmpty then none else (readDigits base 0 ds).filter fun v => v ≤ limit).isSome =
        true ↔ ∃ digits : List Nat, digits ≠ [] ∧ (∀ d ∈ digits, d < base) ∧
          ds = digits.map Nat.digitChar ∧ Nat.ofDigits base digits.reverse ≤ limit := by
    intro ds
    constructor
    · intro h
      split_ifs at h with hempty
      · cases h
      obtain ⟨v, hv⟩ := Option.isSome_iff_exists.1 h
      obtain ⟨hread, hle⟩ := Option.filter_eq_some_iff.1 hv
      obtain ⟨digits, hdigits, rfl, rfl⟩ := (readDigits_eq_some_iff hbase).1 hread
      refine ⟨digits, ?_, hdigits, rfl, by simpa using hle⟩
      rintro rfl
      exact hempty rfl
    · rintro ⟨digits, hne, hdigits, rfl, hle⟩
      have hread : readDigits base 0 (digits.map Nat.digitChar) =
          some (Nat.ofDigits base digits.reverse) :=
        (readDigits_eq_some_iff hbase).2 ⟨digits, hdigits, rfl, by simp⟩
      simp [hne, hread, Option.filter_some, hle]
  unfold readUnsigned
  split
  next rest =>
    rw [hunsigned rest]
    constructor
    · rintro ⟨digits, hne, hdigits, rfl, hle⟩
      exact ⟨digits, hne, hdigits, .inr rfl, hle⟩
    · rintro ⟨digits, hne, hdigits, hcs | hcs, hle⟩
      · cases digits with
        | nil => cases hcs
        | cons d digits =>
          have hd := hdigits d List.mem_cons_self
          exact absurd (List.cons.inj hcs).1.symm (digitChar_ne_plus (by omega))
      · exact ⟨digits, hne, hdigits, (List.cons.inj hcs).2, hle⟩
  next hplus =>
    rw [hunsigned cs]
    constructor
    · rintro ⟨digits, hne, hdigits, rfl, hle⟩
      exact ⟨digits, hne, hdigits, .inl rfl, hle⟩
    · rintro ⟨digits, hne, hdigits, hcs | hcs, hle⟩
      · exact ⟨digits, hne, hdigits, hcs, hle⟩
      · exact (hplus _ hcs).elim

end Number

/-! ## The rules for a backend -/

namespace BackendConfig

variable {name : String} {config other : BackendConfig}

/-- What a backend is checked for. -/
inductive Rule where
  | name
  | endpoints
  | credentials
  | dataset
  | permissions

/-- The rules in the order in which they are checked. -/
def Rule.all : List Rule :=
  [.name, .endpoints, .credentials, .dataset, .permissions]

/-- What the rules ask. -/
def Keeps (name : String) (config : BackendConfig) : Rule → Prop
  | .name => name ≠ "" ∧ ':' ∉ name.toList ∧ '@' ∉ name.toList
  | .endpoints => ∃ pieces, Text.Pieces ',' config.restIp.toList pieces ∧
      ∃ piece ∈ pieces, ∃ c ∈ piece, Text.isBlank c = false
  | .credentials => config.username ≠ "" ∧ config.password ≠ ""
  | .dataset => ∀ path, config.defaultDataset = some path →
      ∃ parts, Text.Pieces '/' path.toList parts ∧ 2 ≤ parts.length ∧ ∀ part ∈ parts, part ≠ []
  | .permissions => ∀ text, config.mountPointPermissions = some text →
      Number.Numeral 8 (2 ^ 32 - 1) text.toList

/-- All rules are kept. -/
def WellFormed (name : String) (config : BackendConfig) : Prop :=
  ∀ rule, config.Keeps name rule

/-- The first rule that is broken. -/
def BreaksFirst (name : String) (config : BackendConfig) (rule : Rule) : Prop :=
  ¬ config.Keeps name rule ∧
    ∃ before after, Rule.all = before ++ rule :: after ∧ ∀ other ∈ before, config.Keeps name other

/-- How it is reported that a rule is broken. -/
def defectOf (name : String) (config : BackendConfig) : Rule → Defect
  | .name => .name (if name = "" then .empty else .containsMark)
  | .endpoints => .noEndpoint
  | .credentials => .noCredentials
  | .dataset => .badDataset (config.defaultDataset.getD "")
  | .permissions => .badPermissions (config.mountPointPermissions.getD "")

/-! ## One rule -/

lemma endpoints_ne_nil_iff : config.endpoints ≠ [] ↔ config.Keeps name .endpoints := by
  have hempty : config.endpoints = [] ↔
      ∀ piece ∈ Text.splitAll ',' config.restIp.toList, Text.trim piece = [] := by
    simp [endpoints, List.filter_eq_nil_iff]
  rw [Ne, hempty]
  constructor
  · intro h
    push Not at h
    obtain ⟨piece, hpiece, hsome⟩ := h
    refine ⟨_, Text.pieces_iff.2 rfl, piece, hpiece, ?_⟩
    simpa [Text.trim_eq_nil_iff] using hsome
  · rintro ⟨pieces, hpieces, piece, hpiece, c, hc, hplain⟩ hblank
    obtain rfl := Text.pieces_iff.1 hpieces
    have := Text.trim_eq_nil_iff.1 (hblank piece hpiece) c hc
    rw [hplain] at this
    cases this

lemma isDatasetPath_iff {path : String} : isDatasetPath path = true ↔
    ∃ parts, Text.Pieces '/' path.toList parts ∧ 2 ≤ parts.length ∧ ∀ part ∈ parts, part ≠ [] := by
  simp [isDatasetPath, Text.pieces_iff]

lemma isOctal_iff {text : String} :
    isOctal text = true ↔ Number.Numeral 8 (2 ^ 32 - 1) text.toList :=
  Number.isSome_readUnsigned_iff (by decide)

/-- The check of one rule. -/
def checkRule (name : String) (config : BackendConfig) : Rule → Except Defect Unit
  | .name => (Identifier.checkBackendName name).mapError .name
  | .endpoints => if config.endpoints.isEmpty then .error .noEndpoint else .ok ()
  | .credentials =>
    if config.username.isEmpty || config.password.isEmpty then .error .noCredentials else .ok ()
  | .dataset => match config.defaultDataset.filter fun path => !isDatasetPath path with
    | some path => .error (.badDataset path)
    | none => .ok ()
  | .permissions => match config.mountPointPermissions.filter fun text => !isOctal text with
    | some text => .error (.badPermissions text)
    | none => .ok ()

lemma checkRule_of_keeps {rule : Rule} (h : config.Keeps name rule) :
    config.checkRule name rule = .ok () := by
  cases rule with
  | name =>
    obtain ⟨hne, hcolon, hat⟩ := h
    have hchecked : Identifier.checkBackendName name = .ok () := by
      simp [Identifier.checkBackendName, Identifier.backendMark, Identifier.snapshotMark, hne,
        hcolon, hat]
    rw [checkRule, hchecked]
    rfl
  | endpoints =>
    have hsome := endpoints_ne_nil_iff.2 h
    simp [checkRule, hsome]
  | credentials =>
    obtain ⟨husername, hpassword⟩ := h
    simp [checkRule, husername, hpassword]
  | dataset =>
    have hnone := filter_not_eq_none_iff.2 fun path hpath => isDatasetPath_iff.2 (h path hpath)
    simp only [checkRule, hnone]
  | permissions =>
    have hnone := filter_not_eq_none_iff.2 fun text htext => isOctal_iff.2 (h text htext)
    simp only [checkRule, hnone]

/-- An optional setting that is unfit is there. -/
lemma filter_not_eq_some_getD {α : Type} {p : α → Bool} {value : Option α} (default : α)
    (h : ¬ ∀ a, value = some a → p a = true) :
    (value.filter fun a => !p a) = some (value.getD default) := by
  cases value with
  | none => simp at h
  | some a => simpa [Option.filter_some] using h

lemma checkRule_of_not_keeps {rule : Rule} (h : ¬ config.Keeps name rule) :
    config.checkRule name rule = .error (config.defectOf name rule) := by
  cases rule with
  | name =>
    by_cases hempty : name = ""
    · subst hempty
      rfl
    · have hmarked : ':' ∈ name.toList ∨ '@' ∈ name.toList := by
        by_contra hnone
        exact h ⟨hempty, fun hcolon => hnone (.inl hcolon), fun hat => hnone (.inr hat)⟩
      have hchecked : Identifier.checkBackendName name = .error .containsMark := by
        simp [Identifier.checkBackendName, Identifier.backendMark, Identifier.snapshotMark, hempty,
          hmarked]
      rw [checkRule, hchecked, defectOf, if_neg hempty]
      rfl
  | endpoints =>
    have hnone : config.endpoints = [] := not_not.1 (mt endpoints_ne_nil_iff.1 h)
    simp [checkRule, hnone, defectOf]
  | credentials =>
    have hempty : config.username = "" ∨ config.password = "" := by
      simpa only [Keeps, not_and_or, not_not] using h
    simp [checkRule, defectOf, hempty]
  | dataset =>
    have hbad := filter_not_eq_some_getD (p := isDatasetPath) "" fun hall => h fun path hpath =>
      isDatasetPath_iff.1 (hall path hpath)
    simp only [checkRule, hbad, defectOf]
  | permissions =>
    have hbad := filter_not_eq_some_getD (p := isOctal) "" fun hall => h fun text htext =>
      isOctal_iff.1 (hall text htext)
    simp only [checkRule, hbad, defectOf]

lemma checkRule_eq_ok_iff {rule : Rule} :
    config.checkRule name rule = .ok () ↔ config.Keeps name rule := by
  refine ⟨fun h => ?_, checkRule_of_keeps⟩
  by_contra hbroken
  rw [checkRule_of_not_keeps hbroken] at h
  cases h

lemma checkRule_eq_error_iff {rule : Rule} {defect : Defect} :
    config.checkRule name rule = .error defect ↔
      ¬ config.Keeps name rule ∧ defect = config.defectOf name rule := by
  by_cases hkept : config.Keeps name rule
  · simp [checkRule_of_keeps hkept, hkept]
  · simp [checkRule_of_not_keeps hkept, hkept, eq_comm]

/-! ## All rules -/

/-- The rules are checked one after the other. -/
lemma check_eq_forM : config.check name = Rule.all.forM (config.checkRule name) := by
  simp only [Rule.all, List.forM, checkRule, check]
  cases Identifier.checkBackendName name with
  | error defect => rfl
  | ok named =>
    by_cases hendpoints : config.endpoints.isEmpty = true
    · simp only [hendpoints, if_true]
      rfl
    by_cases hcredentials : (config.username.isEmpty || config.password.isEmpty) = true
    · simp only [hendpoints, hcredentials, if_true]
      rfl
    simp only [hendpoints, hcredentials]
    cases config.defaultDataset.filter fun path => !isDatasetPath path with
    | some path => rfl
    | none =>
      cases config.mountPointPermissions.filter fun text => !isOctal text with
      | some text => rfl
      | none => rfl

theorem check_eq_ok_iff_wellFormed : config.check name = .ok () ↔ config.WellFormed name := by
  rw [check_eq_forM, forM_eq_ok_iff]
  constructor
  · intro h rule
    apply checkRule_eq_ok_iff.1
    apply h
    cases rule <;> simp [Rule.all]
  · intro h rule _
    exact checkRule_of_keeps (h rule)

theorem check_eq_error_iff {defect : Defect} : config.check name = .error defect ↔
    ∃ rule, config.BreaksFirst name rule ∧ defect = config.defectOf name rule := by
  rw [check_eq_forM, forM_eq_error_iff]
  constructor
  · rintro ⟨before, rule, after, hall, hbefore, hrule⟩
    obtain ⟨hbroken, rfl⟩ := checkRule_eq_error_iff.1 hrule
    refine ⟨rule, ⟨hbroken, before, after, hall, fun other hother => ?_⟩, rfl⟩
    exact checkRule_eq_ok_iff.1 (hbefore other hother)
  · rintro ⟨rule, ⟨hbroken, before, after, hall, hbefore⟩, rfl⟩
    refine ⟨before, rule, after, hall, fun other hother => ?_, checkRule_of_not_keeps hbroken⟩
    exact checkRule_of_keeps (hbefore other hother)

/-- The fault of a broken rule is one of configuration, and has the name of the backend in it. -/
lemma fault_defectOf (name : String) (config : BackendConfig) (rule : Rule) :
    ∃ before after, (config.defectOf name rule).fault name =
      .configuration (before ++ name ++ after) := by
  cases rule with
  | name =>
    by_cases hempty : name = ""
    · subst hempty
      exact ⟨"backend name must not be empty", "", rfl⟩
    · refine ⟨"backend name '", "' must not contain ':' or '@'", ?_⟩
      rw [defectOf, if_neg hempty]
      rfl
  | endpoints => exact ⟨"backend '", "': restIp must list at least one endpoint", rfl⟩
  | credentials => exact ⟨"backend '", "': username and password are required", rfl⟩
  | dataset =>
    refine ⟨"backend '", "': defaultDataset '" ++ config.defaultDataset.getD "" ++
      "' must be 'pool/dataset'", ?_⟩
    simp only [defectOf, Defect.fault, String.append_assoc]
  | permissions =>
    refine ⟨"backend '", "': mountPointPermissions '" ++ config.mountPointPermissions.getD "" ++
      "' is not octal", ?_⟩
    simp only [defectOf, Defect.fault, String.append_assoc]

/-- How it begins what is said of a backend of this name that breaks a rule. -/
def Rule.opening (name : String) : Rule → List Char
  | .name => ['n']
  | .endpoints => '\'' :: (name.toList ++ ['\'', ':', ' ', 'r'])
  | .credentials => '\'' :: (name.toList ++ ['\'', ':', ' ', 'u'])
  | .dataset => '\'' :: (name.toList ++ ['\'', ':', ' ', 'd'])
  | .permissions => '\'' :: (name.toList ++ ['\'', ':', ' ', 'm'])

lemma Rule.eq_of_opening {rule rule' : Rule} {rest rest' : List Char}
    (h : rule.opening name ++ rest = rule'.opening name ++ rest') : rule = rule' := by
  cases rule <;> cases rule' <;> simp [opening] at h ⊢

lemma exists_of_fault {rule : Rule} {text : String}
    (h : (config.defectOf name rule).fault name = .configuration text) :
    ∃ rest, text.toList = "backend ".toList ++ (rule.opening name ++ rest) := by
  cases rule with
  | name =>
    by_cases hempty : name = ""
    · subst hempty
      cases h
      exact ⟨_, rfl⟩
    · rw [defectOf, if_neg hempty] at h
      cases h
      simp [Rule.opening]
  | endpoints | credentials | dataset | permissions =>
    cases h
    simp [Rule.opening]

/-- The text of a fault tells which rule is broken. -/
lemma rule_unique {rule rule' : Rule} {text : String}
    (h : (config.defectOf name rule).fault name = .configuration text)
    (h' : (other.defectOf name rule').fault name = .configuration text) : rule = rule' := by
  obtain ⟨rest, htext⟩ := exists_of_fault h
  obtain ⟨rest', htext'⟩ := exists_of_fault h'
  rw [htext, List.append_cancel_left_eq] at htext'
  exact Rule.eq_of_opening htext'
end BackendConfig

/-! ## The result -/

namespace Config

/-- The check of one backend, with the fault that it ends in. -/
def checkEntry (entry : String × BackendConfig) : Except Fault Unit :=
  (entry.2.check entry.1).mapError (·.fault entry.1)

lemma checkEntry_eq_ok_iff {entry : String × BackendConfig} :
    checkEntry entry = .ok () ↔ entry.2.WellFormed entry.1 := by
  rw [← BackendConfig.check_eq_ok_iff_wellFormed, checkEntry]
  cases entry.2.check entry.1 <;> simp [Except.mapError]

lemma checkEntry_eq_error_iff {entry : String × BackendConfig} {fault : Fault} :
    checkEntry entry = .error fault ↔ ∃ rule, entry.2.BreaksFirst entry.1 rule ∧
      (entry.2.defectOf entry.1 rule).fault entry.1 = fault := by
  have hdefect : checkEntry entry = .error fault ↔
      ∃ defect, entry.2.check entry.1 = .error defect ∧ defect.fault entry.1 = fault := by
    rw [checkEntry]
    cases entry.2.check entry.1 <;> simp [Except.mapError]
  rw [hdefect]
  simp only [BackendConfig.check_eq_error_iff]
  constructor
  · rintro ⟨_, ⟨rule, hfirst, rfl⟩, hfault⟩
    exact ⟨rule, hfirst, hfault⟩
  · rintro ⟨rule, hfirst, hfault⟩
    exact ⟨_, ⟨rule, hfirst, rfl⟩, hfault⟩

/-- The backends are checked one after the other. -/
lemma checkBackends_eq_forM (backends : List (String × BackendConfig)) :
    checkBackends backends = backends.forM checkEntry := by
  induction backends with
  | nil => rfl
  | cons entry rest ih =>
    change _ = (checkEntry entry >>= fun _ => rest.forM checkEntry)
    rw [checkBackends, ih, checkEntry]
    cases entry.2.check entry.1 <;> rfl

/-- **The grammar of a configuration.**  A configuration is let through if there is a backend and
every backend keeps all rules.  Otherwise the fault is one of configuration.  It says that there is no
backend, if so; else it is about the first backend that breaks a rule, whose name is in it, and the
first rule that this one breaks, which is told by the text. -/
theorem grammar (config : Config) :
    (config.check = .ok () ↔
      config.backends ≠ [] ∧ ∀ entry ∈ config.backends, entry.2.WellFormed entry.1) ∧
    ∀ fault, config.check = .error fault ↔ ∃ text, fault = .configuration text ∧
      (config.backends = [] ∧ text = "nexentastor_map must define at least one backend" ∨
        ∃ before name settings after rule, config.backends = before ++ (name, settings) :: after ∧
          (∀ entry ∈ before, entry.2.WellFormed entry.1) ∧ settings.BreaksFirst name rule ∧
          (settings.defectOf name rule).fault name = .configuration text ∧
          (∀ other, (settings.defectOf name other).fault name = .configuration text →
            other = rule) ∧
          ∃ front back, text = front ++ name ++ back) := by
  by_cases hnone : config.backends = []
  · have hcheck : config.check =
        .error (.configuration "nexentastor_map must define at least one backend") := by
      simp [check, hnone]
    rw [hcheck, hnone]
    refine ⟨by simp, fun fault => ?_⟩
    constructor
    · intro h
      exact ⟨_, (Except.error.inj h).symm, .inl ⟨rfl, rfl⟩⟩
    · rintro ⟨text, rfl, ⟨-, rfl⟩ | ⟨before, _, _, after, _, hbackends, -⟩⟩
      · rfl
      · simp at hbackends
  have hcheck : config.check = config.backends.forM checkEntry := by
    simp [check, hnone, checkBackends_eq_forM]
  rw [hcheck]
  constructor
  · rw [forM_eq_ok_iff]
    simp only [checkEntry_eq_ok_iff]
    exact ⟨fun h => ⟨hnone, h⟩, fun h => h.2⟩
  · intro fault
    rw [forM_eq_error_iff]
    constructor
    · rintro ⟨before, ⟨name, settings⟩, after, hbackends, hbefore, hentry⟩
      obtain ⟨rule, hfirst, rfl⟩ := checkEntry_eq_error_iff.1 hentry
      obtain ⟨front, back, hfault⟩ := settings.fault_defectOf name rule
      refine ⟨front ++ name ++ back, hfault, .inr ⟨before, name, settings, after, rule, hbackends,
        fun entry hmem => ?_, hfirst, hfault, fun _ hother => ?_, front, back, rfl⟩⟩
      · exact checkEntry_eq_ok_iff.1 (hbefore entry hmem)
      · exact BackendConfig.rule_unique hother hfault
    · rintro ⟨text, rfl, ⟨hnil, -⟩ |
        ⟨before, name, settings, after, rule, hbackends, hbefore, hfirst, hfault, -⟩⟩
      · exact (hnone hnil).elim
      · refine ⟨before, (name, settings), after, hbackends, fun entry hmem => ?_, ?_⟩
        · exact checkEntry_eq_ok_iff.2 (hbefore entry hmem)
        · exact checkEntry_eq_error_iff.2 ⟨rule, hfirst, hfault⟩

/-- The second of three backends is refused for its addresses, although it has no password either. -/
example :
    let one : BackendConfig := { restIp := "https://one", username := "u", password := "p" }
    let two : BackendConfig := { one with restIp := " , ", password := "" }
    let three : BackendConfig := { one with defaultDataset := some "pool" }
    check { backends := [("one", one), ("two", two), ("three", three)] } =
      .error (.configuration "backend 'two': restIp must list at least one endpoint") := by
  decide

end Config
end StorageFleet
