import StorageFleet.Json.Basic
import StorageFleet.Number.Digits
import StorageFleet.Text.Percent

/-!
# JSON as far as it can be read

`Draft.read` reads one value from the start of a text and never fails: where the text stops being
JSON the draft has a `broken` piece or an array or object that is `cut`.  A decoder that walks a
draft in the order of the text therefore meets a malformed place exactly where a reader of the
text would, after any fault of content that stands before it.  A piece that is well formed but
has no value (half of a surrogate pair, a number out of range) is `unfit`: it does no harm where it
is skipped.

`Json.parse` is the strict reading of a whole text.
-/

namespace StorageFleet

/-- Whether an array or object was read to its end. -/
inductive Draft.Ending where
  | closed
  | cut
  deriving Repr, DecidableEq, Inhabited

/-- A JSON value as far as its text could be read. -/
inductive Draft where
  | null
  | bool (value : Bool)
  | number (value : Json.Number)
  | string (value : String)
  | array (items : List Draft) (ending : Draft.Ending)
  | fields (entries : List (String × Draft)) (ending : Draft.Ending)
  | unfit
  | broken
  deriving Inhabited

namespace Draft

/-! ## Reading -/

/-- Whether a character may stand between the parts of a JSON text. -/
def isSpace (c : Char) : Bool :=
  c == ' ' || c == '\n' || c == '\t' || c == '\r'

/-- The text from its first character that is not a space. -/
def skipSpace (cs : List Char) : List Char :=
  cs.dropWhile isSpace

/-- Reads digits: the significand while it stays below `2^64`, the number of digits taken into
it, the number of digits passed over after that, and what follows. -/
def readSignificand (significand : Nat) (taken passed : Nat) :
    List Char → Nat × Nat × Nat × List Char
  | [] => (significand, taken, passed, [])
  | c :: rest =>
    match Number.digit? c with
    | none => (significand, taken, passed, c :: rest)
    | some d =>
      let next := significand * 10 + d
      if passed = 0 ∧ next ≤ Number.max64 then readSignificand next (taken + 1) 0 rest
      else readSignificand significand taken (passed + 1) rest

/-- The draft of a number that has a fraction or an exponent, or does not fit a whole number. -/
def realDraft (negative : Bool) (significand : Nat) (exponent : Int) : Draft :=
  match Number.Decimal.ofParts negative significand exponent with
  | some value => .number (.real value)
  | none => .unfit

/-- The draft of a whole number: one that does not fit 64 bits, and minus zero, become reals. -/
def wholeDraft (negative : Bool) (significand : Nat) : Draft :=
  if negative then
    if significand = 0 ∨ significand > Number.powerOfTwo 63 then realDraft true significand 0
    else .number (.whole (-(significand : Int)))
  else .number (.whole significand)

/-- Reads the exponent of a number, after its mark. -/
def readExponent (negative : Bool) (significand : Nat) (exponent : Int) (cs : List Char) :
    Draft × List Char :=
  let (down, cs) := match cs with
    | '+' :: rest => (false, rest)
    | '-' :: rest => (true, rest)
    | rest => (false, rest)
  let digits := cs.takeWhile Char.isDigit
  let rest := cs.dropWhile Char.isDigit
  if digits.isEmpty then (.broken, [])
  else
    let power := (Number.readDigits 10 0 digits).getD 0
    if power ≥ Number.powerOfTwo 31 then
      if significand ≠ 0 ∧ !down then (.unfit, rest)
      else (realDraft negative 0 0, rest)
    else
      let exponent := if down then exponent - power else exponent + power
      (realDraft negative significand exponent, rest)

/-- Reads a number, after its sign. -/
def readNumber (negative : Bool) (cs : List Char) : Draft × List Char :=
  match cs with
  | [] => (.broken, [])
  | c :: afterFirst =>
    match Number.digit? c with
    | none => (.broken, [])
    | some first =>
      let startsBadly := first = 0 ∧ (afterFirst.head?.bind Number.digit?).isSome
      if startsBadly then (.broken, [])
      else
        let (significand, _, passed, rest) := readSignificand first 1 0 afterFirst
        match rest with
        | '.' :: fraction =>
          let (significand', taken', passed', rest') := readSignificand significand 0 0 fraction
          if taken' + passed' = 0 then (.broken, [])
          else
            let exponent : Int := (passed : Int) - taken'
            match rest' with
            | 'e' :: power => readExponent negative significand' exponent power
            | 'E' :: power => readExponent negative significand' exponent power
            | _ => (realDraft negative significand' exponent, rest')
        | 'e' :: power => readExponent negative significand passed power
        | 'E' :: power => readExponent negative significand passed power
        | _ =>
          if passed = 0 then (wholeDraft negative significand, rest)
          else (realDraft negative significand passed, rest)

/-- A string as far as it could be read. -/
inductive Quote where
  | complete (text : List Char) (rest : List Char)
  | unfit (rest : List Char)
  | broken

/-- Puts a character in front of a string's text. -/
def Quote.cons (c : Char) : Quote → Quote
  | .complete text rest => .complete (c :: text) rest
  | other => other

/-- Marks a string as having no value. -/
def Quote.spoil : Quote → Quote
  | .complete _ rest => .unfit rest
  | other => other

/-- The number that four digits in base sixteen stand for. -/
def fourHex (a b c d : Char) : Option Nat := do
  let a ← Text.hexValue? a
  let b ← Text.hexValue? b
  let c ← Text.hexValue? c
  let d ← Text.hexValue? d
  return ((a * 16 + b) * 16 + c) * 16 + d

/-- The character of a short escape. -/
def shortEscape? (c : Char) : Option Char :=
  match c with
  | '"' => some '"'
  | '\\' => some '\\'
  | '/' => some '/'
  | 'b' => some (Char.ofNat 8)
  | 'f' => some (Char.ofNat 12)
  | 'n' => some '\n'
  | 'r' => some '\r'
  | 't' => some '\t'
  | _ => none

/-- Reads a string, after its opening quote. -/
def readQuote : List Char → Quote
  | [] => .broken
  | '"' :: rest => .complete [] rest
  | '\\' :: 'u' :: a :: b :: c :: d :: '\\' :: 'u' :: a' :: b' :: c' :: d' :: rest =>
    match fourHex a b c d, fourHex a' b' c' d' with
    | some high, some low =>
      if 0xD800 ≤ high ∧ high ≤ 0xDBFF then
        if 0xDC00 ≤ low ∧ low ≤ 0xDFFF then
          (readQuote rest).cons (Char.ofNat (0x10000 + (high - 0xD800) * 1024 + (low - 0xDC00)))
        else (readQuote ('\\' :: 'u' :: a' :: b' :: c' :: d' :: rest)).spoil
      else if 0xDC00 ≤ high ∧ high ≤ 0xDFFF then
        (readQuote ('\\' :: 'u' :: a' :: b' :: c' :: d' :: rest)).spoil
      else (readQuote ('\\' :: 'u' :: a' :: b' :: c' :: d' :: rest)).cons (Char.ofNat high)
    | _, _ => .broken
  | '\\' :: 'u' :: a :: b :: c :: d :: rest =>
    match fourHex a b c d with
    | some n =>
      if 0xD800 ≤ n ∧ n ≤ 0xDFFF then (readQuote rest).spoil
      else (readQuote rest).cons (Char.ofNat n)
    | none => .broken
  | '\\' :: c :: rest =>
    match shortEscape? c with
    | some e => (readQuote rest).cons e
    | none => .broken
  | c :: rest => if c.toNat < 0x20 ∨ c = '\\' then .broken else (readQuote rest).cons c

/-- Reads the fixed `word` that stands for `value`. -/
def readWord (word : List Char) (value : Draft) (cs : List Char) : Draft × List Char :=
  match Text.dropStart? word cs with
  | some rest => (value, rest)
  | none => (.broken, [])

mutual

/-- Reads one value; `fuel` bounds the number of its parts. -/
def readValue : Nat → List Char → Draft × List Char
  | 0, _ => (.broken, [])
  | fuel + 1, cs =>
    match skipSpace cs with
    | [] => (.broken, [])
    | 'n' :: rest => readWord ['n', 'u', 'l', 'l'] .null ('n' :: rest)
    | 't' :: rest => readWord ['t', 'r', 'u', 'e'] (.bool true) ('t' :: rest)
    | 'f' :: rest => readWord ['f', 'a', 'l', 's', 'e'] (.bool false) ('f' :: rest)
    | '-' :: rest => readNumber true rest
    | '"' :: rest =>
      match readQuote rest with
      | .complete text rest => (.string (String.ofList text), rest)
      | .unfit rest => (.unfit, rest)
      | .broken => (.broken, [])
    | '[' :: rest =>
      match skipSpace rest with
      | ']' :: rest => (.array [] .closed, rest)
      | rest =>
        let (items, ending, rest) := readItems fuel rest
        (.array items ending, rest)
    | '\x7b' :: rest =>
      match skipSpace rest with
      | '\x7d' :: rest => (.fields [] .closed, rest)
      | rest =>
        let (entries, ending, rest) := readEntries fuel rest
        (.fields entries ending, rest)
    | rest => readNumber false rest

/-- Reads the items of an array up to its end. -/
def readItems : Nat → List Char → List Draft × Ending × List Char
  | 0, _ => ([], .cut, [])
  | fuel + 1, cs =>
    match skipSpace cs with
    | ']' :: _ => ([], .cut, [])
    | cs =>
      let (item, rest) := readValue fuel cs
      match skipSpace rest with
      | ',' :: rest =>
        let (items, ending, rest) := readItems fuel rest
        (item :: items, ending, rest)
      | ']' :: rest => ([item], .closed, rest)
      | _ => ([item], .cut, [])

/-- Reads the fields of an object up to its end. -/
def readEntries : Nat → List Char → List (String × Draft) × Ending × List Char
  | 0, _ => ([], .cut, [])
  | fuel + 1, cs =>
    match skipSpace cs with
    | '"' :: rest =>
      match readQuote rest with
      | .complete text rest =>
        let key := String.ofList text
        match skipSpace rest with
        | ':' :: rest =>
          let (value, rest) := readValue fuel rest
          match skipSpace rest with
          | ',' :: rest =>
            let (entries, ending, rest) := readEntries fuel rest
            ((key, value) :: entries, ending, rest)
          | '\x7d' :: rest => ([(key, value)], .closed, rest)
          | _ => ([(key, value)], .cut, [])
        | _ => ([(key, .broken)], .cut, [])
      | _ => ([], .cut, [])
    | _ => ([], .cut, [])

end

/-- Reads one value from the start of a text, and what follows it. -/
def read (text : String) : Draft × List Char :=
  let cs := text.toList
  readValue (2 * cs.length + 2) cs

/-! ## From and to values -/

mutual

/-- The draft of a value. -/
def ofJson : Json → Draft
  | .null => .null
  | .bool value => .bool value
  | .number value => .number value
  | .string value => .string value
  | .array items => .array (ofItems items) .closed
  | .fields entries => .fields (ofEntries entries) .closed

/-- The drafts of the items of an array. -/
def ofItems : List Json → List Draft
  | [] => []
  | item :: rest => ofJson item :: ofItems rest

/-- The drafts of the fields of an object. -/
def ofEntries : List (String × Json) → List (String × Draft)
  | [] => []
  | (key, value) :: rest => (key, ofJson value) :: ofEntries rest

end

mutual

/-- The value of a draft that was read to its end and nests at most `depth` deep. -/
def toJson? (depth : Nat) : Draft → Option Json
  | .null => some .null
  | .bool value => some (.bool value)
  | .number value => some (.number value)
  | .string value => some (.string value)
  | .array items .closed =>
    match depth with
    | 0 => none
    | depth + 1 => (itemsToJson? depth items).map .array
  | .fields entries .closed =>
    match depth with
    | 0 => none
    | depth + 1 => (entriesToJson? depth entries).map .object
  | _ => none

/-- The values of the items of an array. -/
def itemsToJson? (depth : Nat) : List Draft → Option (List Json)
  | [] => some []
  | item :: rest => do
    let value ← toJson? depth item
    let values ← itemsToJson? depth rest
    return value :: values

/-- The values of the fields of an object. -/
def entriesToJson? (depth : Nat) : List (String × Draft) → Option (List (String × Json))
  | [] => some []
  | (key, item) :: rest => do
    let value ← toJson? depth item
    let values ← entriesToJson? depth rest
    return (key, value) :: values

end

mutual

/-- Whether a draft may be passed over: all of it is well formed. -/
def isWhole : Draft → Bool
  | .array items ending => ending == .closed && itemsWhole items
  | .fields entries ending => ending == .closed && entriesWhole entries
  | .broken => false
  | _ => true

/-- Whether all items may be passed over. -/
def itemsWhole : List Draft → Bool
  | [] => true
  | item :: rest => isWhole item && itemsWhole rest

/-- Whether all fields may be passed over. -/
def entriesWhole : List (String × Draft) → Bool
  | [] => true
  | (_, item) :: rest => isWhole item && entriesWhole rest

end

end Draft

/-- How deeply the values of a strictly read text may nest. -/
def Json.maxDepth : Nat := 127

/-- The value of a text that holds one value and nothing else. -/
def Json.parse (text : String) : Option Json :=
  let (draft, rest) := Draft.read text
  if (Draft.skipSpace rest).isEmpty then draft.toJson? Json.maxDepth else none

end StorageFleet
