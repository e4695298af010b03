import StorageFleet.Text.Basic
import StorageFleet.Text.Utf8

/-!
# Percent encoding and queries

`percentEncode` keeps letters, digits and `- _ . ~` and writes every other byte of the text as a
percent sign and two capital digits.  `percentDecode` undoes it and leaves stray percent signs
alone.  `queryPairs` reads the pairs of a query, in which a plus sign stands for a space.
-/

namespace StorageFleet.Text

/-- Whether a byte is written as itself in an encoded text. -/
def isUnreserved (b : UInt8) : Bool :=
  let n := b.toNat
  (0x41 ≤ n && n ≤ 0x5A) || (0x61 ≤ n && n ≤ 0x7A) || (0x30 ≤ n && n ≤ 0x39) ||
    n == 0x2D || n == 0x5F || n == 0x2E || n == 0x7E

/-- The capital digit of a number below sixteen. -/
def upperHexDigit (n : Nat) : Char :=
  if n < 10 then Char.ofNat (0x30 + n) else Char.ofNat (0x41 + n - 10)

/-- The value of a digit in base sixteen. -/
def hexValue? (c : Char) : Option Nat :=
  let n := c.toNat
  if 0x30 ≤ n ∧ n ≤ 0x39 then some (n - 0x30)
  else if 0x41 ≤ n ∧ n ≤ 0x46 then some (n - 0x41 + 10)
  else if 0x61 ≤ n ∧ n ≤ 0x66 then some (n - 0x61 + 10)
  else none

/-- How a byte is written. -/
def percentByte (b : UInt8) : List Char :=
  if isUnreserved b then [Char.ofNat b.toNat]
  else ['%', upperHexDigit (b.toNat / 16), upperHexDigit (b.toNat % 16)]

/-- The text with every byte outside the unreserved ones written as `%XX`. -/
def percentEncode (text : String) : String :=
  String.ofList ((encodeUtf8 text.toList).flatMap percentByte)

/-- The bytes that an encoded text stands for. -/
def percentBytes : List Char → List UInt8
  | [] => []
  | '%' :: a :: b :: rest =>
    match hexValue? a, hexValue? b with
    | some high, some low => UInt8.ofNat (high * 16 + low) :: percentBytes rest
    | _, _ => utf8Bytes '%' ++ percentBytes (a :: b :: rest)
  | c :: rest => utf8Bytes c ++ percentBytes rest

/-- The text that an encoded text stands for. -/
def percentDecode (cs : List Char) : String :=
  decodeUtf8Lossy (percentBytes cs)

/-- One side of a query pair: plus signs are spaces, the rest is percent-decoded. -/
def queryText (cs : List Char) : String :=
  percentDecode (cs.map fun c => if c = '+' then ' ' else c)

/-- The pairs of a query: empty pieces are skipped, a piece without `=` has an empty value. -/
def queryPairs (query : String) : List (String × String) :=
  ((splitAll '&' query.toList).filter fun piece => !piece.isEmpty).map fun piece =>
    match splitOnce '=' piece with
    | some (key, value) => (queryText key, queryText value)
    | none => (queryText piece, "")

end StorageFleet.Text
