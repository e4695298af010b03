/-!
# UTF-8

`encodeUtf8` gives the bytes of a text.  `decodeUtf8?` reads bytes back and refuses what is not
well formed; `decodeUtf8Lossy` never fails: each longest broken piece becomes one replacement
character.
-/

namespace StorageFleet.Text

/-- The bytes of one character. -/
def utf8Bytes (c : Char) : List UInt8 :=
  let n := c.toNat
  let tail (k : Nat) : UInt8 := UInt8.ofNat (0x80 + k % 64)
  if n < 0x80 then [UInt8.ofNat n]
  else if n < 0x800 then [UInt8.ofNat (0xC0 + n / 64), tail n]
  else if n < 0x10000 then [UInt8.ofNat (0xE0 + n / 4096), tail (n / 64), tail n]
  else [UInt8.ofNat (0xF0 + n / 262144), tail (n / 4096), tail (n / 64), tail n]

/-- The bytes of a text. -/
def encodeUtf8 (cs : List Char) : List UInt8 :=
  cs.flatMap utf8Bytes

/-- How many bytes follow a leading byte, with the bounds of the first of them. -/
def utf8Lead (b : UInt8) : Option (Nat × Nat × Nat × Nat) :=
  let n := b.toNat
  if 0xC2 ≤ n ∧ n ≤ 0xDF then some (1, n - 0xC0, 0x80, 0xBF)
  else if n = 0xE0 then some (2, 0, 0xA0, 0xBF)
  else if n = 0xED then some (2, 13, 0x80, 0x9F)
  else if 0xE1 ≤ n ∧ n ≤ 0xEF then some (2, n - 0xE0, 0x80, 0xBF)
  else if n = 0xF0 then some (3, 0, 0x90, 0xBF)
  else if 0xF1 ≤ n ∧ n ≤ 0xF3 then some (3, n - 0xF0, 0x80, 0xBF)
  else if n = 0xF4 then some (3, 4, 0x80, 0x8F)
  else none

/-- Takes up to `count` continuation bytes, the first between `low` and `high`; also gives the
number that is still missing, the value so far and what follows. -/
def takeTail : Nat → Nat → Nat → Nat → List UInt8 → Nat × Nat × List UInt8
  | 0, value, _, _, rest => (0, value, rest)
  | count + 1, value, _, _, [] => (count + 1, value, [])
  | count + 1, value, low, high, b :: rest =>
    if low ≤ b.toNat ∧ b.toNat ≤ high then
      takeTail count (value * 64 + (b.toNat - 0x80)) 0x80 0xBF rest
    else (count + 1, value, b :: rest)

/-- One step of decoding: a character, or `none` for a broken piece, and what follows. -/
def nextUtf8 : List UInt8 → Option (Option Char × List UInt8)
  | [] => none
  | b :: rest =>
    if b.toNat < 0x80 then some (some (Char.ofNat b.toNat), rest)
    else match utf8Lead b with
      | none => some (none, rest)
      | some (count, value, low, high) =>
        match takeTail count value low high rest with
        | (0, value, rest) => some (some (Char.ofNat value), rest)
        | (_ + 1, _, rest) => some (none, rest)

/-- The characters of `bytes` in order, `none` for each broken piece; `fuel` bounds the steps. -/
def utf8Steps : Nat → List UInt8 → List (Option Char)
  | 0, _ => []
  | fuel + 1, bytes =>
    match nextUtf8 bytes with
    | none => []
    | some (step, rest) => step :: utf8Steps fuel rest

/-- The text of well-formed bytes. -/
def decodeUtf8? (bytes : List UInt8) : Option String :=
  ((utf8Steps bytes.length bytes).mapM id).map String.ofList

/-- The text of any bytes, with a replacement character for each broken piece. -/
def decodeUtf8Lossy (bytes : List UInt8) : String :=
  String.ofList ((utf8Steps bytes.length bytes).map fun step => step.getD (Char.ofNat 0xFFFD))

end StorageFleet.Text
