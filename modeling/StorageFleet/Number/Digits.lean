/-!
# Decimal numerals

Whole numbers are read from and written to decimal text.  `readUnsigned` reads a numeral in any
base up to ten with an optional plus sign, and refuses an empty one and a value above its limit.
-/

namespace StorageFleet.Number

/-- The value of a decimal digit. -/
def digit? (c : Char) : Option Nat :=
  if '0' ≤ c ∧ c ≤ '9' then some (c.toNat - '0'.toNat) else none

/-- The value of a numeral in `base`, continuing from `value`; `none` at a foreign character. -/
def readDigits (base : Nat) : Nat → List Char → Option Nat
  | value, [] => some value
  | value, c :: rest =>
    match digit? c with
    | some d => if d < base then readDigits base (value * base + d) rest else none
    | none => none

/-- A numeral of one or more digits with at most one plus sign, of value at most `limit`. -/
def readUnsigned (base limit : Nat) (cs : List Char) : Option Nat :=
  let digits := match cs with
    | '+' :: rest => rest
    | rest => rest
  if digits.isEmpty then none
  else (readDigits base 0 digits).filter fun value => value ≤ limit

/-- The powers of two. -/
def powerOfTwo (n : Nat) : Nat := Nat.pow 2 n

/-- The powers of ten. -/
def powerOfTen (n : Nat) : Nat := Nat.pow 10 n

/-- The largest number of 64 bits. -/
def max64 : Nat := powerOfTwo 64 - 1

/-- The largest number of 32 bits. -/
def max32 : Nat := powerOfTwo 32 - 1

/-- `n` in decimal, with zeros in front up to `width` digits. -/
def padded (width n : Nat) : String :=
  let digits := toString n
  String.ofList (List.replicate (width - digits.length) '0') ++ digits

end StorageFleet.Number
