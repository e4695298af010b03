import StorageFleet.Number.Digits

/-!
# The shortest decimal that reads back

A binary floating-point value is `m · 2^q`; the reals that round to it form an interval, whose
ends belong to it when `m` is even.  `shortest` looks for the decimal with the fewest digits in
that interval: for one digit, then two, up to seventeen, it tries the two neighbours of the value
on that decimal grid, and of two hits takes the nearer one.
-/

namespace StorageFleet.Number

/-- A decimal number: `digits · 10^exponent`, negated if `negative`. -/
structure Decimal where
  negative : Bool
  digits : Nat
  exponent : Int
  deriving Repr, DecidableEq, Inhabited

/-- Sign, mantissa and binary exponent of a finite value, by its bits. -/
def binaryParts (bits : UInt64) : Bool × Nat × Int :=
  let n := bits.toNat
  let negative := n / powerOfTwo 63 == 1
  let exponent : Nat := n / powerOfTwo 52 % powerOfTwo 11
  let fraction : Nat := n % powerOfTwo 52
  if exponent = 0 then (negative, fraction, -1074)
  else (negative, fraction + powerOfTwo 52, (exponent : Int) - 1075)

/-- The number of decimal digits of `n`. -/
def digitCount (n : Nat) : Nat :=
  (Nat.toDigits 10 n).length

/-- The value of `a · 10^(-k)` compared with a fraction of denominator `den`: numerator and
denominator after the power of ten has been moved to the right side. -/
def scaleDown (num den : Nat) (k : Int) : Nat × Nat :=
  if 0 ≤ k then (num, den * powerOfTen k.toNat)
  else (num * powerOfTen (-k).toNat, den)

/-- The decimal exponent `k` with `10^(k-1) ≤ num / den < 10^k`, for a positive fraction. -/
def decimalMagnitude (num den : Nat) : Int :=
  let guess : Int := (digitCount num : Int) - digitCount den
  let (a, b) := scaleDown num den guess
  if a < b then guess else guess + 1

/-- The shortest decimal of the value `mantissa · 2^exponent`, whose lower neighbour is half as
far away when `narrow`; digits and decimal exponent. -/
def shortest (mantissa : Nat) (exponent : Int) (narrow : Bool) : Nat × Int :=
  let up := powerOfTwo (exponent - 2).toNat
  let den := powerOfTwo (2 - exponent).toNat
  let value := 4 * mantissa * up
  let low := (4 * mantissa - (if narrow then 1 else 2)) * up
  let high := (4 * mantissa + 2) * up
  let closed := mantissa % 2 == 0
  let magnitude := decimalMagnitude value den
  let attempt (count : Nat) : Option (Nat × Int) :=
    let unit := magnitude - count
    let (v, d) := scaleDown value den unit
    let (l, _) := scaleDown low den unit
    let (h, _) := scaleDown high den unit
    let inside (candidate : Nat) : Bool :=
      let c := candidate * d
      if closed then l ≤ c && c ≤ h else l < c && c < h
    let below := v / d
    let rest := v % d
    let above := below + 1
    let nearerBelow := 2 * rest < d || (2 * rest == d && below % 2 == 0)
    match inside below, inside above with
    | true, true => some (if nearerBelow then below else above, unit)
    | true, false => some (below, unit)
    | false, true => some (above, unit)
    | false, false => none
  match (List.range 17).findSome? fun i => attempt (i + 1) with
  | some found => found
  | none => (0, 0)

/-- Moves trailing zeros of the digits into the exponent. -/
def stripZeros : Nat → Nat → Int → Nat × Int
  | 0, digits, exponent => (digits, exponent)
  | fuel + 1, digits, exponent =>
    if digits ≠ 0 ∧ digits % 10 = 0 then stripZeros fuel (digits / 10) (exponent + 1)
    else (digits, exponent)

/-- The shortest decimal of a finite value. -/
def Decimal.ofFloat (x : Float) : Decimal :=
  let (negative, mantissa, exponent) := binaryParts x.toBits
  if mantissa = 0 then ⟨negative, 0, 0⟩
  else
    let narrow := mantissa = powerOfTwo 52 ∧ exponent ≠ -1074
    let (digits, place) := shortest mantissa exponent narrow
    let (digits, place) := stripZeros 20 digits place
    ⟨negative, digits, place⟩

/-- The written form: positional while the point falls near the digits, otherwise with a signed
exponent; a whole value keeps `.0`. -/
def Decimal.render (d : Decimal) : String :=
  let digits := Nat.toDigits 10 d.digits
  let count : Int := digits.length
  let point := count + d.exponent
  let sign := if d.negative then ['-'] else []
  let zeros (n : Int) : List Char := List.replicate n.toNat '0'
  let body :=
    if d.digits = 0 then ['0', '.', '0']
    else if 0 ≤ d.exponent ∧ point ≤ 16 then digits ++ zeros d.exponent ++ ['.', '0']
    else if 0 < point ∧ point ≤ 16 then
      digits.take point.toNat ++ '.' :: digits.drop point.toNat
    else if -5 < point ∧ point ≤ 0 then '0' :: '.' :: zeros (-point) ++ digits
    else
      let power := point - 1
      let fraction := if digits.length = 1 then [] else '.' :: digits.drop 1
      let mark := if power < 0 then ['e', '-'] else ['e', '+']
      digits.take 1 ++ fraction ++ mark ++ Nat.toDigits 10 power.natAbs
  String.ofList (sign ++ body)

/-- The factor of the power `k` of ten, which is exact up to the format's own rounding. -/
def tenTo (k : Nat) : Float :=
  Float.ofScientific 1 false k

/-- The value `value · 10^exponent` computed with one multiplication or division by a power of ten
(several divisions below the smallest power); `none` above the format's range. -/
def scaled : Nat → Float → Int → Option Float
  | 0, _, _ => none
  | fuel + 1, value, exponent =>
    if exponent.natAbs ≤ 308 then
      if 0 ≤ exponent then
        let product := value * tenTo exponent.toNat
        if product.isInf then none else some product
      else some (value / tenTo exponent.natAbs)
    else if value == 0 then some value
    else if 0 ≤ exponent then none
    else scaled fuel (value / tenTo 308) (exponent + 308)

/-- The decimal kept for a number that was written as `±significand · 10^exponent`, with a
significand below `2^64`: two divisions by the largest power already leave zero, so five rounds
are enough. -/
def Decimal.ofParts (negative : Bool) (significand : Nat) (exponent : Int) : Option Decimal :=
  (scaled 5 (UInt64.ofNat significand).toFloat exponent).map fun x =>
    Decimal.ofFloat (if negative then -x else x)

end StorageFleet.Number
