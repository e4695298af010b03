import StorageFleet.Number.Digits

/-!
# Lengths of time as text

A span is a whole number of milliseconds.  It is written in seconds once it reaches one, in
milliseconds below, with as many decimals as it needs.
-/

namespace StorageFleet

/-- A length of time in milliseconds. -/
structure Span where
  milliseconds : Nat
  deriving Repr, DecidableEq, Inhabited

namespace Span

/-- A length of whole seconds. -/
def ofSeconds (seconds : Nat) : Span :=
  ⟨seconds * 1000⟩

/-- Drops zeros at the end. -/
def dropZeros (digits : List Char) : List Char :=
  (digits.reverse.dropWhile (· == '0')).reverse

/-- The span in words: `60s`, `1.5s`, `250ms`, `0ns`. -/
def render (span : Span) : String :=
  let ms := span.milliseconds
  if ms = 0 then "0ns"
  else if ms < 1000 then toString ms ++ "ms"
  else
    let fraction := String.ofList (dropZeros (Number.padded 3 (ms % 1000)).toList)
    toString (ms / 1000) ++ (if fraction.isEmpty then "" else "." ++ fraction) ++ "s"

end Span
end StorageFleet
