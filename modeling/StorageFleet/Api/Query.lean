import StorageFleet.Fault
import StorageFleet.Text.Percent

/-!
# Queries

The query of a listing or of a capacity request is read by key.  A key that is looked for may stand
once; other keys are passed over.
-/

namespace StorageFleet.Api

/-- The pairs of a query. -/
structure Query where
  pairs : List (String × String)
  deriving Repr, DecidableEq, Inhabited

namespace Query

/-- Reads a query. -/
def read (text : String) : Query :=
  ⟨Text.queryPairs text⟩

/-- The values under a key. -/
def values (query : Query) (key : String) : List String :=
  (query.pairs.filter fun pair => pair.1 == key).map Prod.snd

/-- The text under a key; the query is refused (`none`) if the key stands twice. -/
def text (query : Query) (key : String) : Option (Option String) :=
  match query.values key with
  | [] => some none
  | [value] => some (some value)
  | _ => none

/-- The number under a key, zero if there is none; the query is refused (`none`) if the value is
no number of 64 bits or the key stands twice. -/
def count (query : Query) (key : String) : Option Nat :=
  match query.text key with
  | none => none
  | some none => some 0
  | some (some value) => Number.readUnsigned 10 Number.max64 value.toList

end Query
end StorageFleet.Api
