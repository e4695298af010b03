import StorageFleet.Catalog
import StorageFleet.Number.Shortest

/-!
# JSON values

A number is a whole number or the shortest decimal of a binary floating-point value.  The fields
of an object stand in ascending order of their keys and no key occurs twice; `Json.object` builds
such an object from any list of fields, the last one of a key winning.
-/

namespace StorageFleet

namespace Json

/-- A JSON number. -/
inductive Number where
  | whole (value : Int)
  | real (value : Number.Decimal)
  deriving Repr, DecidableEq, Inhabited

end Json

/-- A JSON value. -/
inductive Json where
  | null
  | bool (value : Bool)
  | number (value : Json.Number)
  | string (value : String)
  | array (items : List Json)
  | fields (entries : List (String × Json))
  deriving Repr, Inhabited

namespace Json

/-- The object of the given fields; of two fields with one key the later one counts. -/
def object (entries : List (String × Json)) : Json :=
  .fields (entries.foldl (fun sorted entry => insertSorted entry.1 entry.2 sorted) [])

/-- A whole number that is not negative. -/
def nat (n : Nat) : Json :=
  .number (.whole n)

/-- A text, or null. -/
def ofOption : Option String → Json
  | none => .null
  | some text => .string text

/-- A list of texts. -/
def ofStrings (texts : List String) : Json :=
  .array (texts.map .string)

/-- The value under `key`, if this is an object that has one. -/
def get? (key : String) : Json → Option Json
  | .fields entries => (entries.find? fun entry => entry.1 == key).map Prod.snd
  | _ => none

end Json
end StorageFleet
