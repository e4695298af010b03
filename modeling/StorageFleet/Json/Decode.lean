import StorageFleet.Json.Draft

/-!
# Decoding drafts

A reader takes a draft to a typed value or reports its first flaw: the text stops being JSON
(`malformed`), or it is JSON of another shape (`mismatched`).  A record is described once, field by
field in the order of its constructor; `Record.read` accepts an object, in which the fields may
stand in any order and unknown ones are passed over, and an array of the fields in order.
-/

namespace StorageFleet

/-- Why a draft has no value of the wanted type. -/
inductive Flaw where
  | malformed
  | mismatched (wanted : String)
  deriving Repr, DecidableEq, Inhabited

/-- The flaw in words. -/
def Flaw.message : Flaw → String
  | .malformed => "malformed text"
  | .mismatched wanted => "expected " ++ wanted

/-- A reader of values of one type. -/
abbrev Reader (α : Type) := Draft → Except Flaw α

namespace Reader

/-- A text. -/
def string : Reader String
  | .string text => .ok text
  | .unfit | .broken => .error .malformed
  | _ => .error (.mismatched "a string")

/-- A truth value. -/
def bool : Reader Bool
  | .bool value => .ok value
  | .unfit | .broken => .error .malformed
  | _ => .error (.mismatched "a boolean")

/-- A whole number of 64 bits that is not negative. -/
def count : Reader Nat
  | .number (.whole (.ofNat n)) =>
    if n ≤ Number.max64 then .ok n else .error (.mismatched "an unsigned number")
  | .unfit | .broken => .error .malformed
  | _ => .error (.mismatched "an unsigned number")

/-- Null, or a value. -/
def optional (reader : Reader α) : Reader (Option α)
  | .null => .ok none
  | draft => (reader draft).map some

/-- The items of an array, in order. -/
def items (reader : Reader α) (ending : Draft.Ending) : List Draft → Except Flaw (List α)
  | [] => match ending with
    | .closed => .ok []
    | .cut => .error .malformed
  | draft :: rest => do
    let value ← reader draft
    let values ← items reader ending rest
    return value :: values

/-- An array of values. -/
def list (reader : Reader α) : Reader (List α)
  | .array drafts ending => items reader ending drafts
  | .unfit | .broken => .error .malformed
  | _ => .error (.mismatched "an array")

/-- The entries of an object whose keys are free, later ones of a key replacing earlier ones in
their place. -/
def entries (place : String → α → List (String × α) → List (String × α)) (reader : Reader α)
    (ending : Draft.Ending) (found : List (String × α)) :
    List (String × Draft) → Except Flaw (List (String × α))
  | [] => match ending with
    | .closed => .ok found
    | .cut => .error .malformed
  | (key, draft) :: rest => do
    let value ← reader draft
    entries place reader ending (place key value found) rest

/-- An object with free keys, kept in ascending order of the keys. -/
def table (reader : Reader α) : Reader (List (String × α))
  | .fields drafts ending => entries insertSorted reader ending [] drafts
  | .unfit | .broken => .error .malformed
  | _ => .error (.mismatched "an object")

/-- A choice among named values: the name as a text, or an object of the name alone with null. -/
def choice (named : String → Option α) : Reader α
  | .string name => match named name with
    | some value => .ok value
    | none => .error (.mismatched "a known name")
  | .fields ((name, draft) :: rest) ending => match named name with
    | none => .error (.mismatched "a known name")
    | some value => match draft with
      | .null => if rest.isEmpty ∧ ending = .closed then .ok value else .error .malformed
      | .unfit | .broken => .error .malformed
      | _ => .error (.mismatched "null")
  | _ => .error .malformed

/-- A choice among named forms with a content: an object of one name and the content. -/
def tagged (named : String → Option (Reader α)) : Reader α
  | .fields ((name, draft) :: rest) ending => match named name with
    | none => .error (.mismatched "a known name")
    | some reader => do
      let value ← reader draft
      if rest.isEmpty ∧ ending = .closed then return value else throw .malformed
  | .string _ => .error (.mismatched "an object of one name")
  | _ => .error .malformed

end Reader

/-! ## Records -/

/-- What to do when a record's field is absent. -/
inductive Absent where
  /-- The field must be present. -/
  | refused
  /-- Absent from an object it counts as null; an array must reach it. -/
  | null
  /-- Absent from either form it has its default. -/
  | defaulted
  deriving Repr, DecidableEq, Inhabited

/-- A field of a record: its key, the check of its content, and what its absence means. -/
structure RecordField where
  key : String
  check : Draft → Except Flaw Unit
  absent : Absent

/-- The contents that were found, by key. -/
abbrev Found := List (String × Draft)

/-- The description of a record: its fields in order, and how to build it from their contents. -/
structure Record (α : Type) where
  parts : List RecordField
  build : Found → Except Flaw α

namespace Record

/-- A record without fields yet. -/
def of (make : α) : Record α :=
  ⟨[], fun _ => .ok make⟩

/-- The content of `key` through `reader`, or `absent` if there is none. -/
def content (key : String) (reader : Reader α) (absent : Except Flaw α) (found : Found) :
    Except Flaw α :=
  match found.find? fun entry => entry.1 == key with
  | some (_, draft) => reader draft
  | none => absent

/-- Adds a field. -/
def withField (record : Record (α → β)) (key : String) (reader : Reader α) (absent : Absent)
    (missing : Except Flaw α) : Record β where
  parts := record.parts ++ [⟨key, fun draft => (reader draft).map fun _ => (), absent⟩]
  build found := do
    let make ← record.build found
    let value ← content key reader missing found
    return make value

/-- Adds a field that must be present. -/
def required (record : Record (α → β)) (key : String) (reader : Reader α) : Record β :=
  record.withField key reader .refused (.error (.mismatched ("a field " ++ key)))

/-- Adds a field that may be null, and may be absent from an object. -/
def nullable (record : Record (Option α → β)) (key : String) (reader : Reader α) : Record β :=
  record.withField key reader.optional .null (.ok none)

/-- Adds a field with a default. -/
def defaulted (record : Record (α → β)) (key : String) (reader : Reader α) (value : α) :
    Record β :=
  record.withField key reader .defaulted (.ok value)

/-- Collects the fields of an object in the order of the text: a field's content is checked where
it stands, a field that stands twice is refused before its second content is looked at, and
content of unknown fields must only be well formed. -/
def collect (parts : List RecordField) (ending : Draft.Ending) (found : Found) :
    List (String × Draft) → Except Flaw Found
  | [] => match ending with
    | .closed => .ok found
    | .cut => .error .malformed
  | (key, draft) :: rest =>
    match parts.find? fun part => part.key == key with
    | none => if draft.isWhole then collect parts ending found rest else .error .malformed
    | some part => do
      if found.any fun entry => entry.1 == key then throw (.mismatched "each field once")
      part.check draft
      collect parts ending ((key, draft) :: found) rest

/-- Lines the items of an array up with the fields. -/
def align (ending : Draft.Ending) : List RecordField → List Draft → Except Flaw Found
  | [], [] => match ending with
    | .closed => .ok []
    | .cut => .error .malformed
  | [], _ :: _ => .error .malformed
  | part :: parts, [] => match ending with
    | .cut => .error .malformed
    | .closed =>
      if (part :: parts).all fun p => p.absent == .defaulted then .ok []
      else .error (.mismatched "more items")
  | part :: parts, draft :: rest => do
    part.check draft
    let found ← align ending parts rest
    return (part.key, draft) :: found

/-- Reads a record from an object or an array. -/
def read (record : Record α) : Reader α
  | .fields entries ending => do record.build (← collect record.parts ending [] entries)
  | .array items ending => do record.build (← align ending record.parts items)
  | .unfit | .broken => .error .malformed
  | _ => .error (.mismatched "an object")

end Record

/-- Reads a value of a complete JSON value. -/
def Json.decode (reader : Reader α) (value : Json) : Except Flaw α :=
  reader (Draft.ofJson value)

end StorageFleet
