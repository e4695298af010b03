import StorageFleet.Fault
import StorageFleet.Json.Decode

/-!
# Pages of a listing

A listing is handed out in pages.  The token of a page is the key of its last entry; the next page
starts behind the first entry with that key.  The last page has no token.
-/

namespace StorageFleet

/-- One page of a listing. -/
structure Page (α : Type) where
  entries : List α
  /-- Where the next page starts, if there is one. -/
  nextToken : Option String
  deriving Repr, DecidableEq, Inhabited

namespace Page

/-- A page with nothing on it and nothing behind it. -/
def empty : Page α :=
  ⟨[], none⟩

/-- What follows the first item with the key `token`, if there is one. -/
def behind (key : α → String) (token : String) : List α → Option (List α)
  | [] => none
  | item :: rest => if key item = token then some rest else behind key token rest

/-- The items that a token leaves to list; no token or an empty one leaves all of them. -/
def remaining (key : α → String) (token : Option String) (items : List α) :
    Except Fault (List α) :=
  match token.filter fun token => !token.isEmpty with
  | none => .ok items
  | some token => match behind key token items with
    | some rest => .ok rest
    | none => .error (.invalidStartingToken token)

/-- The first page of a list, of at most `limit` items; a limit of zero is none. -/
def first (key : α → String) (limit : Nat) (items : List α) : Page α :=
  if limit = 0 ∨ items.length ≤ limit then ⟨items, none⟩
  else
    let entries := items.take limit
    ⟨entries, entries.getLast?.map key⟩

/-- The page that a token leads to. -/
def cut (key : α → String) (limit : Nat) (token : Option String) (items : List α) :
    Except Fault (Page α) :=
  (remaining key token items).map (first key limit)

/-- How a page is read. -/
def record (reader : Reader α) : Record (Page α) :=
  Record.of Page.mk
    |>.required "entries" (Reader.list reader)
    |>.nullable "nextToken" Reader.string

/-- The JSON form; the token is only written if there is one. -/
def toJson (entryToJson : α → Json) (page : Page α) : Json :=
  let token := match page.nextToken with
    | some token => [("nextToken", Json.string token)]
    | none => []
  .object (("entries", .array (page.entries.map entryToJson)) :: token)

end Page
end StorageFleet
