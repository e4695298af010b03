import StorageFleet.Json.Basic

/-!
# Writing JSON

The written form is compact: no spaces, keys in ascending order, and only quotes, backslashes and
control characters escaped.
-/

namespace StorageFleet.Json

/-- The number in decimal. -/
def Number.render : Number → String
  | .whole value => toString value
  | .real value => value.render

/-- How a character of a string is written. -/
def escapedChar (c : Char) : List Char :=
  if c = '"' then ['\\', '"']
  else if c = '\\' then ['\\', '\\']
  else if c = '\n' then ['\\', 'n']
  else if c = '\r' then ['\\', 'r']
  else if c = '\t' then ['\\', 't']
  else if c = Char.ofNat 8 then ['\\', 'b']
  else if c = Char.ofNat 12 then ['\\', 'f']
  else if c.toNat < 0x20 then
    ['\\', 'u', '0', '0', Nat.digitChar (c.toNat / 16), Nat.digitChar (c.toNat % 16)]
  else [c]

/-- A string in quotes. -/
def renderString (text : String) : List Char :=
  '"' :: text.toList.flatMap escapedChar ++ ['"']

mutual

/-- The characters of a value. -/
def renderChars : Json → List Char
  | .null => ['n', 'u', 'l', 'l']
  | .bool true => ['t', 'r', 'u', 'e']
  | .bool false => ['f', 'a', 'l', 's', 'e']
  | .number value => value.render.toList
  | .string text => renderString text
  | .array items => '[' :: renderItems items ++ [']']
  | .fields entries => '\x7b' :: renderEntries entries ++ ['\x7d']

/-- The items of an array with commas between them. -/
def renderItems : List Json → List Char
  | [] => []
  | [item] => renderChars item
  | item :: next :: rest => renderChars item ++ ',' :: renderItems (next :: rest)

/-- The fields of an object with commas between them. -/
def renderEntries : List (String × Json) → List Char
  | [] => []
  | [(key, value)] => renderString key ++ ':' :: renderChars value
  | (key, value) :: next :: rest =>
    renderString key ++ ':' :: renderChars value ++ ',' :: renderEntries (next :: rest)

end

/-- The text of a value. -/
def render (value : Json) : String :=
  String.ofList (renderChars value)

end StorageFleet.Json
