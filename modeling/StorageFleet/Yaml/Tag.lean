import StorageFleet.Text.Percent
import StorageFleet.Yaml.Cursor

/-!
# Tags, anchors and directives

A tag is written as a handle and a suffix; a `%TAG` directive says what a handle stands for.
`Tag.resolve` puts the two together.
-/

namespace StorageFleet.Yaml

/-- A tag as it is written. -/
structure Tag where
  handle : String
  suffix : String
  deriving Repr, DecidableEq, Inhabited

/-- A line that is meant for the reader of a document. -/
inductive Directive where
  | version (major minor : Nat)
  | tag (handle start : String)
  deriving Repr, DecidableEq, Inhabited

/-- What the handles of a document stand for. -/
abbrev Handles := List (String × String)

/-- The handles that need no directive. -/
def Handles.standard : Handles :=
  [("!", "!"), ("!!", "tag:yaml.org,2002:")]

namespace Tag

/-- The tag of null values. -/
def null : String := "tag:yaml.org,2002:null"

/-- The tag of truth values. -/
def bool : String := "tag:yaml.org,2002:bool"

/-- The full tag; `none` if nothing says what the handle stands for. -/
def resolve (handles : Handles) (tag : Tag) : Option String :=
  if tag.handle.isEmpty then some tag.suffix
  else (handles.lookup tag.handle).map (· ++ tag.suffix)

/-- The name in a tag that is local to the application. -/
def localName? (tag : String) : Option String :=
  match tag.toList with
  | ['!'] => some "!"
  | '!' :: name => some (String.ofList name)
  | _ => none

end Tag

/-- Whether a character may stand in a tag; `wide` also allows marks that enclose items. -/
def isTagChar (wide : Bool) (c : Char) : Bool :=
  isNameChar c || ";/?:@&=+$.!~*'()".toList.contains c || (wide && ",[]".toList.contains c)

/-- The bytes of escapes `%XX` at the start of a text, up to `count`. -/
def escapedBytes : Nat → List Char → Option (List UInt8)
  | 0, _ => some []
  | count + 1, '%' :: a :: b :: rest => do
    let high ← Text.hexValue? a
    let low ← Text.hexValue? b
    return UInt8.ofNat (high * 16 + low) :: (← escapedBytes count rest)
  | _ + 1, _ => none

/-- How many bytes a character takes whose first byte this is. -/
def byteCount (first : UInt8) : Option Nat :=
  if first.toNat < 0x80 then some 1
  else if first.toNat / 32 = 6 then some 2
  else if first.toNat / 16 = 14 then some 3
  else if first.toNat / 8 = 30 then some 4
  else none

/-- The character of the escapes at the start of a text, and how many there are. -/
def escapedChar (cs : List Char) : Option (Char × Nat) := do
  let first ← (← escapedBytes 1 cs).head?
  let count ← byteCount first
  let text ← Text.decodeUtf8? (← escapedBytes count cs)
  return (← text.toList.head?, count)

/-- Reads the characters of a tag.  `fuel` bounds their number. -/
def tagChars (wide : Bool) : Nat → List Char → Cursor → Option (List Char × Cursor)
  | 0, text, cursor => some (text, cursor)
  | fuel + 1, text, cursor =>
    match cursor.rest with
    | '%' :: _ => do
      let (c, count) ← escapedChar cursor.rest
      tagChars wide fuel (text ++ [c]) (cursor.skipMany (3 * count))
    | c :: _ =>
      if isTagChar wide c then tagChars wide fuel (text ++ [c]) cursor.skip
      else some (text, cursor)
    | [] => some (text, cursor)

/-- Reads a tag's suffix that begins with `start`; with `required` it must not be empty. -/
def tagSuffix (wide required : Bool) (start : List Char) (cursor : Cursor) :
    Option (List Char × Cursor) := do
  let (text, cursor) ← tagChars wide (cursor.rest.length + 1) start cursor
  if required && text.isEmpty then none
  return (text, cursor)

/-- Reads a handle: an exclamation mark, and a name that another one may close. -/
def tagHandle (cursor : Cursor) : Option (List Char × Cursor) :=
  match cursor.rest with
  | '!' :: _ =>
    let (name, cursor) := cursor.skip.takeWhile isNameChar
    match cursor.rest with
    | '!' :: _ => some ('!' :: name ++ ['!'], cursor.skip)
    | _ => some ('!' :: name, cursor)
  | _ => none

/-- Whether a handle is closed by an exclamation mark of its own. -/
def isClosedHandle (handle : List Char) : Bool :=
  2 ≤ handle.length && handle.getLast? == some '!'

/-- Reads a tag that is written in full between angle brackets. -/
def verbatimTag (cursor : Cursor) : Option (Tag × Cursor) := do
  let (suffix, cursor) ← tagSuffix true true [] (cursor.skipMany 2)
  match cursor.rest with
  | '>' :: _ => some (⟨"", String.ofList suffix⟩, cursor.skip)
  | _ => none

/-- Reads a tag of a handle and a suffix; an exclamation mark alone is a tag of its own. -/
def shorthandTag (cursor : Cursor) : Option (Tag × Cursor) := do
  let (handle, behind) ← tagHandle cursor
  if isClosedHandle handle then
    let (suffix, cursor) ← tagSuffix false true [] behind
    return (⟨String.ofList handle, String.ofList suffix⟩, cursor)
  else
    let (suffix, cursor) ← tagSuffix false false handle.tail behind
    if suffix.isEmpty then return (⟨"", "!"⟩, cursor)
    return (⟨"!", String.ofList suffix⟩, cursor)

/-- Reads a tag; a gap must follow, or a comma inside brackets. -/
def readTag (flow : Bool) (cursor : Cursor) : Option (Tag × Cursor) := do
  let (tag, cursor) ← match cursor.rest with
    | _ :: '<' :: _ => verbatimTag cursor
    | _ => shorthandTag cursor
  if isGap cursor.rest || (flow && cursor.rest.head? == some ',') then return (tag, cursor)
  none

/-- Reads the name of an anchor, after its mark. -/
def readAnchor (cursor : Cursor) : Option (String × Cursor) :=
  let (name, cursor) := cursor.skip.takeWhile isNameChar
  if name.isEmpty then none
  else if isGap cursor.rest || cursor.rest.head?.any ("?:,]\x7d%@\x60".toList.contains ·) then
    some (String.ofList name, cursor)
  else none

/-! ## Directives -/

/-- Reads a number of at most nine digits. -/
def versionNumber (cursor : Cursor) : Option (Nat × Cursor) := do
  let (digits, cursor) := cursor.takeWhile Char.isDigit
  if digits.isEmpty || 9 < digits.length then none
  return (← (String.ofList digits).toNat?, cursor)

/-- Reads the content of a `%YAML` directive. -/
def versionDirective (cursor : Cursor) : Option (Directive × Cursor) := do
  let (major, cursor) ← versionNumber (cursor.dropWhile isWhite)
  match cursor.rest with
  | '.' :: _ =>
    let (minor, cursor) ← versionNumber cursor.skip
    return (.version major minor, cursor)
  | _ => none

/-- Reads the content of a `%TAG` directive. -/
def tagDirective (cursor : Cursor) : Option (Directive × Cursor) := do
  let (handle, cursor) ← tagHandle (cursor.dropWhile isWhite)
  if handle ≠ ['!'] && !isClosedHandle handle then none
  if !(cursor.rest.head?.any isWhite) then none
  let (start, cursor) ← tagSuffix true true [] (cursor.dropWhile isWhite)
  if !isGap cursor.rest then none
  return (.tag (String.ofList handle) (String.ofList start), cursor)

/-- Reads a directive, from its mark to the end of its line. -/
def readDirective (cursor : Cursor) : Option (Directive × Cursor) := do
  let (name, cursor) := cursor.skip.takeWhile isNameChar
  if name.isEmpty || !isGap cursor.rest then none
  let (directive, cursor) ←
    if name == "YAML".toList then versionDirective cursor
    else if name == "TAG".toList then tagDirective cursor
    else none
  let cursor := (cursor.dropWhile isWhite).skipComment
  if !isLineEnd cursor.rest then none
  return (directive, cursor.skipBreak.2)

end StorageFleet.Yaml
