/-!
# A place in a YAML text

A `Cursor` is what is left of a text together with where it stands.  Five characters end a line;
a carriage return and a line feed together end one line.
-/

namespace StorageFleet.Yaml

/-- What is left of a text, and where it stands. -/
structure Cursor where
  rest : List Char
  line : Nat := 0
  column : Nat := 0
  /-- How many characters were passed. -/
  offset : Nat := 0
  deriving Repr, DecidableEq, Inhabited

/-- Whether a YAML text may hold the character. -/
def isAllowed (c : Char) : Bool :=
  let n := c.toNat
  n == 0x09 || n == 0x0A || n == 0x0D || (0x20 ≤ n && n ≤ 0x7E) || n == 0x85 ||
    (0xA0 ≤ n && n ≤ 0xD7FF) || (0xE000 ≤ n && n ≤ 0xFFFD) || 0x10000 ≤ n

/-- Whether a character ends a line. -/
def isBreak (c : Char) : Bool :=
  let n := c.toNat
  n == 0x0A || n == 0x0D || n == 0x85 || n == 0x2028 || n == 0x2029

/-- Whether a character is a space or a tab. -/
def isWhite (c : Char) : Bool :=
  c == ' ' || c == '\t'

/-- Whether a character may stand in the name of an anchor. -/
def isNameChar (c : Char) : Bool :=
  c.isAlphanum || c == '_' || c == '-'

/-- Whether a text begins with white space or a line end, or is at its end. -/
def isGap : List Char → Bool
  | [] => true
  | c :: _ => isWhite c || isBreak c

/-- Whether a text begins with a line end, or is at its end. -/
def isLineEnd : List Char → Bool
  | [] => true
  | c :: _ => isBreak c

namespace Cursor

/-- Passes one character that does not end a line. -/
def skip (cursor : Cursor) : Cursor :=
  { cursor with
    rest := cursor.rest.tail
    column := cursor.column + 1
    offset := cursor.offset + 1 }

/-- Passes several characters that do not end a line. -/
def skipMany (cursor : Cursor) (count : Nat) : Cursor :=
  { cursor with
    rest := cursor.rest.drop count
    column := cursor.column + count
    offset := cursor.offset + count }

/-- Passes the end of a line, and gives what it stands for in text. -/
def skipBreak (cursor : Cursor) : List Char × Cursor :=
  let next (width : Nat) : Cursor :=
    { rest := cursor.rest.drop width, line := cursor.line + 1, column := 0
      offset := cursor.offset + width }
  match cursor.rest with
  | '\r' :: '\n' :: _ => (['\n'], next 2)
  | c :: _ => if isBreak c then (if 0x2028 ≤ c.toNat then [c] else ['\n'], next 1) else ([], cursor)
  | [] => ([], cursor)

/-- Passes the characters that satisfy `p`, which end no line, and gives them. -/
def takeWhile (cursor : Cursor) (p : Char → Bool) : List Char × Cursor :=
  let taken := cursor.rest.takeWhile p
  (taken, cursor.skipMany taken.length)

/-- Passes the characters that satisfy `p`, which end no line. -/
def dropWhile (cursor : Cursor) (p : Char → Bool) : Cursor :=
  (cursor.takeWhile p).2

/-- Passes a comment, if there is one. -/
def skipComment (cursor : Cursor) : Cursor :=
  match cursor.rest with
  | '#' :: _ => cursor.dropWhile fun c => !isBreak c
  | _ => cursor

/-- Whether a line begins here with three times `mark` and a gap. -/
def isMarker (cursor : Cursor) (mark : Char) : Bool :=
  cursor.column == 0 && match cursor.rest with
    | a :: b :: c :: rest => a == mark && b == mark && c == mark && isGap rest
    | _ => false

/-- Whether a line begins here that starts or ends a document. -/
def isDocumentMarker (cursor : Cursor) : Bool :=
  cursor.isMarker '-' || cursor.isMarker '.'

end Cursor
end StorageFleet.Yaml
