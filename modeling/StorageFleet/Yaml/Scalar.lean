import StorageFleet.Text.Percent
import StorageFleet.Yaml.Cursor

/-!
# The texts of scalars

A scalar is written plain, in single or double quotes, or as an indented block.  Where a plain or
quoted scalar goes over several lines, the line ends are folded: one becomes a space, and of several
all but the first are kept.  A block keeps its lines (`|`) or folds those that are not indented
further (`>`).

Every reader gives the text and the place behind it, or `none` if the scalar is malformed.
-/

namespace StorageFleet.Yaml

/-- How a scalar is written. -/
inductive Style where
  | plain
  | singleQuoted
  | doubleQuoted
  | literal
  | folded
  deriving Repr, DecidableEq, Inhabited

/-! ## Gaps between words -/

/-- White space and line ends between two words. -/
structure Gap where
  /-- The white space before the first line end. -/
  white : List Char := []
  /-- The first line end. -/
  first : Option (List Char) := none
  /-- The further line ends. -/
  further : List Char := []
  /-- Whether a tab stands where only spaces may indent. -/
  tabbed : Bool := false
  deriving Repr, DecidableEq, Inhabited

namespace Gap

/-- What line ends between two words stand for. -/
def fold (first further : List Char) : List Char :=
  if first = ['\n'] then if further.isEmpty then [' '] else further
  else first ++ further

/-- What a gap between two words stands for. -/
def text (gap : Gap) : List Char :=
  match gap.first with
  | none => gap.white
  | some first => fold first gap.further

/-- Reads a gap; on a new line a tab before column `indent` is noted.  `fuel` bounds the number of
characters. -/
def read (indent : Nat) : Nat → Gap → Cursor → Gap × Cursor
  | 0, gap, cursor => (gap, cursor)
  | fuel + 1, gap, cursor =>
    match cursor.rest with
    | [] => (gap, cursor)
    | c :: _ =>
      if isWhite c then
        match gap.first with
        | none => read indent fuel { gap with white := gap.white ++ [c] } cursor.skip
        | some _ =>
          let tabbed := gap.tabbed || (c == '\t' && cursor.column < indent)
          read indent fuel { gap with tabbed } cursor.skip
      else if isBreak c then
        let (lineEnd, cursor) := cursor.skipBreak
        match gap.first with
        | none => read indent fuel { gap with first := some lineEnd } cursor
        | some _ => read indent fuel { gap with further := gap.further ++ lineEnd } cursor
      else (gap, cursor)

end Gap

/-! ## Plain scalars -/

/-- Whether a character separates or encloses items inside brackets. -/
def isFlowMark (c : Char) : Bool :=
  c == ',' || c == '[' || c == ']' || c == '{' || c == '}'

/-- Reads the characters of a plain scalar up to a gap or a mark that ends it; `none` for a colon
inside brackets with a mark behind it. -/
def plainWord (flow : Bool) : List Char → Option (List Char)
  | [] => some []
  | c :: rest =>
    if isWhite c || isBreak c then some []
    else if flow && c == ':' && (rest.head?.any fun next => isFlowMark next || next == '?') then
      none
    else if c == ':' && isGap rest then some []
    else if flow && isFlowMark c then some []
    else (plainWord flow rest).map (c :: ·)

/-- A plain scalar, and whether a new line begins behind it. -/
structure PlainText where
  text : List Char
  newLine : Bool
  behind : Cursor

/-- Reads the words of a plain scalar; `gap` is what stands before the next one.  `fuel` bounds the
number of words. -/
def plainWords (flow : Bool) (indent : Nat) : Nat → List Char → Gap → Cursor → Option PlainText
  | 0, text, gap, cursor => some ⟨text, gap.first.isSome, cursor⟩
  | fuel + 1, text, gap, cursor =>
    if cursor.isDocumentMarker || cursor.rest.head? == some '#' then
      some ⟨text, gap.first.isSome, cursor⟩
    else do
      let word ← plainWord flow cursor.rest
      if word.isEmpty then return ⟨text, gap.first.isSome, cursor⟩
      let text := text ++ gap.text ++ word
      let cursor := cursor.skipMany word.length
      if cursor.rest.isEmpty || !isGap cursor.rest then return ⟨text, false, cursor⟩
      let (gap, cursor) := Gap.read indent cursor.rest.length {} cursor
      if gap.tabbed then none
      if !flow && cursor.column < indent then return ⟨text, gap.first.isSome, cursor⟩
      plainWords flow indent fuel text gap cursor

/-- Reads a plain scalar, inside brackets or not, whose further lines reach column `indent`. -/
def plainText (flow : Bool) (indent : Nat) (cursor : Cursor) : Option PlainText :=
  plainWords flow indent (cursor.rest.length + 1) [] {} cursor

/-! ## Quoted scalars -/

/-- The character that a short escape stands for. -/
def shortEscape? (c : Char) : Option Char :=
  match c with
  | '0' => some (Char.ofNat 0)
  | 'a' => some '\x07'
  | 'b' => some '\x08'
  | 't' | '\t' => some '\t'
  | 'n' => some '\n'
  | 'v' => some '\x0b'
  | 'f' => some '\x0c'
  | 'r' => some '\r'
  | 'e' => some '\x1b'
  | ' ' => some ' '
  | '"' => some '"'
  | '/' => some '/'
  | '\\' => some '\\'
  | 'N' => some (Char.ofNat 0x85)
  | '_' => some (Char.ofNat 0xA0)
  | 'L' => some (Char.ofNat 0x2028)
  | 'P' => some (Char.ofNat 0x2029)
  | _ => none

/-- How many digits an escape by number has. -/
def escapeDigits (c : Char) : Nat :=
  match c with
  | 'x' => 2
  | 'u' => 4
  | 'U' => 8
  | _ => 0

/-- The number that digits in base sixteen stand for. -/
def hexNumber : Nat → List Char → Option Nat
  | value, [] => some value
  | value, c :: rest => do hexNumber (value * 16 + (← Text.hexValue? c)) rest

/-- The character of a number, unless it is one half of a pair or too large. -/
def charOf? (n : Nat) : Option Char :=
  if h : n.isValidChar then some (Char.ofNatAux n h) else none

/-- Reads an escape after its backslash: the character, and how many characters it took. -/
def readEscape : List Char → Option (Char × Nat)
  | [] => none
  | c :: rest =>
    match shortEscape? c with
    | some char => some (char, 1)
    | none =>
      let width := escapeDigits c
      let digits := rest.take width
      if width = 0 || digits.length < width then none
      else do return (← charOf? (← hexNumber 0 digits), width + 1)

/-- What stopped a run of quoted characters. -/
inductive QuoteStop where
  /-- A gap, the closing quote, or the end of the text. -/
  | mark
  /-- A backslash at the end of a line. -/
  | joined
  deriving Repr, DecidableEq

/-- Reads quoted characters up to a gap, the closing quote or a joined line.  `fuel` bounds the
number of characters. -/
def quotedRun (quote : Char) : Nat → List Char → Cursor → Option (List Char × QuoteStop × Cursor)
  | 0, text, cursor => some (text, .mark, cursor)
  | fuel + 1, text, cursor =>
    match cursor.rest with
    | [] => some (text, .mark, cursor)
    | c :: rest =>
      if isWhite c || isBreak c then some (text, .mark, cursor)
      else if c == quote then
        if quote == '\'' && rest.head? == some '\'' then
          quotedRun quote fuel (text ++ ['\'']) (cursor.skipMany 2)
        else some (text, .mark, cursor)
      else if quote == '"' && c == '\\' then
        if rest.head?.any isBreak then some (text, .joined, cursor.skip.skipBreak.2)
        else do
          let (char, width) ← readEscape rest
          quotedRun quote fuel (text ++ [char]) (cursor.skipMany (width + 1))
      else quotedRun quote fuel (text ++ [c]) cursor.skip

/-- Reads the runs and gaps of a quoted scalar up to its closing quote.  `fuel` bounds the number of
runs. -/
def quotedRuns (quote : Char) : Nat → List Char → Cursor → Option (List Char × Cursor)
  | 0, _, _ => none
  | fuel + 1, text, cursor =>
    if cursor.isDocumentMarker || cursor.rest.isEmpty then none
    else do
      let (run, stop, cursor) ← quotedRun quote (cursor.rest.length + 1) [] cursor
      let text := text ++ run
      if cursor.rest.head? == some quote then return (text, cursor.skip)
      let start : Gap := if stop = .joined then { first := some [] } else {}
      let (gap, cursor) := Gap.read 0 cursor.rest.length start cursor
      quotedRuns quote fuel (text ++ gap.text) cursor

/-- Reads a quoted scalar, from its opening quote on. -/
def quotedText (quote : Char) (cursor : Cursor) : Option (List Char × Cursor) :=
  quotedRuns quote (cursor.rest.length + 1) [] cursor.skip

/-! ## Block scalars -/

/-- What becomes of the line ends at the end of a block. -/
inductive Chomping where
  | strip
  | clip
  | keep
  deriving Repr, DecidableEq, Inhabited

/-- Reads a mark of chomping. -/
def readChomping (cursor : Cursor) : Option Chomping × Cursor :=
  match cursor.rest with
  | '+' :: _ => (some .keep, cursor.skip)
  | '-' :: _ => (some .strip, cursor.skip)
  | _ => (none, cursor)

/-- Reads a mark of indentation: a digit other than zero. -/
def readIncrement (cursor : Cursor) : Option (Option Nat × Cursor) :=
  match cursor.rest with
  | c :: _ =>
    if c == '0' then none
    else if c.isDigit then some (some (c.toNat - '0'.toNat), cursor.skip)
    else some (none, cursor)
  | [] => some (none, cursor)

/-- Reads the marks of a block, in either order. -/
def readBlockMarks (cursor : Cursor) : Option (Chomping × Option Nat × Cursor) :=
  match readChomping cursor with
  | (some chomping, cursor) => do
    let (increment, cursor) ← readIncrement cursor
    return (chomping, increment, cursor)
  | (none, cursor) => do
    let (increment, cursor) ← readIncrement cursor
    match increment with
    | none => return (.clip, none, cursor)
    | some _ =>
      let (chomping, cursor) := readChomping cursor
      return (chomping.getD .clip, increment, cursor)

/-- Empty lines before a line of a block: their line ends, the widest indentation, and the place
where the line begins.  `indent` is where lines begin, if that is known; a tab before it is
refused. -/
def blockBreaks (indent : Option Nat) : Nat → List Char → Nat → Cursor →
    Option (List Char × Nat × Cursor)
  | 0, _, _, _ => none
  | fuel + 1, breaks, widest, cursor =>
    let width := (cursor.rest.takeWhile (· == ' ')).length
    let width := match indent with
      | some indent => min width (indent - cursor.column)
      | none => width
    let cursor := cursor.skipMany width
    let widest := max widest cursor.column
    match cursor.rest with
    | [] => some (breaks, widest, cursor)
    | c :: _ =>
      if c == '\t' && indent.all (cursor.column < ·) then none
      else if isBreak c then
        let (lineEnd, cursor) := cursor.skipBreak
        blockBreaks indent fuel (breaks ++ lineEnd) widest cursor
      else some (breaks, widest, cursor)

/-- Where the lines of a block begin: as marked, or at its widest leading indentation, but beyond
the indentation `outer` of what the block belongs to. -/
def blockIndent (outer : Int) (widest : Nat) : Nat :=
  max (max widest (outer + 1).toNat) 1

/-- The text of a block so far. -/
structure BlockState where
  text : List Char := []
  /-- The end of the last line. -/
  lineEnd : List Char := []
  /-- The ends of the empty lines behind it. -/
  empties : List Char := []
  /-- Whether the last line began with white space. -/
  indented : Bool := false

/-- What stands between the last line of a block and the next. -/
def blockJoin (folded : Bool) (state : BlockState) (indented : Bool) : List Char :=
  if folded && state.lineEnd == ['\n'] && !state.indented && !indented then
    if state.empties.isEmpty then [' '] else state.empties
  else state.lineEnd ++ state.empties

/-- Reads the lines of a block.  `fuel` bounds their number. -/
def blockLines (folded : Bool) (indent : Nat) : Nat → BlockState → Cursor →
    Option (BlockState × Cursor)
  | 0, state, cursor => some (state, cursor)
  | fuel + 1, state, cursor =>
    if cursor.column ≠ indent || cursor.rest.isEmpty then some (state, cursor)
    else
      let indented := cursor.rest.head?.any isWhite
      let (line, cursor) := cursor.takeWhile fun c => !isBreak c
      let text := state.text ++ blockJoin folded state indented ++ line
      let (lineEnd, cursor) := cursor.skipBreak
      match blockBreaks (some indent) (cursor.rest.length + 1) [] 0 cursor with
      | none => none
      | some (empties, _, cursor) =>
        blockLines folded indent fuel { text, lineEnd, empties, indented } cursor

/-- Cuts or keeps the line ends at the end of a block. -/
def chomp (chomping : Chomping) (state : BlockState) : List Char :=
  match chomping with
  | .strip => state.text
  | .clip => state.text ++ state.lineEnd
  | .keep => state.text ++ state.lineEnd ++ state.empties

/-- Reads a block from its mark on; `outer` is the indentation of what it belongs to, minus one at
the top. -/
def blockText (folded : Bool) (outer : Int) (cursor : Cursor) : Option (List Char × Cursor) := do
  let (chomping, increment, cursor) ← readBlockMarks cursor.skip
  let cursor := (cursor.dropWhile isWhite).skipComment
  if !isLineEnd cursor.rest then none
  let cursor := cursor.skipBreak.2
  let marked := increment.map fun increment => (max outer 0).toNat + increment
  let (empties, widest, cursor) ←
    blockBreaks marked (cursor.rest.length + 1) [] 0 cursor
  let indent := marked.getD (blockIndent outer widest)
  let (state, cursor) ←
    blockLines folded indent (cursor.rest.length + 1) { empties } cursor
  return (chomp chomping state, cursor)

end StorageFleet.Yaml
