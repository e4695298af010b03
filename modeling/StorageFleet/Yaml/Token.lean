import StorageFleet.Yaml.Scalar
import StorageFleet.Yaml.Tag

/-!
# The tokens of a YAML text

`Token.ofText?` cuts a text into tokens.  Indentation becomes tokens of its own: one where a block
begins, one where it ends.

A key needs no mark in front of it, so that something was a key is only known at the colon behind
it.  Each place where a key may begin is therefore noted as a candidate; a colon on the same line
makes it a key after the fact.
-/

namespace StorageFleet.Yaml

/-- A token. -/
inductive Token where
  | directive (directive : Directive)
  | documentStart
  | documentEnd
  | blockSequence
  | blockMapping
  | blockEnd
  | flowSequence
  | flowSequenceEnd
  | flowMapping
  | flowMappingEnd
  | entry
  | flowEntry
  | key
  | value
  | alias (name : String)
  | anchor (name : String)
  | tag (tag : Tag)
  | scalar (style : Style) (text : String)
  deriving Repr, DecidableEq, Inhabited

/-- A place where a key may have begun. -/
structure KeyCandidate where
  /-- The number of tokens before it. -/
  position : Nat
  line : Nat
  column : Nat
  offset : Nat
  /-- Whether only a key can stand there. -/
  required : Bool
  deriving Repr, DecidableEq, Inhabited

/-- How far a text has been cut into tokens. -/
structure Scan where
  cursor : Cursor
  /-- The tokens so far, the last one first. -/
  tokens : List Token := []
  /-- The indentation of the innermost block, minus one outside of blocks. -/
  indent : Int := -1
  /-- The indentations of the blocks around it. -/
  outer : List Int := []
  /-- The candidate of the innermost brackets, or of the block outside of them. -/
  candidate : Option KeyCandidate := none
  /-- The candidates around the open brackets; there is one for each. -/
  around : List (Option KeyCandidate) := []
  /-- Whether a key may begin here. -/
  keyAllowed : Bool := true

namespace Scan

/-- Whether this is inside brackets. -/
def inFlow (scan : Scan) : Bool :=
  !scan.around.isEmpty

/-- Adds a token. -/
def push (scan : Scan) (token : Token) : Scan :=
  { scan with tokens := token :: scan.tokens }

/-- Puts a token at a position. -/
def insertAt (scan : Scan) (position : Nat) (token : Token) : Scan :=
  let behind := scan.tokens.length - position
  { scan with tokens := scan.tokens.take behind ++ token :: scan.tokens.drop behind }

/-- The place of the cursor as a column. -/
def column (scan : Scan) : Int :=
  scan.cursor.column

/-! ## Blocks -/

/-- Opens a block at a column, if that is further in; its token goes to `position`, or to the end.
-/
def openBlock (scan : Scan) (column : Nat) (position : Option Nat) (token : Token) : Scan :=
  if scan.inFlow || (column : Int) ≤ scan.indent then scan
  else
    let scan := { scan with outer := scan.indent :: scan.outer, indent := column }
    match position with
    | some position => scan.insertAt position token
    | none => scan.push token

/-- Ends the blocks that are further in than `column`, given the blocks around. -/
def closeBlocksTo (column : Int) : List Int → Scan → Scan
  | [], scan => scan
  | outer :: rest, scan =>
    if scan.indent ≤ column then scan
    else closeBlocksTo column rest { scan.push .blockEnd with indent := outer, outer := rest }

/-- Ends the blocks that are further in than `column`; inside brackets there are none. -/
def closeBlocks (scan : Scan) (column : Int) : Scan :=
  if scan.inFlow then scan else closeBlocksTo column scan.outer scan

/-! ## Candidates -/

/-- Gives a candidate up; `none` if it was required. -/
def giveUp : Option KeyCandidate → Option (Option KeyCandidate)
  | some candidate => if candidate.required then none else some none
  | none => some none

/-- Gives up the innermost candidate. -/
def dropCandidate (scan : Scan) : Option Scan := do
  return { scan with candidate := ← giveUp scan.candidate }

/-- Notes that a key may begin here, if it may. -/
def noteCandidate (scan : Scan) : Option Scan :=
  if scan.keyAllowed then do
    let scan ← scan.dropCandidate
    return { scan with candidate := some {
      position := scan.tokens.length
      line := scan.cursor.line
      column := scan.cursor.column
      offset := scan.cursor.offset
      required := !scan.inFlow && scan.indent == scan.column } }
  else some scan

/-- How far behind the beginning of a key its colon may stand. -/
def maxKeyLength : Nat := 1024

/-- Gives a candidate up if the colon can no longer come. -/
def refresh (cursor : Cursor) : Option KeyCandidate → Option (Option KeyCandidate)
  | some candidate =>
    if candidate.line < cursor.line || candidate.offset + maxKeyLength < cursor.offset then
      giveUp (some candidate)
    else some (some candidate)
  | none => some none

/-- Gives up all candidates whose colon can no longer come. -/
def refreshCandidates (scan : Scan) : Option Scan := do
  return { scan with
    candidate := ← refresh scan.cursor scan.candidate
    around := ← scan.around.mapM (refresh scan.cursor) }

/-! ## Reading tokens -/

/-- Whether white space that is a tab separates tokens here. -/
def tabSeparates (scan : Scan) : Bool :=
  scan.inFlow || !scan.keyAllowed

/-- Passes white space, comments and line ends.  `fuel` bounds the number of lines. -/
def skipGaps : Nat → Scan → Scan
  | 0, scan => scan
  | fuel + 1, scan =>
    let cursor := (scan.cursor.dropWhile fun c =>
      c == ' ' || (scan.tabSeparates && c == '\t')).skipComment
    match cursor.rest with
    | c :: _ =>
      if isBreak c then
        skipGaps fuel { scan with
          cursor := cursor.skipBreak.2
          keyAllowed := scan.keyAllowed || !scan.inFlow }
      else { scan with cursor }
    | [] => { scan with cursor }

/-- Reads a directive. -/
def readDirective (scan : Scan) : Option Scan := do
  let scan ← (scan.closeBlocks (-1)).dropCandidate
  let (directive, cursor) ← Yaml.readDirective scan.cursor
  return { scan.push (.directive directive) with cursor, keyAllowed := false }

/-- Reads the start or the end of a document. -/
def readMarker (scan : Scan) (token : Token) : Option Scan := do
  let scan ← (scan.closeBlocks (-1)).dropCandidate
  return { scan.push token with cursor := scan.cursor.skipMany 3, keyAllowed := false }

/-- Reads an opening bracket. -/
def openFlow (scan : Scan) (token : Token) : Option Scan := do
  let scan ← scan.noteCandidate
  return { scan.push token with
    cursor := scan.cursor.skip
    around := scan.candidate :: scan.around
    candidate := none
    keyAllowed := true }

/-- Reads a closing bracket. -/
def closeFlow (scan : Scan) (token : Token) : Option Scan := do
  let scan ← scan.dropCandidate
  return { scan.push token with
    cursor := scan.cursor.skip
    around := scan.around.tail
    candidate := scan.around.headD none
    keyAllowed := false }

/-- Reads a comma inside brackets. -/
def readFlowEntry (scan : Scan) : Option Scan := do
  let scan ← scan.dropCandidate
  return { scan.push .flowEntry with cursor := scan.cursor.skip, keyAllowed := true }

/-- Opens the block that an entry or a key without a candidate belongs to; `none` if it may not
begin here. -/
def openHere (scan : Scan) (token : Token) : Option Scan :=
  if scan.inFlow then some scan
  else if scan.keyAllowed then some (scan.openBlock scan.cursor.column none token)
  else none

/-- Reads the dash of an entry. -/
def readEntry (scan : Scan) : Option Scan := do
  let scan ← (← scan.openHere .blockSequence).dropCandidate
  return { scan.push .entry with cursor := scan.cursor.skip, keyAllowed := true }

/-- Reads the question mark of a key. -/
def readKey (scan : Scan) : Option Scan := do
  let scan ← (← scan.openHere .blockMapping).dropCandidate
  return { scan.push .key with cursor := scan.cursor.skip, keyAllowed := !scan.inFlow }

/-- Reads the colon of a value; a candidate becomes a key. -/
def readValue (scan : Scan) : Option Scan :=
  match scan.candidate with
  | some candidate =>
    let scan := (scan.insertAt candidate.position .key).openBlock candidate.column
      (some candidate.position) .blockMapping
    some { scan.push .value with
      cursor := scan.cursor.skip, candidate := none, keyAllowed := false }
  | none => do
    let scan ← scan.openHere .blockMapping
    return { scan.push .value with cursor := scan.cursor.skip, keyAllowed := !scan.inFlow }

/-- Reads a reference to an anchor, or an anchor. -/
def readName (scan : Scan) (token : String → Token) : Option Scan := do
  let scan ← scan.noteCandidate
  let (name, cursor) ← readAnchor scan.cursor
  return { scan.push (token name) with cursor, keyAllowed := false }

/-- Reads a tag. -/
def readTag (scan : Scan) : Option Scan := do
  let scan ← scan.noteCandidate
  let (tag, cursor) ← Yaml.readTag scan.inFlow scan.cursor
  return { scan.push (.tag tag) with cursor, keyAllowed := false }

/-- Reads a block scalar. -/
def readBlock (scan : Scan) (folded : Bool) : Option Scan := do
  let scan ← scan.dropCandidate
  let (text, cursor) ← blockText folded scan.indent scan.cursor
  let style := if folded then Style.folded else .literal
  return { scan.push (.scalar style (String.ofList text)) with cursor, keyAllowed := true }

/-- Reads a quoted scalar. -/
def readQuoted (scan : Scan) (quote : Char) : Option Scan := do
  let scan ← scan.noteCandidate
  let (text, cursor) ← quotedText quote scan.cursor
  let style := if quote == '"' then Style.doubleQuoted else .singleQuoted
  return { scan.push (.scalar style (String.ofList text)) with cursor, keyAllowed := false }

/-- Reads a plain scalar. -/
def readPlain (scan : Scan) : Option Scan := do
  let scan ← scan.noteCandidate
  let plain ← plainText scan.inFlow (scan.indent + 1).toNat scan.cursor
  return { scan.push (.scalar .plain (String.ofList plain.text)) with
    cursor := plain.behind, keyAllowed := plain.newLine }

/-- Whether a plain scalar may begin with these characters. -/
def startsPlain (flow : Bool) (c : Char) (rest : List Char) : Bool :=
  if c == '-' then !(rest.head?.any isWhite)
  else if c == '?' || c == ':' then !flow && !isGap rest
  else !(isWhite c || isBreak c || ",[]\x7b\x7d#&*!|>'\"%@\x60".toList.contains c)

/-- Reads the token that begins with `c`. -/
def readToken (scan : Scan) (c : Char) (rest : List Char) : Option Scan :=
  let spaced := isGap rest
  if scan.cursor.column == 0 && c == '%' then scan.readDirective
  else if scan.cursor.isMarker '-' then scan.readMarker .documentStart
  else if scan.cursor.isMarker '.' then scan.readMarker .documentEnd
  else if c == '[' then scan.openFlow .flowSequence
  else if c == '{' then scan.openFlow .flowMapping
  else if c == ']' then scan.closeFlow .flowSequenceEnd
  else if c == '}' then scan.closeFlow .flowMappingEnd
  else if c == ',' then scan.readFlowEntry
  else if c == '-' && spaced then scan.readEntry
  else if c == '?' && (scan.inFlow || spaced) then scan.readKey
  else if c == ':' && (scan.inFlow || spaced) then scan.readValue
  else if c == '*' then scan.readName .alias
  else if c == '&' then scan.readName .anchor
  else if c == '!' then scan.readTag
  else if c == '|' && !scan.inFlow then scan.readBlock false
  else if c == '>' && !scan.inFlow then scan.readBlock true
  else if c == '\'' || c == '"' then scan.readQuoted c
  else if startsPlain scan.inFlow c rest then scan.readPlain
  else none

/-- Reads tokens up to the end of the text; `fuel` bounds their number. -/
def readAll : Nat → Scan → Option (List Token)
  | 0, _ => none
  | fuel + 1, scan => do
    let scan ← (skipGaps (scan.cursor.rest.length + 1) scan).refreshCandidates
    let scan := scan.closeBlocks scan.column
    match scan.cursor.rest with
    | [] =>
      let scan ← (scan.closeBlocks (-1)).dropCandidate
      return scan.tokens.reverse
    | c :: rest => readAll fuel (← scan.readToken c rest)

end Scan

/-- The tokens of a text; `none` if it holds a character that may not stand in it, or something
that no token begins with.  A byte order mark in front takes up a column. -/
def Token.ofText? (text : String) : Option (List Token) :=
  if text.toList.all isAllowed then
    let cursor : Cursor := { rest := text.toList }
    let marked := text.toList.head?.any fun c => c.toNat == 0xFEFF
    Scan.readAll (text.length + 1) { cursor := if marked then cursor.skip else cursor }
  else none

end StorageFleet.Yaml
