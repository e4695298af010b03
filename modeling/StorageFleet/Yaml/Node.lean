import StorageFleet.Yaml.Token

/-!
# YAML documents

A document is a `Node`: a scalar, a sequence or a mapping, each possibly with a tag.  An alias is
replaced by the node that it refers to; inside that node itself there is nothing yet to replace it
by, which leaves a `knot`.

`Node.ofText?` reads a text that holds exactly one document.
-/

namespace StorageFleet.Yaml

/-- A document or a part of one. -/
inductive Node where
  | scalar (tag : Option String) (style : Style) (text : String)
  | sequence (tag : Option String) (items : List Node)
  | mapping (tag : Option String) (entries : List (Node × Node))
  /-- A reference to a node from within. -/
  | knot
  deriving Repr, Inhabited

/-- A node that can be referred to; it is absent while it is being read. -/
structure Anchored where
  name : String
  id : Nat
  node : Option Node

/-- How far the tokens have been read. -/
structure Parse where
  tokens : List Token
  /-- What can be referred to, the latest first. -/
  anchored : List Anchored := []
  handles : Handles := .standard

namespace Parse

/-- The next token. -/
def peek (parse : Parse) : Option Token :=
  parse.tokens.head?

/-- Passes a token. -/
def skip (parse : Parse) : Parse :=
  { parse with tokens := parse.tokens.tail }

/-- Whether the next token is one of these. -/
def isAt (parse : Parse) (tokens : List Token) : Bool :=
  parse.peek.any tokens.contains

/-- Passes a token that must come next. -/
def expect (parse : Parse) (token : Token) : Option Parse :=
  if parse.peek == some token then some parse.skip else none

/-- Makes a name refer to the node that begins here. -/
def openAnchor (parse : Parse) (name : String) : Nat × Parse :=
  let id := parse.anchored.length
  (id, { parse with anchored := ⟨name, id, none⟩ :: parse.anchored })

/-- Fills in a node that can be referred to. -/
def closeAnchor (parse : Parse) (id : Nat) (node : Node) : Parse :=
  { parse with anchored := parse.anchored.map fun anchored =>
      if anchored.id = id then { anchored with node := some node } else anchored }

/-- The node that a name refers to. -/
def referred (parse : Parse) (name : String) : Option Node :=
  (parse.anchored.find? fun anchored => anchored.name == name).map fun anchored =>
    anchored.node.getD .knot

/-- The node of no tokens at all. -/
def emptyNode (tag : Option String) : Node :=
  .scalar tag .plain ""

/-- What stands in front of a node. -/
structure Properties where
  anchor : Option String := none
  tag : Option Tag := none

/-- Reads what stands in front of a node: an anchor and a tag, in either order. -/
def properties (parse : Parse) : Properties × Parse :=
  match parse.tokens with
  | .anchor name :: .tag tag :: rest => (⟨some name, some tag⟩, { parse with tokens := rest })
  | .tag tag :: .anchor name :: rest => (⟨some name, some tag⟩, { parse with tokens := rest })
  | .anchor name :: rest => (⟨some name, none⟩, { parse with tokens := rest })
  | .tag tag :: rest => (⟨none, some tag⟩, { parse with tokens := rest })
  | _ => ({}, parse)

/-- The full tag of a node, if it has one. -/
def resolveTag (parse : Parse) : Option Tag → Option (Option String)
  | none => some none
  | some tag => (tag.resolve parse.handles).map some

/-- What may follow where a node of a sequence is left out. -/
def entryEnds : List Token :=
  [.entry, .blockEnd]

/-- What may follow where a node of a sequence without indentation is left out. -/
def looseEntryEnds : List Token :=
  [.entry, .key, .value, .blockEnd]

/-- What may follow where a node of a mapping is left out. -/
def pairEnds : List Token :=
  [.key, .value, .blockEnd]

mutual

/-- Reads a node.  A `block` may begin here, and with `loose` the entries of a sequence that is not
indented.  `fuel` bounds the number of tokens. -/
def node (block loose : Bool) : Nat → Parse → Option (Node × Parse)
  | 0, _ => none
  | fuel + 1, parse =>
    match parse.tokens with
    | .alias name :: _ => do return (← parse.referred name, parse.skip)
    | _ => do
      let (properties, parse) := parse.properties
      let tag ← parse.resolveTag properties.tag
      match properties.anchor with
      | none => content block loose (properties.tag.isSome) tag fuel parse
      | some name =>
        let (id, parse) := parse.openAnchor name
        let (node, parse) ← content block loose true tag fuel parse
        return (node, parse.closeAnchor id node)

/-- Reads what stands behind the properties of a node; it may be left out if there are any. -/
def content (block loose optional : Bool) (tag : Option String) :
    Nat → Parse → Option (Node × Parse)
  | 0, _ => none
  | fuel + 1, parse =>
    match parse.peek with
    | some (.scalar style text) => some (.scalar tag style text, parse.skip)
    | some .flowSequence => do
      let (items, parse) ← flowItems true fuel parse.skip
      return (.sequence tag items, parse)
    | some .flowMapping => do
      let (entries, parse) ← flowPairs true fuel parse.skip
      return (.mapping tag entries, parse)
    | token =>
      if loose && token == some .entry then do
        let (items, parse) ← looseEntries fuel parse
        return (.sequence tag items, parse)
      else if block && token == some .blockSequence then do
        let (items, parse) ← blockEntries fuel parse.skip
        return (.sequence tag items, parse)
      else if block && token == some .blockMapping then do
        let (entries, parse) ← blockPairs fuel parse.skip
        return (.mapping tag entries, parse)
      else if optional then some (emptyNode tag, parse)
      else none

/-- Reads a node unless one of `ends` comes next. -/
def nodeUnless (ends : List Token) (block loose : Bool) : Nat → Parse → Option (Node × Parse)
  | 0, _ => none
  | fuel + 1, parse =>
    if parse.isAt ends then some (emptyNode none, parse) else node block loose fuel parse

/-- Reads the entries of an indented sequence. -/
def blockEntries : Nat → Parse → Option (List Node × Parse)
  | 0, _ => none
  | fuel + 1, parse =>
    if parse.peek == some .entry then do
      let (item, parse) ← nodeUnless entryEnds true false fuel parse.skip
      let (items, parse) ← blockEntries fuel parse
      return (item :: items, parse)
    else do return ([], ← parse.expect .blockEnd)

/-- Reads the entries of a sequence that is not indented. -/
def looseEntries : Nat → Parse → Option (List Node × Parse)
  | 0, _ => none
  | fuel + 1, parse =>
    if parse.peek == some .entry then do
      let (item, parse) ← nodeUnless looseEntryEnds true false fuel parse.skip
      let (items, parse) ← looseEntries fuel parse
      return (item :: items, parse)
    else some ([], parse)

/-- Reads the pairs of an indented mapping. -/
def blockPairs : Nat → Parse → Option (List (Node × Node) × Parse)
  | 0, _ => none
  | fuel + 1, parse =>
    if parse.peek == some .key then do
      let (key, parse) ← nodeUnless pairEnds true true fuel parse.skip
      let (value, parse) ← blockValue fuel parse
      let (entries, parse) ← blockPairs fuel parse
      return ((key, value) :: entries, parse)
    else do return ([], ← parse.expect .blockEnd)

/-- Reads the value of a pair in an indented mapping. -/
def blockValue : Nat → Parse → Option (Node × Parse)
  | 0, _ => none
  | fuel + 1, parse =>
    if parse.peek == some .value then nodeUnless pairEnds true true fuel parse.skip
    else some (emptyNode none, parse)

/-- Passes the comma between two items inside brackets; before the first there is none. -/
def separator (first : Bool) : Nat → Parse → Option Parse
  | 0, _ => none
  | _ + 1, parse => if first then some parse else parse.expect .flowEntry

/-- Reads the items of a sequence in brackets. -/
def flowItems (first : Bool) : Nat → Parse → Option (List Node × Parse)
  | 0, _ => none
  | fuel + 1, parse =>
    if parse.peek == some .flowSequenceEnd then some ([], parse.skip)
    else do
      let parse ← separator first 1 parse
      if parse.peek == some .flowSequenceEnd then return ([], parse.skip)
      let (item, parse) ←
        if parse.peek == some .key then flowSingle fuel parse.skip
        else node false false fuel parse
      let (items, parse) ← flowItems false fuel parse
      return (item :: items, parse)

/-- Reads a pair that is an item of a sequence in brackets, after its mark; where the key is left
out, so is what comes next. -/
def flowSingle : Nat → Parse → Option (Node × Parse)
  | 0, _ => none
  | fuel + 1, parse => do
    let (key, parse) ←
      if parse.isAt [.value, .flowEntry, .flowSequenceEnd] then
        some (emptyNode none, parse.skip)
      else node false false fuel parse
    let (value, parse) ← flowValue [.flowEntry, .flowSequenceEnd] fuel parse
    return (.mapping none [(key, value)], parse)

/-- Reads the value of a pair in brackets; one of `ends` may come where it is left out. -/
def flowValue (ends : List Token) : Nat → Parse → Option (Node × Parse)
  | 0, _ => none
  | fuel + 1, parse =>
    if parse.peek == some .value then nodeUnless ends false false fuel parse.skip
    else some (emptyNode none, parse)

/-- Reads the pairs of a mapping in brackets. -/
def flowPairs (first : Bool) : Nat → Parse → Option (List (Node × Node) × Parse)
  | 0, _ => none
  | fuel + 1, parse =>
    if parse.peek == some .flowMappingEnd then some ([], parse.skip)
    else do
      let parse ← separator first 1 parse
      if parse.peek == some .flowMappingEnd then return ([], parse.skip)
      let (pair, parse) ← flowPair fuel parse
      let (entries, parse) ← flowPairs false fuel parse
      return (pair :: entries, parse)

/-- Reads a pair of a mapping in brackets; without a mark in front it is a key alone. -/
def flowPair : Nat → Parse → Option ((Node × Node) × Parse)
  | 0, _ => none
  | fuel + 1, parse =>
    if parse.peek == some .key then do
      let (key, parse) ←
        nodeUnless [.value, .flowEntry, .flowMappingEnd] false false fuel parse.skip
      let (value, parse) ← flowValue [.flowEntry, .flowMappingEnd] fuel parse
      return ((key, value), parse)
    else do
      let (key, parse) ← node false false fuel parse
      return ((key, emptyNode none), parse)

end

/-! ## Documents -/

/-- The directives in front of a document, and what follows them. -/
def takeDirectives : List Token → List Directive × List Token
  | .directive directive :: rest =>
    let (directives, rest) := takeDirectives rest
    (directive :: directives, rest)
  | tokens => ([], tokens)

/-- The handles that directives define; `none` for one that is defined twice. -/
def defineHandles : Handles → List Directive → Option Handles
  | handles, [] => some handles
  | handles, .version .. :: rest => defineHandles handles rest
  | handles, .tag handle start :: rest =>
    if handles.any fun known => known.1 == handle then none
    else defineHandles (handles ++ [(handle, start)]) rest

/-- Whether there is at most one version, and it is one that can be read. -/
def versionsFit (directives : List Directive) : Bool :=
  let versions := directives.filterMap fun
    | .version major minor => some (major, minor)
    | .tag .. => none
  match versions with
  | [] => true
  | [(major, minor)] => major == 1 && (minor == 1 || minor == 2)
  | _ => false

/-- The handles of a document with these directives; those that need none can be redefined. -/
def handlesOf (directives : List Directive) : Option Handles :=
  if versionsFit directives then
    (defineHandles [] directives).map (· ++ Handles.standard)
  else none

/-- Whether a document has no content in front of these tokens. -/
def lacksContent : List Token → Bool
  | [] | .directive _ :: _ | .documentStart :: _ | .documentEnd :: _ => true
  | _ => false

/-- Reads the node that a document consists of. -/
def root (handles : Handles) (tokens : List Token) : Option (Node × List Token) := do
  let (node, parse) ← node true false (4 * tokens.length + 4) { tokens, handles }
  return (node, parse.tokens)

/-- Reads the content of a document, behind its start mark; it may be left out. -/
def document (handles : Handles) (tokens : List Token) : Option (Node × List Token) :=
  if lacksContent tokens then some (emptyNode none, tokens) else root handles tokens

/-- Reads the first document of a text, and gives the tokens behind it. -/
def firstDocument (tokens : List Token) : Option (Node × List Token) :=
  match takeDirectives tokens with
  | (directives, .documentStart :: rest) => do document (← handlesOf directives) rest
  | ([], token :: rest) => root .standard (token :: rest)
  | _ => none

/-- Whether nothing is left but the end mark of a document. -/
def isFinished : List Token → Bool
  | [] => true
  | .documentEnd :: rest => rest.all (· == .documentEnd)
  | _ => false

end Parse

/-- The document of a text that holds exactly one. -/
def Node.ofText? (text : String) : Option Node := do
  let (node, rest) ← Parse.firstDocument (← Token.ofText? text)
  if Parse.isFinished rest then return node
  none

end StorageFleet.Yaml
