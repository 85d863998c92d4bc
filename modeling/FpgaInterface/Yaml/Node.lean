import FpgaInterface.Yaml.TokenList

/-!
# Nodes of a document

* `Tag`: the types that a node may claim to be of;
* `Node`: a scalar, a sequence or a mapping, with its tag and line;
* `Document`: the nodes of a document by number, and the one that holds all others;
* `Reading`: reads nodes from tokens, with the anchors seen so far;
* `documentOf`: the only document of a text.

Nodes name their parts by number. An alias is the number of the node with its anchor, so that a node
may stand in several places, and in itself. A scalar without a tag has the tag of what it stands
for.
-/

namespace FpgaInterface.Yaml

/-! ## Tags -/

/-- The types that a node may claim to be of. -/
inductive Tag where
  | null
  | boolean
  | integer
  | real
  | binary
  | timestamp
  | orderedMap
  | pairs
  | set
  | text
  | sequence
  | mapping
  /-- A key under which another table is merged. -/
  | merge
  /-- A key for the default value of a table. -/
  | default
  | unknown
  deriving DecidableEq, Repr

/-- The start of the tags of known types. -/
def coreStart : String := "tag:yaml.org,2002:"

/-- The known types by the rest of their tags. -/
def coreTags : List (String × Tag) :=
  [("null", .null), ("bool", .boolean), ("int", .integer), ("float", .real), ("binary", .binary),
   ("timestamp", .timestamp), ("omap", .orderedMap), ("pairs", .pairs), ("set", .set),
   ("str", .text), ("seq", .sequence), ("map", .mapping), ("merge", .merge), ("value", .default)]

def Tag.ofText (s : String) : Tag :=
  ((coreTags.map fun (rest, t) => (coreStart ++ rest, t)).lookup s).getD .unknown

def Meaning.tag : Meaning → Tag
  | .boolean => .boolean
  | .real => .real
  | .integer => .integer
  | .merge => .merge
  | .null => .null
  | .timestamp => .timestamp
  | .default => .default

def impliedTag (text : List Char) : Tag := ((meaning? text).map Meaning.tag).getD .text

/-! ## Nodes -/

/-- What a node holds. -/
inductive NodeContent where
  | scalar (text : List Char)
  | sequence (items : List Nat)
  | mapping (rows : List (Nat × Nat))
  deriving DecidableEq, Repr

/-- A part of a document. -/
structure Node where
  tag : Tag
  content : NodeContent
  line : Nat
  deriving DecidableEq, Repr

instance : Inhabited Node := ⟨⟨.null, .scalar [], 0⟩⟩

/-- The nodes of a document by their numbers, and the one that holds all others. -/
structure Document where
  nodes : Array Node
  top : Nat

/-! ## Reading -/

/-- How far the tokens have been read. -/
structure ReadingState where
  tokens : List PlacedToken
  fault : LoadFault
  nodes : Array Node := #[]
  /-- The numbers of the nodes with an anchor. -/
  anchors : List (String × Nat) := []
  /-- The starts of tags by their handles. -/
  handles : List (String × String) := []

/-- Reads parts of a document from tokens. -/
abbrev Reading := StateT ReadingState (Except LoadFault)

def failIn (line : Nat) : Reading α := throw (.malformed (some line))

def peek : Reading PlacedToken := do
  match (← get).tokens with
  | t :: _ => return t
  | [] => throw (← get).fault

def advance : Reading Unit := modify fun s => { s with tokens := s.tokens.tail }

def nextIn (ts : List Token) : Reading Bool := return ts.contains (← peek).token

/-! ## Properties -/

/-- What may stand before the content of a node. -/
structure Properties where
  anchor : Option String := none
  /-- The handle of the tag, if it has one, and the rest of the tag. -/
  tag : Option (Option String × String) := none
  tagLine : Nat := 0
  /-- The line of the first of them. -/
  line : Option Nat := none

/-- Reads the anchor and the tag of a node, in any order. -/
def readProperties : Nat → Properties → Reading Properties
  | 0, p => return p
  | n + 1, p => do
    let t ← peek
    let line := p.line.or (some t.line)
    match t.token, p.anchor, p.tag with
    | .anchor name, none, _ => do
      advance
      readProperties n { p with anchor := some name, line }
    | .tag handle rest, _, none => do
      advance
      readProperties n { p with tag := some (handle, rest), tagLine := t.line, line }
    | _, _, _ => return p

/-- The whole tag that the properties of a node give. -/
def wholeTag (p : Properties) : Reading (Option String) := do
  match p.tag with
  | none => return none
  | some (none, rest) => return some rest
  | some (some handle, rest) =>
    match (← get).handles.lookup handle with
    | some start => return some (start ++ rest)
    | none => failIn p.tagLine

/-- The type of a node by its whole tag; `implied` if there is none that says something. -/
def tagOr (implied : Tag) : Option String → Tag
  | none => implied
  | some tag => if tag = "!" then implied else .ofText tag

/-- The type of a scalar. Without a tag it is a text unless it is plain. -/
def scalarTag (tag : Option String) (text : List Char) (plain : Bool) : Tag :=
  tagOr (if plain || tag.isSome then impliedTag text else .text) tag

/-- A new node: its number, kept under its anchor. -/
def add (anchor : Option String) (node : Node) : Reading Nat := do
  let n := (← get).nodes.size
  modify fun s => { s with
    nodes := s.nodes.push node
    anchors := (anchor.map fun name => (name, n)).toList ++ s.anchors }
  return n

/-- The node that stands where nothing is written. -/
def addEmpty (line : Nat) : Reading Nat := add none ⟨.null, .scalar [], line⟩

def requireNew (anchor : Option String) (line : Nat) : Reading Unit := do
  match anchor with
  | none => return
  | some name => if ((← get).anchors.lookup name).isSome then failIn line

/-! ## Content -/

/-- A collection whose parts are read by `parts`. It has its number before they are read. -/
def readCollection (anchor : Option String) (tag : Tag) (line : Nat)
    (make : List α → NodeContent) (parts : Reading (List α)) : Reading Nat := do
  requireNew anchor line
  let n ← add anchor ⟨tag, make [], line⟩
  let content := make (← parts)
  modify fun s => { s with nodes := s.nodes.setIfInBounds n ⟨tag, content, line⟩ }
  return n

/-- What follows the mark of a key: nothing before one of the tokens `ends`, else a node. -/
def readAfter (ends : List Token) (node : Reading Nat) : Reading Nat := do
  let t ← peek
  advance
  if ← nextIn ends then addEmpty t.line else node

/-- The value that belongs to a key: nothing unless a value mark follows, with a node after it that
may be left out before one of the tokens `ends`. -/
def readValueAfter (ends : List Token) (node : Reading Nat) : Reading Nat := do
  let t ← peek
  if t.token = .value then readAfter ends node else addEmpty t.line

/-- What stands before a part of a flow collection: a comma, unless the part is the first. True at
the end of the collection, which is taken. -/
def readSeparator (first : Bool) (stop : Token) : Reading Bool := do
  let t ← peek
  if t.token = stop then
    advance
    return true
  if first then return false
  if t.token = .flowEntry then
    advance
    return false
  failIn t.line

/-- The tokens after the dash of a sequence where its item is left out. -/
def itemEnds (indented : Bool) : List Token :=
  if indented then [.blockEntry, .blockEnd] else [.blockEntry, .key, .value, .blockEnd]

mutual

/-- A node. In a block it may be a block collection; a sequence that is not indented starts with
its first dash. -/
def readNode (block unindented : Bool) : Nat → Reading Nat
  | 0 => do throw (← get).fault
  | n + 1 => do
    let t ← peek
    match t.token with
    | .alias name =>
      advance
      match (← get).anchors.lookup name with
      | some n => return n
      | none => failIn t.line
    | _ =>
      let p ← readProperties 2 {}
      let tag ← wholeTag p
      let t ← peek
      let line := p.line.getD t.line
      match t.token with
      | .scalar text plain =>
        requireNew p.anchor line
        advance
        add p.anchor ⟨scalarTag tag text plain, .scalar text, line⟩
      | start =>
        let sequence := readCollection p.anchor (tagOr .sequence tag) line .sequence
        let mapping := readCollection p.anchor (tagOr .mapping tag) line .mapping
        if start = .flowSequence then sequence (do advance; readFlowItems true n)
        else if start = .flowMapping then mapping (do advance; readFlowRows true n)
        else if start = .blockEntry && unindented then sequence (readBlockItems false n)
        else if start = .blockSequence && block then
          sequence (do advance; readBlockItems true n)
        else if start = .blockMapping && block then mapping (do advance; readBlockRows n)
        else if p.line.isSome then
          requireNew p.anchor line
          add p.anchor ⟨tagOr .null tag, .scalar [], line⟩
        else failIn t.line

def readBlockItems (indented : Bool) : Nat → Reading (List Nat)
  | 0 => do throw (← get).fault
  | n + 1 => do
    let t ← peek
    if t.token = .blockEntry then
      advance
      let item ←
        if ← nextIn (itemEnds indented) then addEmpty t.line else readNode true false n
      return item :: (← readBlockItems indented n)
    else if !indented then return []
    else if t.token = .blockEnd then
      advance
      return []
    else failIn t.line

def readBlockRows : Nat → Reading (List (Nat × Nat))
  | 0 => do throw (← get).fault
  | n + 1 => do
    let t ← peek
    if t.token = .key then
      let key ← readAfter [.key, .value, .blockEnd] (readNode true true n)
      let value ← readValueAfter [.key, .value, .blockEnd] (readNode true true n)
      return (key, value) :: (← readBlockRows n)
    else if t.token = .blockEnd then
      advance
      return []
    else failIn t.line

/-- The items of a flow sequence. A key makes a mapping with one row. -/
def readFlowItems (first : Bool) : Nat → Reading (List Nat)
  | 0 => do throw (← get).fault
  | n + 1 => do
    if ← readSeparator first .flowSequenceEnd then return []
    let t ← peek
    if t.token = .key then
      let key ← readAfter [.value, .flowEntry, .flowSequenceEnd] (readNode false false n)
      let value ← readValueAfter [.flowEntry, .flowSequenceEnd] (readNode false false n)
      let row ← add none ⟨.mapping, .mapping [(key, value)], t.line⟩
      return row :: (← readFlowItems false n)
    else if t.token = .flowSequenceEnd then
      advance
      return []
    else
      let item ← readNode false false n
      return item :: (← readFlowItems false n)

/-- The rows of a flow mapping. A node without a key mark is a key without a value. -/
def readFlowRows (first : Bool) : Nat → Reading (List (Nat × Nat))
  | 0 => do throw (← get).fault
  | n + 1 => do
    if ← readSeparator first .flowMappingEnd then return []
    let t ← peek
    if t.token = .key then
      let key ← readAfter [.value, .flowEntry, .flowMappingEnd] (readNode false false n)
      let value ← readValueAfter [.flowEntry, .flowMappingEnd] (readNode false false n)
      return (key, value) :: (← readFlowRows false n)
    else if t.token = .flowMappingEnd then
      advance
      return []
    else
      let key ← readNode false false n
      let value ← addEmpty (← peek).line
      return (key, value) :: (← readFlowRows false n)

end

/-! ## Documents -/

def knownHandles : List (String × String) := [("!", "!"), ("!!", coreStart)]

def Token.isDirective : Token → Bool
  | version _ => true
  | handle _ _ => true
  | otherDirective => true
  | _ => false

/-- Reads the directives of a document. A version or a handle is given once, and the version is
one. -/
def readDirectives (versioned : Bool) (handles : List (String × String)) :
    Nat → Reading (List (String × String))
  | 0 => return handles
  | n + 1 => do
    let t ← peek
    match t.token with
    | .version major =>
      advance
      if versioned || major ≠ 1 then failIn t.line
      readDirectives true handles n
    | .handle name start =>
      advance
      if (handles.lookup name).isSome then failIn t.line
      readDirectives versioned ((name, start) :: handles) n
    | .otherDirective =>
      advance
      readDirectives versioned handles n
    | _ => return handles

def skipDocumentEnds : Nat → Reading Unit
  | 0 => return
  | n + 1 => do
    if (← peek).token = .documentEnd then
      advance
      skipDocumentEnds n

/-- Reads the start of a document, unless the text ends: the line in which it starts. -/
def readDocumentStart : Reading (Option Nat) := do
  let count := (← get).tokens.length + 1
  skipDocumentEnds count
  let t ← peek
  if t.token = .streamEnd then return none
  let handles ← readDirectives false [] count
  let start ← peek
  if start.token ≠ .documentStart then failIn start.line
  advance
  modify fun s => { s with handles := handles ++ knownHandles }
  return some t.line

/-- Reads the only document: its outermost node, none if there is no document. -/
def readDocument : Reading (Option Nat) := do
  let count := 4 * ((← get).tokens.length + 1)
  let t ← peek
  let marked := t.token.isDirective || [.documentStart, .streamEnd].contains t.token
  if marked then
    if (← readDocumentStart).isNone then return none
  else modify fun s => { s with handles := knownHandles }
  let next ← peek
  let left := marked && (next.token.isDirective ||
    [.documentStart, .documentEnd, .streamEnd].contains next.token)
  let top ← if left then addEmpty next.line else readNode true false count
  if (← peek).token = .documentEnd then advance
  match ← readDocumentStart with
  | none => return some top
  | some line => failIn line

def documentOf (text : List Char) (whole : Bool) : Except LoadFault (Option Document) := do
  let list := tokensOf text whole
  let start : ReadingState :=
    { tokens := list.tokens, fault := list.fault.getD (.malformed none) }
  let (top, s) ← readDocument.run start
  return top.map fun top => ⟨s.nodes, top⟩

end FpgaInterface.Yaml
