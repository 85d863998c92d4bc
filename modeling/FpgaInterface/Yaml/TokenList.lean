import FpgaInterface.Yaml.OpenScalar
import FpgaInterface.Yaml.Token

/-!
# The tokens of a text

* `TokenState`: a place in a text, the indentations around it and the keys that may end there;
* `TokenState.step`: reads the next token;
* `tokensOf`: all tokens of a text, up to the first fault.

A scalar or collection is known to be a key only once the colon after it is read. It is kept as a
`PendingKey` until then, and the marks of a key are put in front of it afterwards. A key stays on
one line. The tokens before a fault count only as far as no key is pending.

A text is looked at piece by piece for characters that may not stand in it, so that a fault in an
earlier piece comes first.
-/

namespace FpgaInterface.Yaml

/-- A token and the line in which it starts. -/
structure PlacedToken where
  token : Token
  line : Nat
  deriving Repr

structure TokenList where
  tokens : List PlacedToken
  /-- What is wrong after them, if they do not reach the end of the text. -/
  fault : Option LoadFault

/-- A part that is a key if a colon follows. -/
structure PendingKey where
  /-- The number of tokens before it, without the marks put in. -/
  number : Nat
  /-- The part can be nothing but a key. -/
  required : Bool
  /-- The number of characters before it. -/
  index : Nat
  line : Nat
  column : Nat

/-- A key has at most this many characters. -/
def longestKey : Nat := 1024

/-- How far a text has been read. -/
structure TokenState where
  cursor : Cursor
  /-- The number of flow collections around it. -/
  depth : Nat := 0
  /-- The indentation of the block around it. -/
  indent : Int := -1
  /-- The indentations of the blocks around that one, innermost first. -/
  outer : List Int := []
  keyAllowed : Bool := true
  /-- The pending keys by the number of flow collections around them. -/
  keys : List (Nat × PendingKey) := []
  tokens : Array PlacedToken := #[]
  /-- Tokens to be put in front of others, by the number of tokens before those. -/
  inserts : List (Nat × List PlacedToken) := []
  ended : Bool := false

namespace TokenState

def inFlow (s : TokenState) : Bool := s.depth ≠ 0

def push (s : TokenState) (t : Token) : TokenState :=
  { s with tokens := s.tokens.push ⟨t, s.cursor.line⟩ }

def moveTo (s : TokenState) (k : Cursor) : TokenState := { s with cursor := k }

/-! ## Indentation -/

/-- How many blocks end at a column, and the indentations that are left. -/
def blocksEnding (column : Int) : Int → List Int → Nat × Int × List Int
  | indent, [] => (0, indent, [])
  | indent, i :: rest =>
    if column < indent then
      let (n, left) := blocksEnding column i rest
      (n + 1, left)
    else (0, indent, i :: rest)

/-- Ends the blocks that are indented further than a column. -/
def unwind (s : TokenState) (column : Int) : TokenState :=
  if s.inFlow then s
  else
    let (n, indent, outer) := blocksEnding column s.indent s.outer
    { s with
      indent, outer,
      tokens := s.tokens ++ (List.replicate n ⟨.blockEnd, s.cursor.line⟩).toArray }

/-- A deeper indentation; none if the column is not further than the current one. -/
def deepen? (s : TokenState) (column : Nat) : Option TokenState :=
  if s.indent < column then
    some { s with indent := column, outer := s.indent :: s.outer }
  else none

/-- Starts a block at the place reached, unless one with its indentation is open. -/
def openBlock (s : TokenState) (start : Token) : TokenState :=
  match s.deepen? s.cursor.column with
  | some s => s.push start
  | none => s

/-! ## Pending keys -/

/-- A pending key is no key any more: its line has ended or it is too long. -/
def isStale (s : TokenState) (key : PendingKey) : Bool :=
  key.line ≠ s.cursor.line || longestKey < s.cursor.index - key.index

def dropStale (s : TokenState) : Except LoadFault TokenState := do
  require (s.keys.all fun (_, key) => !(s.isStale key && key.required)) s.cursor
  return { s with keys := s.keys.filter fun (_, key) => !s.isStale key }

def dropKey (s : TokenState) : Except LoadFault TokenState := do
  require ((s.keys.lookup s.depth).all fun key => !key.required) s.cursor
  return { s with keys := s.keys.filter fun (depth, _) => depth ≠ s.depth }

/-- Keeps the part that starts here as a pending key, if a key may start here. -/
def saveKey (s : TokenState) : Except LoadFault TokenState := do
  if !s.keyAllowed then return s
  let s ← s.dropKey
  let k := s.cursor
  let required := !s.inFlow && s.indent = k.column
  let key := ⟨s.tokens.size, required, k.index, k.line, k.column⟩
  return { s with keys := (s.depth, key) :: s.keys }

def markKey (s : TokenState) (key : PendingKey) : TokenState :=
  let s := { s with
    keys := s.keys.filter fun (depth, _) => depth ≠ s.depth, keyAllowed := false }
  let mark : PlacedToken := ⟨.key, key.line⟩
  match if s.inFlow then none else s.deepen? key.column with
  | some s => { s with inserts := (key.number, [⟨.blockMapping, key.line⟩, mark]) :: s.inserts }
  | none => { s with inserts := (key.number, [mark]) :: s.inserts }

/-! ## Tokens -/

/-- The place where the next token starts. A line that ends on the way allows a key in a block. -/
def skipBlanks : Nat → TokenState → TokenState
  | 0, s => s
  | n + 1, s =>
    match ((s.cursor.skipRun (· = ' ')).skipComment).lineBreak with
    | (none, k) => s.moveTo k
    | (some _, k) => skipBlanks n { s with cursor := k, keyAllowed := s.keyAllowed || !s.inFlow }

def leaveBlocks (s : TokenState) : Except LoadFault TokenState := do
  let s ← (s.unwind (-1)).dropKey
  return { s with keyAllowed := false }

def readEnd (s : TokenState) : Except LoadFault TokenState := do
  let s ← s.leaveBlocks
  return { s.push .streamEnd with keys := [], ended := true }

def readDirective (s : TokenState) : Except LoadFault TokenState := do
  let s ← s.leaveBlocks
  let (t, k) ← directiveAt s.cursor
  return (s.push t).moveTo k

def readMark (s : TokenState) : Except LoadFault TokenState := do
  let s ← s.leaveBlocks
  return (s.push (if s.cursor.at? '-' then .documentStart else .documentEnd)).moveTo
    (s.cursor.skip 3)

def readFlowStart (s : TokenState) (t : Token) : Except LoadFault TokenState := do
  let s ← s.saveKey
  return { s.push t with depth := s.depth + 1, keyAllowed := true, cursor := s.cursor.next }

def readFlowEnd (s : TokenState) (t : Token) : Except LoadFault TokenState := do
  let s ← s.dropKey
  return { s.push t with depth := s.depth - 1, keyAllowed := false, cursor := s.cursor.next }

/-- The comma of a flow collection. -/
def readFlowEntry (s : TokenState) : Except LoadFault TokenState := do
  let s ← s.dropKey
  return { s.push .flowEntry with keyAllowed := true, cursor := s.cursor.next }

/-- The dash of a block sequence. -/
def readBlockEntry (s : TokenState) : Except LoadFault TokenState := do
  require (s.inFlow || s.keyAllowed) s.cursor
  let s := if s.inFlow then s else s.openBlock .blockSequence
  let s ← s.dropKey
  return { s.push .blockEntry with keyAllowed := true, cursor := s.cursor.next }

/-- The question mark of a key. -/
def readKey (s : TokenState) : Except LoadFault TokenState := do
  require (s.inFlow || s.keyAllowed) s.cursor
  let s := if s.inFlow then s else s.openBlock .blockMapping
  let s ← s.dropKey
  return { s.push .key with keyAllowed := !s.inFlow, cursor := s.cursor.next }

/-- The colon of a value. -/
def readValue (s : TokenState) : Except LoadFault TokenState := do
  match s.keys.lookup s.depth with
  | some key =>
    let s := s.markKey key
    return (s.push .value).moveTo s.cursor.next
  | none =>
    require (s.inFlow || s.keyAllowed) s.cursor
    let s := if s.inFlow then s else s.openBlock .blockMapping
    return { s.push .value with keyAllowed := !s.inFlow, cursor := s.cursor.next }

/-- A part that may be a key, read by `part`. -/
def readPart (s : TokenState) (part : Cursor → Except LoadFault (Token × Cursor)) :
    Except LoadFault TokenState := do
  let s ← s.saveKey
  let (t, k) ← part s.cursor
  return { s.push t with keyAllowed := false, cursor := k }

def readBlockScalar (s : TokenState) (folded : Bool) : Except LoadFault TokenState := do
  let s ← s.dropKey
  let (text, k) ← blockScalar folded s.indent s.cursor
  return { s.push (.scalar text false) with keyAllowed := true, cursor := k }

def readQuoted (s : TokenState) (double : Bool) : Except LoadFault TokenState :=
  s.readPart fun k => (quotedScalar double k).map fun (text, k) => (.scalar text false, k)

def readPlain (s : TokenState) : Except LoadFault TokenState := do
  let s ← s.saveKey
  let part := plainScalar s.inFlow s.indent s.cursor
  return { s.push (.scalar part.chars true) with
    keyAllowed := part.brokenOff, cursor := part.cursor }

/-- A plain scalar may start here. -/
def atPlain (s : TokenState) (c : Char) (rest : List Char) : Bool :=
  !(isGap c || "-?:,[]\x7b\x7d#&*!|>'\"%@\x60".toList.contains c) ||
    (!gapAhead rest && (c = '-' || (!s.inFlow && (c = '?' || c = ':'))))

/-- A part that starts with an indicator, or a plain scalar. -/
def readIndicated (s : TokenState) (c : Char) (rest : List Char) : Except LoadFault TokenState :=
  let marks := s.inFlow || gapAhead rest
  match c with
  | '[' => s.readFlowStart .flowSequence
  | '\x7b' => s.readFlowStart .flowMapping
  | ']' => s.readFlowEnd .flowSequenceEnd
  | '\x7d' => s.readFlowEnd .flowMappingEnd
  | ',' => s.readFlowEntry
  | '*' => s.readPart fun k => (anchorName k).map fun (name, k) => (.alias name, k)
  | '&' => s.readPart fun k => (anchorName k).map fun (name, k) => (.anchor name, k)
  | '!' => s.readPart tagAt
  | '\'' => s.readQuoted false
  | '"' => s.readQuoted true
  | c =>
    if c = '-' && gapAhead rest then s.readBlockEntry
    else if c = '?' && marks then s.readKey
    else if c = ':' && marks then s.readValue
    else if (c = '|' || c = '>') && !s.inFlow then s.readBlockScalar (c = '>')
    else if s.atPlain c rest then s.readPlain
    else .error s.cursor.fault

def readToken (s : TokenState) : Except LoadFault TokenState :=
  match s.cursor.rest with
  | [] => s.readEnd
  | c :: rest =>
    if s.cursor.column = 0 && c = '%' then s.readDirective
    else if s.cursor.column = 0 && s.cursor.atMark then s.readMark
    else s.readIndicated c rest

def atNext (s : TokenState) : TokenState := skipBlanks (s.cursor.rest.length + 1) s

/-- Reads the token at the place reached, with the ends of the blocks before it. -/
def readHere (s : TokenState) : Except LoadFault TokenState :=
  (s.unwind s.cursor.column).readToken

def step (s : TokenState) : Except LoadFault TokenState := do
  let s ← (← s.atNext.dropStale).readHere
  s.dropStale

/-! ## Looking ahead -/

/-- The number of the last character that is looked at to tell what starts at the place reached: a
mark has three characters and a gap after it, and of other indicators the gap counts. -/
def lookedAt (s : TokenState) : Nat :=
  let k := s.cursor
  let marks := k.column = 0 && (k.at? '-' || k.at? '.')
  let indicators := if s.inFlow then "-|>%@\x60\t" else "-?:%@\x60\t"
  if marks then k.index + (if startsWithMark k.rest then 3 else 2)
  else if k.column = 0 && k.at? '%' then k.index
  else if k.rest.head?.any indicators.toList.contains then k.index + 1
  else k.index

/-- The number of the last character that is looked at to read what starts at a place up to the
character `index`. In a scalar each line may start with a mark. -/
def lookedUpTo (k : Cursor) (index : Nat) : Nat :=
  let used := k.rest.take (index - k.index)
  let rest := k.rest.drop (index - k.index)
  if k.rest.head?.any "|>%".toList.contains then index
  else match used.reverse.take 2 with
    | [] => index
    | c :: before =>
      if isBreak c then index + (if startsWithMark rest then 3 else 2)
      else if before.any isBreak then index + 1
      else index

/-- The number of the last character that is looked at to read the token between two places. A
plain scalar that ends at a colon is followed by a gap. -/
def lookedPast (s t : TokenState) : Nat :=
  let plain := t.tokens.back?.any fun p => p.token matches .scalar _ true
  let past := lookedUpTo s.cursor t.cursor.index
  if plain && t.cursor.at? ':' then max past (t.cursor.index + 1) else past

/-- A fault shows before the character of a number is looked at. -/
def isBefore (s : TokenState) (e : LoadFault) (number : Nat) : Bool :=
  match e with
  | .malformed (some _) index => lookedUpTo s.cursor index < number
  | _ => true

/-- Reads the next token of a text that cannot be read from the character of the number `stop` on.
A fault that shows before that character is looked at comes first. -/
def stepBefore (s : TokenState) (stop : Nat × LoadFault) : Except LoadFault TokenState := do
  let look := fun (number : Nat) => if number < stop.1 then Except.ok () else .error stop.2
  let s := s.atNext
  look s.cursor.index
  let s ← s.dropStale
  look s.lookedAt
  match s.readHere with
  | .error e => throw (if s.isBefore e stop.1 then e else stop.2)
  | .ok t =>
    look (s.lookedPast t)
    t.dropStale

/-! ## All tokens -/

/-- The number of tokens that are certain: no key is pending among them. -/
def certain (s : TokenState) : Nat :=
  s.keys.foldl (fun n (_, key) => min n key.number) s.tokens.size

/-- The first `count` tokens from number `i` on, with those put in front of them. -/
def listed (s : TokenState) (i count : Nat) : List PlacedToken :=
  ((s.tokens.toList.take count).zipIdx i).flatMap fun (t, i) => (s.inserts.lookup i).getD [] ++ [t]

/-- The tokens from a state on, up to where the text cannot be read. A token ends after it starts,
so that there are no more than characters and one. -/
def readAll (stop : Option (Nat × LoadFault)) : Nat → TokenState → TokenList
  | 0, s => ⟨s.listed 0 s.tokens.size, none⟩
  | n + 1, s => match stop.elim s.step s.stepBefore with
    | .error e => ⟨s.listed 0 s.certain, some e⟩
    | .ok t => if t.ended then ⟨t.listed 0 t.tokens.size, none⟩ else readAll stop n t

end TokenState

def isAllowed (c : Char) : Bool :=
  let n := c.toNat
  n = 0x09 || n = 0x0a || n = 0x0d || (0x20 ≤ n && n ≤ 0x7e) || n = 0x85 ||
    (0xa0 ≤ n && n ≤ 0xd7ff) || (0xe000 ≤ n && n ≤ 0xfffd) || 0x10000 ≤ n

/-- The number of characters that are looked at before the first token is read. -/
def firstPiece : Nat := 8192

/-- The number of characters that are looked at at once afterwards. -/
def nextPiece : Nat := 4096

/-- Where the piece of a text starts that holds the character of a number. -/
def pieceStart (index : Nat) : Nat :=
  if index < firstPiece then 0 else index - (index - firstPiece) % nextPiece

/-- Where a text cannot be read any further, and why: at the piece with the first character that may
not stand in a document, or at the one that the text does not fill unless it is `whole`. -/
def stopOf (text : List Char) (whole : Bool) : Option (Nat × LoadFault) :=
  let missing := (pieceStart text.length, LoadFault.unread)
  match text.findIdx? fun c => !isAllowed c with
  | none => if whole then none else some missing
  | some i =>
    if !whole && missing.1 ≤ pieceStart i then some missing
    else some (pieceStart i, .malformed none)

/-- The tokens of a text. A byte order mark at its start is skipped. -/
def tokensOf (text : List Char) (whole : Bool) : TokenList :=
  let start : Cursor := ⟨text, 0, 0, 0⟩
  let start := if start.at? '\ufeff' then start.next else start
  TokenState.readAll (stopOf text whole) (text.length + 1) { cursor := start }

end FpgaInterface.Yaml
