import FpgaInterface.Yaml.QuotedScalar

/-!
# Tokens of a document

* `Token`: the smallest parts of a document;
* `directiveAt`, `nameAt`, `tagAt`: the tokens that hold a name, read at a place.

A tag is a handle, for which a directive may give the start of the tag, and the rest of it.
-/

namespace FpgaInterface.Yaml

/-- The smallest parts of a document. -/
inductive Token where
  | version (major : Nat)
  /-- A directive that gives the start of the tags with a handle. -/
  | handle (name start : String)
  | otherDirective
  | documentStart
  | documentEnd
  | streamEnd
  | blockSequence
  | blockMapping
  | blockEnd
  | flowSequence
  | flowSequenceEnd
  | flowMapping
  | flowMappingEnd
  | flowEntry
  | blockEntry
  | key
  | value
  | alias (name : String)
  | anchor (name : String)
  | tag (handle : Option String) (rest : String)
  /-- A scalar; a plain one may stand for more than its text. -/
  | scalar (text : List Char) (plain : Bool)
  deriving DecidableEq, Repr

/-- Fails at a place unless a condition holds there. -/
def require (condition : Bool) (k : Cursor) : Except LoadFault Unit :=
  if condition then .ok () else .error k.fault

/-! ## Names and numbers -/

def isNameChar (c : Char) : Bool := c.isAlphanum || c = '-' || c = '_'

def nameAt (k : Cursor) : Except LoadFault (String × Cursor) := do
  let (name, after) := k.run isNameChar
  require (!name.isEmpty) k
  return (String.ofList name, after)

def numberAt (k : Cursor) : Except LoadFault (Nat × Cursor) := do
  let (digits, after) := k.run Char.isDigit
  require (!digits.isEmpty) k
  match Text.Numeral.value? 10 digits with
  | some n => return (n, after)
  | none => throw (.tooManyDigits digits.length)

/-- The characters that may stand right after the name of an anchor, beside gaps. -/
def anchorEnds : List Char := ['?', ':', ',', ']', '\x7d', '%', '@', '\x60']

/-- The name of an anchor or of an alias, after its indicator. -/
def anchorName (k : Cursor) : Except LoadFault (String × Cursor) := do
  let (name, k) ← nameAt k.next
  require (k.atGap || k.rest.head?.any anchorEnds.contains) k
  return (name, k)

/-! ## Tags -/

/-- A character that may stand for itself in a tag. -/
def isTagChar (c : Char) : Bool :=
  c.isAlphanum || "-;/?:@&=+$,_.!~*'()[]".toList.contains c

/-- The bytes that a run of escapes in a tag spells. -/
def tagBytes : Nat → Cursor → Except LoadFault (List UInt8 × Cursor)
  | 0, k => .ok ([], k)
  | n + 1, k =>
    if k.at? '%' then do
      let digits := (k.next.rest.take 2).takeWhile isHexDigit
      if digits.length ≠ 2 then throw (k.next.faultLooking digits.length)
      let (bytes, k) ← tagBytes n (k.skip 3)
      return ((hexValue digits).toUInt8 :: bytes, k)
    else .ok ([], k)

/-- The characters of a tag up to the first that cannot stand in it. -/
def tagChars : Nat → Cursor → Except LoadFault (List Char × Cursor)
  | 0, k => .ok ([], k)
  | n + 1, k => match k.rest with
    | [] => .ok ([], k)
    | c :: rest =>
      if c = '%' then do
        let (bytes, after) ← tagBytes (rest.length + 1) k
        match String.fromUTF8? ⟨bytes.toArray⟩ with
        | none => throw (k.faultLooking (after.index - k.index))
        | some s =>
          let (cs, k) ← tagChars n after
          return (s.toList ++ cs, k)
      else if isTagChar c then do
        let (cs, k) ← tagChars n k.next
        return (c :: cs, k)
      else .ok ([], k)

/-- The part of a tag after its handle, or the start of tags with a handle. It is not empty. -/
def tagText (k : Cursor) : Except LoadFault (String × Cursor) := do
  let (cs, after) ← tagChars k.rest.length k
  require (!cs.isEmpty) k
  return (String.ofList cs, after)

/-- A handle: an exclamation mark, alone or with a name and another one after it. -/
def tagHandle (k : Cursor) : Except LoadFault (String × Cursor) := do
  require (k.at? '!') k
  if k.next.at? ' ' then return ("!", k.next)
  let (name, k) := k.next.run isNameChar
  require (k.at? '!') k
  return ("!" ++ String.ofList name ++ "!", k.next)

def tagAt (k : Cursor) : Except LoadFault (Token × Cursor) := do
  let (token, k) ←
    if k.next.at? '<' then do
      let (whole, k) ← tagText (k.skip 2)
      require (k.at? '>') k
      pure (Token.tag none whole, k.next)
    else if k.next.atGap then pure (.tag none "!", k.next)
    else do
      let word := k.next.rest.takeWhile fun c => c ≠ ' ' && !isBreak c
      let (name, k) ← if word.contains '!' then tagHandle k else pure ("!", k.next)
      let (rest, k) ← tagText k
      pure (.tag (some name) rest, k)
  require k.atSpaceOrEnd k
  return (token, k)

/-! ## Directives -/

def versionAt (k : Cursor) : Except LoadFault (Token × Cursor) := do
  let (major, k) ← numberAt (k.skipRun (· = ' '))
  require (k.at? '.') k
  let (_, k) ← numberAt k.next
  require k.atSpaceOrEnd k
  return (.version major, k)

/-- The handle that a directive gives, and the start of its tags. -/
def handleAt (k : Cursor) : Except LoadFault (Token × Cursor) := do
  let (name, k) ← tagHandle (k.skipRun (· = ' '))
  require (k.at? ' ') k
  let (start, k) ← tagText (k.skipRun (· = ' '))
  require k.atSpaceOrEnd k
  return (.handle name start, k)

/-- A directive, from its percent sign on, with the end of its line. -/
def directiveAt (k : Cursor) : Except LoadFault (Token × Cursor) := do
  let (name, k) ← nameAt k.next
  require k.atSpaceOrEnd k
  let (token, k) ←
    if name = "YAML" then versionAt k
    else if name = "TAG" then handleAt k
    else pure (.otherDirective, k.skipRun fun c => !isBreak c)
  let k := (k.skipRun (· = ' ')).skipComment
  require k.atLineEnd k
  return (token, k.lineBreak.2)

end FpgaInterface.Yaml
