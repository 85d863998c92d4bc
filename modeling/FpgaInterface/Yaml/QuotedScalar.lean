import FpgaInterface.Yaml.Cursor
import FpgaInterface.Text.Numeral

/-!
# Reading scalars in quotes

A run of blanks with the end of a line in it counts as one space, or as the ends of the empty lines
in it. In double quotes a backslash starts an escape; at the end of a line it removes that end.
-/

namespace FpgaInterface.Yaml

/-- What is read of a scalar, and the place after it. -/
abbrev ScalarPart := Except LoadFault (List Char × Cursor)

/-- The characters of short escapes; some are not written but only read. -/
def readEscapes : List (Char × Char) :=
  (shortEscapes.map fun e => (e.2, e.1)) ++ [('\t', '\t'), (' ', ' '), ('/', '/')]

/-- The number of digits of an escape by its letter. -/
def escapeWidth? : Char → Option Nat
  | 'x' => some 2
  | 'u' => some 4
  | 'U' => some 8
  | _ => none

def hexValue (cs : List Char) : Nat :=
  cs.foldl (fun n c => n * 16 + (Text.digit? 16 c).getD 0) 0

def isHexDigit (c : Char) : Bool :=
  c.isDigit || ('a' ≤ c && c ≤ 'f') || ('A' ≤ c && c ≤ 'F')

/-- The ends of the lines that are empty up to the next character, where no mark of a document may
stand. -/
def emptyLines : Nat → Cursor → ScalarPart
  | 0, k => .ok ([], k)
  | n + 1, k =>
    if k.atMark then .error (k.faultLooking 3)
    else
      let k := k.skipRun fun c => c = ' ' || c = '\t'
      match k.lineBreak with
      | (none, k) => .ok ([], k)
      | (some c, k) => (emptyLines n k).map fun (u, k) => (c :: u, k)

/-- The code that an escape spells in digits from its letter on, and the place after it. -/
def escapedCode? (k : Cursor) : Option (Nat × Cursor) := do
  let width ← k.rest.head?.bind escapeWidth?
  let digits := k.next.rest.take width
  if digits.length = width && digits.all isHexDigit then
    return (hexValue digits, k.next.skip width)
  none

/-- The code of the character whose halves in UTF-16 two codes are. -/
def joinedCode? (high low : Nat) : Option Nat :=
  if 0xd800 ≤ high && high < 0xdc00 && 0xdc00 ≤ low && low < 0xe000 then
    some (0x10000 + (high - 0xd800) * 0x400 + (low - 0xdc00))
  else none

/-- The code that follows in an escape of its own right after a place. -/
def nextCode? (k : Cursor) : Option (Nat × Cursor) :=
  if k.at? '\\' then escapedCode? k.next else none

/-- The character of a code. Two halves of one in escapes that follow each other give the one; a
half alone is no character and is replaced. -/
def escapedChar (code : Nat) (k : Cursor) : Char × Cursor :=
  let pair := do
    let (low, k) ← nextCode? k
    return (← joinedCode? code low, k)
  match pair with
  | some (joined, k) => (Char.ofNat joined, k)
  | none => (if code.isValidChar then Char.ofNat code else '\ufffd', k)

def escaped (k : Cursor) : ScalarPart :=
  match k.rest with
  | [] => .error k.fault
  | c :: _ =>
    match readEscapes.lookup c, escapeWidth? c with
    | some e, _ => .ok ([e], k.next)
    | none, some _ => match escapedCode? k with
      | none => .error (k.next.faultLooking (k.next.rest.takeWhile isHexDigit).length)
      | some (code, k) =>
        if code < 0x110000 then
          let (e, k) := escapedChar code k
          .ok ([e], k)
        else .error (.noCharacter code)
    | none, none =>
      if isBreak c then emptyLines k.rest.length k.lineBreak.2 else .error k.fault

/-- The characters of a scalar up to the next blank or its quote. -/
def quotedWord (double : Bool) : Nat → Cursor → ScalarPart
  | 0, k => .ok ([], k)
  | n + 1, k =>
    let more := fun (u : List Char) (k : Cursor) =>
      (quotedWord double n k).map fun (v, k) => (u ++ v, k)
    match k.rest with
    | [] => .ok ([], k)
    | c :: rest =>
      if c = '\'' && !double then
        if rest.head? = some '\'' then more [c] (k.skip 2) else .ok ([], k)
      else if c = '"' && double then .ok ([], k)
      else if c = '\\' && double then do
        let (u, k) ← escaped k.next
        more u k
      else if isGap c then .ok ([], k)
      else more [c] k.next

/-- The blanks of a scalar up to the next character. -/
def quotedGap (k : Cursor) : ScalarPart := do
  let (blanks, k) := k.run fun c => c = ' ' || c = '\t'
  match k.rest with
  | [] => .error k.fault
  | _ => match k.lineBreak with
    | (none, k) => return (blanks, k)
    | (some c, k) =>
      let (breaks, k) ← emptyLines (k.rest.length + 1) k
      let first := if c ≠ '\n' then [c] else if breaks.isEmpty then [' '] else []
      return (first ++ breaks, k)

/-- A scalar after its first word, with its quote. -/
def quotedRest (double : Bool) : Nat → Cursor → ScalarPart
  | 0, k => .error k.fault
  | n + 1, k => do
    if k.at? (if double then '"' else '\'') then return ([], k.next)
    let (gap, k) ← quotedGap k
    let (word, k) ← quotedWord double k.rest.length k
    let (rest, k) ← quotedRest double n k
    return (gap ++ word ++ rest, k)

/-- A scalar in quotes, from its quote on. -/
def quotedScalar (double : Bool) (k : Cursor) : ScalarPart := do
  let k := k.next
  let (word, k) ← quotedWord double k.rest.length k
  let (rest, k) ← quotedRest double (k.rest.length + 1) k
  return (word ++ rest, k)

end FpgaInterface.Yaml
