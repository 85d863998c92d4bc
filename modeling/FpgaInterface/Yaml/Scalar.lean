import FpgaInterface.Text.Quoted
import FpgaInterface.Yaml.Plain

/-!
# Writing scalars

* `Style`, `styleOf`: how a text is written: plain, in single quotes or in double quotes;
* `scalarText`: a text as a scalar that starts at a column.

A plain scalar reads back as its text and as nothing else. Lines are folded at a single space once
more than `bestWidth` columns are written; in double quotes a line may end at any character.
-/

namespace FpgaInterface.Yaml

inductive Style where
  | plain
  | single
  | double
  deriving DecidableEq, Repr

/-! ## The style of a text -/

def isBreak (c : Char) : Bool := c = '\n' || c = '\x85' || c = '\u2028' || c = '\u2029'

/-- A character that may stand after an indicator and makes it one. -/
def isGap (c : Char) : Bool := isBreak c || c = '\x00' || c = ' ' || c = '\t' || c = '\x0d'

/-- A character that only double quotes can hold. -/
def isSpecial (c : Char) : Bool :=
  let n := c.toNat
  !(n = 0x0a || (0x20 ≤ n && n ≤ 0x7e) || n = 0x85 || (0xa0 ≤ n && n ≤ 0xd7ff) ||
    (0xe000 ≤ n && n ≤ 0xfffd && n ≠ 0xfeff) || (0x10000 ≤ n && n < 0x10ffff))

/-- Some adjacent characters satisfy a relation. -/
def hasPair (p : Char → Char → Bool) : List Char → Bool
  | a :: b :: rest => p a b || hasPair p (b :: rest)
  | _ => false

/-- The next character, if there is one, is a gap. -/
def gapAhead (rest : List Char) : Bool := rest.head?.all isGap

def startsWithIndicator : List Char → Bool
  | [] => false
  | c :: rest =>
    "#,[]\x7b\x7d&*!|>'\"%@".toList.contains c || c.toNat = 0x60 ||
      ((c = '?' || c = ':' || c = '-') && gapAhead rest)

/-- After the first character, a colon stands before a gap or a number sign after one. -/
def hasInnerIndicator : List Char → Bool
  | a :: c :: rest =>
    (c = ':' && gapAhead rest) || (c = '#' && isGap a) || hasInnerIndicator (c :: rest)
  | _ => false

def startsWithMark (cs : List Char) : Bool :=
  "---".toList.isPrefixOf cs || "...".toList.isPrefixOf cs

/-- A text holds something that plain scalars cannot hold. -/
def needsQuotes (cs : List Char) : Bool :=
  startsWithMark cs || startsWithIndicator cs || hasInnerIndicator cs || cs.head? = some ' ' ||
    cs.getLast? = some ' ' || cs.any isBreak

/-- A text holds something that single quotes cannot hold: a special character, or a space beside
the end of a line. -/
def needsEscapes (cs : List Char) : Bool :=
  cs.any isSpecial ||
    hasPair (fun a b => (a = ' ' && isBreak b) || (isBreak a && b = ' ')) cs

def styleOf (cs : List Char) : Style :=
  if needsEscapes cs then .double
  else if (meaning? cs).isSome || needsQuotes cs then .single
  else .plain

/-! ## Writing -/

/-- A line is folded after this column. -/
def bestWidth : Nat := 80

def newLine (indent : Nat) : List Char := '\n' :: List.replicate indent ' '

/-- A plain scalar from a column on, after the character `prev`. -/
def plainRest (indent column : Nat) (prev : Char) : List Char → List Char
  | [] => []
  | c :: rest =>
    if c = ' ' && prev ≠ ' ' && rest.head? ≠ some ' ' && bestWidth < column then
      newLine indent ++ plainRest indent indent c rest
    else c :: plainRest indent (column + 1) c rest

/-- A text in single quotes from a column on, after the character `prev`, without the closing quote.
A run of line ends is written with one newline before it if it starts with a newline. -/
def singleRest (indent column : Nat) (prev : Option Char) : List Char → List Char
  | [] => []
  | c :: rest =>
    if isBreak c then
      let first := if c = '\n' && !prev.any isBreak then ['\n'] else []
      let after := if rest.head?.any isBreak then [] else List.replicate indent ' '
      first ++ c :: after ++ singleRest indent indent (some c) rest
    else if c = ' ' && prev.any (· ≠ ' ') && rest.head?.any (· ≠ ' ') && bestWidth < column then
      newLine indent ++ singleRest indent indent (some c) rest
    else if c = '\'' then '\'' :: '\'' :: singleRest indent (column + 2) (some c) rest
    else c :: singleRest indent (column + 1) (some c) rest

def shortEscapes : List (Char × Char) :=
  [('\x00', '0'), ('\x07', 'a'), ('\x08', 'b'), ('\t', 't'), ('\n', 'n'), ('\x0b', 'v'),
   ('\x0c', 'f'), ('\x0d', 'r'), ('\x1b', 'e'), ('"', '"'), ('\\', '\\'), ('\x85', 'N'),
   ('\xa0', '_'), ('\u2028', 'L'), ('\u2029', 'P')]

/-- The upper-case hexadecimal numeral of a number, filled up with zeros to a width. -/
def hexPadded (width n : Nat) : List Char :=
  let ds := (Text.digits 16 n).map Text.upperDigit
  List.replicate (width - ds.length) '0' ++ ds

def escapeOf (c : Char) : List Char :=
  match shortEscapes.lookup c with
  | some e => ['\\', e]
  | none =>
    let n := c.toNat
    if n ≤ 0xff then '\\' :: 'x' :: hexPadded 2 n
    else if n ≤ 0xffff then '\\' :: 'u' :: hexPadded 4 n
    else '\\' :: 'U' :: hexPadded 8 n

def isBare (c : Char) : Bool :=
  let n := c.toNat
  c ≠ '"' && c ≠ '\\' && !isBreak c && n ≠ 0xfeff &&
    ((0x20 ≤ n && n ≤ 0x7e) || (0xa0 ≤ n && n ≤ 0xd7ff) || (0xe000 ≤ n && n ≤ 0xfffd))

/-- The end of a line in double quotes, before the characters `rest`: a space at the start of the
next line is escaped. -/
def brokenLine (indent : Nat) (rest : List Char) : List Char :=
  '\\' :: newLine indent ++ if rest.head? = some ' ' then ['\\'] else []

def brokenColumn (indent : Nat) (rest : List Char) : Nat :=
  if rest.head? = some ' ' then indent + 1 else indent

/-- A text in double quotes from a column on, without the closing quote. The characters `pending`,
held in reverse, are not written yet; `first` says that no character of the text came before. -/
def doubleRest (indent column : Nat) (first : Bool) (pending : List Char) : List Char → List Char
  | [] => pending.reverse
  | c :: rest =>
    let inside := !first && !rest.isEmpty
    if isBare c then
      if inside && (c = ' ' || pending.isEmpty) && bestWidth < column + pending.length then
        pending.reverse ++ brokenLine indent (c :: rest) ++
          doubleRest indent (brokenColumn indent (c :: rest)) false [c] rest
      else doubleRest indent column false (c :: pending) rest
    else
      let escape := escapeOf c
      let column := column + pending.length + escape.length
      let written := pending.reverse ++ escape
      if inside && bestWidth + 1 < column then
        written ++ brokenLine indent rest ++
          doubleRest indent (brokenColumn indent rest) false [] rest
      else written ++ doubleRest indent column false [] rest

/-- A text as a scalar that starts at a column. Lines after the first one are indented. -/
def scalarText (indent column : Nat) (s : String) : String :=
  let cs := s.toList
  String.ofList <| match styleOf cs with
    | .plain => plainRest indent column ' ' cs
    | .single => '\'' :: singleRest indent (column + 1) none cs ++ ['\'']
    | .double => '"' :: doubleRest indent (column + 1) true [] cs ++ ['"']

example : scalarText 2 0 "a: b" = "'a: b'" ∧ scalarText 2 0 "0x1F" = "'0x1F'" := by decide +kernel

end FpgaInterface.Yaml
