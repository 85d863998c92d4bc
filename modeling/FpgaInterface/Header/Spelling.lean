import FpgaInterface.Header.Token
import FpgaInterface.Text.Scan

/-!
# Spellings of tokens

* the spellings of words, numbers, characters and texts;
* `lexeme`: the class and the spelling of the token that starts a text, or what is wrong with it.

A run of characters in single quotes is one character, an integer of two to four characters, or
refused. A text in double quotes ends on its line.
-/

namespace FpgaInterface.Header

open Text (Scan)

/-! ## Words and numbers -/

def isHexDigit (c : Char) : Bool :=
  c.isDigit || ('a' ≤ c && c ≤ 'f') || ('A' ≤ c && c ≤ 'F')

def isNameStart (c : Char) : Bool := c.isAlpha || c = '_' || c = '$'

def name : Scan := .andThen (.one isNameStart) (.many fun c => isNameStart c || c.isDigit)

/-- The suffixes of integers of a chosen width, in the order in which they are tried. -/
def widthSuffixes : List String :=
  ["uwb", "Uwb", "uWB", "UWB", "wbu", "wbU", "wb", "WBu", "WBU", "WB"]

/-- The suffixes of other integers, in the order in which they are tried. -/
def integerSuffixes : List String :=
  ["ull", "Ull", "uLL", "ULL", "llu", "llU", "ll", "LLu", "LLU", "LL", "ul", "uL", "Ul", "UL", "lu",
   "lU", "l", "Lu", "LU", "L", "u", "U"]

def oneOf (words : List String) : Scan := .firstOf (words.map fun w => .word w.toList)

def integerSuffix : Scan := .optional (oneOf (widthSuffixes ++ integerSuffixes))

def letter (letters : String) : Scan := .one fun c => letters.toList.contains c

/-- Digits of a class after others, single quotes between them. -/
def moreDigits (isDigit : Char → Bool) : Scan
  | '\'' :: c :: cs =>
    if isDigit c then (moreDigits isDigit cs).map fun (u, r) => ('\'' :: c :: u, r)
    else some ([], '\'' :: c :: cs)
  | c :: cs =>
    if isDigit c then (moreDigits isDigit cs).map fun (u, r) => (c :: u, r) else some ([], c :: cs)
  | [] => some ([], [])

/-- Digits of a class, at least one, with single quotes between them. -/
def digitRun (isDigit : Char → Bool) : Scan := .andThen (.one isDigit) (moreDigits isDigit)

def hexMark : Scan := oneOf ["0x", "0X"]

def binaryMark : Scan := oneOf ["0b", "0B"]

def hexInteger : Scan := .sequence [hexMark, digitRun isHexDigit, integerSuffix]

def binaryInteger : Scan :=
  .sequence [binaryMark, digitRun fun c => c = '0' || c = '1', integerSuffix]

def isOctalDigit (c : Char) : Bool := '0' ≤ c && c ≤ '7'

def octalInteger : Scan := .sequence [.word ['0'], moreDigits isOctalDigit, integerSuffix]

/-- A decimal integer that does not start with zero. -/
def decimalInteger : Scan :=
  .sequence [.one fun c => c.isDigit && c ≠ '0', moreDigits Char.isDigit, integerSuffix]

/-- An octal integer with a digit that is none. -/
def badOctal : Scan :=
  .sequence [.word ['0'], moreDigits isOctalDigit, .optional (.word ['\'']), letter "89"]

def exponent (letters : String) : Scan :=
  .sequence [letter letters, .optional (letter "+-"), digitRun Char.isDigit]

def realSuffix : Scan := .optional (letter "FfLl")

def decimalSuffixes : List String := ["df", "dd", "dl", "DF", "DD", "DL"]

def decimalReal : Scan :=
  let point := Scan.word ['.']
  let run := digitRun Char.isDigit
  .sequence
    [.firstOf
      [.sequence [.optional run, point, run, .optional (exponent "eE")],
       .sequence [run, point, .optional (exponent "eE")],
       .sequence [run, exponent "eE"]],
     .firstOf [oneOf decimalSuffixes, realSuffix]]

def hexReal : Scan :=
  let point := Scan.word ['.']
  let run := digitRun isHexDigit
  .sequence
    [hexMark,
     .firstOf
      [.sequence [.optional run, point, run],
       .sequence [run, .optional point]],
     exponent "pP", realSuffix]

def hasSuffix (suffixes : List String) (spelling : String) : Bool :=
  suffixes.any fun s => s.toList.reverse.isPrefixOf spelling.toList.reverse

/-! ## Texts in double quotes -/

/-- A character that may follow a backslash in a text. -/
def isEscapable (c : Char) : Bool := c.isAlphanum || "._~!=&^-\\?'\"".toList.contains c

/-- The rest of a text in double quotes, with the closing quote. -/
def textRest : Scan
  | '"' :: cs => some (['"'], cs)
  | '\\' :: c :: cs =>
    if isEscapable c then (textRest cs).map fun (u, r) => ('\\' :: c :: u, r) else none
  | ['\\'] => none
  | [] => none
  | c :: cs => if c = '\n' then none else (textRest cs).map fun (u, r) => (c :: u, r)

def plainText : Scan := .andThen (.word ['"']) textRest

/-- The rest of a text in double quotes in which one backslash is out of place; `seen` if it was
read already. -/
def badTextRest (seen : Bool) : Scan
  | '"' :: cs => if seen then some (['"'], cs) else none
  | '\\' :: c :: cs =>
    if isEscapable c then (badTextRest seen cs).map fun (u, r) => ('\\' :: c :: u, r)
    else if seen then none
    else (badTextRest true cs).map fun (u, r) => ('\\' :: c :: u, r)
  | ['\\'] => none
  | [] => none
  | c :: cs => if c = '\n' then none else (badTextRest seen cs).map fun (u, r) => (c :: u, r)

/-- A text in double quotes in which one backslash is out of place. -/
def badText : Scan := .andThen (.word ['"']) (badTextRest false)

def encodingMark : Scan := oneOf ["L", "u8", "u", "U"]

def text : Scan := .firstOf [.andThen encodingMark plainText, plainText]

/-! ## Characters in single quotes -/

def isAnyDigit (c : Char) : Bool := (Text.decimalDigit? c).isSome

/-- The number of hexadecimal digits of the code point after a letter. -/
def codeLength? : Char → Option Nat
  | 'u' => some 4
  | 'U' => some 8
  | _ => none

def codePoint : Scan
  | c :: cs => match codeLength? c with
    | none => none
    | some n =>
      if (cs.takeWhile isHexDigit).length < n then none else some (c :: cs.take n, cs.drop n)
  | [] => none

/-- One character between single quotes: itself, or a backslash with what belongs to it. -/
def charUnit : Scan
  | '\\' :: 'x' :: cs => some ('\\' :: 'x' :: cs.takeWhile isHexDigit, cs.dropWhile isHexDigit)
  | '\\' :: c :: cs =>
    if let some (u, r) := codePoint (c :: cs) then some ('\\' :: u, r)
    else if isAnyDigit c then
      some ('\\' :: c :: cs.takeWhile isAnyDigit, cs.dropWhile isAnyDigit)
    else if isEscapable c then some (['\\', c], cs)
    else none
  | c :: cs => if c = '\'' || c = '\\' || c = '\n' then none else some ([c], cs)
  | [] => none

/-- At most `n` characters: how many were read, what was read, and the rest. -/
def charUnits : Nat → List Char → Nat × List Char × List Char
  | 0, cs => (0, [], cs)
  | n + 1, cs => match charUnit cs with
    | none => (0, [], cs)
    | some (u, r) =>
      let (k, v, r') := charUnits n r
      (k + 1, u ++ v, r')

/-- A run of characters in single quotes whose length is one of some. -/
def charRun (lengths : List Nat) : Scan
  | '\'' :: cs => match charUnits 5 cs with
    | (k, u, '\'' :: r) => if lengths.contains k then some ('\'' :: u ++ ['\''], r) else none
    | _ => none
  | _ => none

def character : Scan :=
  .andThen (.optional encodingMark) (charRun [1])

/-- A single quote after which only characters follow up to the end of the line. -/
def openQuote : Scan
  | '\'' :: cs => match charUnits cs.length cs with
    | (_, u, '\n' :: r) => some ('\'' :: u ++ ['\n'], r)
    | (_, u, []) => some ('\'' :: u, [])
    | _ => none
  | _ => none

def upToQuote : Scan := .andThen (.many fun c => c ≠ '\'' && c ≠ '\n') (.word ['\''])

/-- A backslash with a character that may not follow it. -/
def badEscapePair : Scan
  | '\\' :: c :: cs => if isEscapable c then none else some (['\\', c], cs)
  | _ => none

/-- A run of characters in single quotes that is none or too many, or in which a backslash is out of
place. -/
def badCharRun : Scan :=
  let quote := Scan.word ['\'']
  .firstOf
    [.sequence [quote, charUnit, .one fun c => c ≠ '\'' && c ≠ '\n', upToQuote],
     .sequence [quote, quote],
     .sequence [quote, badEscapePair, upToQuote]]

/-! ## Tokens -/

/-- A character between tokens that ends no line. -/
def isGap (c : Char) : Bool := c = ' ' || c = '\t' || c = '\x0c' || c = '\x0b'

/-- The mark that opens attributes: two brackets, with blanks of any kind between them. -/
def attributeMark : Scan := .sequence [.word ['['], .many Text.isBlank, .word ['[']]

/-- The other marks, longer ones first. -/
def marks : List String :=
  ["...", "<<=", ">>=", "++", "--", "->", "&&", "||", "<<", ">>", "<=", ">=", "==", "!=", "*=",
   "/=", "%=", "+=", "-=", "&=", "|=", "^=", "::", "=", "+", "-", "*", "/", "%", "|", "&", "~",
   "^", "!", "<", ">", "?", "(", ")", "[", "]", "\x7b", "\x7d", ",", ".", ";", ":"]

/-- The spellings in the order in which they are tried, with the class of the token or what is wrong
with it. -/
def spellings : List (Scan × (String → Except SyntaxCause TokenClass)) :=
  [(.word ['/', '*'], fun _ => .error .comment),
   (.word ['/', '/'], fun _ => .error .comment),
   (badText, fun _ => .error .badEscape),
   (text, fun _ => .ok .text),
   (hexReal, fun _ => .ok .real),
   (decimalReal, fun _ => .ok .real),
   (hexInteger, fun _ => .ok .integer),
   (binaryInteger, fun _ => .ok .integer),
   (badOctal, fun _ => .error .badOctal),
   (octalInteger, fun _ => .ok .integer),
   (decimalInteger, fun _ => .ok .integer),
   (charRun [2, 3, 4], fun _ => .ok .integer),
   (character, fun _ => .ok .character),
   (openQuote, fun _ => .error .unmatchedQuote),
   (badCharRun, fun s => .error (.badCharacter s)),
   (name, fun s => .ok (if keywords.contains s then .keyword else .ident)),
   (attributeMark, fun _ => .ok .attributes),
   (oneOf marks, fun _ => .ok .mark)]

/-- The first of some spellings that starts a text. -/
def firstSpelling : List (Scan × (String → Except SyntaxCause TokenClass)) → List Char →
    Option (Except SyntaxCause (TokenClass × List Char × List Char))
  | [], _ => none
  | (scan, outcome) :: rest, cs => match scan cs with
    | none => firstSpelling rest cs
    | some (u, r) => some ((outcome (String.ofList u)).map fun kind => (kind, u, r))

/-- The token that starts a text: its class, its spelling and the rest. -/
def lexeme (c : Char) (cs : List Char) : Except SyntaxCause (TokenClass × List Char × List Char) :=
  match firstSpelling spellings (c :: cs) with
  | some outcome => outcome
  | none => .error (.illegal c)

end FpgaInterface.Header
