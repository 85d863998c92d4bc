import FpgaInterface.Text.Scan

/-!
# Plain scalars

A scalar without quotes may stand for more than its text.

* `Meaning`: what it may stand for;
* `meaning?`: what a plain scalar stands for, by its spelling; none if it is a text.

The spellings are tried in the order of `spellings`: a number with a point comes before an integer.
-/

namespace FpgaInterface.Yaml

open Text (Scan)

/-- What a plain scalar stands for, if not for its text. -/
inductive Meaning where
  | boolean
  | real
  | integer
  /-- The key under which another table is merged. -/
  | merge
  | null
  | timestamp
  /-- The key under which a table has its default value. -/
  | default
  deriving DecidableEq, Repr

def isSpacedDigit (c : Char) : Bool := c.isDigit || c = '_'

def letter (letters : String) : Scan := .one fun c => letters.toList.contains c

def oneOf (words : List String) : Scan := .firstOf (words.map fun w => .word w.toList)

def sign : Scan := .optional (letter "-+")

def spacedDigits : Scan := .andThen (.one Char.isDigit) (.many isSpacedDigit)

def exponent : Scan := .optional (.sequence [letter "eE", letter "-+", .some1 Char.isDigit])

/-- A colon and a number below sixty. -/
def sixtieth : Scan :=
  .andThen (letter ":")
    (.firstOf [.andThen (.one fun c => '0' ≤ c && c ≤ '5') (.one Char.isDigit), .one Char.isDigit])

/-- Colons with numbers below sixty after them; no text that is read here has more than `limit`
characters. -/
def sixtieths (limit : Nat) : Scan := .andThen sixtieth (.repeated sixtieth limit)

def booleanWords : List String :=
  ["yes", "Yes", "YES", "no", "No", "NO", "true", "True", "TRUE", "false", "False", "FALSE", "on",
   "On", "ON", "off", "Off", "OFF"]

def nullWords : List String := ["~", "null", "Null", "NULL", ""]

def realSpellings (limit : Nat) : List Scan :=
  [.sequence [sign, spacedDigits, letter ".", .many isSpacedDigit, exponent],
   .sequence [letter ".", spacedDigits, exponent],
   .sequence [sign, spacedDigits, sixtieths limit, letter ".", .many isSpacedDigit],
   .sequence [sign, oneOf [".inf", ".Inf", ".INF"]],
   oneOf [".nan", ".NaN", ".NAN"]]

def positiveDigits : Scan :=
  .andThen (.one fun c => c.isDigit && c ≠ '0') (.many isSpacedDigit)

def integerSpellings (limit : Nat) : List Scan :=
  [.sequence [sign, oneOf ["0b"], .some1 fun c => c = '0' || c = '1' || c = '_'],
   .sequence [sign, oneOf ["0"], .some1 fun c => ('0' ≤ c && c ≤ '7') || c = '_'],
   .sequence [sign, oneOf ["0"]],
   .sequence [sign, positiveDigits],
   .sequence [sign, oneOf ["0x"], .some1 fun c => c.isDigit || ('a' ≤ c && c ≤ 'f') ||
      ('A' ≤ c && c ≤ 'F') || c = '_'],
   .sequence [sign, positiveDigits, sixtieths limit]]

def twoDigits : Scan := .andThen (.one Char.isDigit) (.one Char.isDigit)

def dashed : Scan := .andThen (letter "-") (.oneOrTwo Char.isDigit)

def clockPart : Scan := .andThen (letter ":") twoDigits

def zone : Scan :=
  .optional (.andThen (.many fun c => c = ' ' || c = '\t')
    (.firstOf [letter "Z",
      .sequence [letter "-+", .oneOrTwo Char.isDigit, .optional clockPart]]))

def timestampSpellings : List Scan :=
  [.sequence [twoDigits, twoDigits, letter "-", twoDigits, letter "-", twoDigits],
   .sequence [twoDigits, twoDigits, dashed, dashed,
     .firstOf [letter "Tt", .some1 fun c => c = ' ' || c = '\t'],
     .oneOrTwo Char.isDigit, clockPart, clockPart,
     .optional (.andThen (letter ".") (.many Char.isDigit)), zone]]

/-- The spellings of each meaning, in the order in which they are tried. -/
def spellings (limit : Nat) : List (Meaning × List Scan) :=
  [(.boolean, booleanWords.map fun w => .word w.toList),
   (.real, realSpellings limit),
   (.integer, integerSpellings limit),
   (.merge, [oneOf ["<<"]]),
   (.null, nullWords.map fun w => .word w.toList),
   (.timestamp, timestampSpellings),
   (.default, [oneOf ["="]])]

/-- A text without the end of a line that stands after its other characters. -/
def withoutLineEnd (cs : List Char) : List Char :=
  match cs.reverse with
  | '\n' :: c :: rest => (c :: rest).reverse
  | _ => cs

/-- What a plain scalar stands for, if not for its text. The end of a line after it changes
nothing. -/
def meaning? (cs : List Char) : Option Meaning :=
  ((spellings cs.length).find? fun m => m.2.any fun s => s.reads (withoutLineEnd cs)).map (·.1)

example : meaning? "1_0.5e+3".toList = some .real ∧ meaning? "1:59:07".toList = some .integer := by
  decide +kernel
example : meaning? "1e3".toList = none ∧ meaning? "0o7".toList = none ∧
    meaning? [] = some .null := by decide +kernel

end FpgaInterface.Yaml
