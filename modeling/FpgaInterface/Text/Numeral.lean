import FpgaInterface.Text.Blank
import FpgaInterface.Text.DecimalDigit

/-!
# Numerals

Whole numbers written and read in a radix.

* `digits`, `decimal`, `upperHex`, `lowerHex`: the digits of a number, most significant first;
* `signed`: a numeral with the sign of an integer before it;
* `Numeral.read?`: the integer that a text spells in a radix.

A spelling may have blanks around it, a sign, a radix mark (`0x` in radix 16, `0o` in radix 8, `0b`
in radix 2) and single underscores between digits and after the mark. Digits may be of any script.
Only decimal spellings are limited in length, to `decimalDigitLimit` digits.
-/

namespace FpgaInterface.Text

/-! ## Writing -/

/-- The digits of a number in a radix of at least two. Zero has one digit. -/
def digits (radix n : Nat) : List Nat :=
  if _h : 2 ≤ radix ∧ radix ≤ n then digits radix (n / radix) ++ [n % radix] else [n]
termination_by n
decreasing_by exact Nat.div_lt_self (by omega) _h.1

def lowerDigit (d : Nat) : Char := Char.ofNat (if d < 10 then 48 + d else 87 + d)

def upperDigit (d : Nat) : Char := Char.ofNat (if d < 10 then 48 + d else 55 + d)

def decimal (n : Nat) : String := String.ofList ((digits 10 n).map lowerDigit)

def lowerHex (n : Nat) : String := String.ofList ((digits 16 n).map lowerDigit)

def upperHex (n : Nat) : String := String.ofList ((digits 16 n).map upperDigit)

/-- An integer as its sign, if negative, before `mark` and the numeral of its absolute value. -/
def signed (mark : String) (numeral : Nat → String) (v : Int) : String :=
  (if v < 0 then "-" else "") ++ mark ++ numeral v.natAbs

example : decimal 0 = "0" ∧ decimal 98306 = "98306" := by decide +kernel
example : signed "0x" upperHex 0x1800a = "0x1800A" ∧ signed "0x" lowerHex (-1) = "-0x1" := by
  decide +kernel

/-! ## Reading -/

/-- The value of a digit in a radix: a decimal digit of any script or an ASCII letter. -/
def digit? (radix : Nat) (c : Char) : Option Nat :=
  let value := (decimalDigit? c).orElse fun _ =>
    if 'a' ≤ c && c ≤ 'z' then some (c.toNat - 'a'.toNat + 10)
    else if 'A' ≤ c && c ≤ 'Z' then some (c.toNat - 'A'.toNat + 10)
    else none
  value.filter (· < radix)

namespace Numeral

/-- A decimal spelling has at most this many digits. -/
def decimalDigitLimit : Nat := 4300

/-- A number whose decimal numeral is not too long to be shown. -/
def isShowable (v : Int) : Bool := v.natAbs < Nat.pow 10 decimalDigitLimit

def tooLargeToShow : String :=
  "Exceeds the limit (" ++ decimal decimalDigitLimit ++
    " digits) for integer string conversion; " ++
    "use sys.set_int_max_str_digits() to increase the limit"

def tooLongToRead (count : Nat) : String :=
  "Exceeds the limit (" ++ decimal decimalDigitLimit ++
    " digits) for integer string conversion: value has " ++ decimal count ++
    " digits; use sys.set_int_max_str_digits() to increase the limit"

/-- The blanks around a numeral: all but the ASCII separators. -/
def isGap (c : Char) : Bool := isBlank c && !(0x1c ≤ c.toNat && c.toNat ≤ 0x1f)

/-- The letters that mark a radix after a zero. -/
def marks (radix : Nat) : List Char :=
  if radix = 16 then ['x', 'X'] else if radix = 8 then ['o', 'O']
  else if radix = 2 then ['b', 'B'] else []

/-- A text without the radix mark at its start; one underscore may follow the mark. -/
def dropMark (radix : Nat) : List Char → List Char
  | zero :: m :: rest =>
    if decimalDigit? zero = some 0 && m ∈ marks radix then
      (if rest.head? = some '_' then rest.tail else rest)
    else zero :: m :: rest
  | cs => cs

/-- No underscore stands at an end or beside another. -/
def separated : List Char → Bool
  | [] => true
  | ['_'] => false
  | '_' :: '_' :: _ => false
  | _ :: rest => separated rest

/-- The number that a non-empty run of digits and underscores spells. -/
def value? (radix : Nat) (run : List Char) : Option Nat :=
  let ds := run.filterMap (digit? radix)
  if run.isEmpty || run.head? = some '_' || !separated run then none
  else if radix = 10 && decimalDigitLimit < ds.length then none
  else some (ds.foldl (fun n d => n * radix + d) 0)

def inRun (radix : Nat) (c : Char) : Bool := c == '_' || (digit? radix c).isSome

/-- A text without the blanks, the sign and the radix mark at its start, and whether that sign is a
minus. -/
def dropStart (radix : Nat) (cs : List Char) : Bool × List Char :=
  match cs.dropWhile isGap with
  | '-' :: rest => (true, dropMark radix rest)
  | '+' :: rest => (false, dropMark radix rest)
  | rest => (false, dropMark radix rest)

def read? (radix : Nat) (cs : List Char) : Option Int :=
  let (negative, cs) := dropStart radix cs
  if (cs.dropWhile (inRun radix)).all isGap then
    (value? radix (cs.takeWhile (inRun radix))).map fun n => if negative then -(n : Int) else n
  else none

/-- The number of decimal digits at the start of a text, if they are too many to be read, whatever
follows them. -/
def tooMany? (cs : List Char) : Option Nat :=
  let run := ((dropStart 10 cs).2).takeWhile (inRun 10)
  let count := (run.filterMap (digit? 10)).length
  if run.head? ≠ some '_' && separated run && decimalDigitLimit < count then some count else none

example : read? 10 " -4_2 ".toList = some (-42) ∧ read? 10 "4__2".toList = none := by
  decide +kernel
example : read? 16 "0x_fF".toList = some 255 ∧ read? 16 "_f".toList = none := by decide +kernel

end Numeral

end FpgaInterface.Text
