import FpgaInterface.Element.AddressSet
import FpgaInterface.Header.Tree

/-!
# Constants of a header

* `integerLiteral?`: the integer that a literal spells;
* `integerOf`, `textOf`: the integer and the text that a node stands for;
* `ConstantError`: why a node stands for none.

A literal has blanks around it, digits in one of four notations and a suffix of `u` and `l`. Only
literals are read: an expression, a character and a number with a fraction stand for no integer.
-/

namespace FpgaInterface

/-! ## Integer literals -/

def isSuffixLetter (c : Char) : Bool := c = 'u' || c = 'U' || c = 'l' || c = 'L'

/-- A literal without the blanks around it and its suffix. -/
def literalDigits (cs : List Char) : List Char :=
  ((Text.trim cs).reverse.dropWhile isSuffixLetter).reverse

/-- The integer that a literal spells: hexadecimal after `0x`, binary after `0b`, octal after `0`
and decimal otherwise. -/
def integerLiteral? (spelling : String) : Option Int :=
  match literalDigits spelling.toList with
  | '0' :: 'x' :: rest | '0' :: 'X' :: rest => Text.Numeral.read? 16 rest
  | '0' :: 'b' :: rest | '0' :: 'B' :: rest => Text.Numeral.read? 2 rest
  | '0' :: c :: rest => Text.Numeral.read? 8 (c :: rest)
  | digits => Text.Numeral.read? 10 digits

example : integerLiteral? " 0x1800AuL " = some 0x1800a := by decide +kernel
example : integerLiteral? "010" = some 8 ∧ integerLiteral? "0" = some 0 := by decide +kernel
example : integerLiteral? "0b2" = none ∧ integerLiteral? "u" = none := by decide +kernel

/-! ## Nodes -/

/-- What was found where a literal was expected. -/
inductive Found where
  | constant (type spelling : String) (pos : Option Position)
  | node (className : String) (pos : Option Position)
  deriving DecidableEq, Repr

def positionText : Option Position → String
  | none => "None"
  | some p => p.text

def Found.text : Found → String
  | constant type spelling pos =>
    type ++ " constant " ++ spelling ++ " at " ++ positionText pos
  | node className pos => className ++ " at " ++ positionText pos

/-- What a node is. A missing node is of a class of its own. -/
def foundIn : Option Node → Found
  | some (.constant type spelling pos) => .constant type spelling pos
  | some n => .node n.className n.pos?
  | none => .node "NoneType" none

/-- Why a constant has no value. -/
inductive ConstantError where
  | invalidLiteral (spelling : String)
  | notInteger (found : Found)
  | notText (found : Found)
  | notTypeName (className : String)
  | noValue (enumerator : String) (pos : Option Position)
  /-- A pragma stands where an enumerator was expected. -/
  | pragma
  | tooWide (e : AddressSet.TooWide) (pos : Option Position)
  deriving DecidableEq, Repr

def Found.pos? : Found → Option Position
  | constant _ _ pos | node _ pos => pos

def ConstantError.pos? : ConstantError → Option Position
  | notInteger found | notText found => found.pos?
  | noValue _ pos | tooWide _ pos => pos
  | invalidLiteral _ | notTypeName _ | pragma => none

/-- A constant error that names no place, or one that can be shown. -/
def ConstantError.isShowable (e : ConstantError) : Bool := e.pos?.all Position.isShowable

/-- The wording of a constant error whose place can be shown. -/
def ConstantError.wording : ConstantError → String
  | invalidLiteral spelling => "Invalid integer literal '" ++ spelling ++ "'"
  | notInteger found => "Expected an integer literal, got " ++ found.text
  | notText found => "Expected a string literal, got " ++ found.text
  | notTypeName className => "Expected a type name, got " ++ className
  | noValue enumerator pos =>
    "Enumerator " ++ enumerator ++ " has no explicit value at " ++ positionText pos
  | pragma => "'Pragma' object has no attribute 'value'"
  | tooWide e pos => e.message ++ " at " ++ positionText pos

def ConstantError.message (e : ConstantError) : String :=
  if e.isShowable then e.wording else Text.Numeral.tooLargeToShow

/-- The integer that a literal spells, or the refusal of it. -/
def parseInteger (spelling : String) : Except ConstantError Int :=
  match integerLiteral? spelling with
  | some v => .ok v
  | none => .error (.invalidLiteral spelling)

def nonIntegerTypes : List String := ["string", "char", "float", "double", "long double"]

/-- The integer that a node stands for. -/
def integerOf : Option Node → Except ConstantError Int
  | some (.constant type spelling pos) =>
    if nonIntegerTypes.contains type then .error (.notInteger (.constant type spelling pos))
    else parseInteger spelling
  | n => .error (.notInteger (foundIn n))

def isText : Option Node → Bool
  | some (.constant type _ _) => type == "string"
  | _ => false

/-- A text without the double quotes at its ends. -/
def unquote (spelling : String) : String :=
  let inner := spelling.toList.dropWhile (· = '"')
  String.ofList (inner.reverse.dropWhile (· = '"')).reverse

/-- The text that a node stands for. -/
def textOf : Option Node → Except ConstantError String
  | some (.constant type spelling pos) =>
    if type == "string" then .ok (unquote spelling)
    else .error (.notText (.constant type spelling pos))
  | n => .error (.notText (foundIn n))

end FpgaInterface
