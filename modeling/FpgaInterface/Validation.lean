import FpgaInterface.Element.Location
import FpgaInterface.Text.Numeral
import FpgaInterface.Text.Parts
import FpgaInterface.Value

/-!
# Validation of fields

A record is built from named values. Every field that cannot be read leaves one `Violation`, in the
order of the fields; the record exists if there is none.

* `Cause`, `Violation`: what is wrong with a value, and where;
* `Reader`: reads a value of one type or names the causes;
* `Field`: a field of a record, under its alias or its name;
* `Record.read`: the values of all fields, or all violations.
-/

namespace FpgaInterface

/-! ## Violations -/

/-- What is wrong with a value. -/
inductive Cause where
  | missing
  | extraForbidden
  | keyNotText
  | notText
  | notUtf8
  | notPath
  | notList
  | notKind
  | frozen
  | noAttribute (name : String)
  | notInteger
  | integerUnreadable
  | integerFraction
  | integerTooLarge
  | notFinite
  | below (least : Int)
  | notBoolean
  | booleanUnreadable
  deriving DecidableEq, Repr

/-- The list `'A', 'B' or 'C'` of some texts. -/
def alternatives : List String → String
  | [] => ""
  | [s] => "'" ++ s ++ "'"
  | [s, t] => "'" ++ s ++ "' or '" ++ t ++ "'"
  | s :: rest => "'" ++ s ++ "', " ++ alternatives rest

namespace Cause

/-- The short name of a cause. -/
def code : Cause → String
  | missing => "missing"
  | extraForbidden => "extra_forbidden"
  | keyNotText => "invalid_key"
  | notText => "string_type"
  | notUtf8 => "string_unicode"
  | notPath => "path_type"
  | notList => "list_type"
  | notKind => "enum"
  | frozen => "frozen_instance"
  | noAttribute _ => "no_such_attribute"
  | notInteger => "int_type"
  | integerUnreadable => "int_parsing"
  | integerFraction => "int_from_float"
  | integerTooLarge => "int_parsing_size"
  | notFinite => "finite_number"
  | below _ => "greater_than_equal"
  | notBoolean => "bool_type"
  | booleanUnreadable => "bool_parsing"

def message : Cause → String
  | missing => "Field required"
  | extraForbidden => "Extra inputs are not permitted"
  | keyNotText => "Keys should be strings"
  | notText => "Input should be a valid string"
  | notUtf8 => "Input should be a valid string, unable to parse raw data as a unicode string"
  | notPath => "Input is not a valid path for <class 'pathlib.Path'>"
  | notList => "Input should be a valid list"
  | notKind => "Input should be " ++ alternatives (Kind.all.map Kind.name)
  | frozen => "Instance is frozen"
  | noAttribute name => "Object has no attribute '" ++ name ++ "'"
  | notInteger => "Input should be a valid integer"
  | integerUnreadable => "Input should be a valid integer, unable to parse string as an integer"
  | integerFraction => "Input should be a valid integer, got a number with a fractional part"
  | integerTooLarge => "Unable to parse input string as an integer, exceeded maximum size"
  | notFinite => "Input should be a finite number"
  | below least =>
    "Input should be greater than or equal to " ++ Text.signed "" Text.decimal least
  | notBoolean => "Input should be a valid boolean"
  | booleanUnreadable => "Input should be a valid boolean, unable to interpret input"

end Cause

/-- One step on the way to a value. -/
inductive Place where
  | key (name : String)
  | number (n : Int)
  | position (i : Nat)
  deriving DecidableEq, Repr

def Place.text : Place → String
  | key name => name
  | number n => Text.signed "" Text.decimal n
  | position i => Text.decimal i

/-- A value that does not fit, by the way to it. -/
structure Violation where
  /-- The way from the record to the value. -/
  place : List Place
  cause : Cause
  deriving DecidableEq, Repr

def Violation.text (v : Violation) : String :=
  " -> ".intercalate (v.place.map Place.text) ++ ": " ++ v.cause.message

/-! ## Readers -/

/-- Reads a value of one type; the violations are relative to the value. -/
abbrev Reader (α : Type) := Value → Except (List Violation) α

namespace Reader

/-- Refuses the value itself. -/
def refuse (c : Cause) : Except (List Violation) α := .error [⟨[], c⟩]

/-- A text, or bytes that spell one. -/
def text : Reader String
  | .text s => .ok s
  | .bytes bs => match String.fromUTF8? ⟨bs.toArray⟩ with
    | some s => .ok s
    | none => refuse .notUtf8
  | _ => refuse .notText

def path : Reader String
  | .text s => .ok s
  | _ => refuse .notPath

def kind : Reader Kind
  | .text s => match Kind.ofName? s with
    | some k => .ok k
    | none => refuse .notKind
  | _ => refuse .notKind

/-- Nothing, or what another reader reads. -/
def optional (r : Reader α) : Reader (Option α)
  | .null => .ok none
  | v => (r v).map some

/-- The items of a list from position `i` on. A violation of an item carries its position. -/
def itemsFrom (r : Reader α) (i : Nat) : List Value → Except (List Violation) (List α)
  | [] => .ok []
  | v :: rest =>
    match r v, itemsFrom r (i + 1) rest with
    | .ok a, .ok as => .ok (a :: as)
    | .ok _, .error es => .error es
    | .error es, rest =>
      .error (es.map (fun e => { e with place := .position i :: e.place }) ++
        match rest with | .ok _ => [] | .error es' => es')

/-- A list, a set or a series. -/
def list (r : Reader α) : Reader (List α)
  | .list vs => itemsFrom r 0 vs
  | .set vs => itemsFrom r 0 vs
  | .series _ _ vs => itemsFrom r 0 vs
  | _ => refuse .notList

/-- The digits that count of a whole number that a text spells, and whether a minus stands before
them: a sign, decimal digits with single underscores between them, and a fraction of zeros. -/
def wholeDigits? (s : String) : Option (Bool × List Char) :=
  let cs := (s.toList.dropWhile Text.Numeral.isGap).reverse.dropWhile Text.Numeral.isGap |>.reverse
  let (negative, cs) := match cs with
    | '-' :: rest => (true, rest)
    | '+' :: rest => (false, rest)
    | cs => (false, cs)
  let whole := cs.takeWhile (· ≠ '.')
  let fraction := cs.dropWhile (· ≠ '.')
  if fraction ≠ ['.'] && (fraction.drop 1).all (· = '0') &&
      whole.all (fun c => c.isDigit || c = '_') && whole.head?.any Char.isDigit &&
      Text.Numeral.separated whole then
    some (negative, (whole.filter Char.isDigit).dropWhile (· = '0'))
  else none

/-- The integer that a text spells. Its digits are not too many, zeros at the start aside. -/
def wholeText (s : String) : Except (List Violation) Int :=
  match wholeDigits? s with
  | none => refuse .integerUnreadable
  | some (_, []) => .ok 0
  | some (negative, ds) => match Text.Numeral.value? 10 ds with
    | none => refuse .integerTooLarge
    | some n => .ok (if negative then -(n : Int) else n)

/-- An integer fits into a signed word of 64 bits. -/
def fitsWord (i : Int) : Bool := -0x8000000000000000 ≤ i && i < 0x8000000000000000

/-- The integer that a number is: one between the ends of a word. -/
def wholeReal (x : Binary64) : Except Cause Int :=
  match x, x.whole? with
  | .finite _ _ _, none => .error .integerFraction
  | _, none => .error .notFinite
  | _, some i => if fitsWord i && fitsWord (-i) then .ok i else .error .integerTooLarge

/-- An integer: a number without a fraction, a text that spells one, or a truth value. -/
def integer : Reader Int
  | .int i => .ok i
  | .bool b => .ok (if b then 1 else 0)
  | .real x => match wholeReal x with
    | .ok i => .ok i
    | .error c => refuse c
  | .text s => wholeText s
  | _ => refuse .notInteger

/-- An integer of at least `least`. -/
def atLeast (least : Int) : Reader Int := fun v =>
  match integer v with
  | .ok i => if least ≤ i then .ok i else refuse (.below least)
  | .error es => .error es

def trueWords : List String := ["1", "on", "t", "true", "y", "yes"]

def falseWords : List String := ["0", "off", "f", "false", "n", "no"]

/-- The truth value of zero and one. -/
def truth? : Int → Option Bool
  | 0 => some false
  | 1 => some true
  | _ => none

/-- A truth value, zero or one, or a word for one of them in any case. A number that is no integer
of a word is of another type. -/
def boolean : Reader Bool
  | .bool b => .ok b
  | .int i => match truth? i with
    | some b => .ok b
    | none => refuse (if fitsWord i then .booleanUnreadable else .notBoolean)
  | .real x => match wholeReal x with
    | .ok i => match truth? i with
      | some b => .ok b
      | none => refuse .booleanUnreadable
    | .error _ => refuse .notBoolean
  | .text s =>
    let w := s.toLower
    if trueWords.contains w then .ok true
    else if falseWords.contains w then .ok false
    else refuse .booleanUnreadable
  | _ => refuse .notBoolean

end Reader

/-! ## Records -/

/-- The named values that a record is built from, in the order in which they were given. -/
abbrev Arguments := List (String × Value)

def capitalised : List Char → List Char
  | [] => []
  | c :: rest => c.toUpper :: rest

/-- A word with its underscores dropped and the letters after them made capitals. -/
def camelCase (name : String) : String :=
  match Text.partsAt '_' name.toList with
  | [] => ""
  | w :: rest => String.ofList (w ++ rest.flatMap capitalised)

/-- The key under which a field is given: its alias if that is there, else its name. -/
def keyOf? (args : Arguments) (name : String) : Option String :=
  if (args.lookup (camelCase name)).isSome then some (camelCase name)
  else if (args.lookup name).isSome then some name
  else none

/-- The value of a field that must be given. A missing one is reported under its alias. -/
def required (args : Arguments) (name : String) (r : Reader α) : Except (List Violation) α :=
  match keyOf? args name with
  | none => .error [⟨[.key (camelCase name)], .missing⟩]
  | some key => match args.lookup key with
    | none => .error [⟨[.key (camelCase name)], .missing⟩]
    | some v => match r v with
      | .ok a => .ok a
      | .error es => .error (es.map fun e => { e with place := .key key :: e.place })

/-- The value of a field that need not be given. -/
def withDefault (args : Arguments) (name : String) (r : Reader α) (a : α) :
    Except (List Violation) α :=
  match keyOf? args name with
  | none => .ok a
  | some _ => required args name r

def violationsOf (e : Except (List Violation) α) : List Violation :=
  match e with
  | .ok _ => []
  | .error es => es

/-- One violation for each key that names no field, in the order given. -/
def extraKeys (args : Arguments) (names : List String) : List Violation :=
  let used := names.filterMap (keyOf? args)
  (args.filter fun a => !used.contains a.1).map fun a => ⟨[.key a.1], .extraForbidden⟩

end FpgaInterface
