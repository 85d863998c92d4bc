import FpgaInterface.Text.Base64
import FpgaInterface.Text.LowerCase
import FpgaInterface.Text.Parts
import FpgaInterface.Value
import FpgaInterface.Yaml.Node
import FpgaInterface.Yaml.Plain
import FpgaInterface.Yaml.Timestamp

/-!
# The values of scalars

* `integerOf`, `realOf`, `booleanOf`, `timestampOf`, `bytesOf`: what a text stands for;
* `contentText`: the text of a node;
* `scalarOf`: the value of a node of a type of scalars.

A mapping stands for the scalar that is its default value.
-/

namespace FpgaInterface.Yaml

/-! ## Integers -/

/-- A text after its sign, and whether that is a minus. -/
def unsigned : List Char → Bool × List Char
  | '-' :: rest => (true, rest)
  | '+' :: rest => (false, rest)
  | cs => (false, cs)

def inRadix (radix : Nat) (cs : List Char) : Except LoadFault Int :=
  let bad := LoadFault.badNumber (String.ofList cs) radix
  match Text.Numeral.read? radix cs, Text.Numeral.tooMany? cs with
  | some i, _ => .ok i
  | none, some count => .error (if radix = 10 then .tooManyDigits count else bad)
  | none, none => .error bad

/-- The number that parts in base sixty spell, the least significant one last. -/
def sexagesimal (parts : List Int) : Int := parts.foldl (fun n part => n * 60 + part) 0

def integerOf (text : List Char) : Except LoadFault Int := do
  let (negative, cs) := unsigned (text.filter (· ≠ '_'))
  let n ← match cs with
    | [] => .error .emptyNumber
    | ['0'] => pure 0
    | '0' :: 'b' :: rest => inRadix 2 rest
    | '0' :: 'x' :: rest => inRadix 16 rest
    | '0' :: _ => inRadix 8 cs
    | _ =>
      if cs.contains ':' then sexagesimal <$> (Text.partsAt ':' cs).mapM (inRadix 10)
      else inRadix 10 cs
  return if negative then -n else n

/-! ## Numbers with a fraction -/

def digitsValue (ds : List Char) : Nat := ds.foldl (fun n d => n * 10 + (d.toNat - '0'.toNat)) 0

/-- The exponent that the rest of a decimal number spells. -/
def exponentOf? : List Char → Option Int
  | [] => some 0
  | 'e' :: rest =>
    let (negative, ds) := unsigned rest
    if ds.isEmpty || !ds.all Char.isDigit then none
    else
      let e : Int := digitsValue ds
      some (if negative then -e else e)
  | _ => none

/-- The fraction that a decimal number without a sign spells. -/
def decimalOf? (negative : Bool) (cs : List Char) : Option Binary64 := do
  let whole := cs.takeWhile Char.isDigit
  let (fraction, rest) := match cs.drop whole.length with
    | '.' :: rest => (rest.takeWhile Char.isDigit, rest.dropWhile Char.isDigit)
    | rest => ([], rest)
  let power ← exponentOf? rest
  if whole.isEmpty && fraction.isEmpty then none
  else some (.ofDecimal negative (digitsValue (whole ++ fraction)) (power - fraction.length))

/-- A decimal digit of any script as one of ASCII. -/
def asciiDigit (c : Char) : Char := ((Text.decimalDigit? c).map Text.lowerDigit).getD c

/-- The fraction that a text in lower case spells, with blanks around it. -/
def decimalOf (cs : List Char) : Except LoadFault Binary64 :=
  let bare := ((cs.dropWhile Text.Numeral.isGap).reverse.dropWhile Text.Numeral.isGap).reverse
  let (negative, number) := unsigned (bare.map asciiDigit)
  let word := String.ofList number
  if ["inf", "infinity"].contains word then .ok (.infinite negative)
  else if word = "nan" then .ok .notNumber
  else match decimalOf? negative number with
    | some x => .ok x
    | none => .error (.badReal (String.ofList cs))

/-- Parts in base sixty, the least significant one first, added from the first one on. -/
def sexagesimalReal (parts : List Binary64) : Except LoadFault Binary64 :=
  parts.zipIdx.foldlM (fun sum (part, i) => match Binary64.ofNat (Nat.pow 60 i) with
    | .infinite _ => .error .tooManyParts
    | weight => .ok (sum.add (part.mul weight))) (Binary64.ofNat 0)

/-- The spelling of a number with a fraction without its underscores, in lower case. -/
def realSpelling (text : List Char) : List Char := Text.lowerCase (text.filter (· ≠ '_'))

def notNumberWord : String := ".nan"

/-- The number with a fraction that a text spells. -/
def realOf (text : List Char) : Except LoadFault Binary64 :=
  let spelling := realSpelling text
  let (negative, cs) := unsigned spelling
  let word := String.ofList cs
  if spelling.isEmpty then .error .emptyNumber
  else if word = ".inf" then .ok (.infinite negative)
  else if word = notNumberWord then .ok .notNumber
  else if cs.contains ':' then do
    let parts ← (Text.partsAt ':' cs).mapM decimalOf
    return (← sexagesimalReal parts.reverse).withSign negative
  else return (← decimalOf cs).withSign negative

/-! ## Other scalars -/

def booleanOf (text : List Char) : Except LoadFault Bool :=
  let word := String.ofList (Text.lowerCase text)
  if ["yes", "true", "on"].contains word then .ok true
  else if ["no", "false", "off"].contains word then .ok false
  else .error (.badBoolean word)

def timestampOf (text : List Char) : Except LoadFault Timestamp :=
  match Timestamp.read? (withoutLineEnd text) with
  | none => .error .badTimestamp
  | some t => match t.fault? with
    | some part => .error (.outOfRange part)
    | none => .ok t

/-- The bytes that a text in a line spells. -/
def bytesOf (line : Nat) (text : List Char) : Except LoadFault (List UInt8) :=
  match Text.Base64.decode? text with
  | some bs => if text.all (·.toNat < 0x80) then .ok bs else .error (.malformed (some line))
  | none => .error (.malformed (some line))

/-! ## Nodes -/

def nodeAt (nodes : Array Node) (n : Nat) : Node := nodes[n]?.getD default

/-- The text of a node: of a mapping, that of its default value. -/
def contentText (nodes : Array Node) : Nat → Nat → Except LoadFault (List Char)
  | 0, _ => .error .endless
  | fuel + 1, n =>
    let node := nodeAt nodes n
    let missing : Except LoadFault (List Char) := .error (.malformed (some node.line))
    match node.content with
    | .scalar text => .ok text
    | .sequence _ => missing
    | .mapping rows => match rows.find? fun row => (nodeAt nodes row.1).tag = .default with
      | some row => contentText nodes fuel row.2
      | none => missing

/-- The text of a node, with as many steps as there are nodes. -/
def textAt (nodes : Array Node) (n : Nat) : Except LoadFault (List Char) :=
  contentText nodes (nodes.size + 1) n

def scalarOf (nodes : Array Node) (n : Nat) : Except LoadFault Value :=
  let node := nodeAt nodes n
  let text := textAt nodes n
  match node.tag with
  | .null => text.map fun _ => .null
  | .boolean => text.bind fun cs => (booleanOf cs).map .bool
  | .integer => text.bind fun cs => (integerOf cs).map .int
  | .real => text.bind fun cs => (realOf cs).map .real
  | .binary => text.bind fun cs => (bytesOf node.line cs).map .bytes
  | .timestamp => text.bind fun cs => match node.content with
    | .scalar _ => (timestampOf cs).map fun t => .other t.typeName t.shown
    | _ => .error .notScalar
  | .text => text.map fun cs => .text (String.ofList cs)
  | _ => .error (.malformed (some node.line))

example : (realOf "-1_0.5e+3".toList).toOption = some (.ofDecimal true 10500 0) := by
  decide +kernel
example : (realOf "1:30.5".toList).toOption = some (.ofDecimal false 905 (-1)) := by
  decide +kernel

end FpgaInterface.Yaml
