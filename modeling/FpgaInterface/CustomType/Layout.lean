import FpgaInterface.Extract.Constant
import FpgaInterface.Validation

/-!
# Fixed-point layouts

* `FxpLayout`: sign, word length and integer word length of a fixed-point number;
* `FxpLayout.ofArguments`: a layout from named values;
* `readLayout`: a layout from an initialiser list;
* `CustomTypeError`: why the constants of a custom type do not fit together.

The first fault decides: no list, then the first bad item wherever it stands, then too few items,
then the word length.
-/

namespace FpgaInterface

/-- The layout of a fixed-point number. -/
structure FxpLayout where
  signed : Bool
  /-- The number of bits, one at least. -/
  wordLength : Int
  /-- The number of bits before the binary point, which may be negative. -/
  integerWordLength : Int
  wordLength_pos : 1 ≤ wordLength
  deriving DecidableEq, Repr

namespace FxpLayout

def fractionLength (f : FxpLayout) : Int := f.wordLength - f.integerWordLength

/-- The layout of three values, if the word length is one at least. -/
def make? (signed : Bool) (wordLength integerWordLength : Int) : Option FxpLayout :=
  if h : 1 ≤ wordLength then some ⟨signed, wordLength, integerWordLength, h⟩ else none

/-- What is wrong with a word length below one. -/
def wordLengthViolation : Violation := ⟨[.key "word_length"], .below 1⟩

def ofArguments (args : Arguments) : Except (List Violation) FxpLayout :=
  let signed := required args "signed" Reader.boolean
  let word := required args "word_length" (Reader.atLeast 1)
  let whole := required args "integer_word_length" Reader.integer
  match signed, word, whole with
  | .ok s, .ok w, .ok i => match make? s w i with
    | some f => .ok f
    | none => .error [wordLengthViolation]
  | _, _, _ => .error (violationsOf signed ++ violationsOf word ++ violationsOf whole)

end FxpLayout

/-- Why the constants of custom types are refused. -/
inductive CustomTypeError where
  | constant (e : ConstantError)
  | noInitialiser (constant : String)
  | twoClasses (name first second : String)
  | declaredTwice (constant : String)
  | noAddress (name : String)
  | noPackedSize (name : String)
  | noTypeInformation (name : String)
  | notAList
  | nestedList
  | tooFewItems
  | invalidLayout (violations : List Violation)
  | invalidRegister (violations : List Violation)
  deriving DecidableEq, Repr

/-- Some violations under a heading, one in a line. -/
def violationLines (heading : String) (vs : List Violation) : String :=
  heading ++ "\n  " ++ "\n  ".intercalate (vs.map Violation.text)

def CustomTypeError.message : CustomTypeError → String
  | constant e => e.message
  | noInitialiser name => "Constant " ++ name ++ " has no initializer"
  | twoClasses name first second =>
    "'" ++ name ++ "' is declared as both " ++ first ++ " and " ++ second
  | declaredTwice name => "Duplicate definition of " ++ name
  | noAddress name => "Did not find address for " ++ name
  | noPackedSize name => "Did not find packed size for cluster " ++ name
  | noTypeInformation name => "Did not find type information for " ++ name
  | notAList => "Initializer for FXP type data is not a list"
  | nestedList => "Unexpected nesting in FXP type data"
  | tooFewItems => "Insufficient items in FXP type data initializer"
  | invalidLayout vs => violationLines "Invalid FXP type data:" vs
  | invalidRegister vs => violationLines "Invalid register:" vs

/-- The integer of a literal or of the negation of one. -/
def signedInteger : Node → Except ConstantError Int
  | .unary op arg pos =>
    if op = "-" then (integerOf (some arg)).map (- ·) else integerOf (some (.unary op arg pos))
  | n => integerOf (some n)

def layoutItem : Node → Except CustomTypeError Int
  | .initList .. => .error .nestedList
  | n => (signedInteger n).mapError .constant

/-- The layout of an initialiser: `{signed, word length, integer word length}`. -/
def readLayout : Option Node → Except CustomTypeError FxpLayout
  | some (.initList items _) => do
    match ← items.mapM layoutItem with
    | s :: w :: i :: _ => match FxpLayout.make? (s ≠ 0) w i with
      | some f => .ok f
      | none => .error (.invalidLayout [FxpLayout.wordLengthViolation])
    | _ => .error .tooFewItems
  | _ => .error .notAList

end FpgaInterface
