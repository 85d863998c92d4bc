import FpgaInterface.Header.Tree
import FpgaInterface.Text.Quoted

/-!
# Tokens of a header

* `TokenClass`, `Token`: the tokens and where they stand;
* `SyntaxCause`, `SyntaxFault`: why a text is no header, and where that shows;
* `LaterFeature`: what is refused by name;
* `keywords`: the words that cannot be names.
-/

namespace FpgaInterface.Header

inductive TokenClass where
  | ident
  /-- An identifier that names a type where it stands. -/
  | typeName
  | keyword
  | integer
  | real
  | character
  /-- A text in double quotes, with or without the mark of an encoding. -/
  | text
  /-- An operator, a bracket or a separator. -/
  | mark
  | attributes
  /-- A number sign that starts no directive of a known kind. -/
  | hash
  | pragma
  | pragmaText
  deriving DecidableEq, Repr

structure Token where
  kind : TokenClass
  text : String
  pos : Position
  deriving DecidableEq, Repr

/-- The words that cannot be names. -/
def keywords : List String :=
  ["auto", "break", "case", "char", "const", "continue", "default", "do", "double", "else", "enum",
   "extern", "float", "for", "goto", "if", "inline", "int", "long", "register", "offsetof",
   "restrict", "return", "short", "signed", "sizeof", "static", "struct", "switch", "typedef",
   "union", "unsigned", "void", "volatile", "while", "__int128", "_Bool", "_Complex", "_Noreturn",
   "_Thread_local", "_Static_assert", "_Atomic", "_Alignof", "_Alignas", "_Pragma", "_Generic",
   "__builtin_va_arg"]

def Token.is (t : Token) (text : String) : Bool :=
  (t.kind = .keyword || t.kind = .mark) && t.text == text

def Token.isOneOf (t : Token) (texts : List String) : Bool :=
  (t.kind = .keyword || t.kind = .mark) && texts.contains t.text

/-! ## Faults -/

/-- What is recognised and refused: only a later edition of the language has it. -/
inductive LaterFeature where
  | attributes
  | bitPreciseConstants
  | decimalConstants
  | enumTypes
  | ellipsisOnly
  | literalStorage
  deriving DecidableEq, Repr

def LaterFeature.name : LaterFeature → String
  | attributes => "Attributes"
  | bitPreciseConstants => "Bit-precise integer constants"
  | decimalConstants => "Decimal floating constants"
  | enumTypes => "Fixed underlying enum types"
  | ellipsisOnly => "Ellipsis-only parameter lists"
  | literalStorage => "Storage class specifiers in compound literals"

/-- Why a text is no header. -/
inductive SyntaxCause where
  /-- A line whose number has too many digits to be shown. -/
  | lineTooLarge
  | comment
  | badEscape
  | badOctal
  | unmatchedQuote
  | badCharacter (spelling : String)
  | illegal (c : Char)
  | lineMissing
  | fileBeforeLine
  | badLineDirective
  | directive
  /-- Another token than this one was required. -/
  | unexpected (token : String)
  | endOfInput
  | expression
  | declaration
  | declarator
  | abstractDeclarator
  | specifiers
  | record
  | function
  | functionTypedef
  /-- A parameter that is to define a type. -/
  | parameterStorage
  | missingType
  | severalTypes
  | typeNameTaken (name : String)
  | nameTaken (name : String)
  /-- A text in double quotes was required. -/
  | text
  | member
  /-- A name was required. -/
  | identifier
  /-- A constant with two marks of an unsigned type. -/
  | twiceUnsigned
  /-- Something that only a later edition of the language has. -/
  | later (feature : LaterFeature)
  deriving DecidableEq, Repr

def SyntaxCause.message : SyntaxCause → String
  | lineTooLarge => Text.Numeral.tooLargeToShow
  | comment =>
    "Comments are not supported, see https://github.com/eliben/pycparser#3using."
  | badEscape => "String contains invalid escape code"
  | badOctal => "Invalid octal constant"
  | unmatchedQuote => "Unmatched '"
  | badCharacter spelling => "Invalid char constant " ++ spelling
  | illegal c => "Illegal character " ++ Text.quoted (String.ofList [c])
  | lineMissing => "line number missing in #line"
  | fileBeforeLine => "filename before line number in #line"
  | badLineDirective => "invalid #line directive"
  | directive => "Directives not supported yet"
  | unexpected token => "before: " ++ token
  | endOfInput => "At end of input"
  | expression => "Invalid expression"
  | declaration => "Invalid declaration"
  | declarator => "Invalid declarator"
  | abstractDeclarator => "Invalid abstract declarator"
  | specifiers => "Invalid specifier list"
  | record => "Invalid struct/union declaration"
  | function => "Invalid function definition"
  | functionTypedef => "Invalid typedef"
  | parameterStorage => "Invalid storage class for a parameter"
  | missingType => "Missing type in declaration"
  | severalTypes => "Invalid multiple types specified"
  | typeNameTaken name =>
    "Typedef " ++ Text.quoted name ++ " previously declared as non-typedef in this scope"
  | nameTaken name =>
    "Non-typedef " ++ Text.quoted name ++ " previously declared as typedef in this scope"
  | text => "Invalid string literal"
  | member => "Invalid struct reference"
  | identifier => "Expected identifier"
  | twiceUnsigned => "Constant cannot have more than one u/U suffix."
  | later feature => feature.name ++ " require C23"

/-- Where a fault shows. -/
inductive FaultPlace where
  | position (p : Position)
  | file (name : String)
  /-- Somewhere among tokens none of which has a place. -/
  | unknown
  /-- At something that is not there. -/
  | missing
  /-- The fault is reported without a place. -/
  | unplaced
  deriving DecidableEq, Repr

/-- A place as the text of a fault shows it, with what separates it from the wording. -/
def FaultPlace.text : FaultPlace → String
  | position p => p.text ++ ": "
  | file name => name ++ ": "
  | unknown => "?: "
  | missing => "None: "
  | unplaced => ""

structure SyntaxFault where
  cause : SyntaxCause
  place : FaultPlace
  deriving DecidableEq, Repr

/-- A fault at a position, which must be one that can be shown. -/
def SyntaxFault.atPosition (cause : SyntaxCause) (p : Position) : SyntaxFault :=
  if p.isShowable then ⟨cause, .position p⟩ else ⟨.lineTooLarge, .unplaced⟩

def SyntaxFault.isUnplaced (f : SyntaxFault) : Bool := f.place = .unplaced

def SyntaxFault.text (f : SyntaxFault) : String := f.place.text ++ f.cause.message

end FpgaInterface.Header
