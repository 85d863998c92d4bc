import FpgaInterface.Text.Numeral

/-!
# Syntax trees

The tree of a header keeps apart what the extraction looks at: constants, identifiers, negations,
initialiser lists, enumerations, declarations and type definitions. Everything else is a branch of
some shape with its parts in order.

* `Node`, `Enumerator`, `EnumItem`, `Shape`: the tree;
* `Node.declarations`: the declarations of a tree in order, without those inside another one;
* `Node.typedefs`: the type definitions of a tree in order, without those inside another one.
-/

namespace FpgaInterface

/-- A place in a header. Lines and columns count from one. -/
structure Position where
  file : String
  line : Nat
  column : Nat
  deriving DecidableEq, Repr

def Position.isShowable (p : Position) : Bool := Text.Numeral.isShowable p.line

def Position.text (p : Position) : String :=
  p.file ++ ":" ++ Text.decimal p.line ++ ":" ++ Text.decimal p.column

/-- The shape of a branch. -/
inductive Shape where
  | binary
  | conditional
  | assignment
  | cast
  | call
  | index
  | member
  | designated
  | compoundLiteral
  /-- A choice by the type of an expression. -/
  | selection
  | sequence
  | block
  /-- A type, a declarator or a list of parameters. -/
  | type
  | function
  /-- A statement other than a block. -/
  | statement
  | file
  deriving DecidableEq, Repr

def Shape.name : Shape → String
  | binary => "BinaryOp"
  | conditional => "TernaryOp"
  | assignment => "Assignment"
  | cast => "Cast"
  | call => "FuncCall"
  | index => "ArrayRef"
  | member => "StructRef"
  | designated => "NamedInitializer"
  | compoundLiteral => "CompoundLiteral"
  | selection => "GenericSelection"
  | sequence => "ExprList"
  | block => "Compound"
  | type => "TypeDecl"
  | function => "FuncDef"
  | statement => "Statement"
  | file => "FileAST"

mutual

/-- A node of a syntax tree. -/
inductive Node where
  /-- A literal with its type. -/
  | constant (type spelling : String) (pos : Option Position)
  | ident (name : String) (pos : Option Position)
  | unary (op : String) (arg : Node) (pos : Option Position)
  | initList (items : List Node) (pos : Option Position)
  | enum (tag : Option String) (body : Option (List EnumItem))
  /-- A declared object or function, with the qualifiers of its specifiers. -/
  | decl (name : Option String) (quals : List String) (type : Node) (init bits : Option Node)
  | typedef (name : String) (type : Node)
  | branch (shape : Shape) (parts : List Node) (pos : Option Position)

/-- A named constant of an enumeration. -/
inductive Enumerator where
  | mk (name : String) (value : Option Node) (pos : Option Position)

/-- What stands in the body of an enumeration. -/
inductive EnumItem where
  | enumerator (e : Enumerator)
  | pragma

end

instance : Inhabited Node := ⟨.branch .file [] none⟩

namespace Enumerator

def name : Enumerator → String
  | mk name _ _ => name

def value? : Enumerator → Option Node
  | mk _ value _ => value

def pos? : Enumerator → Option Position
  | mk _ _ pos => pos

end Enumerator

/-- What the extraction sees of a declaration. -/
structure Declaration where
  name : Option String
  quals : List String
  init : Option Node

/-- What the extraction sees of a type definition. -/
structure Typedef where
  name : String
  type : Node

namespace Node

def className : Node → String
  | constant .. => "Constant"
  | ident .. => "ID"
  | unary .. => "UnaryOp"
  | initList .. => "InitList"
  | enum .. => "Enum"
  | decl .. => "Decl"
  | typedef .. => "Typedef"
  | branch shape .. => shape.name

def pos? : Node → Option Position
  | constant _ _ pos | ident _ pos | unary _ _ pos | initList _ pos | branch _ _ pos => pos
  | enum .. | decl .. | typedef .. => none

/-! ## Declarations -/

mutual

/-- The declarations of a tree in order, without those inside another declaration. -/
def declarations : Node → List Declaration
  | constant .. => []
  | ident .. => []
  | unary _ arg _ => arg.declarations
  | initList items _ => declarationsOf items
  | enum _ none => []
  | enum _ (some es) => enumeratorDeclarations es
  | decl name quals _ init _ => [⟨name, quals, init⟩]
  | typedef _ type => type.declarations
  | branch _ parts _ => declarationsOf parts

def declarationsOf : List Node → List Declaration
  | [] => []
  | n :: rest => n.declarations ++ declarationsOf rest

def enumeratorDeclarations : List EnumItem → List Declaration
  | [] => []
  | .pragma :: rest => enumeratorDeclarations rest
  | .enumerator (.mk _ none _) :: rest => enumeratorDeclarations rest
  | .enumerator (.mk _ (some value) _) :: rest =>
    value.declarations ++ enumeratorDeclarations rest

end

/-! ## Type definitions -/

mutual

/-- The type definitions of a tree in order, without those inside another type definition. -/
def typedefs : Node → List Typedef
  | constant .. => []
  | ident .. => []
  | unary _ arg _ => arg.typedefs
  | initList items _ => typedefsOf items
  | enum _ none => []
  | enum _ (some es) => enumeratorTypedefs es
  | decl _ _ type init bits => type.typedefs ++ optionalTypedefs init ++ optionalTypedefs bits
  | typedef name type => [⟨name, type⟩]
  | branch _ parts _ => typedefsOf parts

def typedefsOf : List Node → List Typedef
  | [] => []
  | n :: rest => n.typedefs ++ typedefsOf rest

def optionalTypedefs : Option Node → List Typedef
  | none => []
  | some n => n.typedefs

def enumeratorTypedefs : List EnumItem → List Typedef
  | [] => []
  | .pragma :: rest => enumeratorTypedefs rest
  | .enumerator (.mk _ value _) :: rest => optionalTypedefs value ++ enumeratorTypedefs rest

end

end Node

end FpgaInterface
