import FpgaInterface.Header.Specifier

/-!
# Declarations

* `Declarator.typeNode`: the type of a declarator over the type that its specifiers name;
* `declare`: the node of a declarator, whose name enters the innermost scope;
* `declaration`, `member`, `parameters`, `typeName`: the places where declarations stand.

The type of a plain name is the node that the specifiers name, so that an enumeration shows through
the definition of a type; pointers, arrays and functions stand around it.
-/

namespace FpgaInterface.Header

variable (g : Grammar)

/-! ## Types -/

def Layer.around (l : Layer) (type : Node) : Node :=
  match l with
  | pointer pos => .branch .type [type] pos
  | array sizes pos => .branch .type (type :: sizes) pos
  | function params pos => .branch .type (params ++ [type]) pos

def Declarator.typeNode (d : Declarator) (type : Node) : Node := d.layers.foldr Layer.around type

def Declarator.isFunction (d : Declarator) : Bool :=
  match d.layers with
  | .function .. :: _ => true
  | _ => false

/-- The type that some specifiers name for a declarator. Only basic types go together; a function
need not name any. -/
def baseType (types : List TypeSpecifier) (d : Declarator) : Parse Node :=
  match types with
  | [] => if d.isFunction then return basicType else failAt .missingType d.pos?
  | [t] => return t.type
  | ts => match ts.find? (·.kind ≠ .basic) with
    | some t => failAt .severalTypes t.pos
    | none => return basicType

/-! ## Declared names -/

/-- A declarator with its initialiser and its width in bits. -/
structure InitDeclarator where
  declarator : Declarator
  init : Option Node := none
  bits : Option Node := none

def declarationNode (s : Specifiers) (d : InitDeclarator) : Parse Node := do
  let type := d.declarator.typeNode (← baseType s.types d.declarator)
  match s.isTypedef, d.declarator.name with
  | true, some name => return .typedef name type
  | _, name => return .decl name s.baseQuals type d.init d.bits

/-- The node of a declarator, whose name enters the innermost scope. -/
def declare (s : Specifiers) (d : InitDeclarator) : Parse Node := do
  let node ← declarationNode s d
  match d.declarator.name with
  | none => return node
  | some name =>
    if s.isTypedef then declareType name d.declarator.pos? else declareName name d.declarator.pos?
    return node

def failUndeclared (s : Specifiers) : Parse α :=
  match s.types.head? with
  | some t => failAt .declaration t.pos
  | none => throw ⟨.declaration, .unknown⟩

/-- The node of specifiers without a declarator: those of a structure, a union or an enumeration. -/
def declareTag (s : Specifiers) : Parse (List Node) :=
  match s.types with
  | [t] =>
    if t.kind = .tagged then return [.decl none s.quals t.type none none] else failUndeclared s
  | _ => failUndeclared s

/-! ## Declarations of objects and types -/

/-- A declarator of an object or a type. -/
def namedDeclarator : Parse Declarator := do
  return (← anyDeclarator g false).getD ⟨none, none, []⟩

def withInitialiser (d : Declarator) : Parse InitDeclarator := do
  if ← accept "=" then return ⟨d, some (← initialiser g), none⟩ else return ⟨d, none, none⟩

def moreDeclarators (item : Parse Declarator) : Parse (List InitDeclarator) :=
  moreAfter g.limit "," do withInitialiser g (← item)

/-- The declarations that specifiers give, with their declarators. -/
def declarationsOf (s : Specifiers) : Parse (List Node) := do
  let typed := !s.types.isEmpty
  let item := if typed then namedDeclarator g else declaratorOf g .ident
  if ← (if typed then startsDeclarator else startsNameDeclarator) then
    let first ← withInitialiser g (← item)
    let more ← moreDeclarators g item
    (first :: more).mapM (declare s)
  else declareTag s

def endDeclaration : Parse (List Node) := do
  let nodes ← pragmas g
  let _ ← expect ";"
  return nodes

def staticAssertion : Parse Node := do
  let _ ← take
  let _ ← expect "("
  let test ← g.conditional
  if ← accept "," then
    let _ ← textLiteral g
  let _ ← expect ")"
  let _ ← expect ";"
  return .branch .statement [test] none

def startsDeclaration : Parse Bool := nextIs fun t => t.startsDeclaration || t.is "_Static_assert"

/-- A declaration or a static assertion. -/
def declaration : Parse (List Node) := do
  noAttributes
  if ← next "_Static_assert" then return [← staticAssertion g]
  let nodes ← declarationsOf g (← declarationSpecifiers g)
  return nodes ++ (← endDeclaration g)

/-! ## Members -/

/-- A declarator of a member, which may have a width in bits and no name then. -/
def memberDeclarator : Parse InitDeclarator := do
  if ← accept ":" then return ⟨⟨none, none, []⟩, none, some (← g.conditional)⟩
  let d ← namedDeclarator g
  if ← accept ":" then return ⟨d, none, some (← g.conditional)⟩ else return ⟨d, none, none⟩

/-- The members that one declaration of a structure gives. -/
def member : Parse (List Node) := do
  noAttributes
  if ← accept ";" then return []
  if ← startsPragma then return [← pragma g]
  if ← next "_Static_assert" then return [← staticAssertion g]
  let s ← memberSpecifiers g
  if (← startsDeclarator) || (← next ":") then
    let first ← memberDeclarator g
    let more ← moreAfter g.limit "," (memberDeclarator g)
    let nodes ← (first :: more).mapM (declarationNode s)
    return nodes ++ (← endDeclaration g)
  else match s.types with
    | [t] => return .decl none s.quals t.type none none :: (← endDeclaration g)
    | _ => failUndeclared s

/-! ## Parameters and type names -/

/-- A type with a declarator that may be missing and has no name. -/
def namelessType (s : Specifiers) (d : Option Declarator) : Parse Node := do
  let d := d.getD ⟨none, none, []⟩
  let type ← baseType s.types d
  return .branch .type [d.typeNode type] s.pos

/-- The specifiers, with an integer for the type if there is none. -/
def Specifiers.withDefault (s : Specifiers) : Specifiers :=
  if s.types.isEmpty then s.withType { kind := .basic, type := basicType, pos := s.pos } else s

/-- A parameter. One without a type is an integer; none defines a type. -/
def parameter : Parse Node := do
  noAttributes
  let s := (← declarationSpecifiers g).withDefault
  if s.isTypedef then failAt .parameterStorage s.pos
  let d ← if ← startsDeclarator then anyDeclarator g true else namelessDeclarator g
  match d with
  | some ⟨some name, pos, layers⟩ => declarationNode s ⟨⟨some name, pos, layers⟩, none, none⟩
  | d => namelessType s d

/-- The parameters of a function, with an ellipsis at the end or without. -/
def parameters : Parse (List Node) := do
  if let some t ← acceptIf (·.is "...") then failOn (.later .ellipsisOnly) t
  let first ← parameter g
  let more : Parse Bool := do
    if (← next ",") && !(← secondIs (·.is "...")) then accept "," else return false
  let rest ← repeatWhile g.limit more (parameter g)
  if (← next ",") && (← secondIs (·.is "...")) then
    let _ ← take
    let _ ← take
  return first :: rest

/-- The name of a type: specifiers and a declarator without a name. -/
def typeName : Parse TypeName := do
  let s ← memberSpecifiers g
  let d := (← namelessDeclarator g).getD ⟨none, none, []⟩
  let type := d.typeNode (← baseType s.types d)
  return {
    type
    quals := s.baseQuals
    isDerived := !d.layers.isEmpty || s.types.any (·.isDerived)
    pos := d.pos?.or (s.types.head?.bind (·.pos)) }

end FpgaInterface.Header
