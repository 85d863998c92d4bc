import FpgaInterface.Header.Expression
import FpgaInterface.Header.Declarator

/-!
# Specifiers

* `Specifiers`: what stands before the declarators of a declaration;
* `enumeration`, `record`: the bodies of enumerations, structures and unions;
* `declarationSpecifiers`, `memberSpecifiers`: the specifiers of a declaration, and of a member or a
  type name, which have no storage class.

An enumerator becomes a name of the scope around its enumeration. Pragmas may stand around the
enumerators of a body.
-/

namespace FpgaInterface.Header

variable (g : Grammar)

/-- What a specifier of a type is. -/
inductive TypeClass where
  /-- A basic type or the name of a type. -/
  | basic
  /-- A structure, a union or an enumeration. -/
  | tagged
  | atomic
  deriving DecidableEq, Repr

structure TypeSpecifier where
  kind : TypeClass
  type : Node
  pos : Option Position
  quals : List String := []
  /-- It is a pointer, an array or a function, so that qualifiers beside it are its own. -/
  isDerived : Bool := false

/-- What stands before the declarators of a declaration. -/
structure Specifiers where
  quals : List String := []
  /-- The declaration defines names of types. -/
  isTypedef : Bool := false
  types : List TypeSpecifier := []
  /-- There is an alignment. -/
  isAligned : Bool := false
  pos : Option Position := none

/-- The qualifiers of the type that a declaration starts from. Those beside an atomic pointer, array
or function are not among them: they belong to that. -/
def Specifiers.baseQuals (s : Specifiers) : List String :=
  match s.types with
  | [t] => if t.isDerived then t.quals else s.quals ++ t.quals
  | _ => s.quals

def basicType : Node := .branch .type [] none

/-! ## Pragmas -/

def startsPragma : Parse Bool := nextIs fun t => t.kind = .pragma || t.is "_Pragma"

def pragma : Parse Node := do
  let t ← take
  if t.kind = .pragma then
    let _ ← acceptIf (·.kind = .pragmaText)
  else
    let _ ← expect "("
    let _ ← textLiteral g
    let _ ← expect ")"
  return .branch .statement [] none

def pragmas : Parse (List Node) := repeatWhile g.limit startsPragma (pragma g)

/-! ## Enumerations and structures -/

def enumPragmas : Parse (List EnumItem) := return (← pragmas g).map fun _ => .pragma

def enumerator : Parse (List EnumItem) := do
  let t ← expectKind .ident
  noAttributes
  let value ← if ← accept "=" then some <$> g.conditional else pure none
  declareName t.text (some t.pos)
  return .enumerator (.mk t.text value (some t.pos)) :: (← enumPragmas g)

/-- The items after an enumerator, with the comma before them and the pragmas around them. -/
def moreEnumerators (limit : Nat) : Parse (List EnumItem) :=
  match limit with
  | 0 => return []
  | n + 1 => do
    if !(← accept ",") then return []
    let before ← enumPragmas g
    if ← next "\x7d" then return before
    let item ← enumerator g
    return before ++ item ++ (← moreEnumerators n)

def enumerators : Parse (List EnumItem) := do
  let before ← enumPragmas g
  let first ← enumerator g
  let more ← moreEnumerators g g.limit
  let _ ← expect "\x7d"
  return before ++ first ++ more

def tag : Parse (Option Token) := do
  noAttributes
  acceptIf fun t => t.kind = .ident || t.kind = .typeName

/-- Fails if the type of the values of an enumeration is named here. -/
def noValueType : Parse Unit := do
  if ← next ":" then
    if ← secondIs (·.startsDeclaration) then failOn (.later .enumTypes) (← take)

def enumeration : Parse TypeSpecifier := do
  let t ← take
  let tag ← tag
  noValueType
  let body ← match tag with
    | some _ => if ← accept "\x7b" then some <$> enumerators g else pure none
    | none =>
      let _ ← expect "\x7b"
      some <$> enumerators g
  return { kind := .tagged, type := .enum (tag.map (·.text)) body, pos := some t.pos }

def members : Parse (List Node) := do
  let more : Parse Bool := nextIs fun t => !t.is "\x7d"
  let items ← repeatWhile g.limit more g.member
  let _ ← expect "\x7d"
  return items.flatten

def record : Parse TypeSpecifier := do
  let t ← take
  match ← tag with
  | some name =>
    let body ← if ← accept "\x7b" then members g else pure []
    return { kind := .tagged, type := .branch .type body none, pos := some name.pos }
  | none => match ← acceptIf (·.is "\x7b") with
    | some brace =>
      let body ← members g
      return { kind := .tagged, type := .branch .type body none, pos := some brace.pos }
    | none => failAt .record (some t.pos)

/-! ## Single specifiers -/

def alignment : Parse Unit := do
  let _ ← take
  let _ ← expect "("
  if ← nextIs (·.startsDeclaration) then discard g.typeName else discard g.conditional
  let _ ← expect ")"

def atomicType : Parse TypeSpecifier := do
  let _ ← take
  let _ ← expect "("
  let n ← g.typeName
  let _ ← expect ")"
  return ⟨.atomic, n.type, n.pos, n.quals, n.isDerived⟩

def Specifiers.withType (s : Specifiers) (t : TypeSpecifier) : Specifiers :=
  { s with types := s.types ++ [t] }

/-- The type that one specifier names, if it names one. `seen` if there was a type before it: a name
of a type is then that of a declarator. -/
def typeSpecifier (t : Token) (seen : Bool) : Parse (Option TypeSpecifier) := do
  if t.is "_Atomic" && (← secondIs (·.is "(")) then some <$> atomicType g
  else if t.isOneOf typeWords || (t.kind = .typeName && !seen) then
    let _ ← take
    return some { kind := .basic, type := basicType, pos := some t.pos }
  else if t.isOneOf ["struct", "union"] then some <$> record g
  else if t.is "enum" then some <$> enumeration g
  else return none

/-- The specifiers with one more, if there is one more. `stored` allows those that a member may not
have. -/
def specifierStep (stored : Bool) (s : Specifiers) : Parse (Option Specifiers) := do
  match ← peek with
  | none => return none
  | some t =>
    if s.pos.isSome then noAttributes
    let s := { s with pos := s.pos.or (some t.pos) }
    if t.is "_Alignas" then
      alignment g
      return some { s with isAligned := true }
    match ← typeSpecifier g t !s.types.isEmpty with
    | some type => return some (s.withType type)
    | none =>
      if t.isQualifier then
        let _ ← take
        return some { s with quals := s.quals ++ [t.text] }
      else if stored && t.isOneOf storageWords then
        let _ ← take
        return some { s with isTypedef := s.isTypedef || t.text == "typedef" }
      else if stored && t.isOneOf functionWords then
        let _ ← take
        return some s
      else return none

def declarationSpecifiers : Parse Specifiers := do
  match ← specifierStep g true {} with
  | none => failHere .declaration
  | some s => extendWhile g.limit (specifierStep g true) s

/-- The specifiers of a member or of a type name: a type or an alignment is among them. -/
def memberSpecifiers : Parse Specifiers := do
  match ← specifierStep g false {} with
  | none => failHere .specifiers
  | some s =>
    let s ← extendWhile g.limit (specifierStep g false) s
    if s.types.isEmpty && !s.isAligned then failAt .missingType s.pos
    return s

end FpgaInterface.Header
