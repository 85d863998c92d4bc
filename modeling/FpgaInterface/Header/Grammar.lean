import FpgaInterface.Header.Statement

/-!
# Headers

* `Grammar.nested`: the grammar of texts that may be nested one level deeper;
* `externalDeclaration`: what may stand at the level of a file;
* `parse`: the syntax tree of a text.

Each use of a nested part comes after a token that its level takes, so the nesting of a text is less
deep than it has tokens.
-/

namespace FpgaInterface.Header

/-! ## Nesting -/

def Grammar.nested (g : Grammar) : Grammar where
  limit := g.limit
  expression := Header.expression g
  assignment := assignmentExpression g
  conditional := conditionalExpression g
  operand := castExpression g
  unary := unaryExpression g
  initialiser := Header.initialiser g
  typeName := Header.typeName g
  member := Header.member g
  declarator := declaratorOf g
  nameless := namelessDeclarator g
  parameters := Header.parameters g
  statement := Header.statement g
  block := Header.block g

/-- The grammar with some levels of nesting more. -/
def Grammar.deep : Nat → Grammar → Grammar
  | 0, g => g
  | n + 1, g => Grammar.deep n g.nested

/-! ## Files -/

variable (g : Grammar)

def parameterName? : Node → Option (String × Option Position)
  | .ident name pos => some (name, pos)
  | .decl (some name) _ _ _ _ => some (name, none)
  | _ => none

def Declarator.parameters (d : Declarator) : List Node :=
  match d.layers with
  | .function params _ :: _ => params
  | _ => []

/-- The declarations of the parameters of a function, with the pragmas after each. -/
def parameterDeclarations : Parse (List Node) := do
  let items ← repeatWhile g.limit (nextIs (·.startsDeclaration)) do
    let nodes ← declaration g
    return nodes ++ (← pragmas g)
  return items.flatten

/-- The block of a function with the declarations of its parameters before it. They share a scope
with the names of the parameters. -/
def functionBody (d : Declarator) : Parse (List Node) := inScope do
  for (name, pos) in d.parameters.filterMap parameterName? do declareName name pos
  let params ← parameterDeclarations g
  if !(← next "\x7b") then failAt .function d.pos?
  let t ← take
  return .branch .block (← blockItems g) (some t.pos) :: params

/-- A function: its head, its body and the declarations of its parameters. The body comes before
the name of the function. -/
def function (s : Specifiers) (d : Declarator) : Parse (List Node) := do
  let rest ← functionBody g d
  if s.isTypedef then failAt .functionTypedef d.pos?
  let head ← declare s.withDefault ⟨d, none, none⟩
  return [.branch .function (head :: rest) none]

/-- A declaration or a function whose first declarator is known to have a name. -/
def namedDeclaration (s : Specifiers) : Parse (List Node) := do
  let d ← declaratorOf g .ident
  if (← next "\x7b") || (← nextIs (·.startsDeclaration)) then function g s d
  else
    let first ← withInitialiser g d
    let more ← moreDeclarators g (namedDeclarator g)
    let nodes ← (first :: more).mapM (declare s)
    return nodes ++ (← endDeclaration g)

/-- What may stand at the level of a file. -/
def externalDeclaration : Parse (List Node) := do
  match ← peek with
  | none => return []
  | some t =>
    noAttributes
    if t.kind = .hash then failOn .directive t
    else if t.kind = .pragma || t.is "_Pragma" then return [← pragma g]
    else if t.is ";" then
      let _ ← take
      return []
    else if t.is "_Static_assert" then return [← staticAssertion g]
    else if t.startsDeclaration then
      let s ← declarationSpecifiers g
      match ← nameAhead g with
      | (some .ident, _) => namedDeclaration g s
      | _ => return (← declarationsOf g s) ++ (← endDeclaration g)
    else
      let d ← declaratorOf g .ident
      if !(← next "\x7b") then failAt .function d.pos?
      function g {} d

/-- The declarations of a file. -/
def file : Parse Node := do
  let nodes ← repeatWhile g.limit (return (← peek).isSome) (externalDeclaration g)
  return .branch .file nodes.flatten none

/-- The syntax tree of a text that stands in a file. -/
def parse (fileName text : String) : Except SyntaxFault Node :=
  let (unread, ending) := tokens fileName text
  let limit := unread.length + 1
  let start : ParseState :=
    { scopes := [[]], unread, ending, read := #[], taken := 0, file := fileName }
  (file (Grammar.deep limit (Grammar.none limit))).run' start

end FpgaInterface.Header
