import FpgaInterface.Header.Parse

/-!
# Expressions

Constants, primary expressions, postfix and unary operators, casts, binary operators, conditionals,
assignments and initialisers. Operands of binary operators are kept side by side in their order:
what the operators bind does not show in a header.

A parenthesis that opens a type name starts a cast, or a compound literal if a brace follows it. One
that opens a block makes the block an expression.
-/

namespace FpgaInterface.Header

variable (g : Grammar)

/-! ## Constants -/

def countOf (a b : Char) (cs : List Char) : Nat := cs.countP fun c => c = a || c = b

/-- The type of an integer, by the letters among its last three characters. -/
def integerType (spelling : String) : Except SyntaxCause String :=
  let tail := (spelling.toList.reverse.take 3).reverse
  let unsigned := countOf 'u' 'U' tail
  if 1 < unsigned then .error .twiceUnsigned
  else .ok (String.join (List.replicate unsigned "unsigned ") ++
    String.join (List.replicate (countOf 'l' 'L' tail) "long ") ++ "int")

/-- The type of a number with a fraction or an exponent, by its last character. -/
def realType (spelling : String) : String :=
  match spelling.toList.getLast? with
  | some 'f' | some 'F' => "float"
  | some 'l' | some 'L' => "long double"
  | _ => "double"

def numberNode (t : Token) : Except SyntaxCause Node :=
  if t.kind = .real then
    if hasSuffix decimalSuffixes t.text then .error (.later .decimalConstants)
    else .ok (.constant (realType t.text) t.text (some t.pos))
  else if hasSuffix widthSuffixes t.text then .error (.later .bitPreciseConstants)
  else (integerType t.text).map fun type => .constant type t.text (some t.pos)

def number : Parse Node := do
  let t ← take
  match numberNode t with
  | .ok node => return node
  | .error .twiceUnsigned => throw ⟨.twiceUnsigned, .unplaced⟩
  | .error cause => failOn cause t

/-- Texts side by side. -/
def textLiteral : Parse Node := do
  let t ← take
  if t.kind ≠ .text then failOn .text t
  let more ← repeatWhile g.limit (nextIs (·.kind = .text)) take
  let all := more.foldl (fun l t => l.append (.read t.text)) (TextLiteral.read t.text)
  return .constant "string" all.spelling (some t.pos)

/-! ## Names and primary expressions -/

/-- A name that may be that of a type, or a failure for some cause. -/
def anyName (cause : SyntaxCause) : Parse Node := do
  let t ← take
  if t.kind = .ident || t.kind = .typeName then return .ident t.text (some t.pos)
  else failOn cause t

/-- A name that is no type. -/
def identifier : Parse Node := do
  let t ← expectKind .ident
  return .ident t.text (some t.pos)

/-- One step into a member: a point and a name, or an index. -/
def memberStep (node : Node) : Parse (Option Node) := do
  if ← accept "." then
    return some (.branch .member [node, ← anyName .identifier] node.pos?)
  else if ← accept "[" then
    let index ← g.expression
    let _ ← expect "]"
    return some (.branch .index [node, index] node.pos?)
  else return none

def offsetOf : Parse Node := do
  let t ← take
  let _ ← expect "("
  let type ← g.typeName
  let _ ← expect ","
  let member ← extendWhile g.limit (memberStep g) (← anyName .identifier)
  let _ ← expect ")"
  return .branch .call [type.type, member] (some t.pos)

def argumentOfType : Parse Node := do
  let t ← take
  let _ ← expect "("
  let list ← g.assignment
  let _ ← expect ","
  let type ← g.typeName
  let _ ← expect ")"
  return .branch .call [list, type.type] (some t.pos)

/-- A case of a selection: a type or the word for all others, and an expression. -/
def selectionCase : Parse (List Node) := do
  let types ← if ← accept "default" then pure [] else do pure [(← g.typeName).type]
  let _ ← expect ":"
  return types ++ [← g.assignment]

def selection : Parse Node := do
  let t ← take
  let _ ← expect "("
  let test ← g.assignment
  let _ ← expect ","
  let first ← selectionCase g
  let more ← moreAfter g.limit "," (selectionCase g)
  let _ ← expect ")"
  return .branch .selection (test :: first ++ more.flatten) (some t.pos)

/-- A name, a constant, an expression or a block in parentheses, the offset of a member, an argument
or a selection. -/
def primary : Parse Node := do
  match ← peek with
  | none => failHere .expression
  | some t =>
    match t.kind with
    | .ident => identifier
    | .integer | .real => number
    | .character =>
      let t ← take
      return .constant "char" t.text (some t.pos)
    | .text => textLiteral g
    | _ =>
      if t.is "(" then
        let _ ← take
        let node ← if ← next "\x7b" then g.block else g.expression
        let _ ← expect ")"
        return node
      else if t.is "offsetof" then offsetOf g
      else if t.is "_Generic" then selection g
      else if t.is "__builtin_va_arg" then argumentOfType g
      else failHere .expression

/-! ## Type names in parentheses -/

structure BracketedType where
  type : Node
  bracket : Token
  /-- The place before the parenthesis. -/
  start : Nat

/-- The words of storage classes that a compound literal may have in a later edition. -/
def literalStorageWords : List String := ["register", "static", "_Thread_local"]

def bracketedType : Parse (Option BracketedType) := do
  let start ← mark
  match ← acceptIf (·.is "(") with
  | none => return none
  | some t =>
    if let some word ← acceptIf (·.isOneOf literalStorageWords) then
      failOn (.later .literalStorage) word
    if ← nextIs (·.startsDeclaration) then
      let type ← g.typeName
      if ← accept ")" then return some ⟨type.type, t, start⟩
    returnTo start
    return none

/-! ## Operators -/

def arguments : Parse (List Node) := do
  let first ← g.assignment
  return first :: (← moreAfter g.limit "," g.assignment)

def postfixStep (node : Node) : Parse (Option Node) := do
  if ← accept "[" then
    let index ← g.expression
    let _ ← expect "]"
    return some (.branch .index [node, index] node.pos?)
  else if ← accept "(" then
    if ← accept ")" then return some (.branch .call [node] node.pos?)
    let args ← arguments g
    let _ ← expect ")"
    return some (.branch .call (node :: args) node.pos?)
  else if ← nextIs (·.isOneOf [".", "->"]) then
    let _ ← take
    return some (.branch .member [node, ← anyName .member] node.pos?)
  else if ← nextIs (·.isOneOf ["++", "--"]) then
    let t ← take
    return some (.unary ("p" ++ t.text) node node.pos?)
  else return none

/-- An initialiser list after its brace, with the closing brace. An empty one stands at its brace,
another one at its first item. A designated item comes before its designators. -/
def initialiserItems (brace : Token) : Parse Node := do
  if ← accept "\x7d" then return .initList [] (some brace.pos)
  let item : Parse Node := do
    if ← nextIs (·.isOneOf ["[", "."]) then
      let designators ← repeatWhile g.limit (nextIs (·.isOneOf ["[", "."])) do
        if ← accept "[" then
          let index ← g.conditional
          let _ ← expect "]"
          return index
        else
          let _ ← take
          anyName .identifier
      let _ ← expect "="
      return .branch .designated ((← g.initialiser) :: designators) none
    else g.initialiser
  let first ← item
  let more : Parse Bool := do
    if ← accept "," then return !(← next "\x7d") else return false
  let items ← repeatWhile g.limit more item
  let _ ← expect "\x7d"
  return .initList (first :: items) first.pos?

/-- A compound literal after the type in parentheses and the brace. -/
def compoundLiteral (b : BracketedType) (brace : Token) : Parse Node := do
  let items ← initialiserItems g brace
  return .branch .compoundLiteral [b.type, items] (some b.bracket.pos)

def withPostfixes : Parse Node := do
  let base ← do
    match ← bracketedType g with
    | none => primary g
    | some b => match ← acceptIf (·.is "\x7b") with
      | some brace => compoundLiteral g b brace
      | none =>
        returnTo b.start
        primary g
  extendWhile g.limit (postfixStep g) base

def unaryExpression : Parse Node := do
  if ← nextIs (·.isOneOf ["++", "--"]) then
    let t ← take
    let node ← g.unary
    return .unary t.text node node.pos?
  else if ← nextIs (·.isOneOf ["&", "*", "+", "-", "~", "!"]) then
    let t ← take
    let node ← g.operand
    return .unary t.text node node.pos?
  else if ← next "sizeof" then
    let t ← take
    let node ← do
      match ← bracketedType g with
      | none => g.unary
      | some b =>
        if ← next "\x7b" then
          returnTo b.start
          g.unary
        else pure b.type
    return .unary t.text node (some t.pos)
  else if ← next "_Alignof" then
    let t ← take
    let _ ← expect "("
    let type ← g.typeName
    let _ ← expect ")"
    return .unary t.text type.type (some t.pos)
  else withPostfixes g

def castExpression : Parse Node := do
  match ← bracketedType g with
  | some b =>
    if ← next "\x7b" then returnTo b.start
    else
      let node ← g.operand
      return .branch .cast [b.type, node] (some b.bracket.pos)
  | none => pure ()
  unaryExpression g

def binaryOperators : List String :=
  ["||", "&&", "|", "^", "&", "==", "!=", "<", "<=", ">", ">=", "<<", ">>", "+", "-", "*", "/", "%"]

def binaryExpression : Parse Node := do
  let first ← castExpression g
  let more ← repeatWhile g.limit (return (← acceptIf (·.isOneOf binaryOperators)).isSome)
    (castExpression g)
  if more.isEmpty then return first
  else return .branch .binary (first :: more) first.pos?

/-- A binary expression, or the choice between two expressions by it. -/
def conditionalExpression : Parse Node := do
  let test ← binaryExpression g
  if ← accept "?" then
    let yes ← g.expression
    let _ ← expect ":"
    let no ← g.conditional
    return .branch .conditional [test, yes, no] test.pos?
  else return test

def assignmentOperators : List String :=
  ["=", "^=", "*=", "/=", "%=", "+=", "-=", "<<=", ">>=", "&=", "|="]

def assignmentExpression : Parse Node := do
  let node ← conditionalExpression g
  match ← acceptIf (·.isOneOf assignmentOperators) with
  | some _ => return .branch .assignment [node, ← g.assignment] node.pos?
  | none => return node

/-- An expression with commas. -/
def expression : Parse Node := do
  let first ← assignmentExpression g
  let more ← moreAfter g.limit "," (assignmentExpression g)
  if more.isEmpty then return first
  else return .branch .sequence (first :: more) first.pos?

def optionalExpression : Parse (List Node) := do
  if ← nextIs (·.startsExpression) then return [← expression g] else return []

/-- An expression, or a list of initialisers in braces. -/
def initialiser : Parse Node := do
  match ← acceptIf (·.is "\x7b") with
  | none => assignmentExpression g
  | some t => initialiserItems g t

end FpgaInterface.Header
