import FpgaInterface.Header.Declaration

/-!
# Statements

Blocks, labels, choices, loops, jumps and expressions. A label need not have a statement after it;
pragmas may stand before the statement of a label, a choice or a loop.
-/

namespace FpgaInterface.Header

variable (g : Grammar)

def statementWords : List String :=
  ["\x7b", "if", "switch", "while", "do", "for", "goto", "break", "continue", "return", "case",
   "default", "_Pragma", ";"]

def Token.startsStatement (t : Token) : Bool :=
  t.kind = .pragma || t.kind = .attributes || t.isOneOf statementWords || t.startsExpression

def pragmaticStatement : Parse Node := do
  let before ← pragmas g
  let node ← g.statement
  if before.isEmpty then return node else return .branch .block (before ++ [node]) none

/-- The statement after a label, if there is one. -/
def labelled (parts : List Node) : Parse Node := do
  let _ ← expect ":"
  if ← nextIs (·.startsStatement) then
    return .branch .statement (parts ++ [← pragmaticStatement g]) none
  else return .branch .statement parts none

def condition : Parse Node := do
  let _ ← expect "("
  let node ← expression g
  let _ ← expect ")"
  return node

/-- A loop after its word `for`, with a scope of its own around all of it. -/
def forLoop : Parse Node := inScope do
  let _ ← expect "("
  let start ← if ← startsDeclaration then declaration g else
    let start ← optionalExpression g
    let _ ← expect ";"
    pure start
  let test ← optionalExpression g
  let _ ← expect ";"
  let step ← optionalExpression g
  let _ ← expect ")"
  let body ← pragmaticStatement g
  return .branch .statement (start ++ test ++ step ++ [body]) none

/-- An expression or nothing, with the semicolon after it. -/
def expressionStatement : Parse Node := do
  match ← optionalExpression g with
  | [node] =>
    let _ ← expect ";"
    return node
  | _ =>
    let _ ← expect ";"
    return .branch .statement [] none

/-- A declaration or a statement of a block. -/
def blockItem : Parse (List Node) := do
  if ← startsDeclaration then declaration g else return [← g.statement]

/-- The rest of a block after its brace, with the closing brace. -/
def blockItems : Parse (List Node) := do
  let items ← repeatWhile g.limit (nextIs fun t => !t.is "\x7d") (blockItem g)
  let _ ← expect "\x7d"
  return items.flatten

/-- A block, whose names are in a scope of their own. -/
def block : Parse Node := do
  let t ← expect "\x7b"
  return .branch .block (← inScope (blockItems g)) (some t.pos)

/-- A choice, a loop or a jump, by its first word. -/
def controlStatement (word : String) : Parse Node := do
  let _ ← take
  match word with
  | "if" =>
    let test ← condition g
    let yes ← pragmaticStatement g
    if ← accept "else" then
      return .branch .statement [test, yes, ← pragmaticStatement g] none
    else return .branch .statement [test, yes] none
  | "do" =>
    let body ← pragmaticStatement g
    let _ ← expect "while"
    let test ← condition g
    let _ ← expect ";"
    return .branch .statement [test, body] none
  | "for" => forLoop g
  | "goto" =>
    let _ ← expectKind .ident
    let _ ← expect ";"
    return .branch .statement [] none
  | "return" =>
    if ← accept ";" then return .branch .statement [] none
    let node ← expression g
    let _ ← expect ";"
    return .branch .statement [node] none
  | "switch" | "while" =>
    let test ← condition g
    return .branch .statement [test, ← pragmaticStatement g] none
  | _ =>
    let _ ← expect ";"
    return .branch .statement [] none

def controlWords : List String :=
  ["if", "switch", "while", "do", "for", "goto", "break", "continue", "return"]

def statement : Parse Node := do
  noAttributes
  match ← peek with
  | none => expressionStatement g
  | some t =>
    if t.is "case" then
      let _ ← take
      labelled g [← g.conditional]
    else if t.is "default" then
      let _ ← take
      labelled g []
    else if t.kind = .ident && (← secondIs (·.is ":")) then
      let _ ← take
      labelled g []
    else if t.is "\x7b" then g.block
    else if t.isOneOf controlWords then controlStatement g t.text
    else if t.kind = .pragma || t.is "_Pragma" then pragma g
    else expressionStatement g

end FpgaInterface.Header
