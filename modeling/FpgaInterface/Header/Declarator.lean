import FpgaInterface.Header.Parse

/-!
# Declarators

* `nameAhead`: the class of the name that a declarator will declare, found by looking ahead;
* `declaratorOf`: a declarator whose name is of a class;
* `namelessDeclarator`: a declarator without a name;
* `anyDeclarator`: the one or the other, as what lies ahead asks for.

A declarator lists what stands around its name, outermost first: the pointers of a declarator come
after its arrays and functions, the last star first.
-/

namespace FpgaInterface.Header

variable (g : Grammar)

def Token.isQualifier (t : Token) : Bool := t.isOneOf qualifierWords

def qualifiers : Parse (List Token) := repeatWhile g.limit (nextIs (·.isQualifier)) take

/-! ## Looking ahead -/

/-- Skips to the parenthesis that closes `depth` open ones; false at the end of the text. Attributes
on the way are refused. -/
def skipBrackets (limit depth : Nat) : Parse Bool :=
  match limit with
  | 0 => return false
  | n + 1 => do
    match ← peek with
    | none => return false
    | some _ =>
      noAttributes
      let t ← take
      if t.is "(" then skipBrackets n (depth + 1)
      else if t.is ")" then
        match depth with
        | 0 | 1 => return true
        | d + 1 => skipBrackets n d
      else skipBrackets n depth

/-- Skips to the name of a declarator: its class, if there is one, and whether a parenthesis stands
before it. -/
def skipToName (limit : Nat) : Parse (Option TokenClass × Bool) :=
  match limit with
  | 0 => return (none, false)
  | n + 1 => do
    let _ ← repeatWhile g.limit (accept "*") do
      noAttributes
      let _ ← qualifiers g
    match ← peek with
    | none => return (none, false)
    | some t =>
      if t.kind = .ident || t.kind = .typeName then
        let _ ← take
        return (some t.kind, false)
      else if t.is "(" then
        let _ ← take
        let (kind, _) ← skipToName n
        if ← skipBrackets g.limit 1 then return (kind, true) else return (none, true)
      else return (none, false)

/-- The class of the name that a declarator declares, if there is one, and whether a parenthesis
stands before it. -/
def nameAhead : Parse (Option TokenClass × Bool) := do
  let start ← mark
  let ahead ← skipToName g g.limit
  returnTo start
  return ahead

def startsDeclarator : Parse Bool :=
  nextIs fun t => t.isOneOf ["*", "("] || t.kind = .ident || t.kind = .typeName

/-- A declarator of a name that is no type may start here. -/
def startsNameDeclarator : Parse Bool := nextIs fun t => t.isOneOf ["*", "("] || t.kind = .ident

/-! ## Layers -/

/-- Pointers, the last star first. -/
def pointers : Parse (List Layer) := do
  let stars ← repeatWhile g.limit (nextIs (·.is "*")) do
    let t ← take
    noAttributes
    let _ ← qualifiers g
    return Layer.pointer (some t.pos)
  return stars.reverse

/-- The size of an array, if it is given, with the closing bracket. -/
def arraySize : Parse (List Node) := do
  let size : Parse (List Node) := do
    let node ← g.assignment
    let _ ← expect "]"
    return [node]
  if ← accept "static" then
    let _ ← qualifiers g
    size
  else
    let quals ← qualifiers g
    let static ← if quals.isEmpty then pure false else accept "static"
    if static then size
    else
      match ← acceptIf (·.is "*") with
      | some t =>
        let _ ← expect "]"
        return [.ident t.text (some t.pos)]
      | none =>
        if ← nextIs (·.startsExpression) then size
        else
          let _ ← expect "]"
          return []

def parameterNames : Parse (List Node) := do
  let item : Parse Node := do
    let t ← expectKind .ident
    return .ident t.text (some t.pos)
  if ← nextIs (·.kind = .ident) then
    let first ← item
    return first :: (← moreAfter g.limit "," item)
  else return []

def startsParameters : Parse Bool :=
  nextIs fun t => t.startsDeclaration || t.kind = .attributes || t.is "..."

def functionParameters : Parse (List Node) := do
  if ← accept ")" then return []
  let params ← if ← startsParameters then g.parameters else parameterNames g
  let _ ← expect ")"
  return params

/-- A declarator with a layer inside those around it already, after which attributes are refused. -/
def Declarator.withLayer (d : Declarator) (l : Layer) : Parse Declarator := do
  noAttributes
  return { d with layers := d.layers ++ [l] }

/-- One array or function around a declarator, inside what stands around it already. -/
def suffixStep (d : Declarator) : Parse (Option Declarator) := do
  if ← accept "[" then
    return some (← d.withLayer (.array (← arraySize g) d.pos?))
  else if ← accept "(" then
    return some (← d.withLayer (.function (← functionParameters g) d.pos?))
  else return none

/-! ## Declarators -/

/-- A declarator whose name is of a class; its name may stand in parentheses if `nested`. -/
def directDeclarator (nested : Bool) (kind : TokenClass) : Parse Declarator := do
  let stars ← pointers g
  let inner ← do
    let opened ← if nested then accept "(" else pure false
    if opened then
      let d ← g.declarator kind
      let _ ← expect ")"
      pure d
    else
      let t ← expectKind kind
      noAttributes
      pure ⟨some t.text, some t.pos, []⟩
  let d ← extendWhile g.limit (suffixStep g) inner
  return { d with layers := d.layers ++ stars }

def declaratorOf (kind : TokenClass) : Parse Declarator := directDeclarator g true kind

def namelessParameters : Parse (List Node) := do
  let params ← if ← next ")" then pure [] else g.parameters
  let _ ← expect ")"
  return params

def namelessStep (d : Declarator) : Parse (Option Declarator) := do
  match ← acceptIf (·.is "[") with
  | some t => return some (← d.withLayer (.array (← arraySize g) (some t.pos)))
  | none =>
    if ← accept "(" then
      return some (← d.withLayer (.function (← functionParameters g) d.pos?))
    else return none

/-- An array, a function or a declarator in parentheses, without a name. -/
def namelessBase : Parse Declarator := do
  match ← acceptIf (·.is "(") with
  | some t =>
    if (← startsParameters) || (← next ")") then
      let params ← namelessParameters g
      Declarator.withLayer ⟨none, none, []⟩ (.function params (some t.pos))
    else
      let d ← g.nameless
      let _ ← expect ")"
      return d.getD ⟨none, none, []⟩
  | none =>
    let t ← expect "["
    Declarator.withLayer ⟨none, none, []⟩ (.array (← arraySize g) (some t.pos))

def namelessDeclarator : Parse (Option Declarator) := do
  let stars ← pointers g
  if ← nextIs (·.isOneOf ["(", "["]) then
    let d ← extendWhile g.limit (namelessStep g) (← namelessBase g)
    return some { d with layers := d.layers ++ stars }
  else if stars.isEmpty then return none
  else return some ⟨none, none, stars⟩

/-- A declarator of a parameter or of an object. A parameter need not have a name, and a type name
in parentheses is its type. -/
def anyDeclarator (parameter : Bool) : Parse (Option Declarator) := do
  let (kind, bracketed) ← nameAhead g
  match kind with
  | none =>
    if parameter then namelessDeclarator g
    else match ← peek with
      | some t => failAt .declarator (some t.pos)
      | none => failHere .declarator
  | some kind =>
    if parameter && kind = .typeName && bracketed then namelessDeclarator g
    else if parameter && kind = .typeName then some <$> directDeclarator g false kind
    else some <$> declaratorOf g kind

end FpgaInterface.Header
