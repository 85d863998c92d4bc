import FpgaInterface.Header.TextLiteral
import FpgaInterface.Header.TokenList

/-!
# Reading a grammar from tokens

* `ParseState`, `Parse`: a reader of tokens that looks ahead, returns to a mark and knows the names
  of the scopes around it;
* `peek`, `take`, `accept`, `expect`: looking at tokens and taking them;
* `declareType`, `declareName`, `inScope`: the names of the innermost scope;
* `Grammar`: the parts of the grammar that refer to each other, one level of nesting further down.

An identifier that names a type in the scopes around it is a type name. What it is can change
between two looks at it, when a scope ends or a name is declared.
-/

namespace FpgaInterface.Header

/-- The names of a scope, each with whether it names a type. -/
abbrev Scope := List (String × Bool)

/-- The state of a reader. -/
structure ParseState where
  /-- The scopes, innermost first. -/
  scopes : List Scope
  /-- The tokens that were not looked at. -/
  unread : List Token
  /-- How the text ends. -/
  ending : Ending
  /-- The tokens that were looked at. -/
  read : Array Token
  taken : Nat
  /-- The file of the last token that was looked at. -/
  file : String

/-- A reader of tokens. -/
abbrev Parse := StateT ParseState (Except SyntaxFault)

/-! ## Faults -/

def failAt (cause : SyntaxCause) : Option Position → Parse α
  | some p => throw (.atPosition cause p)
  | none => throw ⟨cause, .missing⟩

/-- Fails somewhere in the current file. -/
def failHere (cause : SyntaxCause) : Parse α := do throw ⟨cause, .file (← get).file⟩

def failOn (cause : SyntaxCause) (t : Token) : Parse α := failAt cause (some t.pos)

/-- Fails because of a token that was not asked for. -/
def failBefore (t : Token) : Parse α := failOn (.unexpected t.text) t

/-! ## Looking ahead -/

/-- The innermost scope that has the name says whether it names a type. -/
def namesType (scopes : List Scope) (name : String) : Bool :=
  (scopes.findSome? fun s => s.lookup name).getD false

/-- A token by what its name means in the scopes around it. -/
def classify (scopes : List Scope) (t : Token) : Token :=
  if t.kind = .ident && namesType scopes t.text then { t with kind := .typeName } else t

/-- Looks at one token more, if there is one. -/
def readOne : Parse Unit := do
  let s ← get
  match s.unread with
  | [] => match s.ending with
    | .done file => set { s with file }
    | .fault f => throw f
  | t :: unread => set { s with unread, file := t.pos.file, read := s.read.push t }

def lookAhead (n : Nat) : Parse (Option Token) := do
  let s ← get
  if s.taken + n < s.read.size then return s.read[s.taken + n]?.map (classify s.scopes)
  readOne
  let s ← get
  return s.read[s.taken + n]?.map (classify s.scopes)

def peek : Parse (Option Token) := lookAhead 0

def peekSecond : Parse (Option Token) := do
  let _ ← peek
  lookAhead 1

def nextIs (p : Token → Bool) : Parse Bool := return (← peek).any p

def secondIs (p : Token → Bool) : Parse Bool := return (← peekSecond).any p

/-- The next token is a keyword or a mark. -/
def next (text : String) : Parse Bool := nextIs (·.is text)

/-! ## Taking tokens -/

def take : Parse Token := do
  match ← peek with
  | none => failHere .endOfInput
  | some t =>
    modify fun s => { s with taken := s.taken + 1 }
    return t

def acceptIf (p : Token → Bool) : Parse (Option Token) := do
  if ← nextIs p then return some (← take) else return none

def accept (text : String) : Parse Bool := return (← acceptIf (·.is text)).isSome

def expectIf (p : Token → Bool) : Parse Token := do
  let t ← take
  if p t then return t else failBefore t

/-- Takes the next token, which must be a given keyword or mark. -/
def expect (text : String) : Parse Token := expectIf (·.is text)

def expectKind (kind : TokenClass) : Parse Token := expectIf (·.kind = kind)

def noAttributes : Parse Unit := do
  if let some t ← acceptIf (·.kind = .attributes) then failOn (.later .attributes) t

/-- A place to return to. -/
def mark : Parse Nat := return (← get).taken

def returnTo (m : Nat) : Parse Unit := modify fun s => { s with taken := m }

/-! ## Repetition -/

/-- An item as long as a test holds, at most `limit` times. -/
def repeatWhile (limit : Nat) (test : Parse Bool) (item : Parse α) : Parse (List α) :=
  match limit with
  | 0 => return []
  | n + 1 => do
    if ← test then
      let a ← item
      return a :: (← repeatWhile n test item)
    else return []

/-- Items with a mark before each. -/
def moreAfter (limit : Nat) (separator : String) (item : Parse α) : Parse (List α) :=
  repeatWhile limit (accept separator) item

/-- A value that is extended as long as there is something to extend it with, at most `limit`
times. -/
def extendWhile (limit : Nat) (step : α → Parse (Option α)) (a : α) : Parse α :=
  match limit with
  | 0 => return a
  | n + 1 => do
    match ← step a with
    | none => return a
    | some b => extendWhile n step b

/-! ## Scopes -/

/-- Gives a name of the innermost scope a meaning. -/
def bindName (name : String) (isType : Bool) : Parse Unit :=
  modify fun s => match s.scopes with
    | [] => s
    | scope :: outer => { s with scopes := ((name, isType) :: scope) :: outer }

def meaning (name : String) : Parse (Option Bool) :=
  return match (← get).scopes with
    | [] => none
    | scope :: _ => scope.lookup name

def inScope (p : Parse α) : Parse α := do
  modify fun s => { s with scopes := [] :: s.scopes }
  let a ← p
  modify fun s => { s with scopes := s.scopes.drop 1 }
  return a

def declareType (name : String) (pos : Option Position) : Parse Unit := do
  if (← meaning name) = some false then failAt (.typeNameTaken name) pos
  bindName name true

/-- Makes a name that of something else than a type. -/
def declareName (name : String) (pos : Option Position) : Parse Unit := do
  if (← meaning name) = some true then failAt (.nameTaken name) pos
  bindName name false

/-! ## Classes of tokens -/

def storageWords : List String :=
  ["auto", "register", "static", "extern", "typedef", "_Thread_local"]

def qualifierWords : List String := ["const", "restrict", "volatile", "_Atomic"]

def functionWords : List String := ["inline", "_Noreturn"]

def typeWords : List String :=
  ["void", "_Bool", "char", "short", "int", "long", "float", "double", "_Complex", "signed",
   "unsigned", "__int128"]

/-- The words that start the specifier of another type or an alignment. -/
def compoundTypeWords : List String := ["struct", "union", "enum", "_Alignas"]

/-- A token may start a declaration, attributes included. -/
def Token.startsDeclaration (t : Token) : Bool :=
  t.kind = .typeName || t.kind = .attributes ||
    t.isOneOf (storageWords ++ qualifierWords ++ functionWords ++ typeWords ++ compoundTypeWords)

def expressionWords : List String :=
  ["(", "++", "--", "+", "-", "*", "&", "~", "!", "sizeof", "_Alignof", "offsetof", "_Generic",
   "__builtin_va_arg"]

/-- The classes of tokens that are an expression by themselves. -/
def expressionClasses : List TokenClass :=
  [.ident, .integer, .real, .character, .text]

def Token.startsExpression (t : Token) : Bool :=
  expressionClasses.contains t.kind || t.isOneOf expressionWords

/-! ## Nesting -/

/-- What stands around the name of a declaration. -/
inductive Layer where
  | pointer (pos : Option Position)
  | array (sizes : List Node) (pos : Option Position)
  | function (parameters : List Node) (pos : Option Position)

/-- A declarator: the name and what stands around it, outermost first. -/
structure Declarator where
  name : Option String
  namePos : Option Position
  /-- What stands around it. -/
  layers : List Layer

def Layer.pos? : Layer → Option Position
  | pointer pos | array _ pos | function _ pos => pos

/-- Where a declarator starts: at its outermost layer, or at its name. -/
def Declarator.pos? (d : Declarator) : Option Position :=
  match d.layers with
  | [] => d.namePos
  | l :: _ => l.pos?

structure TypeName where
  type : Node
  /-- The qualifiers of the type that it starts from. -/
  quals : List String
  /-- It is a pointer, an array or a function, so that qualifiers beside it are its own. -/
  isDerived : Bool
  pos : Option Position

/-- The parts of the grammar that refer to each other, for texts nested one level less deep. -/
structure Grammar where
  /-- A bound on the number of repetitions: no text has more tokens. -/
  limit : Nat
  expression : Parse Node
  /-- An expression without commas. -/
  assignment : Parse Node
  /-- An expression without assignments. -/
  conditional : Parse Node
  /-- The operand of an operator. -/
  operand : Parse Node
  /-- The operand of an increment. -/
  unary : Parse Node
  initialiser : Parse Node
  typeName : Parse TypeName
  member : Parse (List Node)
  /-- A declarator whose name is of a class. -/
  declarator : TokenClass → Parse Declarator
  /-- A declarator without a name, or nothing. -/
  nameless : Parse (Option Declarator)
  parameters : Parse (List Node)
  statement : Parse Node
  block : Parse Node

/-- The grammar of texts without any nesting left. -/
def Grammar.none (limit : Nat) : Grammar :=
  let fail {α : Type} : Parse α := failHere .expression
  { limit, expression := fail, assignment := fail, conditional := fail, operand := fail,
    unary := fail, initialiser := fail, typeName := fail, member := fail,
    declarator := fun _ => fail, nameless := fail, parameters := fail, statement := fail,
    block := fail }

end FpgaInterface.Header
