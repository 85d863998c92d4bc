import FpgaInterface.Text.DecimalDigit

/-!
# Options of a command line

* `OptionSpec`: an option, its names and whether a value follows it;
* `Argument`, `classify`: what an argument is: options without values, one with a value, the mark
  after which no options stand, or none of these;
* `ParsedLine`, `readLine`: the options of a command line and its one other argument.

A long name may be cut short as long as it stays the only one. A value follows its option as the
next argument, after an equals sign, or right after a short name. Flags with short names may be
written together, the first one also with an equals sign after it.
-/

namespace FpgaInterface

inductive OptionKey where
  | help
  | verbose
  | config
  | output
  | sysroot
  | preprocessor
  | withLibrary
  | json
  deriving DecidableEq, Repr

structure OptionSpec where
  /-- What it is for. -/
  key : OptionKey
  names : List String
  takesValue : Bool := false
  deriving DecidableEq, Repr

/-- Why a command line says nothing to do. -/
inductive UsageFault where
  | help
  /-- It is not one that can be carried out. -/
  | wrong
  deriving DecidableEq, Repr

inductive Argument where
  | plain (s : String)
  /-- The mark after which no options stand. -/
  | endOfOptions
  /-- Options without values; `strange` if the argument looks like an option and names none. -/
  | flags (specs : List OptionSpec) (strange : Bool)
  /-- Options without values and one with a value, which may be the next argument. -/
  | valued (flags : List OptionSpec) (spec : OptionSpec) (value : Option String)
  /-- An option that cannot have a value with one, or with a name after it that is none. -/
  | malformed
  deriving DecidableEq, Repr

namespace Argument

/-! ## Classes of arguments -/

def isLong (name : String) : Bool := "--".toList.isPrefixOf name.toList

/-- The text before the first equals sign and the one after it, if there is one. -/
def splitValue (s : String) : String × Option String :=
  let cs := s.toList
  let name := cs.takeWhile (· ≠ '=')
  if name.length = cs.length then (s, none)
  else (String.ofList name, some (String.ofList (cs.drop (name.length + 1))))

/-- All names with their options. -/
def named (specs : List OptionSpec) : List (String × OptionSpec) :=
  specs.flatMap fun spec => spec.names.map fun name => (name, spec)

/-- What an option is by itself. -/
def ofName (flags : List OptionSpec) (spec : OptionSpec) : Argument :=
  if spec.takesValue then .valued flags spec none else .flags (flags ++ [spec]) false

/-- What an option is with a value that is part of the argument. The mark after which no options
stand is no value, so that it leaves the value empty. -/
def ofAssigned (flags : List OptionSpec) (spec : OptionSpec) (value : String) : Argument :=
  if spec.takesValue then .valued flags spec (some (if value = "--" then "" else value))
  else .malformed

/-- What a short name is with a text after it: the value, or more short names. -/
def ofJoined (specs : List OptionSpec) (flags : List OptionSpec) (spec : OptionSpec) :
    List Char → Argument
  | [] => ofAssigned flags spec ""
  | c :: rest =>
    if spec.takesValue then ofAssigned flags spec (String.ofList (c :: rest))
    else match (named specs).lookup (String.ofList ['-', c]) with
      | none => .malformed
      | some next =>
        if rest.isEmpty then ofName (flags ++ [spec]) next
        else ofJoined specs (flags ++ [spec]) next rest

/-- What an option with a certain name is with a text after an equals sign, if there is one. -/
def ofValue (specs : List OptionSpec) (name : String) (spec : OptionSpec) :
    Option String → Argument
  | none => ofName [] spec
  | some value =>
    if isLong name then ofAssigned [] spec value else ofJoined specs [] spec value.toList

/-- The options that an argument may mean, other than by a whole name. -/
def candidates (specs : List OptionSpec) (s : String) : List Argument :=
  if isLong s then
    let (start, value) := splitValue s
    (named specs).filterMap fun (name, spec) =>
      if start.toList.isPrefixOf name.toList then some (ofValue specs name spec value) else none
  else
    let short := String.ofList (s.toList.take 2)
    (named specs).filterMap fun (name, spec) =>
      if name = short then some (ofJoined specs [] spec (s.toList.drop 2))
      else if s.toList.isPrefixOf name.toList then some (ofName [] spec)
      else none

/-- Digits, of any script, and nothing else but a newline at the end. -/
def endsInDigits (cs : List Char) : Bool :=
  match cs with
  | [] => false
  | [c] => (Text.decimalDigit? c).isSome
  | [c, '\n'] => (Text.decimalDigit? c).isSome
  | c :: rest => (Text.decimalDigit? c).isSome && endsInDigits rest

def isNegativeNumber (s : String) : Bool :=
  match s.toList with
  | '-' :: cs =>
    endsInDigits cs ||
      match cs.dropWhile fun c => (Text.decimalDigit? c).isSome with
      | '.' :: rest => endsInDigits rest
      | _ => false
  | _ => false

/-- The option that an argument names as a whole, with the value after an equals sign. -/
def wholeName? (specs : List OptionSpec) (s : String) : Option Argument :=
  match (named specs).lookup s with
  | some spec => some (ofName [] spec)
  | none =>
    let (name, value) := splitValue s
    if value.isSome then ((named specs).lookup name).map fun spec => ofValue specs name spec value
    else none

/-- What an argument is that stands before the mark. -/
def classify (specs : List OptionSpec) (s : String) : Except UsageFault Argument :=
  if s.toList.head? ≠ some '-' || s = "-" then .ok (.plain s)
  else match wholeName? specs s with
    | some a => .ok a
    | none => match candidates specs s with
      | _ :: _ :: _ => .error .wrong
      | [a] => .ok a
      | [] =>
        if isNegativeNumber s || s.toList.contains ' ' then .ok (.plain s) else .ok (.flags [] true)

def classifyAll (specs : List OptionSpec) : List String → Except UsageFault (List Argument)
  | [] => .ok []
  | s :: rest =>
    if s = "--" then .ok (.endOfOptions :: rest.map .plain)
    else do
      let a ← classify specs s
      return a :: (← classifyAll specs rest)

end Argument

/-! ## Command lines -/

/-- What a command line says. -/
structure ParsedLine where
  /-- The options given, the last first, with their values. -/
  options : List (OptionKey × String) := []
  /-- The argument that is no option; also none can be given, by the mark alone. -/
  argument : Option (Option String) := none
  /-- An argument has no meaning. -/
  strange : Bool := false

namespace ParsedLine

def has (p : ParsedLine) (key : OptionKey) : Bool := (p.options.lookup key).isSome

/-- The value of an option; none if it was not given or is empty. -/
def value? (p : ParsedLine) (key : OptionKey) : Option String :=
  (p.options.lookup key).filter (· ≠ "")

/-- The line with options that have no values. Help is given at once. -/
def addFlags (p : ParsedLine) (specs : List OptionSpec) : Except UsageFault ParsedLine :=
  if specs.any fun spec => spec.key = .help then .error .help
  else .ok { p with options := specs.reverse.map (fun spec => (spec.key, "")) ++ p.options }

/-- The line with options that have no values and one that has. -/
def addValued (p : ParsedLine) (flags : List OptionSpec) (spec : OptionSpec) (value : String) :
    Except UsageFault ParsedLine :=
  (p.addFlags flags).map fun p => { p with options := (spec.key, value) :: p.options }

/-- The line with the argument that is no option. A second one has no meaning. -/
def setArgument (p : ParsedLine) (argument : Option String) : ParsedLine :=
  match p.argument with
  | none => { p with argument := some argument }
  | some _ => { p with strange := true }

/-- What arguments say after a line that was read. The mark belongs to the argument beside it. -/
def read : ParsedLine → List Argument → Except UsageFault ParsedLine
  | p, [] => .ok p
  | p, .plain s :: .endOfOptions :: rest =>
    if p.argument.isNone then read (p.setArgument (some s)) rest
    else read { p with strange := true } rest
  | p, .plain s :: rest => read (p.setArgument (some s)) rest
  | p, .endOfOptions :: .plain s :: rest => read (p.setArgument (some s)) rest
  | p, .endOfOptions :: rest => read (p.setArgument none) rest
  | p, .flags specs strange :: rest => do
    read { ← p.addFlags specs with strange := p.strange || strange } rest
  | p, .valued flags spec (some value) :: rest => do read (← p.addValued flags spec value) rest
  | p, .valued flags spec none :: .plain s :: rest => do read (← p.addValued flags spec s) rest
  | _, .valued _ _ none :: _ => .error .wrong
  | _, .malformed :: _ => .error .wrong

end ParsedLine

def readLine (specs : List OptionSpec) (args : List String) : Except UsageFault ParsedLine := do
  ParsedLine.read {} (← Argument.classifyAll specs args)

end FpgaInterface
