import FpgaInterface.Command.Options

/-!
# Requests

What a command line asks for: the bindings of an interface, or a view of it.

* `Request`: a task and what it works on;
* `Request.read`: the request of a command line. It names a header or a build file.

Options before the name of the task hold for all tasks, those after it for the task alone. Empty
values count as not given.
-/

namespace FpgaInterface

/-- What can be asked for. -/
inductive Task where
  | generate
  | inspect
  deriving DecidableEq, Repr

def Task.name : Task → String
  | generate => "generate"
  | inspect => "inspect"

def Task.ofName? (s : String) : Option Task := [generate, inspect].find? fun t => t.name = s

/-- What a command line asks for. -/
structure Request where
  task : Task
  verbose : Bool
  header : Option String
  config : Option String
  output : Option String
  /-- The folder that the compiler takes for the root. -/
  sysroot : Option String
  preprocessor : Option String
  /-- The library is to be built too. -/
  withLibrary : Bool
  json : Bool
  deriving DecidableEq, Repr

def helpOption : OptionSpec := { key := .help, names := ["-h", "--help"] }

def globalOptions : List OptionSpec :=
  [helpOption, { key := .verbose, names := ["--verbose", "-v"] }]

def Task.options : Task → List OptionSpec
  | generate =>
    [helpOption,
     { key := .config, names := ["--config", "-c"], takesValue := true },
     { key := .output, names := ["--output", "-o"], takesValue := true },
     { key := .sysroot, names := ["--sysroot"], takesValue := true },
     { key := .preprocessor, names := ["--cpp"], takesValue := true },
     { key := .withLibrary, names := ["--build-lib"] },
     { key := .json, names := ["--json"] }]
  | inspect =>
    [helpOption,
     { key := .config, names := ["--config", "-c"], takesValue := true },
     { key := .preprocessor, names := ["--cpp"], takesValue := true }]

namespace Request

def isOption : Argument → Bool
  | .plain _ => false
  | .endOfOptions => false
  | _ => true

def read (args : List String) : Except UsageFault Request := do
  let all ← Argument.classifyAll globalOptions args
  let front := all.takeWhile isOption
  let start ← ParsedLine.read {} front
  match all.drop front.length with
  | .plain name :: _ =>
    match Task.ofName? name with
    | none => throw .wrong
    | some task =>
      let line ← readLine task.options (args.drop (front.length + 1))
      let header := (line.argument.bind id).filter (· ≠ "")
      let config := line.value? .config
      if start.strange || line.strange || (header.isNone && config.isNone) then throw .wrong
      return {
        task, header, config
        verbose := start.has .verbose
        output := line.value? .output
        sysroot := line.value? .sysroot
        preprocessor := line.value? .preprocessor
        withLibrary := line.has .withLibrary
        json := line.has .json }
  | _ => throw .wrong

example : (read ["generate", "--out=o", "a.h"]).toOption.map (fun r => (r.output, r.header)) =
    some (some "o", some "a.h") := by decide +kernel

end Request

end FpgaInterface
