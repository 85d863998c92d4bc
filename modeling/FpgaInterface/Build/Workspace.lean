import FpgaInterface.Binding.ModuleText
import FpgaInterface.Build.Project
import FpgaInterface.Extract.Interface
import FpgaInterface.Header.Preamble

/-!
# Workspaces

What a build works on: files, and two outside programs.

* `Tools`: the answers of the preprocessor and of the compiler, whatever they are;
* `Workspace`: the files, and the calls of the outside programs so far;
* `BuildError`: why a step fails;
* `Action`: a step, which keeps what it did to the workspace also if it fails.

What the compiler writes is its own affair and does not show in the files.
-/

namespace FpgaInterface

/-! ## Outside programs -/

/-- Why the preprocessor gives no text. -/
inductive PreprocessFault where
  | notStarted (reason : String)
  | exit (status : Int)
  deriving DecidableEq, Repr

/-- Why the compiler gives no library. -/
inductive CompileFault where
  | notStarted
  | exit (status : Int)
  deriving DecidableEq, Repr

/-- The outside programs. What they write to the output of the program that starts them is left out:
the compiler shares that output, and its own lines would stand among those of a run. -/
structure Tools where
  /-- The default command, if the environment gives one. -/
  environment : Option String := none
  /-- The answer of the preprocessor to its words and the text of a file. -/
  preprocess : List String → String → Except PreprocessFault String
  /-- The answer of the compiler to its words: whether it succeeds. It has no output here. -/
  compile : List String → Except CompileFault Unit

/-- A call of an outside program, with its words. -/
inductive ToolCall where
  | preprocess (words : List String)
  | compile (words : List String)
  deriving DecidableEq, Repr

/-- The signals that end a program, by their numbers. -/
def signalNames : List (Nat × String) :=
  [(1, "SIGHUP"), (2, "SIGINT"), (3, "SIGQUIT"), (4, "SIGILL"), (5, "SIGTRAP"), (6, "SIGABRT"),
   (7, "SIGBUS"), (8, "SIGFPE"), (9, "SIGKILL"), (10, "SIGUSR1"), (11, "SIGSEGV"),
   (12, "SIGUSR2"), (13, "SIGPIPE"), (14, "SIGALRM"), (15, "SIGTERM"), (16, "SIGSTKFLT"),
   (17, "SIGCHLD"), (18, "SIGCONT"), (19, "SIGSTOP"), (20, "SIGTSTP"), (21, "SIGTTIN"),
   (22, "SIGTTOU"), (23, "SIGURG"), (24, "SIGXCPU"), (25, "SIGXFSZ"), (26, "SIGVTALRM"),
   (27, "SIGPROF"), (28, "SIGWINCH"), (29, "SIGIO"), (30, "SIGPWR"), (31, "SIGSYS"),
   (34, "SIGRTMIN"), (64, "SIGRTMAX")]

/-- How a program ended that did not succeed. A negative status is that of a signal. -/
def statusText (status : Int) : String :=
  if 0 ≤ status then "returned non-zero exit status " ++ Text.signed "" Text.decimal status ++ "."
  else
    let signal := status.natAbs
    match signalNames.lookup signal with
    | some name => "died with <Signals." ++ name ++ ": " ++ Text.decimal signal ++ ">."
    | none => "died with unknown signal " ++ Text.decimal signal ++ "."

/-! ## Errors -/

/-- Why a step of a build fails. -/
inductive BuildError where
  | file (f : FileFault)
  | command (f : WordsFault)
  | preprocessCommand (f : PreprocessCommandFault)
  | preprocessor (header : Path) (f : PreprocessFault)
  | header (e : HeaderError)
  | binding (e : BindingError)
  | compiler (words : List String) (f : CompileFault)
  deriving DecidableEq, Repr

/-- A fault of the preprocessor as an error of the header. -/
def PreprocessFault.located (header : Path) (f : PreprocessFault) : Located :=
  let message := match f with
    | notStarted reason => "Unable to run the C preprocessor: " ++ reason
    | exit status =>
      "C preprocessor failed (exit " ++ Text.signed "" Text.decimal status ++ ")"
  ⟨message, some header, none⟩

def CompileFault.message (words : List String) : CompileFault → String
  | notStarted => FileFaultKind.missing.message (words.head?.getD "")
  | exit status => "Command '" ++ Text.quotedList words ++ "' " ++ statusText status

def BuildError.message : BuildError → String
  | file f => f.message
  | command f => f.message
  | preprocessCommand f => f.message
  | preprocessor source f => (f.located source).text
  | header e => e.message
  | binding e => e.message
  | compiler words f => f.message words

/-! ## Steps -/

/-- The files, and the calls of the outside programs so far. -/
structure Workspace where
  tree : FileTree
  calls : List ToolCall := []

/-- A step of a build. -/
abbrev Action := ExceptT BuildError (StateM Workspace)

namespace Action

/-- A step that only computes. -/
def ofExcept (wrap : ε → BuildError) (e : Except ε α) : Action α :=
  match e with
  | .ok a => pure a
  | .error e => throw (wrap e)

def readText (p : Path) : Action String := do
  ofExcept .file ((← get).tree.read p)

def writeText (p : Path) (text : String) : Action Unit := do
  let tree ← ofExcept .file ((← get).tree.write p text)
  modify fun w => { w with tree }

/-- Makes a folder and those around it, where they are not there. -/
def makeFolders (p : Path) : Action Unit := do
  let (tree, result) := (← get).tree.makeFolders p
  modify fun w => { w with tree }
  ofExcept .file result

def note (call : ToolCall) : Action Unit :=
  modify fun w => { w with calls := w.calls ++ [call] }

/-- Writes a copy of a header that can be read by itself into a folder, under its name. -/
def writeParseReady (header folder : Path) : Action Path := do
  let text ← readText header
  let copy := folder.join (Path.ofText header.name)
  writeText copy (Header.parseReady text)
  return copy

def writeFiles (files : List (String × String)) (folder : Path) :
    Action (List (String × Path)) := do
  makeFolders folder
  files.mapM fun (name, text) => do
    let file := folder.join (Path.ofText name)
    writeText file text
    return (name, file)

/-- Writes the module of an interface into a folder: the file. -/
def writeModule (d : Description) (interface : String) (folder : Path) : Action Path := do
  let files ← ofExcept .binding (moduleFiles d interface)
  discard (writeFiles files folder)
  return folder.join (Path.ofText (moduleFile interface))

end Action

end FpgaInterface
