import FpgaInterface.Build.Config
import FpgaInterface.Build.Steps
import FpgaInterface.Command.Request
import FpgaInterface.Yaml.Listing

/-!
# Carrying out a request

* `Request.project`: the project that a request works on;
* `Request.run`: a request, with what it prints and its exit status;
* `runLine`: a whole command line.

A request that fails says so and has status one; a command line that cannot be carried out has
status two. A few faults are not expected: the program stops with them.
-/

namespace FpgaInterface

/-! ## Errors -/

/-- Why a request fails. -/
inductive RequestError where
  | config (e : ConfigError)
  | project (f : ProjectFault)
  | build (e : BuildError)
  deriving DecidableEq, Repr

def RequestError.message : RequestError → String
  | config e => e.message
  | project f => f.message
  | build e => e.message

/-- A fault of a scalar that is not expected. -/
def Yaml.LoadFault.isUnexpected : Yaml.LoadFault → Bool
  | noCharacter code => 0x80000000 ≤ code
  | emptyNumber => true
  | tooManyParts => true
  | badBoolean _ => true
  | badTimestamp => true
  | notScalar => true
  | endless => true
  | _ => false

/-- A fault of a header that is not expected. -/
def HeaderError.isUnexpected : HeaderError → Bool
  | constant .pragma => true
  | _ => false

/-- An error with which the program stops. -/
def RequestError.isUnexpected : RequestError → Bool
  | config ⟨_, .scalar f⟩ => f.isUnexpected
  | build (.header e) => e.isUnexpected
  | _ => false

/-! ## Output -/

/-- What a program leaves when it ends. -/
structure Response where
  status : Nat
  /-- What it prints itself. That the output cannot take a character, because of its encoding, is left
  out, and so is what the compiler prints. -/
  output : String := ""
  /-- What it prints as errors. -/
  errors : String := ""
  deriving DecidableEq, Repr

def failureObject (message : String) : String :=
  "\x7b\"success\": false, \"error\": " ++ Text.asciiLiteral message ++ "\x7d"

/-- The JSON object of a success, with the files by name. -/
def successObject (files : List (String × Path)) : String :=
  let row := fun (file : String × Path) =>
    Text.asciiLiteral file.1 ++ ": " ++ Text.asciiLiteral file.2.text
  "\x7b\"success\": true, \"files\": \x7b" ++ ", ".intercalate (files.map row) ++
    "\x7d, \"count\": " ++ Text.decimal files.length ++ "\x7d"

def successLines (folder : String) (files : List (String × Path)) : String :=
  "Generated " ++ Text.decimal files.length ++ " files to: " ++ folder ++ "\n" ++
    String.join (files.map fun file => "  " ++ file.1 ++ "\n")

/-- What a failed request leaves. -/
def Response.failure (json : Bool) (e : RequestError) : Response :=
  if json then { status := 1, output := failureObject e.message ++ "\n" }
  else { status := 1, errors := "Error: " ++ e.message ++ "\n" }

/-! ## Requests -/

def Project.view (tools : Tools) (p : Project) : Action Response := do
  let d ← p.describe tools
  return { status := 0, output := (d.listing (some p.interface)).text }

namespace Request

/-- The project that a request works on: that of the build file if one is given, else that of the
header. Options of the command line come before those of the build file. -/
def project (tree : FileTree) (r : Request) : Except RequestError Project := do
  let p ← match r.config with
    | some file => (loadConfig tree (Path.ofText file)).mapError .config
    | none => (Project.ofHeader tree (Path.ofText (r.header.getD ""))).mapError .project
  return { p with
    sysroot := r.sysroot.or p.sysroot
    preprocessor := r.preprocessor.or p.preprocessor }

/-- The folder for what is built: that of the request, that of the project, or the one of the
header. -/
def folder (r : Request) (p : Project) : Path :=
  (r.output.map Path.ofText).getD (p.outputFolder.getD p.header.parent)

/-- The folder for what is built as messages show it: one that the request names as it does. -/
def folderText (r : Request) (p : Project) : String :=
  r.output.getD (p.outputFolder.getD p.header.parent).text

/-- Generates the module and, if asked for, the library. -/
def generate (tools : Tools) (r : Request) (p : Project) : Action Response := do
  let files ← p.build tools (some (r.folder p)) r.withLibrary
  return { status := 0, output :=
    if r.json then successObject files ++ "\n" else successLines (r.folderText p) files }

def action (tools : Tools) (r : Request) (p : Project) : Action Response :=
  match r.task with
  | .generate => r.generate tools p
  | .inspect => p.view tools

/-- What a request leaves: the files and calls, and what it prints unless the program stops. -/
def run (tools : Tools) (r : Request) (w : Workspace) : Workspace × Except RequestError Response :=
  let ended := fun (e : RequestError) =>
    if e.isUnexpected then .error e else .ok (Response.failure r.json e)
  match r.project w.tree with
  | .error e => (w, ended e)
  | .ok p => match r.action tools p w with
    | (.error e, w) => (w, ended (.build e))
    | (.ok response, w) => (w, .ok response)

end Request

/-- What a command line leaves. -/
def runLine (tools : Tools) (args : List String) (w : Workspace) :
    Workspace × Except RequestError Response :=
  match Request.read args with
  | .error .help => (w, .ok { status := 0 })
  | .error .wrong => (w, .ok { status := 2 })
  | .ok r => r.run tools w

end FpgaInterface
