import FpgaInterface.Build.Project
import FpgaInterface.Located
import FpgaInterface.Text.Shortest
import FpgaInterface.Yaml.Load

/-!
# Build files

A build file is a YAML table that names the header of a project and its options.

* `Config.ofRows`: the contents of a build file, checked;
* `loadConfig`: the project of a build file;
* `ConfigError`: why there is none.

Relative paths start in the folder of the build file.
-/

namespace FpgaInterface

/-- The contents of a build file. -/
structure Config where
  header : Path
  outputFolder : Option Path
  /-- The folder that the compiler takes for the root. -/
  sysroot : Option String
  compiler : Option String
  preprocessor : Option String
  preprocessorArguments : Option (List String)
  deriving DecidableEq, Repr

def configFields : List String :=
  ["header", "output_dir", "sysroot", "compiler", "cpp", "cpp_args"]

/-- The step to a key that is no text. -/
def keyPlace : Value → Place
  | .text s => .key s
  | .int i => if Text.Numeral.isShowable i then .number i else .key "<unprintable int object>"
  | .bool b => .number (if b then 1 else 0)
  | .real x => .key (Text.realText x)
  | .bytes bs => .key (Text.quotedBytes bs)
  | .other _ shown => .key shown
  | _ => .key "None"

namespace Config

/-- The rows whose keys are texts. -/
def arguments (rows : List (Value × Value)) : Arguments :=
  rows.filterMap fun (key, v) => match key with
    | .text s => some (s, v)
    | _ => none

/-- One violation for each row whose key names no field, in order. -/
def extraRows (rows : List (Value × Value)) : List Violation :=
  let extra := extraKeys (arguments rows) configFields
  rows.filterMap fun (key, _) => match key with
    | .text s => extra.find? fun v => v.place = [.key s]
    | key => some ⟨[keyPlace key], .keyNotText⟩

/-- The contents of a build file from the rows of its table. -/
def ofRows (rows : List (Value × Value)) : Except (List Violation) Config :=
  let args := arguments rows
  let text := Reader.optional Reader.text
  let header := required args "header" Reader.file
  let outputFolder := withDefault args "output_dir" (Reader.optional Reader.file) none
  let sysroot := withDefault args "sysroot" text none
  let compiler := withDefault args "compiler" text none
  let cpp := withDefault args "cpp" text none
  let cppArgs := withDefault args "cpp_args" (Reader.optional (Reader.list Reader.text)) none
  let extra := extraRows rows
  match header, outputFolder, sysroot, compiler, cpp, cppArgs, extra with
  | .ok header, .ok outputFolder, .ok sysroot, .ok compiler, .ok cpp, .ok cppArgs, [] =>
    .ok ⟨header, outputFolder, sysroot, compiler, cpp, cppArgs⟩
  | _, _, _, _, _, _, _ =>
    .error (violationsOf header ++ violationsOf outputFolder ++ violationsOf sysroot ++
      violationsOf compiler ++ violationsOf cpp ++ violationsOf cppArgs ++ extra)

end Config

/-- Why a build file gives no project. -/
inductive ConfigFault where
  | notFound (path : Path)
  /-- The file is no YAML document; the line is that of the fault. -/
  | notYaml (line : Option Nat)
  | notTable
  | invalid (vs : List Violation)
  | project (f : ProjectFault)
  /-- The file cannot be read, or a source of the project cannot be looked for. -/
  | file (f : FileFault)
  /-- A scalar of the document has no value. -/
  | scalar (f : Yaml.LoadFault)
  deriving DecidableEq, Repr

def ConfigFault.message : ConfigFault → String
  | notFound path => "File not found: " ++ path.text
  | notYaml line => (Yaml.LoadFault.malformed line).message
  | notTable => "Root element must be a YAML object/dictionary"
  | invalid vs => "Validation failed:\n  " ++ "\n  ".intercalate (vs.map Violation.text)
  | project f => f.message
  | file f => f.message
  | scalar f => f.message

structure ConfigError where
  path : Path
  fault : ConfigFault
  deriving DecidableEq, Repr

/-- A fault as an error that names its place. None for one of a file or of a scalar, which stands
for itself. -/
def ConfigError.located? (e : ConfigError) : Option Located :=
  match e.fault with
  | .file _ => none
  | .scalar _ => none
  | .notFound _ => some ⟨e.fault.message, none, none⟩
  | .notYaml line => some ⟨e.fault.message, some e.path, line.map fun n => (n : Int) + 1⟩
  | _ => some ⟨e.fault.message, some e.path, none⟩

def ConfigError.message (e : ConfigError) : String :=
  match e.located? with
  | some l => l.text
  | none => e.fault.message

/-- The project that the contents of a build file describe. -/
def Config.project (tree : FileTree) (folder : Path) (c : Config) :
    Except ProjectFault Project := do
  let p ← Project.ofHeader tree (folder.join c.header)
  return { p with
    sysroot := c.sysroot
    compiler := c.compiler
    preprocessor := c.preprocessor
    preprocessorArguments := c.preprocessorArguments
    outputFolder := c.outputFolder.map folder.join }

def ConfigFault.ofProject : ProjectFault → ConfigFault
  | .file f => .file f
  | f => .project f

/-- The project that the document of a build file in a folder describes. -/
def configProject (tree : FileTree) (folder : Path) (document : Except Yaml.LoadFault Value) :
    Except ConfigFault Project :=
  match document with
  | .error (.malformed line _) => .error (.notYaml line)
  | .error e => .error (.scalar e)
  | .ok (.table rows) => match Config.ofRows rows with
    | .error vs => .error (.invalid vs)
    | .ok c => (c.project tree folder).mapError .ofProject
  | .ok _ => .error .notTable

/-! ## Reading build files -/

/-- A build file is read in chunks of this many bytes. -/
def chunkSize : Nat := 8192

/-- The document of a build file whose bytes spell no text. It is read as far as is needed: a fault
of the document may come before the chunk in which the fault of the bytes shows. That one counts the
bytes from the start of the chunk. -/
def unreadable (path : Path) (bytes : List UInt8) (fault : Text.Utf8.Fault) : ConfigFault :=
  let start := fault.chunkStart chunkSize bytes
  let read := ((String.fromUTF8? ⟨(bytes.take start).toArray⟩).getD "").toList
  let read := if read.getLast? = some '\r' then read.dropLast else read
  match Yaml.load (String.ofList (FileTree.unifyBreaks read)) false with
  | .error (.malformed line _) => .notYaml line
  | .error .unread | .ok _ =>
    .file ⟨.notText { fault with position := fault.position - start }, path⟩
  | .error e => .scalar e

def loadConfig (tree : FileTree) (file : Path) : Except ConfigError Project :=
  let path := Path.resolve ⟨"/", tree.folder⟩ file
  if file.holdsNull then .error ⟨path, .file ⟨.nullCharacter, path⟩⟩
  else match tree.stands path with
    | .error f => .error ⟨path, .file f⟩
    | .ok false => .error ⟨path, .notFound path⟩
    | .ok true => match tree.find path, tree.read path with
      | .ok (.file (.binary bytes fault)), _ => .error ⟨path, unreadable path bytes fault⟩
      | _, .error f => .error ⟨path, .file f⟩
      | _, .ok text =>
        (configProject tree path.parent (Yaml.load text)).mapError (⟨path, ·⟩)

end FpgaInterface
