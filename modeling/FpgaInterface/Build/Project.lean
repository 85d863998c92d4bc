import FpgaInterface.Command.Words
import FpgaInterface.Element.TypeName
import FpgaInterface.Files.Tree
import FpgaInterface.Validation

/-!
# Projects

A project is what belongs to one interface header: the sources beside it and the options with which
they are built.

* `Project`, `Project.ofHeader`: the project of a header;
* `Project.ofArguments`, `Project.set`: options from values of any type, checked;
* `Project.compileCommand`, `Project.preprocessCommand`: the commands of the outside programs.
-/

namespace FpgaInterface

/-- The files and options of one interface. -/
structure Project where
  interface : String
  header : Path
  /-- The source that all interfaces share. -/
  commonSource : Path
  /-- The source of the interface, if it has one. -/
  ownSource : Option Path := none
  /-- The folder that the compiler takes for the root. -/
  sysroot : Option String := none
  compiler : Option String := none
  preprocessor : Option String := none
  /-- The arguments with which the preprocessor does nothing else. -/
  preprocessorArguments : Option (List String) := none
  outputFolder : Option Path := none
  deriving DecidableEq, Repr

def projectFields : List String :=
  ["interface_name", "custom_h", "common_c", "custom_c", "sysroot", "compiler", "cpp", "cpp_args",
   "output_dir"]

/-- Why a header or its options make no project. -/
inductive ProjectFault where
  /-- The file is not named like an interface header. -/
  | notInterfaceHeader (name : String)
  | headerTwice
  /-- An option gives what the header decides. -/
  | givenTwice (field : String)
  | invalid (vs : List Violation)
  /-- A source cannot be looked for. -/
  | file (f : FileFault)
  deriving DecidableEq, Repr

/-- The first word of the name of every file, and the mark after it. -/
def headerStart : String := vendorWord ++ "_"

def ProjectFault.message : ProjectFault → String
  | notInterfaceHeader name =>
    "'" ++ name ++ "' is not a " ++ headerStart ++ "<name>.h interface header"
  | headerTwice => "FpgaCInterface.from_custom_header() got multiple values for argument 'header'"
  | givenTwice field =>
    "nifpga_bindgen.build.FpgaCInterface() got multiple values for keyword argument " ++
      Text.quoted field
  | invalid vs => "\n".intercalate (vs.map Violation.text)
  | file f => f.message

namespace Reader

def file : Reader Path := fun v => (path v).map Path.ofText

end Reader

namespace Project

/-! ## Options -/

/-- A project from the values of its fields. Every value is checked, and every key must name a
field. -/
def ofArguments (args : Arguments) : Except (List Violation) Project :=
  let text := Reader.optional Reader.text
  let file := Reader.optional Reader.file
  let interface := required args "interface_name" Reader.text
  let header := required args "custom_h" Reader.file
  let commonSource := required args "common_c" Reader.file
  let ownSource := withDefault args "custom_c" file none
  let sysroot := withDefault args "sysroot" text none
  let compiler := withDefault args "compiler" text none
  let cpp := withDefault args "cpp" text none
  let cppArgs := withDefault args "cpp_args" (Reader.optional (Reader.list Reader.text)) none
  let outputFolder := withDefault args "output_dir" file none
  let extra := extraKeys args projectFields
  match interface, header, commonSource, ownSource, sysroot, compiler, cpp, cppArgs, outputFolder,
      extra with
  | .ok interface, .ok header, .ok commonSource, .ok ownSource, .ok sysroot, .ok compiler, .ok cpp,
    .ok cppArgs, .ok outputFolder, [] =>
    .ok ⟨interface, header, commonSource, ownSource, sysroot, compiler, cpp, cppArgs, outputFolder⟩
  | _, _, _, _, _, _, _, _, _, _ =>
    .error (violationsOf interface ++ violationsOf header ++ violationsOf commonSource ++
      violationsOf ownSource ++ violationsOf sysroot ++ violationsOf compiler ++
      violationsOf cpp ++ violationsOf cppArgs ++ violationsOf outputFolder ++ extra)

/-- What a reader reads for a field. -/
def fieldValue (name : String) (r : Reader α) (v : Value) : Except (List Violation) α :=
  (r v).mapError fun es => es.map fun e => { e with place := .key name :: e.place }

def set (p : Project) (name : String) (v : Value) : Except (List Violation) Project :=
  let text := Reader.optional Reader.text
  let file := Reader.optional Reader.file
  match name with
  | "interface_name" => (fieldValue name Reader.text v).map fun a => { p with interface := a }
  | "custom_h" => (fieldValue name Reader.file v).map fun a => { p with header := a }
  | "common_c" => (fieldValue name Reader.file v).map fun a => { p with commonSource := a }
  | "custom_c" => (fieldValue name file v).map fun a => { p with ownSource := a }
  | "sysroot" => (fieldValue name text v).map fun a => { p with sysroot := a }
  | "compiler" => (fieldValue name text v).map fun a => { p with compiler := a }
  | "cpp" => (fieldValue name text v).map fun a => { p with preprocessor := a }
  | "cpp_args" => (fieldValue name (Reader.optional (Reader.list Reader.text)) v).map fun a =>
      { p with preprocessorArguments := a }
  | "output_dir" => (fieldValue name file v).map fun a => { p with outputFolder := a }
  | _ => .error [⟨[.key name], .noAttribute name⟩]

/-! ## Headers -/

/-- The name of the interface of a header, from the name of the file. -/
def interfaceOf? (header : Path) : Option String :=
  let stem := header.stem.toList
  let start := headerStart.toList
  if start.isPrefixOf stem && start.length < stem.length then
    some (String.ofList (stem.drop start.length))
  else none

/-- Where the source of the interface of a header is looked for: beside the header. -/
def ownSourceBeside (header : Path) (interface : String) : Path :=
  header.parent.join (Path.ofText (headerStart ++ interface ++ ".c"))

/-- The project of a header, without options: the sources are those beside the header. The source
of the interface belongs to it if it is there. -/
def ofHeader (tree : FileTree) (header : Path) : Except ProjectFault Project :=
  match interfaceOf? header with
  | none => .error (.notInterfaceHeader header.name)
  | some interface =>
    let ownSource := ownSourceBeside header interface
    match tree.stands ownSource with
    | .error f => .error (.file f)
    | .ok found =>
      .ok {
        interface, header
        commonSource := header.parent.join (Path.ofText (vendorWord ++ ".c"))
        ownSource := if found then some ownSource else none }

/-- The project of a header with options that are not checked yet. -/
def ofHeaderWith (tree : FileTree) (header : Path) (options : Arguments) :
    Except ProjectFault Project := do
  if (options.lookup "header").isSome then throw .headerTwice
  let p ← ofHeader tree header
  match options.find? fun (name, _) => (projectFields.take 4).contains name with
  | some (name, _) => throw (.givenTwice name)
  | none =>
    let source := match p.ownSource with
      | some file => Value.text file.text
      | none => .null
    let own := [("interface_name", .text p.interface), ("custom_h", .text p.header.text),
      ("common_c", .text p.commonSource.text), ("custom_c", source)]
    (ofArguments (own ++ options)).mapError .invalid

/-! ## Commands -/

def sources (p : Project) : List Path := p.commonSource :: p.ownSource.toList

/-- The command that is used where none is given: the one of the environment, unless that is
empty. -/
def defaultCommand : Option String → String
  | none => "cc"
  | some command => if command = "" then "cc" else command

/-- A command, or the default if it is not given or empty. -/
def commandOr (environment command : Option String) : String :=
  match command with
  | none => defaultCommand environment
  | some command => if command = "" then defaultCommand environment else command

def libraryFile : String := "libni_fpga.so"

/-- The words that compile the sources into a file. -/
def compileCommand (p : Project) (environment : Option String) (output : String) :
    Except WordsFault (List String) := do
  let compiler ← words (commandOr environment p.compiler)
  let root := match p.sysroot with
    | none => []
    | some folder => if folder = "" then [] else ["--sysroot=" ++ folder]
  return compiler ++ ["-shared", "-fPIC"] ++ root ++ p.sources.map Path.text ++ ["-o", output]

end Project

/-- Why there is no command for the preprocessor. -/
inductive PreprocessCommandFault where
  | words (f : WordsFault)
  | empty
  deriving DecidableEq, Repr

def PreprocessCommandFault.message : PreprocessCommandFault → String
  | words f => f.message
  | empty => "Empty preprocessor command"

/-- The words that preprocess a file: those of a command and the arguments after them. -/
def preprocessCommand (environment command : Option String) (arguments : Option (List String)) :
    Except PreprocessCommandFault (List String) := do
  match ← (words (Project.commandOr environment command)).mapError .words with
  | [] => throw .empty
  | program => return program ++ arguments.getD ["-E"]

/-- The words that preprocess the header of a project. -/
def Project.preprocessCommand (p : Project) (environment : Option String) :
    Except PreprocessCommandFault (List String) :=
  FpgaInterface.preprocessCommand environment p.preprocessor p.preprocessorArguments

end FpgaInterface
