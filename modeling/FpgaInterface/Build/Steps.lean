import FpgaInterface.Build.Workspace

/-!
# Building a project

* `describeHeader`, `Project.describe`: what the header says, after preprocessing;
* `Project.render`: the generated files, not written yet;
* `Project.buildLibrary`, `Project.buildBindings`, `Project.build`: the steps that leave files.

A build reads the header and renders the module before anything is written, and the module is
written last.
-/

namespace FpgaInterface

def preprocessText (tools : Tools) (program : List String) (header : Path) (text : String) :
    Action String := do
  Action.note (.preprocess (program ++ [header.name]))
  Action.ofExcept (.preprocessor header) (tools.preprocess program text)

/-- What a header says of an interface. -/
def describeHeader (tools : Tools) (command : Option String) (arguments : Option (List String))
    (interface : String) (header : Path) : Action Description := do
  let program ← Action.ofExcept .preprocessCommand
    (preprocessCommand tools.environment command arguments)
  let text ← Action.readText header
  let text ← preprocessText tools program header (Header.parseReady text)
  Action.ofExcept .header (describeText header.text interface text)

namespace Project

def describe (tools : Tools) (p : Project) : Action Description :=
  describeHeader tools p.preprocessor p.preprocessorArguments p.interface p.header

def render (tools : Tools) (p : Project) : Action (List (String × String)) := do
  let d ← p.describe tools
  Action.ofExcept .binding (moduleFiles d p.interface)

/-- The folder for what is built: the given one, that of the project, or the current folder. -/
def resolveFolder (p : Project) (folder : Option Path) : Action Path := do
  let here := (← get).tree.folder
  return (folder.or p.outputFolder).getD ⟨"/", here⟩

def buildLibrary (tools : Tools) (p : Project) (folder : Option Path) : Action Path := do
  let folder ← p.resolveFolder folder
  Action.makeFolders folder
  let library := folder.join (Path.ofText libraryFile)
  let program ← Action.ofExcept .command (p.compileCommand tools.environment library.text)
  Action.note (.compile program)
  Action.ofExcept (.compiler program) (tools.compile program)
  return library

def writeBindings (p : Project) (files : List (String × String)) (folder : Option Path) :
    Action (List (String × Path)) := do
  Action.writeFiles files (← p.resolveFolder folder)

def buildBindings (tools : Tools) (p : Project) (folder : Option Path) :
    Action (List (String × Path)) := do
  p.writeBindings (← p.render tools) folder

/-- Builds the module and, if asked for, the library: the files by name. -/
def build (tools : Tools) (p : Project) (folder : Option Path) (withLibrary : Bool) :
    Action (List (String × Path)) := do
  let files ← p.render tools
  let library ←
    if withLibrary then do pure [(libraryFile, ← p.buildLibrary tools folder)] else pure []
  return library ++ (← p.writeBindings files folder)

end Project

end FpgaInterface
