import FpgaInterface.Command.Run

/-!
# Command line

Carries out a command line on the files of the machine.

* `Request.paths`: the paths that a request looks at;
* `look`, `store`: from the machine to a tree, and back;
* `main`: a command line.

No outside program is started here: a header is taken as it stands, and no library is compiled.
-/

namespace FpgaInterface

/-- The outside programs of a machine on which none is started. -/
def idleTools (environment : Option String) : Tools where
  environment := environment
  preprocess := fun _ text => .ok text
  compile := fun _ => .error .notStarted

/-- The paths that a request looks at, as far as a tree shows its project. -/
def Request.paths (tree : FileTree) (r : Request) : List Path :=
  let config := r.config.toList.map fun file => Path.resolve ⟨"/", tree.folder⟩ (Path.ofText file)
  match r.project tree with
  | .error _ => config
  | .ok p =>
    config ++ [p.header, Project.ownSourceBeside p.header p.interface,
      (r.folder p).join (Path.ofText (moduleFile p.interface))]

/-- What stands at an absolute path of the machine. -/
def probe (path : String) : IO (Option FileEntry) := do
  match ← (IO.FS.readBinFile path).toBaseIO with
  | .ok bytes => return some (.file (Content.ofBytes bytes.toList))
  | .error (.noFileOrDirectory _ _ _) => return none
  | .error _ => return some .folder

/-- The tree with all that stands on the way along names. -/
def lookAlong (tree : FileTree) (here : List String) : List String → IO FileTree
  | [] => return tree
  | name :: rest => do
    let next := if name = ".." then here.dropLast else here ++ [name]
    match tree.entryAt? next with
    | some _ => lookAlong tree next rest
    | none => match ← probe (FileTree.key next) with
      | none => return tree
      | some .folder => lookAlong (tree.put next .folder) next rest
      | some entry => return tree.put next entry

/-- The tree with all that stands on the way to some paths. -/
def look (tree : FileTree) (paths : List Path) : IO FileTree := do
  let tree ← lookAlong tree [] tree.folder
  paths.foldlM (fun tree p => lookAlong tree (if p.isAbsolute then [] else tree.folder) p.names)
    tree

/-- Makes the folders and writes the files that are new in a tree. -/
def store (before after : FileTree) : IO Unit :=
  after.entries.entries.forM fun (path, entry) =>
    if before.entries.get? path = some entry then pure ()
    else match entry with
      | .folder => IO.FS.createDirAll path
      | .file (.text text) => IO.FS.writeFile path text
      | .file (.binary _ _) => pure ()

/-- Carries out a command line in a folder: the exit status. -/
def perform (folder : Path) (tools : Tools) (args : List String) : IO UInt32 := do
  let empty : FileTree := { entries := .empty, folder := folder.names }
  let tree ← match Request.read args with
    | .error _ => pure empty
    | .ok r => do
      let tree ← look empty (r.paths empty)
      look tree (r.paths tree)
  let (w, answer) := runLine tools args { tree }
  store tree w.tree
  match answer with
  | .ok response =>
    IO.print response.output
    IO.eprint response.errors
    return response.status.toUInt32
  | .error e =>
    IO.eprintln e.message
    return 1

end FpgaInterface

def main (args : List String) : IO UInt32 := do
  let folder := FpgaInterface.Path.ofText ((← IO.getEnv "PWD").getD "/")
  FpgaInterface.perform folder (FpgaInterface.idleTools (← IO.getEnv "CC")) args
