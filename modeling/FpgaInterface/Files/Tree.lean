import FpgaInterface.Files.Path
import FpgaInterface.SortedMap
import FpgaInterface.Text.Quoted
import FpgaInterface.Text.Utf8

/-!
# Files

* `FileTree`: folders and files by their absolute paths, and the folder in which relative paths
  start;
* `FileTree.stands`: something stands at a path;
* `FileTree.read`, `FileTree.write`, `FileTree.makeFolders`: what a program does with them;
* `FileFault`: why it cannot.

A path is followed name by name: every folder on the way must be there, also before a double dot,
and no name or path may be too long. Reading a text makes each line end in a newline.
-/

namespace FpgaInterface

/-- What a file holds. -/
inductive Content where
  | text (s : String)
  /-- Bytes that spell no text, with the first place that shows it. -/
  | binary (bytes : List UInt8) (fault : Text.Utf8.Fault)
  deriving DecidableEq, Repr

/-- What a file with some bytes holds. -/
def Content.ofBytes (bytes : List UInt8) : Content :=
  match Text.Utf8.fault? bytes with
  | some fault => .binary bytes fault
  | none => .text ((String.fromUTF8? ⟨bytes.toArray⟩).getD "")

inductive FileEntry where
  | folder
  | file (content : Content)
  deriving DecidableEq, Repr

/-- Why a file cannot be read or written. -/
inductive FileFaultKind where
  | missing
  | present
  | notFolder
  | isFolder
  | tooLong
  /-- The path holds the character zero, which ends a text for the system. -/
  | nullCharacter
  /-- The bytes of the file spell no text. -/
  | notText (f : Text.Utf8.Fault)
  deriving DecidableEq, Repr

structure FileFault where
  kind : FileFaultKind
  path : Path
  deriving DecidableEq, Repr

/-- The wording of a fault at the path with a text. -/
def FileFaultKind.message (path : String) : FileFaultKind → String
  | missing => "[Errno 2] No such file or directory: " ++ Text.quoted path
  | present => "[Errno 17] File exists: " ++ Text.quoted path
  | notFolder => "[Errno 20] Not a directory: " ++ Text.quoted path
  | isFolder => "[Errno 21] Is a directory: " ++ Text.quoted path
  | tooLong => "[Errno 36] File name too long: " ++ Text.quoted path
  | nullCharacter => "embedded null byte"
  | notText f => f.message

def FileFault.message (f : FileFault) : String := f.kind.message f.path.text

/-- Folders and files. There are no links and no permissions, and what is written is written as a
whole: no write fails for want of room or rights, and none stops halfway. What is stated of every tree
is stated of these. -/
structure FileTree where
  /-- What stands at each absolute path. -/
  entries : SortedMap String FileEntry
  /-- The names of the folder in which relative paths start. -/
  folder : List String

namespace FileTree

def key (names : List String) : String := "/" ++ "/".intercalate names

/-- What stands at an absolute path. The root is a folder. -/
def entryAt? (t : FileTree) (names : List String) : Option FileEntry :=
  if names.isEmpty then some .folder else t.entries.get? (key names)

def longestName : Nat := 255

def longestPath : Nat := 4095

/-- Follows names from a folder on: the names of the last one from the root on. -/
def follow (t : FileTree) (here : List String) : List String → Except FileFaultKind (List String)
  | [] => .ok here
  | name :: rest => match t.entryAt? here with
    | none => .error .missing
    | some (.file _) => .error .notFolder
    | some .folder =>
      if longestName < name.utf8ByteSize then .error .tooLong
      else t.follow (if name = ".." then here.dropLast else here ++ [name]) rest

/-- The names of a path from the root on. -/
def locate (t : FileTree) (p : Path) : Except FileFaultKind (List String) :=
  if p.holdsNull then .error .nullCharacter
  else if longestPath < p.text.utf8ByteSize then .error .tooLong
  else t.follow (if p.isAbsolute then [] else t.folder) p.names

def find (t : FileTree) (p : Path) : Except FileFaultKind FileEntry := do
  let names ← t.locate p
  match t.entryAt? names with
  | some e => .ok e
  | none => .error .missing

/-- Something stands at a path. It cannot be said of a path that is too long. -/
def stands (t : FileTree) (p : Path) : Except FileFault Bool :=
  match t.find p with
  | .ok _ => .ok true
  | .error .tooLong => .error ⟨.tooLong, p⟩
  | .error _ => .ok false

def hasFolder (t : FileTree) (p : Path) : Bool := (t.find p).toOption = some .folder

/-! ## Reading -/

/-- A text in which every line ends in a newline. -/
def unifyBreaks : List Char → List Char
  | [] => []
  | '\r' :: '\n' :: rest => '\n' :: unifyBreaks rest
  | '\r' :: rest => '\n' :: unifyBreaks rest
  | c :: rest => c :: unifyBreaks rest

def read (t : FileTree) (p : Path) : Except FileFault String :=
  match t.find p with
  | .error kind => .error ⟨kind, p⟩
  | .ok .folder => .error ⟨.isFolder, p⟩
  | .ok (.file (.text s)) => .ok (String.ofList (unifyBreaks s.toList))
  | .ok (.file (.binary _ fault)) => .error ⟨.notText fault, p⟩

/-! ## Writing -/

/-- The tree with an entry at an absolute path. -/
def put (t : FileTree) (names : List String) (e : FileEntry) : FileTree :=
  { t with entries := t.entries.insert (key names) e }

/-- Writes a text to a file, which need not be there. -/
def write (t : FileTree) (p : Path) (s : String) : Except FileFault FileTree :=
  match t.locate p with
  | .error kind => .error ⟨kind, p⟩
  | .ok names => match t.entryAt? names with
    | some .folder => .error ⟨.isFolder, p⟩
    | some (.file _) => .ok (t.put names (.file (.text s)))
    | none => match t.entryAt? names.dropLast with
      | some .folder => .ok (t.put names (.file (.text s)))
      | some (.file _) => .error ⟨.notFolder, p⟩
      | none => .error ⟨.missing, p⟩

def makeFolder (t : FileTree) (p : Path) : Except FileFaultKind FileTree :=
  match t.locate p with
  | .error kind => .error kind
  | .ok names => match t.entryAt? names with
    | some _ => .error .present
    | none => match t.entryAt? names.dropLast with
      | some .folder => .ok (t.put names .folder)
      | some (.file _) => .error .notFolder
      | none => .error .missing

/-- Makes the folder of the first `n` names of a path, and the folders that hold it. -/
def makeFoldersUpTo (t : FileTree) (p : Path) : Nat → FileTree × Except FileFault Unit
  | 0 => (t, .ok ())
  | n + 1 =>
    let q : Path := { p with names := p.names.take (n + 1) }
    match t.makeFolder q with
    | .ok t' => (t', .ok ())
    | .error .missing =>
      match t.makeFoldersUpTo p n with
      | (t', .error e) => (t', .error e)
      | (t', .ok _) => match t'.makeFolder q with
        | .ok t'' => (t'', .ok ())
        | .error kind => if t'.hasFolder q then (t', .ok ()) else (t', .error ⟨kind, q⟩)
    | .error kind => if t.hasFolder q then (t, .ok ()) else (t, .error ⟨kind, q⟩)

/-- Makes the folder of a path, if it is not there, and the folders that hold it. -/
def makeFolders (t : FileTree) (p : Path) : FileTree × Except FileFault Unit :=
  t.makeFoldersUpTo p p.names.length

end FileTree

end FpgaInterface
