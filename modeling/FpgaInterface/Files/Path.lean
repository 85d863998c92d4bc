import FpgaInterface.Text.Parts

/-!
# Paths

* `Path`: a root, which relative paths have none of, and names;
* `Path.ofText`, `Path.text`: from a text to a path, and back;
* `Path.join`, `Path.parent`, `Path.name`, `Path.stem`.

Empty names and single dots vanish when a text is read; double dots stay. Exactly two slashes at the
start are a root of their own.
-/

namespace FpgaInterface

structure Path where
  /-- The root: empty for a relative path. -/
  root : String := ""
  names : List String := []
  deriving DecidableEq, Repr

namespace Path

/-- The root that the slashes at the start of a text make. -/
def rootOf : List Char → String
  | '/' :: '/' :: '/' :: _ => "/"
  | '/' :: '/' :: _ => "//"
  | '/' :: _ => "/"
  | _ => ""

def ofText (s : String) : Path :=
  ⟨rootOf s.toList, ((Text.partsAt '/' s.toList).filter fun name => name ≠ [] && name ≠ ['.']).map
    String.ofList⟩

def text (p : Path) : String :=
  if p.root = "" && p.names.isEmpty then "." else p.root ++ "/".intercalate p.names

/-- A name in a path holds the character zero. -/
def holdsNull (p : Path) : Bool := p.names.any fun name => name.toList.contains '\x00'

def isAbsolute (p : Path) : Bool := p.root ≠ ""

/-- A path below another one. An absolute path stays as it is. -/
def join (p q : Path) : Path := if q.isAbsolute then q else { p with names := p.names ++ q.names }

def parent (p : Path) : Path := { p with names := p.names.dropLast }

def name (p : Path) : String := p.names.getLast?.getD ""

/-- The text before the last dot, if that stands neither at the start nor at the end. -/
def stemOf (name : List Char) : List Char :=
  let tail := (name.reverse.takeWhile (· ≠ '.')).reverse
  let stem := name.take (name.length - tail.length - 1)
  if name.contains '.' && !stem.isEmpty && !tail.isEmpty then stem else name

def stem (p : Path) : String := String.ofList (stemOf p.name.toList)

/-- The names in which each double dot has taken away the name before it. -/
def collapse (names : List String) : List String :=
  (names.foldl (fun done name => if name = ".." then done.tail else name :: done) []).reverse

/-- The path from the root on, without double dots. There is one root. -/
def resolve (folder p : Path) : Path := ⟨"/", collapse (folder.join p).names⟩

example : (ofText "a//./b/../c.h/").text = "a/b/../c.h" ∧ (ofText "").text = "." := by
  decide +kernel
example : (ofText "x/.a.h").stem = ".a" ∧ (ofText "x/.h").stem = ".h" := by decide +kernel

end Path

end FpgaInterface
