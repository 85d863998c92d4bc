import FpgaInterface.Yaml.ScalarValue

/-!
# Merged mappings

A row with the key of a merge stands for the rows of another mapping, or of the mappings of a list.

* `Rewriting`: changes the nodes of a document;
* `merged`: takes the merges out of a mapping and gives the rows for which they stand;
* `flatten`: puts these rows before the others.

Of a list of mappings the rows of the last one come first. A mapping may be merged into itself: each
merge is taken out before its rows are looked for, so that it counts once.
-/

namespace FpgaInterface.Yaml

/-- Changes the nodes of a document. -/
abbrev Rewriting := StateT (Array Node) (Except LoadFault)

def changeNode (n : Nat) (f : Node → Node) : Rewriting Unit :=
  modify fun nodes => nodes.setIfInBounds n (f (nodeAt nodes n))

def rowsOf (node : Node) : List (Nat × Nat) :=
  match node.content with
  | .mapping rows => rows
  | _ => []

def putRows (n : Nat) (rows : List (Nat × Nat)) : Rewriting Unit :=
  changeNode n fun node => { node with content := .mapping rows }

/-- The rows without the first one with a certain key, and the value of that. -/
def takeRow (p : Nat → Bool) : List (Nat × Nat) → Option (Nat × List (Nat × Nat))
  | [] => none
  | (key, value) :: rest =>
    if p key then some (value, rest)
    else (takeRow p rest).map fun (found, left) => (found, (key, value) :: left)

/-- A key for the default value of a table is a text like others. -/
def plainKey (node : Node) : Node :=
  if node.tag = .default then { node with tag := .text } else node

mutual

/-- Takes the merges out of a mapping: the rows for which they stand. -/
def merged : Nat → Nat → Rewriting (List (Nat × Nat))
  | 0, _ => return []
  | fuel + 1, n => do
    let nodes ← get
    match takeRow (fun key => (nodeAt nodes key).tag = .merge) (rowsOf (nodeAt nodes n)) with
    | none => return []
    | some (target, left) =>
      putRows n left
      let whole := nodeAt nodes target
      let part ← match whole.content with
        | .scalar _ => throw (.malformed (some whole.line))
        | .mapping _ => flatten fuel target
        | .sequence items => do
          let parts ← items.mapM fun item => do
            let node := nodeAt (← get) item
            match node.content with
            | .mapping _ => flatten fuel item
            | _ => throw (.malformed (some node.line))
          pure parts.reverse.flatten
      return part ++ (← merged fuel n)

/-- Puts the rows that a mapping merges before its own: all its rows. -/
def flatten : Nat → Nat → Rewriting (List (Nat × Nat))
  | 0, _ => return []
  | fuel + 1, n => do
    let front ← merged fuel n
    let own := rowsOf (nodeAt (← get) n)
    own.forM fun (key, _) => changeNode key plainKey
    putRows n (front ++ own)
    return front ++ own

end

/-- The number of steps in which a mapping of some nodes is flattened: two for each row that may be
a merge, and three at the end. -/
def flattenSteps (nodes : Array Node) : Nat :=
  nodes.foldl (fun steps node => steps + 2 * (rowsOf node).length) 3

end FpgaInterface.Yaml
