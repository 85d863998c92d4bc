import FpgaInterface.Yaml.Merge

/-!
# The value of a document

* `Object`: the value of a node, with the numbers of the nodes of its parts;
* `Loading`: gives nodes their objects;
* `construct`: the object of a node, empty at first if that is a collection;
* `fill`: puts the parts into a collection;
* `load`: the value of the only document of a text.

Collections are filled one after another, in the order in which they were met, so that of several
faults the one counts that has the fewest collections around it. A node has one object, wherever it
stands. Of several rows with one key the last counts, at the place of the first.
-/

namespace FpgaInterface.Yaml

/-! ## Objects -/

/-- The value of a node. The parts of collections are given by the numbers of their nodes. -/
inductive Object where
  | scalar (v : Value)
  | list (items : List Nat)
  | pairs (count : Nat)
  | set (items : List Value)
  | table (rows : List (Value × Nat))

/-- A collection of a type before it is filled; none for a type of scalars. -/
def emptyObject? : Tag → Option Object
  | .sequence => some (.list [])
  | .orderedMap => some (.pairs 0)
  | .pairs => some (.pairs 0)
  | .mapping => some (.table [])
  | .set => some (.set [])
  | _ => none

/-! ## Loading -/

/-- How far a document is loaded. -/
structure LoadState where
  nodes : Array Node
  /-- The objects of nodes by their numbers. -/
  objects : Array (Option Object)
  /-- The collections to be filled, the last one first. -/
  waiting : List Nat := []

/-- Gives nodes their objects. -/
abbrev Loading := StateT LoadState (Except LoadFault)

def setObject (n : Nat) (o : Object) : Loading Unit :=
  modify fun s => { s with objects := s.objects.setIfInBounds n (some o) }

def construct (n : Nat) : Loading Object := do
  let s ← get
  match s.objects[n]?.join with
  | some o => return o
  | none =>
    let o ← match emptyObject? (nodeAt s.nodes n).tag with
      | some o => do
        modify fun s => { s with waiting := n :: s.waiting }
        pure o
      | none => match scalarOf s.nodes n with
        | .ok v => pure (.scalar v)
        | .error e => throw e
    setObject n o
    return o

def failAt (n : Nat) : Loading α := do
  throw (.malformed (some (nodeAt (← get).nodes n).line))

/-! ## Keys -/

/-- A key as it compares with others. -/
inductive KeyForm where
  | value (v : Value)
  /-- A point in time, in millionths of a second. -/
  | instant (i : Int)
  /-- The key of a node, which is no number and equals no other one. -/
  | own (n : Nat)
  deriving BEq

/-- How the value of a node compares with others as a key. A truth value is a number, equal numbers
are one key, and so are equal points in time. -/
def keyForm (nodes : Array Node) (n : Nat) (v : Value) : KeyForm :=
  let text := (textAt nodes n).toOption.getD []
  match v with
  | .bool b => .value (.int (if b then 1 else 0))
  | .real .notNumber =>
    if String.ofList (unsigned (realSpelling text)).2 = notNumberWord then .value v else .own n
  | .real x => match x.whole? with
    | some i => .value (.int i)
    | none => .value v
  | .other _ _ => match (timestampOf text).toOption.bind Timestamp.instant? with
    | some i => .instant i
    | none => .value v
  | v => .value v

/-- A row of a table: how its key compares, the key, and the number of the value. -/
abbrev TableRow := KeyForm × Value × Nat

/-- The rows with one more. A key that is there keeps its place and gets the new value. -/
def putRow (rows : List TableRow) (form : KeyForm) (key : Value) (value : Nat) : List TableRow :=
  if rows.any fun row => row.1 == form then
    rows.map fun row => if row.1 == form then (row.1, row.2.1, value) else row
  else rows ++ [(form, key, value)]

/-! ## Collections -/

/-- The rows of a mapping, with those that it merges. -/
def tableRows (n : Nat) : Loading (List (Value × Nat)) := do
  let s ← get
  match (flatten (flattenSteps s.nodes) n).run s.nodes with
  | .error e => throw e
  | .ok (rows, nodes) =>
    set { s with nodes }
    let table ← rows.foldlM (fun table (key, value) => do
      match ← construct key with
      | .scalar v =>
        discard (construct value)
        return putRow table (keyForm (← get).nodes key v) v value
      | _ => failAt key) []
    return table.map (·.2)

/-- Gives the parts of a pair their objects: a pair is a mapping with one row. -/
def constructPair (n : Nat) : Loading Unit := do
  match (nodeAt (← get).nodes n).content with
  | .mapping [(key, value)] =>
    discard (construct key)
    discard (construct value)
  | _ => failAt n

def fill (n : Nat) : Loading Unit := do
  let node := nodeAt (← get).nodes n
  match emptyObject? node.tag, node.content with
  | some (.list _), .sequence items =>
    items.forM fun item => discard (construct item)
    setObject n (.list items)
  | some (.pairs _), .sequence items =>
    items.forM constructPair
    setObject n (.pairs items.length)
  | some (.table _), .mapping _ => setObject n (.table (← tableRows n))
  | some (.set _), .mapping _ => setObject n (.set ((← tableRows n).map (·.1)))
  | _, _ => failAt n

/-- Fills all collections. Each round fills those that the one before it met. -/
def fillAll : Nat → Loading Unit
  | 0 => return
  | n + 1 => do
    let met := (← get).waiting.reverse
    if met.isEmpty then return
    modify fun s => { s with waiting := [] }
    met.forM fill
    fillAll n

/-! ## Documents -/

/-- The value of a node as deep as a number of collections. What is deeper is left out: a document
may hold itself. -/
def LoadState.value (s : LoadState) : Nat → Nat → Value
  | 0, _ => .null
  | depth + 1, n => match s.objects[n]?.join with
    | none => .null
    | some (.scalar v) => v
    | some (.list items) => .list (items.map (s.value depth))
    | some (.pairs count) => .list (List.replicate count (.series "tuple" true [.null, .null]))
    | some (.set items) => .set items
    | some (.table rows) => .table (rows.map fun (key, n) => (key, s.value depth n))

/-- A build file is a table with lists, whose items are looked at. -/
def valueDepth : Nat := 4

/-- The value of the only document of a text. A text without a document has none. One that is not
`whole` goes on with something that cannot be read. -/
def load (text : String) (whole : Bool := true) : Except LoadFault Value := do
  match ← documentOf text.toList whole with
  | none => return .null
  | some d =>
    let start : LoadState :=
      { nodes := d.nodes, objects := (List.replicate d.nodes.size none).toArray }
    let (_, s) ← (do discard (construct d.top); fillAll (d.nodes.size + 1) : Loading Unit).run start
    return s.value valueDepth d.top

end FpgaInterface.Yaml
