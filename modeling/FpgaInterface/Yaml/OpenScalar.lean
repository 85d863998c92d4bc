import FpgaInterface.Yaml.QuotedScalar

/-!
# Reading scalars without quotes

* `plainScalar`: a plain scalar, which may go on over several lines;
* `blockScalar`: a literal or folded scalar below its header.

Lines of a plain scalar are joined like those in quotes. A block scalar takes its indentation from
its first line that is not empty, or from a number in its header.
-/

namespace FpgaInterface.Yaml

/-! ## Plain scalars -/

def isFlowMark (c : Char) : Bool := ",[]\x7b\x7d".toList.contains c

/-- The characters of a plain scalar up to the next blank or indicator. -/
def plainWord (flow : Bool) : List Char → List Char
  | [] => []
  | c :: rest =>
    if isGap c || (c = ':' && (gapAhead rest || (flow && rest.head?.any isFlowMark))) ||
        (flow && (c = '?' || isFlowMark c)) then []
    else c :: plainWord flow rest

/-- The ends of the lines that are empty up to the next character; none at the mark of a
document. -/
def emptyPlainLines : Nat → Cursor → Option (List Char) × Cursor
  | 0, k => (some [], k)
  | n + 1, k =>
    if k.atMark then (none, k)
    else
      let k := k.skipRun (· = ' ')
      match k.lineBreak with
      | (none, k) => (some [], k)
      | (some c, k) =>
        let (u, k) := emptyPlainLines n k
        (u.map (c :: ·), k)

/-- The blanks of a plain scalar up to the next character, and whether a line ends in them. None if
the scalar ends here. -/
def plainGap (k : Cursor) : Option (List Char) × Bool × Cursor :=
  let (blanks, k) := k.run (· = ' ')
  match k.lineBreak with
  | (none, k) => (if blanks.isEmpty then none else some blanks, false, k)
  | (some c, k) =>
    let (breaks, k) := emptyPlainLines (k.rest.length + 1) k
    let first := fun (breaks : List Char) =>
      if c ≠ '\n' then [c] else if breaks.isEmpty then [' '] else []
    (breaks.map fun breaks => first breaks ++ breaks, true, k)

/-- What is read of a plain scalar. -/
structure PlainPart where
  chars : List Char
  /-- A line ends at the end of the scalar. -/
  brokenOff : Bool
  cursor : Cursor

/-- A plain scalar that is indented by `indent` in a block, after the blanks `gap`. -/
def plainFrom (flow : Bool) (indent : Int) (gap : List Char) (brokenOff : Bool) :
    Nat → Cursor → PlainPart
  | 0, k => ⟨[], brokenOff, k⟩
  | n + 1, k =>
    let word := if k.at? '#' then [] else plainWord flow k.rest
    if word.isEmpty then ⟨[], brokenOff, k⟩
    else match plainGap (k.skip word.length) with
      | (none, broken, k) => ⟨gap ++ word, broken, k⟩
      | (some gap', broken, k) =>
        if k.at? '#' || (!flow && (k.column : Int) < indent) then ⟨gap ++ word, broken, k⟩
        else
          let more := plainFrom flow indent gap' broken n k
          { more with chars := gap ++ word ++ more.chars }

/-- A plain scalar in a block that is indented by `indent`. -/
def plainScalar (flow : Bool) (indent : Int) (k : Cursor) : PlainPart :=
  plainFrom flow (indent + 1) [] false k.rest.length k

/-! ## Block scalars -/

/-- What becomes of the line ends at the end of a block scalar. -/
inductive Chomping where
  | strip
  | clip
  | keep
  deriving DecidableEq

structure BlockHeader where
  /-- What becomes of the line ends at the end. -/
  chomping : Chomping := .clip
  /-- The indentation, counted from that of the block around it. -/
  increment : Option Nat := none

def chomping? : Char → Option Chomping
  | '+' => some .keep
  | '-' => some .strip
  | _ => none

/-- The sign of a header, if it follows. -/
def readChomping (h : BlockHeader) (k : Cursor) : BlockHeader × Cursor :=
  match k.rest.head?.bind chomping? with
  | some c => ({ h with chomping := c }, k.next)
  | none => (h, k)

/-- The digit of a header, if it follows. It is not zero. -/
def readIncrement (h : BlockHeader) (k : Cursor) : Except LoadFault (BlockHeader × Cursor) :=
  match k.rest with
  | c :: _ =>
    if c = '0' then .error k.fault
    else if c.isDigit then .ok ({ h with increment := some (c.toNat - '0'.toNat) }, k.next)
    else .ok (h, k)
  | [] => .ok (h, k)

/-- The header of a block scalar, after its indicator, with the end of its line. -/
def readBlockHeader (k : Cursor) : Except LoadFault (BlockHeader × Cursor) := do
  let signFirst := (k.rest.head?.bind chomping?).isSome
  let (h, k) := readChomping {} k
  let (h, k) ← readIncrement h k
  let (h, k) := if signFirst then (h, k) else
    if h.increment.isSome then readChomping h k else (h, k)
  if !k.atSpaceOrEnd then throw k.fault
  let k := (k.skipRun (· = ' ')).skipComment
  if !k.atLineEnd then throw k.fault
  return (h, k.lineBreak.2)

/-- The line ends before the first line that is not empty, the widest indentation among them, and
the place after them. -/
def leadingLines (widest : Nat) : Nat → Cursor → List Char × Nat × Cursor
  | 0, k => ([], widest, k)
  | n + 1, k =>
    if k.at? ' ' then
      let k := k.next
      leadingLines (max widest k.column) n k
    else match k.lineBreak with
      | (none, k) => ([], widest, k)
      | (some c, k) =>
        let (u, w, k) := leadingLines widest n k
        (c :: u, w, k)

def skipIndent (indent : Nat) (k : Cursor) : Cursor :=
  k.skip ((k.rest.take (indent - k.column)).takeWhile (· = ' ')).length

/-- The ends of the lines that hold no more than indentation, and the place after them. -/
def blankLines (indent : Nat) : Nat → Cursor → List Char × Cursor
  | 0, k => ([], k)
  | n + 1, k =>
    match (skipIndent indent k).lineBreak with
    | (none, k) => ([], k)
    | (some c, k) =>
      let (u, k) := blankLines indent n k
      (c :: u, k)

def atBlockLine (indent : Nat) (k : Cursor) : Bool := k.column = indent && !k.rest.isEmpty

def atBlank (k : Cursor) : Bool := k.at? ' ' || k.at? '\t'

/-- The lines of a block scalar from a place on, with the line ends before them. -/
def blockLines (folded : Bool) (chomping : Chomping) (indent : Nat) (breaks : List Char) :
    Nat → Cursor → List Char × Cursor
  | 0, k => ([], k)
  | n + 1, k =>
    if atBlockLine indent k then
      let indented := atBlank k
      let (line, k) := k.run fun c => !isBreak c
      let (ending, k) := k.lineBreak
      let (breaks', k) := blankLines indent (k.rest.length + 1) k
      if atBlockLine indent k then
        let joint :=
          if folded && ending = some '\n' && !indented && !atBlank k then
            if breaks'.isEmpty then [' '] else []
          else ending.toList
        let (more, k) := blockLines folded chomping indent breaks' n k
        (breaks ++ line ++ joint ++ more, k)
      else
        (breaks ++ line ++ (if chomping = .strip then [] else ending.toList) ++
          (if chomping = .keep then breaks' else []), k)
    else (if chomping = .keep then breaks else [], k)

/-- A block scalar in a block that is indented by `indent`, from its indicator on. -/
def blockScalar (folded : Bool) (indent : Int) (k : Cursor) : ScalarPart := do
  let (h, k) ← readBlockHeader k.next
  let least := max 1 (indent + 1).toNat
  let (breaks, width, k) := match h.increment with
    | some n =>
      let width := least + n - 1
      let (breaks, k) := blankLines width (k.rest.length + 1) k
      (breaks, width, k)
    | none =>
      let (breaks, widest, k) := leadingLines 0 (k.rest.length + 1) k
      (breaks, max least widest, k)
  return blockLines folded h.chomping width breaks (k.rest.length + 1) k

end FpgaInterface.Yaml
