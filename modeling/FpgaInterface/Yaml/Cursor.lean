import FpgaInterface.Yaml.Scalar

/-!
# Places in a document

* `Cursor`: a place in a document: what follows, and the line and column;
* `Cursor.next`, `Cursor.skip`, `Cursor.run`, `Cursor.lineBreak`: moving on;
* `LoadFault`: why a document has no value.

Lines count from zero. The byte order mark takes no column.
-/

namespace FpgaInterface.Yaml

/-- Why a document has no value. -/
inductive LoadFault where
  /-- It is no document; the line is that of the offending character or token, if there is one, and
  `index` the number of the last character that was looked at. -/
  | malformed (line : Option Nat) (index : Nat := 0)
  /-- What follows cannot be read. -/
  | unread
  | noCharacter (code : Nat)
  | emptyNumber
  | tooManyDigits (count : Nat)
  /-- A number cannot be read in its radix. -/
  | badNumber (spelling : String) (radix : Nat)
  | badReal (spelling : String)
  | tooManyParts
  | badBoolean (word : String)
  | badTimestamp
  | outOfRange (part : String)
  /-- A mapping stands where the text of a point in time is needed. -/
  | notScalar
  /-- A value is given by itself. -/
  | endless
  deriving DecidableEq, Repr

/-- The number of characters that are shown of a spelling that is no number, with its quotes. -/
def shownLength : Nat := 200

/-- The wording of a fault. Of a document that is none it is the start only: a colon and the wording of
the YAML reader, which would follow, are left out. -/
def LoadFault.message : LoadFault → String
  | malformed _ _ => "YAML syntax error"
  | unread => "the rest of the document cannot be read"
  | noCharacter code =>
    if code < 0x80000000 then "chr() arg not in range(0x110000)"
    else "Python int too large to convert to C int"
  | emptyNumber => "string index out of range"
  | tooManyDigits count => Text.Numeral.tooLongToRead count
  | badNumber spelling radix =>
    "invalid literal for int() with base " ++ Text.decimal radix ++ ": " ++
      String.ofList ((Text.quoted spelling).toList.take shownLength)
  | badReal spelling => "could not convert string to float: " ++ Text.quoted spelling
  | tooManyParts => "int too large to convert to float"
  | badBoolean word => Text.quoted word
  | badTimestamp => "'NoneType' object has no attribute 'groupdict'"
  | outOfRange part => part
  | notScalar => "expected string or bytes-like object, got 'list'"
  | endless => "maximum recursion depth exceeded"

/-- A place in a document. -/
structure Cursor where
  rest : List Char
  /-- The number of characters before it. -/
  index : Nat
  line : Nat
  /-- The number of columns before it. -/
  column : Nat

namespace Cursor

/-- A fault at a place where some characters more were looked at. -/
def faultLooking (k : Cursor) (more : Nat) : LoadFault :=
  .malformed (some k.line) (k.index + more)

def fault (k : Cursor) : LoadFault := k.faultLooking 0

def next (k : Cursor) : Cursor :=
  match k.rest with
  | [] => k
  | c :: rest =>
    if isBreak c then ⟨rest, k.index + 1, k.line + 1, 0⟩
    else ⟨rest, k.index + 1, k.line, if c.toNat = 0xfeff then k.column else k.column + 1⟩

def skip (k : Cursor) : Nat → Cursor
  | 0 => k
  | n + 1 => k.next.skip n

/-- The characters of a class that follow, and the place after them. -/
def run (k : Cursor) (p : Char → Bool) : List Char × Cursor :=
  let u := k.rest.takeWhile p
  (u, k.skip u.length)

def skipRun (k : Cursor) (p : Char → Bool) : Cursor := (k.run p).2

/-- The end of a line as it counts in a scalar, and the place after it. -/
def lineBreak (k : Cursor) : Option Char × Cursor :=
  match k.rest with
  | c :: _ => if isBreak c then (some (if c = '\x85' then '\n' else c), k.next) else (none, k)
  | [] => (none, k)

def atLineEnd (k : Cursor) : Bool := k.rest.head?.all isBreak

def atGap (k : Cursor) : Bool := gapAhead k.rest

/-- A space, the end of a line or of the document follows. -/
def atSpaceOrEnd (k : Cursor) : Bool := k.rest.head?.all fun c => c = ' ' || isBreak c

def at? (k : Cursor) (c : Char) : Bool := k.rest.head? = some c

/-- A mark of a document follows, with a gap after it. -/
def atMark (k : Cursor) : Bool := startsWithMark k.rest && gapAhead (k.rest.drop 3)

def skipComment (k : Cursor) : Cursor :=
  if k.at? '#' then k.skipRun fun c => !isBreak c else k

end Cursor

end FpgaInterface.Yaml
