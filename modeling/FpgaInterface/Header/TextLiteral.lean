import FpgaInterface.Header.Spelling

/-!
# Texts side by side

* `TextLiteral`: the mark of an encoding and the texts in double quotes after it;
* `TextLiteral.read`, `TextLiteral.spelling`: from the spelling of one text, and back to a spelling;
* `TextLiteral.append`: two literals side by side as one.

Texts side by side are one text. Two of them stay apart where their ends would mean something else
together: where the second goes on with an escape of the first, or makes a trigraph with it.
-/

namespace FpgaInterface.Header

/-! ## Ends of texts -/

/-- Where a reader stands after a part of a text, if the part that follows can change it. -/
inductive TextEnd where
  | plain
  | escape
  /-- After some digits of an octal escape. -/
  | octal (digits : Nat)
  /-- After the digits of a hexadecimal escape. -/
  | hexadecimal
  deriving DecidableEq, Repr

/-- A character goes on with the escape that a text ends in. -/
def TextEnd.extends (e : TextEnd) (c : Char) : Bool :=
  match e with
  | plain => false
  | escape => true
  | octal digits => digits < 3 && isOctalDigit c
  | hexadecimal => isHexDigit c

def TextEnd.after (e : TextEnd) (c : Char) : TextEnd :=
  match e with
  | escape => if c = 'x' then hexadecimal else if isOctalDigit c then octal 1 else plain
  | octal digits =>
    if e.extends c then octal (digits + 1) else if c = '\\' then escape else plain
  | e => if e.extends c then e else if c = '\\' then escape else plain

def TextEnd.of (cs : List Char) : TextEnd := cs.foldl TextEnd.after plain

example : TextEnd.of "a\\1".toList = .octal 1 ∧ TextEnd.of "a\\\\1".toList = .plain := by
  decide +kernel

/-- The last characters of the signs that two question marks start. -/
def isTrigraphEnd (c : Char) : Bool := "=/'()!<>-".toList.contains c

/-- The end of one text and the start of another one make a trigraph. -/
def makeTrigraph (s t : List Char) : Bool :=
  (s.reverse.take 2 == ['?', '?'] && t.head?.any isTrigraphEnd) ||
    (s.getLast? == some '?' && t.head? == some '?' && (t.drop 1).head?.any isTrigraphEnd)

/-- A text must not be put right after another one. -/
def staysApart (s t : List Char) : Bool :=
  t.head?.any (TextEnd.of s).extends || makeTrigraph s t

/-! ## Literals -/

/-- The mark of an encoding and texts without their quotes. -/
structure TextLiteral where
  mark : List Char
  /-- The texts, the last one first. -/
  texts : List (List Char)
  deriving DecidableEq, Repr

namespace TextLiteral

/-- The literal that one text in double quotes is. -/
def read (spelling : String) : TextLiteral :=
  let quoted := spelling.toList.dropWhile (· ≠ '"')
  ⟨spelling.toList.takeWhile (· ≠ '"'), [(quoted.drop 1).dropLast]⟩

def push (l : TextLiteral) (t : List Char) : TextLiteral :=
  match l.texts with
  | [] => { l with texts := [t] }
  | s :: rest =>
    if staysApart s t then { l with texts := t :: s :: rest }
    else { l with texts := (s ++ t) :: rest }

/-- Two literals side by side. The first mark counts. -/
def append (l m : TextLiteral) : TextLiteral :=
  m.texts.reverse.foldl push { l with mark := if l.mark.isEmpty then m.mark else l.mark }

def spelling (l : TextLiteral) : String :=
  let quoted := l.texts.reverse.map fun t => "\"" ++ String.ofList t ++ "\""
  String.ofList l.mark ++ " ".intercalate quoted

example : ((read "\"a\"").append (read "L\"b\"")).spelling = "L\"ab\"" := by decide +kernel
example : ((read "\"\\1\"").append (read "\"23\"")).spelling = "\"\\1\" \"23\"" := by
  decide +kernel

end TextLiteral

end FpgaInterface.Header
