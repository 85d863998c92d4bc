import FpgaInterface.Header.Grammar
import FpgaInterface.Located

/-!
# Faults with their places

The text of a fault is taken apart again into file, line and message.

* `splitFault`: the file before the first `:<digits>:` of a text, that number, and what follows it;
* `SyntaxFault.located`: a fault as an error in a file;
* `SyntaxFault.bareText?`: what is reported of a fault that is no error in a file.

A column after the line is left out. A text that names no line is the message as it stands, and the
fault belongs to the file that was to be read. A line with too many digits to be read is a fault of
its own.
-/

namespace FpgaInterface.Header

def anyDigitsValue (cs : List Char) : Nat :=
  cs.foldl (fun n c => n * 10 + (Text.decimalDigit? c).getD 0) 0

/-- A run of digits and the text after the colon that follows it. -/
def digitsAndColon (cs : List Char) : Option (List Char × List Char) :=
  match cs.takeWhile isAnyDigit, cs.dropWhile isAnyDigit with
  | d :: ds, ':' :: rest => some (d :: ds, rest)
  | _, _ => none

/-- A message of one line: the blanks before it and a newline after it are left out. -/
def oneLine? (cs : List Char) : Option (List Char) :=
  let message := cs.dropWhile Text.isBlank
  match message.dropWhile (· ≠ '\n') with
  | [] | ['\n'] => some (message.takeWhile (· ≠ '\n'))
  | _ => none

/-- The line number and the message that follow a file. -/
def afterFile? (cs : List Char) : Option (Nat × List Char) := do
  let (digits, rest) ← digitsAndColon cs
  let rest := match digitsAndColon rest with
    | some (_, rest) => rest
    | none => rest
  return (anyDigitsValue digits, ← oneLine? rest)

/-- The file, the line and the message of a text; the characters of the file before the text are
held in reverse. -/
def splitFrom (file : List Char) : List Char → Option (List Char × Nat × List Char)
  | [] => none
  | c :: rest =>
    let here := if c = ':' then afterFile? rest else none
    match here with
    | some (line, message) => some (file.reverse, line, message)
    | none => if c = '\n' then none else splitFrom (c :: file) rest

def splitFault (text : String) : Option (String × Nat × String) :=
  (splitFrom [] text.toList).map fun (file, line, message) =>
    (String.ofList file, line, String.ofList message)

example : splitFault "a:b.h:9:7: before: x" = some ("a:b.h", 9, "before: x") := by decide +kernel

/-- The number of digits of the line that a text names, if they are too many to be read. -/
def tooManyDigits? (text : String) : Option Nat := do
  let (file, _, _) ← splitFault text
  let digits := (text.toList.drop (file.length + 1)).takeWhile isAnyDigit
  if Text.Numeral.decimalDigitLimit < digits.length then some digits.length else none

/-- A fault as an error of the file that was to be read. -/
def SyntaxFault.located (fileName : String) (f : SyntaxFault) : Located :=
  match splitFault f.text with
  | some (file, line, message) => ⟨message, some (Path.ofText file), some line⟩
  | none => ⟨f.text, some (Path.ofText fileName), none⟩

/-- What is reported of a fault that is no error in a file: it has no place, or the line that its
text names cannot be read. -/
def SyntaxFault.bareText? (f : SyntaxFault) : Option String :=
  if f.isUnplaced then some f.text else (tooManyDigits? f.text).map Text.Numeral.tooLongToRead

end FpgaInterface.Header
