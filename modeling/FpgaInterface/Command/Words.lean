/-!
# Words of a command

A command is split into words as a shell does.

* `words`: the words of a command;
* `WordsFault`: why a command has none.

Blanks separate words. Single quotes hold everything up to the next one; in double quotes a
backslash counts only before a double quote or another backslash. Outside of quotes a backslash
stands for the character after it.
-/

namespace FpgaInterface

/-- Why a command cannot be split. -/
inductive WordsFault where
  | openQuote
  | openEscape
  deriving DecidableEq, Repr

def WordsFault.message : WordsFault → String
  | openQuote => "No closing quotation"
  | openEscape => "No escaped character"

namespace Words

def isGap (c : Char) : Bool := c = ' ' || c = '\t' || c = '\r' || c = '\n'

/-- Where a character of a command stands. -/
inductive Mode where
  | open
  | quoted (quote : Char)
  | escaped
  /-- After a backslash in double quotes. -/
  | escapedInside
  deriving DecidableEq, Repr

/-- The words of a command from a place on. The word that the place is in, if any, is held in
reverse. -/
def split : Mode → Option (List Char) → List Char → Except WordsFault (List String)
  | .open, word, [] => .ok (word.map fun w => String.ofList w.reverse).toList
  | .quoted _, _, [] => .error .openQuote
  | .escaped, _, [] => .error .openEscape
  | .escapedInside, _, [] => .error .openEscape
  | .open, word, c :: rest =>
    if isGap c then match word with
      | none => split .open none rest
      | some w => (split .open none rest).map (String.ofList w.reverse :: ·)
    else if c = '\'' || c = '"' then split (.quoted c) (some (word.getD [])) rest
    else if c = '\\' then split .escaped word rest
    else split .open (some (c :: word.getD [])) rest
  | .quoted q, word, c :: rest =>
    if c = q then split .open word rest
    else if c = '\\' && q = '"' then split .escapedInside word rest
    else split (.quoted q) (some (c :: word.getD [])) rest
  | .escaped, word, c :: rest => split .open (some (c :: word.getD [])) rest
  | .escapedInside, word, c :: rest =>
    let kept := if c = '"' || c = '\\' then [c] else [c, '\\']
    split (.quoted '"') (some (kept ++ word.getD [])) rest

end Words

def words (command : String) : Except WordsFault (List String) :=
  Words.split .open none command.toList

example : (words "cc 'a b'\"c\\\"\\d\" \\ e ''").toOption =
    some ["cc", "a bc\"\\d", " e", ""] := by decide +kernel

end FpgaInterface
