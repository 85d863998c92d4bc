import FpgaInterface.Text.WordRanges

/-!
# Identifiers of a generated module

* `isIdentifier`: the spelling of a name;
* `keywords`: the spellings that the module's language keeps for itself;
* `isName`: an identifier that is no keyword.
-/

namespace FpgaInterface.Text

/-- A word: not empty, its first character starts a word and the others continue one. -/
def isIdentifier : List Char → Bool
  | [] => false
  | c :: rest => isWordStart c && rest.all isWordRest

/-- The words with a meaning of their own in a generated module. -/
def keywords : List String :=
  ["False", "None", "True", "and", "as", "assert", "async", "await", "break", "class", "continue",
   "def", "del", "elif", "else", "except", "finally", "for", "from", "global", "if", "import", "in",
   "is", "lambda", "nonlocal", "not", "or", "pass", "raise", "return", "try", "while", "with",
   "yield"]

/-- A text that a generated module may bind. -/
def isName (s : String) : Bool := isIdentifier s.toList && !keywords.contains s

end FpgaInterface.Text
