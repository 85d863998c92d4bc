import FpgaInterface.Files.Path
import FpgaInterface.Text.Numeral

/-!
# Errors in files

An error that may name the file and the line that it belongs to.
-/

namespace FpgaInterface

/-- An error with its place. -/
structure Located where
  message : String
  file : Option Path := none
  line : Option Int := none
  deriving DecidableEq, Repr

/-- The parts of the text of an error: what is known of its place, then its message. -/
def Located.parts (e : Located) : List String :=
  (match e.file with
    | some file => ["File: " ++ file.text]
    | none => []) ++
  (match e.line with
    | some line => ["Line: " ++ Text.signed "" Text.decimal line]
    | none => []) ++ [e.message]

def Located.text (e : Located) : String := " | ".intercalate e.parts

end FpgaInterface
