import FpgaInterface.Note
import FpgaInterface.Text.Lines
import FpgaInterface.Text.Blank

/-!
# Headers without includes

* `isIncludeLine`, `withoutIncludes`: a header without the lines that include another one;
* `preamble`, `parseReady`: the types that such a header needs, and the header after them;
* `includeNotes`: what is reported of the lines left out.

A kept line is not changed, but every line ends in one newline. A header of which no line is kept
becomes one empty line.
-/

namespace FpgaInterface.Header

def includeDirective : String := "#include"

/-- A line whose first characters that are not blank are the directive. -/
def isIncludeLine (line : List Char) : Bool :=
  includeDirective.toList.isPrefixOf (Text.trimStart line)

def keptLines (cs : List Char) : List (List Char) :=
  (Text.lines cs).filter fun line => !isIncludeLine line

def joinLines : List (List Char) → List Char
  | [] => []
  | [line] => line
  | line :: rest => line ++ '\n' :: joinLines rest

def withoutIncludes (text : String) : String :=
  String.ofList (joinLines (keptLines text.toList) ++ ['\n'])

def includeNotes (text : String) : List Note :=
  ((Text.lines text.toList).filter isIncludeLine).map fun line =>
    ⟨.debug, "Dropping " ++ String.ofList (Text.trim line)⟩

/-- The types that a header takes from the ones it includes. -/
def preamble : String :=
  "\n" ++
  "typedef unsigned char uint8_t;\n" ++
  "typedef short int16_t;\n" ++
  "typedef int int32_t;\n" ++
  "typedef unsigned int uint32_t;\n" ++
  "typedef unsigned long long uint64_t;\n" ++
  "typedef long long int64_t;\n" ++
  "typedef uint8_t NiFpga_Bool;\n" ++
  "\n" ++
  "typedef struct NiFpga_FxpTypeInfo\n" ++
  "\x7b\n" ++
  "    NiFpga_Bool isSigned;\n" ++
  "    uint8_t wordLength;\n" ++
  "    int16_t integerWordLength;\n" ++
  "\x7d NiFpga_FxpTypeInfo;\n" ++
  "\n"

/-- A header that can be read by itself: the preamble and the header without its includes. -/
def parseReady (text : String) : String := preamble ++ withoutIncludes text

end FpgaInterface.Header
