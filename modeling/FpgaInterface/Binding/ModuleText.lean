import FpgaInterface.Binding.Basic
import FpgaInterface.Element.TypeName
import FpgaInterface.Note
import FpgaInterface.Text.Quoted

/-!
# The generated module

* `registersText`, `fifosText`: the two namespaces of a module;
* `moduleText`: the whole module of an interface;
* `moduleFile`: the file that it is written to.
-/

namespace FpgaInterface

/-- An address as a header writes it. -/
def addressText (address : Int) : String := "0x" ++ Text.signed "" Text.upperHex address

def moduleFile (interface : String) : String := vendorWord ++ "_" ++ interface ++ ".py"

def Binding.line (b : Binding) : String :=
  "    " ++ b.name ++ " = " ++ b.accessor.name ++ "(ctypes." ++ b.ctype ++ ", " ++
    addressText b.address ++
    (match b.size with
      | none => ""
      | some size => ", " ++ Text.signed "" Text.decimal size) ++ ")\n"

/-- A namespace: its head, and the accessors after an empty line if there are any. -/
def namespaceText (space : Namespace) (about : String) (bs : List Binding) : String :=
  "class " ++ space.name ++ ":\n    \"\"\"" ++ about ++ "\"\"\"\n" ++
    (if bs.isEmpty then "" else "\n") ++ String.join (bs.map Binding.line)

/-- The namespace of the registers. -/
def registersText (bs : List Binding) : String :=
  namespaceText .registers "Controls and indicators of the FPGA interface." bs

/-- The namespace of the FIFOs. -/
def fifosText (bs : List Binding) : String :=
  namespaceText .fifos "DMA FIFOs of the FPGA interface." bs

/-- The text of a module, before its end is made one newline. -/
def moduleBody (interface signature : String) (registers fifos : List Binding) : String :=
  "\"\"\"FPGA interface bindings for the " ++ interface ++ " bitfile.\n\nGenerated by " ++
    "nifpga-bindgen from " ++ vendorWord ++ "_" ++ interface ++ ".h. Do not edit.\n\"\"\"\n\n" ++
    "import ctypes\n\n" ++
    "from nifpga_bindgen.runtime import ArrayRegister, ReadFifo, Register, WriteFifo\n\n" ++
    "SIGNATURE = " ++ Text.asciiLiteral signature ++ "\n\n\n" ++
    registersText registers ++ "\n\n\n" ++ fifosText fifos

/-- A text with one newline at its end in place of any number. -/
def endedOnce (s : String) : String :=
  String.ofList ((s.toList.reverse.dropWhile (· = '\n')).reverse ++ ['\n'])

def moduleText (d : Description) (interface : String) : Except BindingError String := do
  let registers ← registerBindings d.registers
  let fifos ← fifoBindings d.registers
  return endedOnce (moduleBody interface d.signature registers fifos)

/-- The files of an interface, by name: the module alone. -/
def moduleFiles (d : Description) (interface : String) :
    Except BindingError (List (String × String)) :=
  (moduleText d interface).map fun text => [(moduleFile interface, text)]

/-- What is reported while a module is generated. -/
def moduleNotes (d : Description) (interface : String) : List Note :=
  match moduleText d interface with
  | .ok _ => [⟨.debug, "Rendering bindings module for interface " ++ interface⟩]
  | .error _ => []

end FpgaInterface
