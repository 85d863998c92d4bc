import FpgaInterface.Element.Description
import FpgaInterface.Extract.Addresses
import FpgaInterface.Extract.Signature
import FpgaInterface.Header.Fault

/-!
# The interface of a header

* `describe`: the signature and the elements of an interface, from the syntax tree of its header;
* `describeText`: the same from the text of the header;
* `HeaderError`: why a header does not describe the interface.

A constant that cannot be read is reported before a signature that is not there.
-/

namespace FpgaInterface

/-- Why a header does not describe an interface. -/
inductive HeaderError where
  /-- The text is no header; the file is the one that was to be read. -/
  | unreadable (fileName : String) (fault : Header.SyntaxFault)
  | constant (e : ConstantError)
  | noSignature (interface : String)
  deriving DecidableEq, Repr

def HeaderError.message : HeaderError → String
  | unreadable fileName fault => fault.bareText?.getD (fault.located fileName).text
  | constant e => e.message
  | noSignature interface => "No signature found for interface '" ++ interface ++ "'"

/-- The signature that a header gives an interface. -/
def Node.signature? (interface : String) (tree : Node) : Option String :=
  signatureOf (constantName interface signatureSuffix) tree.declarations

/-- The signature and the elements of an interface, from the syntax tree of its header. -/
def describe (interface : String) (tree : Node) : Except HeaderError Description := do
  let registers ← (addressProgress interface tree.typedefs).result.mapError .constant
  match tree.signature? interface with
  | none => .error (.noSignature interface)
  | some signature => .ok ⟨signature, registers⟩

def describeNotes (interface : String) (tree : Node) : List Note :=
  signatureNotes (constantName interface signatureSuffix) tree.declarations ++
    (addressProgress interface tree.typedefs).notes ++
    match describe interface tree with
    | .error _ => []
    | .ok d => [⟨.info, "Interface " ++ interface ++ ": signature " ++ d.signature ++ ", " ++
        Text.decimal d.registers.size ++ " elements"⟩]

def readTree (fileName text : String) : Except HeaderError Node :=
  (Header.parse fileName text).mapError (.unreadable fileName)

/-- The signature and the elements of an interface, from the text of its header. -/
def describeText (fileName interface text : String) : Except HeaderError Description :=
  readTree fileName text >>= describe interface

end FpgaInterface
