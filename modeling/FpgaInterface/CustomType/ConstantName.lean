import FpgaInterface.Element.TypeName
import FpgaInterface.Text.Parts

/-!
# Names of custom type constants

A constant of a custom type is named after the class of its element, the element and a field:
`<stem><class>_<element>_<field>`.

* `ConstantName`: the three parts;
* `ConstantName.ofText?`, `ConstantName.text`: from a name to its parts, and back;
* `Field`: the fields that are read.
-/

namespace FpgaInterface

/-- The parts of the name of a constant. -/
structure ConstantName where
  elementClass : String
  name : String
  /-- The field that the constant holds. -/
  field : String
  deriving DecidableEq, Repr

/-- The three parts after the stem, if there are three and none is empty. -/
def ConstantName.ofText? (stem s : String) : Option ConstantName := do
  let rest ← afterStem? stem s
  match Text.partsAt '_' rest.toList with
  | [c, n, f] =>
    if c.isEmpty || n.isEmpty || f.isEmpty then none
    else some ⟨String.ofList c, String.ofList n, String.ofList f⟩
  | _ => none

/-- The name of a constant under a stem. -/
def ConstantName.text (stem : String) (c : ConstantName) : String :=
  stem ++ c.elementClass ++ "_" ++ c.name ++ "_" ++ c.field

/-- The fields of a custom type that are read. -/
inductive Field where
  | resource
  | typeInfo
  | type
  | packedSize
  | size
  deriving DecidableEq, Repr

def Field.ofText? : String → Option Field
  | "Resource" => some resource
  | "TypeInfo" => some typeInfo
  | "Type" => some type
  | "PackedSizeInBytes" => some packedSize
  | "Size" => some size
  | _ => none

end FpgaInterface
