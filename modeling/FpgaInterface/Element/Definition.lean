import FpgaInterface.Element.Description
import FpgaInterface.Validation

/-!
# Locations and descriptions from values

* `Location.ofArguments`: a location from named values;
* `Description.ofValue`: a description from the value of its signature.

Values of other names are passed over.
-/

namespace FpgaInterface

def Location.ofArguments (args : Arguments) : Except (List Violation) Location :=
  let kind := required args "kind" Reader.kind
  let name := required args "name" Reader.text
  let datatype := required args "datatype" Reader.text
  match kind, name, datatype with
  | .ok k, .ok n, .ok d => .ok ⟨k, n, d⟩
  | _, _, _ => .error (violationsOf kind ++ violationsOf name ++ violationsOf datatype)

def Location.ofValues (kind name datatype : Value) : Except (List Violation) Location :=
  Location.ofArguments [("kind", kind), ("name", name), ("datatype", datatype)]

/-- A description from the value of its signature and its elements. -/
def Description.ofValue (signature : Value) (registers : AddressSet) :
    Except (List Violation) Description :=
  (required [("signature", signature)] "signature" Reader.text).map fun s => ⟨s, registers⟩

/-- What is wrong with changing a field of a record that is frozen. -/
def frozenField (field : String) : List Violation := [⟨[.key field], .frozen⟩]

end FpgaInterface
