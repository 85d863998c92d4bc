import FpgaInterface.Element.AddressSet

/-!
# Descriptions

What a header says of an interface: the signature of its bitfile and its elements.
-/

namespace FpgaInterface

/-- The signature and the elements of an interface. -/
structure Description where
  signature : String
  /-- The addresses and sizes of the elements. -/
  registers : AddressSet
  deriving DecidableEq

end FpgaInterface
