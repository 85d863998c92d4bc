import FpgaInterface.Element.Kind

/-!
# Names in a header

A header names the enumeration of a kind and a datatype `NiFpga_<interface>_<tag><datatype>`, with
`Size` at the end for a size kind, and its enumerators after the enumeration and the element.

* `interfaceStem`: what every identifier of an interface starts with;
* `matchKind?`: the kind whose tag starts a type name;
* `decodeTypeName?`, `typeName`: from a type name to a kind and a datatype, and back;
* `elementName`: the element that an enumerator names.
-/

namespace FpgaInterface

/-- The first word of every file and identifier of the vendor. -/
def vendorWord : String := "NiFpga"

/-- What every identifier of an interface starts with. -/
def interfaceStem (interface : String) : String := vendorWord ++ "_" ++ interface ++ "_"

/-- The mark of a size kind at the end of a type name. -/
def sizeMark : String := "Size"

/-- What follows a given start of a text. -/
def afterStem? (stem s : String) : Option String :=
  if stem.toList.isPrefixOf s.toList then some (String.ofList (s.toList.drop stem.toList.length))
  else none

/-- The kinds in the order in which their tags are tried: the tag of an array kind starts with that
of a scalar kind, so arrays come first. Size kinds have no tag of their own. -/
def Kind.matchOrder : List Kind :=
  [.controlArray, .indicatorArray, .control, .indicator, .targetToHostFifo, .hostToTargetFifo]

/-- The first kind whose tag starts the type name. -/
def matchKind? (s : String) : Option Kind :=
  Kind.matchOrder.find? fun k => k.tag.toList.isPrefixOf s.toList

def dropLast (n : Nat) (cs : List Char) : List Char := cs.take (cs.length - n)

/-- The kind and the datatype of a type name. A type name of an array kind that ends in the size
mark is that of the size kind. -/
def decodeTypeName? (s : String) : Option (Kind × String) := do
  let kind ← matchKind? s
  let datatype := s.toList.drop kind.tag.toList.length
  if kind.isArray && sizeMark.toList.isSuffixOf s.toList then
    return (kind.withSize, String.ofList (dropLast sizeMark.toList.length datatype))
  else return (kind, String.ofList datatype)

def typeName (kind : Kind) (datatype : String) : String :=
  kind.tag ++ datatype ++ if kind.isSize then sizeMark else ""

/-- The element that an identifier names: what follows its last underscore. -/
def elementName (identifier : String) : String :=
  String.ofList (identifier.toList.reverse.takeWhile (· ≠ '_')).reverse

example : decodeTypeName? "IndicatorArraySglSize" = some (.indicatorArraySize, "Sgl") := by
  decide +kernel
example : typeName .indicatorArraySize "Sgl" = "IndicatorArraySglSize" := by decide +kernel
example : elementName "NiFpga_Main_ControlU8_Gain" = "Gain" := by decide +kernel

end FpgaInterface
