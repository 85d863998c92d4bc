import FpgaInterface.Element.Description
import FpgaInterface.Yaml.Scalar

/-!
# Listings

* `Listing`: a description with its elements grouped by kind;
* `Description.listing`: the listing of a description: the groups in the order of the kinds, without
  empty ones;
* `Listing.text`: a listing as a document.
-/

namespace FpgaInterface

structure Group where
  kind : Kind
  entries : List Entry
  deriving DecidableEq

/-- A description with its elements grouped by kind. -/
structure Listing where
  /-- The name of the interface, if it is shown. -/
  interface : Option String
  signature : String
  groups : List Group
  deriving DecidableEq

def AddressSet.group (s : AddressSet) (kind : Kind) : Group := ⟨kind, s.ofKinds [kind]⟩

/-- The listing of a description. An empty name is not shown. -/
def Description.listing (d : Description) (interface : Option String) : Listing where
  interface := interface.filter (· ≠ "")
  signature := d.signature
  groups := (Kind.all.map d.registers.group).filter fun g => !g.entries.isEmpty

/-- A key with a scalar, after `before` and before the end of the line. -/
def fieldText (before key value : String) : String :=
  let start := before ++ key ++ ":"
  start ++ " " ++ Yaml.scalarText (before.length + 2) (start.length + 1) value ++ "\n"

def entryText (e : Entry) : String :=
  fieldText "  - " "name" e.1.name ++ fieldText "    " "datatype" e.1.datatype ++
    "    address: " ++ Text.decimal e.2.toNat ++ "\n"

def Group.text (g : Group) : String :=
  "  " ++ g.kind.name ++ ":\n" ++ String.join (g.entries.map entryText)

def Listing.text (l : Listing) : String :=
  (match l.interface with
    | none => ""
    | some name => fieldText "" "interface" name) ++
  fieldText "" "signature" l.signature ++
  if l.groups.isEmpty then "elements: \x7b\x7d\n"
  else "elements:\n" ++ String.join (l.groups.map Group.text)

end FpgaInterface
