import FpgaInterface.Element.Location
import FpgaInterface.SortedMap
import FpgaInterface.Text.Numeral

/-!
# Address sets

A finite map from locations to words of 32 bits: the address of a register or FIFO, or the number of
elements for the size kinds.

* `AddressSet`: the entries in strictly increasing order of their locations;
* `ofKinds`, `sizeOf?`: the entries of some kinds, and the size paired with an array;
* `set`: insertion of an integer, refused if it does not fit;
* `ofRows`: a set built from rows, up to the first that does not fit.
-/

namespace FpgaInterface

abbrev Entry := Location × UInt32

/-- A map from locations to words, in the order of the locations. -/
abbrev AddressSet := SortedMap Location UInt32

namespace AddressSet

def ofKinds (s : AddressSet) (ks : List Kind) : List Entry :=
  s.entries.filter fun e => ks.contains e.1.kind

/-- The word paired with an array: that of the same name and datatype under the size kind. -/
def sizeOf? (s : AddressSet) (l : Location) : Option UInt32 := s.get? l.sizeLocation

/-! ## Insertion of integers -/

/-- An integer that does not fit into the word of a location. -/
structure TooWide where
  value : Int
  location : Location
  deriving DecidableEq, Repr

def TooWide.message (e : TooWide) : String :=
  "Value " ++ Text.signed "0x" Text.lowerHex e.value ++ " for " ++ e.location.text ++
    " does not fit in 32 bits"

/-- The set in which the location has an integer from zero to `2 ^ 32 - 1`. -/
def set (s : AddressSet) (l : Location) (v : Int) : Except TooWide AddressSet :=
  if 0 ≤ v ∧ v < 0x100000000 then .ok (s.insert l (UInt32.ofNat v.toNat)) else .error ⟨v, l⟩

/-- The set built from rows in order, up to the first that does not fit. -/
def ofRows (rows : List (Location × Int)) : Except TooWide AddressSet :=
  rows.foldlM (fun s r => set s r.1 r.2) SortedMap.empty

def text (s : AddressSet) : String :=
  "AddressSet(\x7b" ++ ", ".intercalate (s.entries.map fun e =>
    e.1.text ++ ": 0x" ++ Text.lowerHex e.2.toNat) ++ "\x7d)"

end AddressSet

end FpgaInterface
