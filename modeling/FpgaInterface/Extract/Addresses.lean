import FpgaInterface.Element.TypeName
import FpgaInterface.Extract.Constant
import FpgaInterface.Note

/-!
# Addresses in a header

The enumerations of an interface give its elements their addresses.

* `Typedef.enumItems?`: the body of the enumeration behind a type definition;
* `Reading`: an enumerator under the kind and the datatype that its enumeration is named for;
* `readings`: the enumerators of an interface in order;
* `addressProgress`: the address set that they build, up to the first without a proper value.

A later enumerator of the same element takes the place of an earlier one. A pragma in the body of an
enumeration of the interface is refused.
-/

namespace FpgaInterface

/-- The body of the enumeration behind a type definition, if there is one. -/
def Typedef.enumItems? (t : Typedef) : Option (List EnumItem) :=
  match t.type with
  | .enum _ body => body
  | _ => none

/-- An enumerator of an enumeration of some kind and datatype. -/
structure Reading where
  /-- The kind that the enumeration is named for. -/
  kind : Kind
  /-- The datatype that the enumeration is named for. -/
  datatype : String
  enumerator : Enumerator

def Reading.location (r : Reading) : Location :=
  ⟨r.kind, elementName r.enumerator.name, r.datatype⟩

inductive TypedefUse where
  /-- No enumeration with a body. -/
  | none
  /-- An enumeration of another name. -/
  | foreign
  /-- An enumeration of the interface that is named for no kind. -/
  | unknown
  /-- The body of an enumeration of a kind and a datatype. -/
  | elements (kind : Kind) (datatype : String) (items : List EnumItem)

/-- What becomes of a type definition of a header. -/
def Typedef.use (interface : String) (t : Typedef) : TypedefUse :=
  match t.enumItems? with
  | Option.none => .none
  | some es => match afterStem? (interfaceStem interface) t.name with
    | Option.none => .foreign
    | some short => match decodeTypeName? short with
      | Option.none => .unknown
      | some (kind, datatype) => .elements kind datatype es

/-- The enumerator that an item of a body is, under a kind and a datatype. -/
def Reading.ofItem? (kind : Kind) (datatype : String) : EnumItem → Option Reading
  | .enumerator e => some ⟨kind, datatype, e⟩
  | .pragma => none

/-- The enumerators of a type definition that belong to the interface. -/
def Typedef.readings (interface : String) (t : Typedef) : List Reading :=
  match t.use interface with
  | .elements kind datatype items => items.filterMap (Reading.ofItem? kind datatype)
  | _ => []

/-- The enumerators of the interface in order. -/
def readings (interface : String) (ts : List Typedef) : List Reading :=
  ts.flatMap (Typedef.readings interface)

/-- The integer of an enumerator, which must be explicit. -/
def Reading.value (r : Reading) : Except ConstantError Int :=
  match r.enumerator.value? with
  | none => .error (.noValue r.enumerator.name r.enumerator.pos?)
  | some n => integerOf (some n)

def AddressSet.read (s : AddressSet) (r : Reading) : Except ConstantError AddressSet := do
  let v ← r.value
  (s.set r.location v).mapError fun e => .tooWide e r.enumerator.pos?

def Reading.notes (r : Reading) : List Note :=
  match r.value with
  | .ok v =>
    [⟨.debug, "Found " ++ r.location.text ++ " = " ++ Text.signed "0x" Text.lowerHex v⟩]
  | .error _ => []

/-- One step of the way through a header: a type definition to report, an enumerator, or a pragma
beside it. -/
inductive AddressStep where
  | skip (note : Note)
  | read (r : Reading)
  | pragma

/-- The step of an item of a body under a kind and a datatype. -/
def AddressStep.ofItem (kind : Kind) (datatype : String) (item : EnumItem) : AddressStep :=
  match Reading.ofItem? kind datatype item with
  | some r => read r
  | none => pragma

def Typedef.steps (interface : String) (t : Typedef) : List AddressStep :=
  match t.use interface with
  | .none => []
  | .foreign => [.skip ⟨.debug, "Skipping enum " ++ t.name ++ ": not part of this interface"⟩]
  | .unknown => [.skip ⟨.debug, "Skipping enum " ++ t.name ++ ": unknown element kind"⟩]
  | .elements kind datatype items => items.map (AddressStep.ofItem kind datatype)

/-- One step: only an enumerator changes the set. -/
def AddressSet.step (s : AddressSet) : AddressStep → Except ConstantError AddressSet
  | .skip _ => .ok s
  | .read r => AddressSet.read s r
  | .pragma => .error .pragma

def AddressStep.notes : AddressStep → List Note
  | skip note => [note]
  | read r => r.notes
  | pragma => []

/-- The address set of an interface, as far as the type definitions of its header give it. -/
def addressProgress (interface : String) (ts : List Typedef) :
    Progress AddressSet ConstantError :=
  .along AddressSet.step (fun _ => AddressStep.notes) SortedMap.empty
    (ts.flatMap (Typedef.steps interface))

end FpgaInterface
