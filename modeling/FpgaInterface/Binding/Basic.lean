import FpgaInterface.Element.Description
import FpgaInterface.Text.Identifier

/-!
# Bindings

A binding declares the accessor of one element.

* `makeBinding`: the binding of a location at an address;
* `registerBindings`, `fifoBindings`: the bindings of a set, in the order of its locations;
* `BindingError`: why there is none.

The first failing element decides the error; a name that occurs twice is looked for last.
-/

namespace FpgaInterface

inductive AccessorClass where
  | register
  | arrayRegister
  | readFifo
  | writeFifo
  deriving DecidableEq, Repr

def AccessorClass.name : AccessorClass → String
  | register => "Register"
  | arrayRegister => "ArrayRegister"
  | readFifo => "ReadFifo"
  | writeFifo => "WriteFifo"

/-- The accessor class of a kind. Sizes have none. -/
def Kind.accessor? : Kind → Option AccessorClass
  | control | indicator => some .register
  | controlArray | indicatorArray => some .arrayRegister
  | targetToHostFifo => some .readFifo
  | hostToTargetFifo => some .writeFifo
  | controlArraySize | indicatorArraySize => none

/-- The element types, by the vendor's tag. -/
def elementTypes : List (String × String) :=
  [("U8", "c_uint8"), ("U16", "c_uint16"), ("U32", "c_uint32"), ("U64", "c_uint64"),
   ("I8", "c_int8"), ("I16", "c_int16"), ("I32", "c_int32"), ("I64", "c_int64"),
   ("Sgl", "c_float"), ("Dbl", "c_double"), ("Bool", "c_bool")]

def reservedNames : List String :=
  ["ctypes", "Register", "ArrayRegister", "WriteFifo", "ReadFifo"]

/-- The declaration of an accessor. -/
structure Binding where
  /-- The name it is bound to. -/
  name : String
  accessor : AccessorClass
  ctype : String
  /-- The address of a register or the number of a FIFO. -/
  address : Int
  /-- The number of elements of an array. -/
  size : Option Int
  deriving DecidableEq, Repr

/-- The two namespaces of a generated module. -/
inductive Namespace where
  | registers
  | fifos
  deriving DecidableEq, Repr

def Namespace.name : Namespace → String
  | registers => "registers"
  | fifos => "fifos"

/-- Why an element has no binding. -/
inductive BindingError where
  | sizeMissing (name datatype : String)
  | noAccessor (kind : Kind)
  | invalidName (name : String)
  | reservedName (name : String)
  | unknownType (datatype : String)
  | declaredTwice (name : String) (space : Namespace)
  deriving DecidableEq, Repr

def BindingError.message : BindingError → String
  | sizeMissing name datatype => "Array size not found for '" ++ name ++ "' (" ++ datatype ++ ")"
  | noAccessor kind => kind.name ++ " definitions have no accessor"
  | invalidName name => "Element name '" ++ name ++ "' is not a valid Python identifier"
  | reservedName name =>
    "Element name '" ++ name ++ "' shadows a name used by the generated module"
  | unknownType datatype => "Unknown type '" ++ datatype ++ "'"
  | declaredTwice name space =>
    "Element name '" ++ name ++ "' is declared more than once in '" ++ space.name ++ "'"

def elementType (datatype : String) : Except BindingError String :=
  match elementTypes.lookup datatype with
  | some ctype => .ok ctype
  | none => .error (.unknownType datatype)

def makeBinding (l : Location) (address : Int) (size : Option Int) : Except BindingError Binding :=
  match l.kind.accessor? with
  | none => .error (.noAccessor l.kind)
  | some accessor =>
    if !Text.isName l.name then .error (.invalidName l.name)
    else if reservedNames.contains l.name then .error (.reservedName l.name)
    else (elementType l.datatype).map fun ctype => ⟨l.name, accessor, ctype, address, size⟩

/-- The binding of an entry. That of an array has the size paired with it. -/
def bindEntry (s : AddressSet) (e : Entry) : Except BindingError Binding :=
  if e.1.kind.isArray then
    match s.sizeOf? e.1 with
    | none => .error (.sizeMissing e.1.name e.1.datatype)
    | some size => makeBinding e.1 e.2.toNat (some size.toNat)
  else makeBinding e.1 e.2.toNat none

/-- The first name that occurs a second time, after the names `seen`. -/
def repeatedName? (seen : List String) : List String → Option String
  | [] => none
  | n :: rest => if seen.contains n then some n else repeatedName? (n :: seen) rest

/-- The bindings of the entries of some kinds, under different names. -/
def bindingsOf (s : AddressSet) (kinds : List Kind) (space : Namespace) :
    Except BindingError (List Binding) := do
  let bs ← (s.ofKinds kinds).mapM (bindEntry s)
  match repeatedName? [] (bs.map (·.name)) with
  | some name => .error (.declaredTwice name space)
  | none => .ok bs

/-- The bindings of controls, indicators and their arrays. -/
def registerBindings (s : AddressSet) : Except BindingError (List Binding) :=
  bindingsOf s [.control, .indicator, .controlArray, .indicatorArray] .registers

/-- The bindings of the FIFOs of both directions. -/
def fifoBindings (s : AddressSet) : Except BindingError (List Binding) :=
  bindingsOf s [.targetToHostFifo, .hostToTargetFifo] .fifos

end FpgaInterface
