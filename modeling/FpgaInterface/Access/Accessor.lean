import FpgaInterface.Access.Session
import FpgaInterface.Binding.Basic
import FpgaInterface.Note
import FpgaInterface.Text.Quoted

/-!
# Accessors

An accessor knows the type and the address of one element and asks a session for its data.

* `Accessor`, `Accessor.make`: the four classes of accessors; an array has at least one element;
* `Access`: a use of an accessor; `Access.call`: what the session is asked for;
* `Access.perform`: a use over a session. It makes at most one call and hands on its answer.

Addresses, sizes and counts may be values of any type. A size must be a number from the start, a
count when it is used; the rest is the session's affair. Numbers of types of their own, such as
exact decimal fractions, and addresses that show themselves in a way of their own are left out.
-/

namespace FpgaInterface

/-- A single control or indicator. -/
structure Register where
  ctype : String
  address : Value
  deriving Repr

/-- A control or indicator that is an array. -/
structure ArrayRegister where
  ctype : String
  address : Value
  size : Value
  /-- The size is not found to be zero or less. -/
  not_empty : size.isAtMostZero? = some false
  deriving Repr

/-- A FIFO that the host reads. -/
structure ReadFifo where
  ctype : String
  /-- Its number. -/
  fifo : Value
  deriving Repr

/-- A FIFO that the host writes. -/
structure WriteFifo where
  ctype : String
  /-- Its number. -/
  fifo : Value
  deriving Repr

/-- An accessor of any class. -/
inductive Accessor where
  | register (r : Register)
  | arrayRegister (r : ArrayRegister)
  | readFifo (f : ReadFifo)
  | writeFifo (f : WriteFifo)
  deriving Repr

/-! ## Faults -/

/-- Why an accessor cannot be made or used. -/
inductive AccessFault where
  | noElements (address : Int)
  | wrongLength (address : Int) (size : String) (got : Nat)
  | negativeCount (count : String)
  | noLength (type : String)
  | noSequence (type : String)
  /-- A value of a type without an order is compared with an integer. -/
  | noOrder (operator type : String)
  /-- A message would show an address that is no integer. -/
  | noAddress (type : String)
  | noElementType (name : String)
  | noMethod (accessor method : String)
  | missingArguments (method : String) (names : List String)
  /-- A method takes between two numbers of arguments. -/
  | extraArguments (method : String) (least most got : Nat)
  | session (e : SessionFault)
  deriving DecidableEq, Repr

/-- The class of an error, by which a program tells faults apart. -/
inductive FaultKind where
  | value
  | type
  | attribute
  /-- A failure of a session. -/
  | session
  deriving DecidableEq, Repr

def SessionFault.kind : SessionFault → FaultKind
  | failed _ => .session
  | noSequence _ | noKey _ | noSize _ | noCount => .type

def AccessFault.kind : AccessFault → FaultKind
  | noElements _ | wrongLength _ _ _ | negativeCount _ => .value
  | noLength _ | noSequence _ | noOrder _ _ | missingArguments _ _ | extraArguments _ _ _ _ => .type
  -- numbers and texts have formats, but not that of an address
  | noAddress type => if ["float", "str"].contains type then .value else .type
  | noElementType _ | noMethod _ _ => .attribute
  | session e => e.kind

/-- The list `'a', 'b', and 'c'` of some names. -/
def namesJoined : List String → String
  | [] => ""
  | [a] => Text.quoted a
  | [a, b] => Text.quoted a ++ " and " ++ Text.quoted b
  | [a, b, c] => Text.quoted a ++ ", " ++ Text.quoted b ++ ", and " ++ Text.quoted c
  | a :: rest => Text.quoted a ++ ", " ++ namesJoined rest

def counted (n : Nat) (thing : String) : String :=
  Text.decimal n ++ " " ++ thing ++ (if n = 1 then "" else "s")

def addressShown (address : Int) : String := "0x" ++ Text.signed "" Text.upperHex address

def AccessFault.message : AccessFault → String
  | noElements address =>
    "Array register at " ++ addressShown address ++ " must have a positive size"
  | wrongLength address size got =>
    "Array register at " ++ addressShown address ++ " holds " ++ size ++ " elements, got " ++
      Text.decimal got
  | negativeCount count => "Cannot read " ++ count ++ " elements"
  | noLength type => "object of type '" ++ type ++ "' has no len()"
  | noSequence type => "'" ++ type ++ "' object is not iterable"
  | noOrder operator type =>
    "'" ++ operator ++ "' not supported between instances of '" ++ type ++ "' and 'int'"
  | noAddress type =>
    if ["float", "str"].contains type then
      "Unknown format code 'X' for object of type '" ++ type ++ "'"
    else "unsupported format string passed to " ++ type ++ ".__format__"
  | noElementType name => "module 'ctypes' has no attribute " ++ Text.quoted name
  | noMethod accessor method => "'" ++ accessor ++ "' object has no attribute '" ++ method ++ "'"
  | missingArguments method names =>
    method ++ "() missing " ++ counted names.length "required positional argument" ++ ": " ++
      namesJoined names
  | extraArguments method least most got =>
    method ++ "() takes " ++
      (if least = most then counted most "positional argument"
        else "from " ++ Text.decimal least ++ " to " ++ counted most "positional argument") ++
      " but " ++ Text.decimal got ++ " were given"
  | session e => e.message

/-- A fault at an address, which its message shows. -/
def faultAt (address : Value) (fault : Int → AccessFault) : AccessFault :=
  match address.integer? with
  | some i => fault i
  | none => .noAddress address.typeName

/-- Checks the number of the arguments of a method, of which the last `optional` may be missing.
Messages count `hidden` arguments before them. -/
def checkArguments (method : String) (hidden : Nat) (names : List String) (optional : Nat)
    (args : List Value) : Except AccessFault Unit :=
  if args.length < names.length then .error (.missingArguments method (names.drop args.length))
  else if names.length + optional < args.length then
    .error (.extraArguments method (hidden + names.length) (hidden + names.length + optional)
      (hidden + args.length))
  else .ok ()

/-! ## Element types -/

/-- Other names of element types, with the name that says their width. Long integers have 64
bits. -/
def typeAliases : List (String × String) :=
  [("c_byte", "c_int8"), ("c_ubyte", "c_uint8"), ("c_short", "c_int16"), ("c_ushort", "c_uint16"),
   ("c_int", "c_int32"), ("c_uint", "c_uint32"), ("c_long", "c_int64"), ("c_ulong", "c_uint64"),
   ("c_longlong", "c_int64"), ("c_ulonglong", "c_uint64"), ("c_size_t", "c_uint64"),
   ("c_ssize_t", "c_int64"), ("c_voidp", "c_void_p")]

def otherTypes : List String :=
  ["c_char", "c_wchar", "c_longdouble", "c_char_p", "c_wchar_p", "c_void_p", "py_object"]

def elementTypeNamed (name : String) : Except AccessFault String :=
  let type := (typeAliases.lookup name).getD name
  if (elementTypes.map (·.2) ++ otherTypes).contains type then .ok type
  else .error (.noElementType name)

/-! ## Making accessors -/

namespace Accessor

def ofSize (ctype : String) (address size : Value) : Except AccessFault Accessor :=
  if h : size.isAtMostZero? = some false then .ok (.arrayRegister ⟨ctype, address, size, h⟩)
  else if size.isAtMostZero?.isNone then .error (.noOrder "<=" size.typeName)
  else .error (faultAt address .noElements)

/-- An accessor of a class. Only arrays have a size. -/
def make (c : AccessorClass) (ctype : String) (args : List Value) :
    Except AccessFault Accessor := do
  let names := if c = .arrayRegister then ["address", "size"] else ["address"]
  checkArguments (c.name ++ ".__init__") 2 names 0 args
  let address := args.headD .null
  match c with
  | .register => return .register ⟨ctype, address⟩
  | .readFifo => return .readFifo ⟨ctype, address⟩
  | .writeFifo => return .writeFifo ⟨ctype, address⟩
  | .arrayRegister => ofSize ctype address (args.getD 1 .null)

/-- The accessor that a binding declares. -/
def ofBinding (b : Binding) : Except AccessFault Accessor :=
  make b.accessor b.ctype (.int b.address :: (b.size.map Value.int).toList)

def accessorClass : Accessor → AccessorClass
  | register _ => .register
  | arrayRegister _ => .arrayRegister
  | readFifo _ => .readFifo
  | writeFifo _ => .writeFifo

/-- The fields of an accessor by their names, the element type aside. -/
def fields : Accessor → List (String × Value)
  | register r => [("address", r.address)]
  | arrayRegister r => [("address", r.address), ("size", r.size)]
  | readFifo f => [("address", f.fifo)]
  | writeFifo f => [("address", f.fifo)]

def ctype : Accessor → String
  | register r => r.ctype
  | arrayRegister r => r.ctype
  | readFifo f => f.ctype
  | writeFifo f => f.ctype

/-- Two accessors are equal: they are of one class and have equal fields. -/
def equals (a b : Accessor) : Bool :=
  a.accessorClass = b.accessorClass && a.ctype = b.ctype &&
    (Value.list (a.fields.map (·.2))).equals (.list (b.fields.map (·.2)))

def methods (a : Accessor) : List String :=
  match a with
  | register _ | arrayRegister _ => ["read", "write"]
  | readFifo _ => ["read", "start", "stop"]
  | writeFifo _ => ["write", "start", "stop"]

/-- The names of all that an accessor has. -/
def attributes (a : Accessor) : List String := "ctype" :: a.fields.map (·.1) ++ a.methods

end Accessor

/-! ## Uses -/

/-- A use of an accessor. -/
inductive Access where
  | readRegister (r : Register)
  | writeRegister (r : Register) (value : Value)
  | readArray (r : ArrayRegister)
  | writeArray (r : ArrayRegister) (values : Value)
  | readFifo (f : ReadFifo) (count timeout : Value)
  | writeFifo (f : WriteFifo) (values timeout : Value)
  | start (fifo : Value)
  | stop (fifo : Value)

def Accessor.use (a : Accessor) (method : String) (args : List Value) :
    Except AccessFault Access :=
  let check := checkArguments (a.accessorClass.name ++ "." ++ method) 2
  let checkBare := checkArguments ("_Fifo." ++ method) 2 [] 0
  let first := args.headD .null
  let second := args.getD 1 .null
  match method, a with
  | "read", .register r => do check [] 0 args; return .readRegister r
  | "read", .arrayRegister r => do check [] 0 args; return .readArray r
  | "read", .readFifo f => do check ["count"] 1 args; return .readFifo f first second
  | "write", .register r => do check ["value"] 0 args; return .writeRegister r first
  | "write", .arrayRegister r => do check ["values"] 0 args; return .writeArray r first
  | "write", .writeFifo f => do check ["values"] 1 args; return .writeFifo f first second
  | "start", .readFifo f => do checkBare args; return .start f.fifo
  | "start", .writeFifo f => do checkBare args; return .start f.fifo
  | "stop", .readFifo f => do checkBare args; return .stop f.fifo
  | "stop", .writeFifo f => do checkBare args; return .stop f.fifo
  | _, a => .error (.noMethod a.accessorClass.name method)

/-- What the session is asked for. An array is written as a whole, and no negative number of
elements is read. -/
def Access.call : Access → Except AccessFault SessionCall
  | readRegister r => .ok (.readRegister r.ctype r.address)
  | writeRegister r value => .ok (.writeRegister r.ctype r.address value)
  | readArray r => .ok (.readArray r.ctype r.address r.size)
  | writeArray r values => match values.length? with
    | none => .error (.noLength values.typeName)
    | some n =>
      if (Value.int n).equals r.size then .ok (.writeArray r.ctype r.address values)
      else .error (faultAt r.address (.wrongLength · r.size.numberText n))
  | readFifo f count timeout => match count.isBelowZero? with
    | none => .error (.noOrder "<" count.typeName)
    | some true => .error (.negativeCount count.numberText)
    | some false => .ok (.readFifo f.ctype f.fifo count timeout)
  | writeFifo f values timeout => .ok (.writeFifo f.ctype f.fifo values timeout)
  | start fifo => .ok (.startFifo fifo)
  | stop fifo => .ok (.stopFifo fifo)

/-- What is no number is not below zero, and a tuple has a length as a list has. -/
example (f : ReadFifo) :
    (Access.readFifo f (.real .notNumber) .null).call =
        .ok (.readFifo f.ctype f.fifo (.real .notNumber) .null) ∧
      (Access.writeArray ⟨"c_uint8", .int 24, .int 2, rfl⟩ (.series "tuple" true [.int 1, .int 2])).call =
        .ok (.writeArray "c_uint8" (.int 24) (.series "tuple" true [.int 1, .int 2])) :=
  ⟨rfl, rfl⟩

/-- The warning that an array has another size than the number of elements that were read of it. An
address that is no integer and a size without an integer part have no place in it, and it stays as
it is written. -/
def sizeWarning (address size : Value) (got : Nat) : String :=
  match address.integer?, size.integerPart? with
  | some address, some size =>
    "Session returned " ++ Text.decimal got ++ " elements for array register " ++
      addressShown address ++ " of size " ++ Text.signed "" Text.decimal size
  | _, _ => "Session returned %d elements for array register 0x%X of size %d"

def sizeNotes (r : ArrayRegister) (got : Nat) : List Note :=
  if (Value.int got).equals r.size then []
  else [⟨.warning, sizeWarning r.address r.size got⟩]

/-- How a use ends. -/
structure Accessed (σ : Type) where
  /-- The state of the session after it. -/
  state : σ
  calls : List SessionCall := []
  /-- What is reported. -/
  notes : List Note := []
  result : Except AccessFault Value

/-- The data that a use makes of the answer to its call, and what is reported of them. Writing a
register, starting and stopping give no data. -/
def Access.data (a : Access) (v : Value) : List Note × Except AccessFault Value :=
  match a with
  | readArray r => match v.elements? with
    | none => ([], .error (.noSequence v.typeName))
    | some items => (sizeNotes r items.length, .ok (.list items))
  | readRegister _ | readFifo _ _ _ | writeFifo _ _ _ => ([], .ok v)
  | writeRegister _ _ | writeArray _ _ | start _ | stop _ => ([], .ok .null)

def Access.perform (s : Session σ) (state : σ) (a : Access) : Accessed σ :=
  match a.call with
  | .error e => { state, result := .error e }
  | .ok call => match s.answer state call with
    | (state, .error e) => { state, calls := [call], result := .error (.session e) }
    | (state, .ok v) =>
      let (notes, result) := a.data v
      { state, calls := [call], notes, result }

end FpgaInterface
