import FpgaInterface.Access.Quantity

/-!
# Sessions

A session moves data between a program and a running bitfile.

* `SessionCall`: what a session can be asked for;
* `Session`: answers calls, and may fail at any of them;
* `Memory`, `memorySession`: a session that keeps registers and FIFOs itself.
-/

namespace FpgaInterface

/-- What a session can be asked for. -/
inductive SessionCall where
  | readRegister (ctype : String) (address : Value)
  | writeRegister (ctype : String) (address value : Value)
  | readArray (ctype : String) (address size : Value)
  | writeArray (ctype : String) (address values : Value)
  | readFifo (ctype : String) (fifo count timeout : Value)
  | writeFifo (ctype : String) (fifo values timeout : Value)
  | startFifo (fifo : Value)
  | stopFifo (fifo : Value)
  deriving BEq, Repr

def SessionCall.method : SessionCall → String
  | readRegister _ _ => "read_register"
  | writeRegister _ _ _ => "write_register"
  | readArray _ _ _ => "read_array"
  | writeArray _ _ _ => "write_array"
  | readFifo _ _ _ _ => "read_fifo"
  | writeFifo _ _ _ _ => "write_fifo"
  | startFifo _ => "start_fifo"
  | stopFifo _ => "stop_fifo"

/-- Why a call fails. -/
inductive SessionFault where
  /-- The driver refuses the call. -/
  | failed (method : String)
  /-- A value that is no sequence was given where one is needed. -/
  | noSequence (type : String)
  /-- An address that cannot be the key of a table. -/
  | noKey (type : String)
  /-- The size of an array is no integer. -/
  | noSize (type : String)
  /-- The number of elements to be read is no integer. -/
  | noCount
  deriving DecidableEq, Repr

def SessionFault.message : SessionFault → String
  | failed method => method ++ " failed"
  | noSequence type => "'" ++ type ++ "' object is not iterable"
  | noKey type => "unhashable type: '" ++ type ++ "'"
  | noSize type => "can't multiply sequence by non-int of type '" ++ type ++ "'"
  | noCount => "slice indices must be integers or None or have an __index__ method"

/-- Answers calls and keeps a state between them. -/
structure Session (σ : Type) where
  /-- The state after a call, and the answer to it. -/
  answer : σ → SessionCall → σ × Except SessionFault Value

/-! ## Sequences -/

/-- The elements of a sequence; those of a text are its characters, those of bytes are numbers. -/
def Value.elements? : Value → Option (List Value)
  | .list items => some items
  | .text s => some (s.toList.map fun c => .text (String.singleton c))
  | .table rows => some (rows.map (·.1))
  | .bytes bs => some (bs.map fun b => .int b.toNat)
  | .set items => some items
  | .series _ _ items => some items
  | _ => none

/-- The number of elements of what has a length. An iterator has elements, but no length. -/
def Value.length? : Value → Option Nat
  | .series _ false _ => none
  | v => v.elements?.map List.length

/-- The elements of a sequence, or the refusal of what is none. -/
def Value.elements (v : Value) : Except SessionFault (List Value) :=
  match v.elements? with
  | some items => .ok items
  | none => .error (.noSequence v.typeName)

/-! ## Memory -/

/-- Values by their addresses. Equal addresses have one value. -/
abbrev Cells := List (Value × Value)

namespace Cells

def get? (cells : Cells) (address : Value) : Option Value :=
  (cells.find? fun row => row.1.equals address).map (·.2)

def put (cells : Cells) (address v : Value) : Cells :=
  (address, v) :: cells.filter fun row => !row.1.equals address

end Cells

/-- Registers and FIFOs by their addresses. -/
structure Memory where
  /-- The values of registers and of arrays. -/
  registers : Cells := []
  /-- The elements in each FIFO, as lists. -/
  fifos : Cells := []

namespace Memory

/-- The number of elements that a FIFO holds. -/
def fifoDepth : Nat := 100

/-- An address, if it can be the key of a table. -/
def key (address : Value) : Except SessionFault Value :=
  match address.unhashable? with
  | none => .ok address
  | some type => .error (.noKey type)

/-- The value in a register, or another one if it was never written. -/
def stored (m : Memory) (address default : Value) : Except SessionFault Value := do
  return (m.registers.get? (← key address)).getD default

def queued (m : Memory) (fifo : Value) : Except SessionFault (List Value) := do
  return ((m.fifos.get? (← key fifo)).bind Value.elements?).getD []

def put (m : Memory) (address v : Value) : Except SessionFault Memory := do
  return { m with registers := m.registers.put (← key address) v }

def fill (m : Memory) (fifo : Value) (vs : List Value) : Except SessionFault Memory := do
  return { m with fifos := m.fifos.put (← key fifo) (.list vs) }

/-- The array of a size whose elements are all zero. -/
def zeros (size : Value) : Except SessionFault Value :=
  match size.integer? with
  | some n => .ok (.list (List.replicate n.toNat (.int 0)))
  | none => .error (.noSize size.typeName)

/-- The first elements of a sequence and those after them. -/
def splitAt (count : Value) (vs : List Value) : Except SessionFault (List Value × List Value) :=
  match count.integer? with
  | some n => .ok (vs.take n.toNat, vs.drop n.toNat)
  | none => .error .noCount

/-- The memory after a call, and the answer to it. A register that was never written is zero. -/
def perform (m : Memory) : SessionCall → Except SessionFault (Memory × Value)
  | .readRegister _ address => do return (m, ← m.stored address (.int 0))
  | .writeRegister _ address v => do return (← m.put address v, .null)
  | .readArray _ address size => do return (m, ← m.stored address (← zeros size))
  | .writeArray _ address vs => do return (← m.put address (.list (← vs.elements)), .null)
  | .readFifo _ fifo count _ => do
    let (first, rest) ← splitAt count (← m.queued fifo)
    return (← m.fill fifo rest, .list first)
  | .writeFifo _ fifo vs _ => do
    let all := (← m.queued fifo) ++ (← vs.elements)
    return (← m.fill fifo all, .int (fifoDepth - all.length))
  | .startFifo _ => return (m, .null)
  | .stopFifo _ => return (m, .null)

end Memory

/-- A session over a memory that refuses the calls with some names. -/
def memorySession (refused : List String) : Session Memory :=
  ⟨fun m call =>
    if refused.contains call.method then (m, .error (.failed call.method))
    else match m.perform call with
      | .ok (m, v) => (m, .ok v)
      | .error e => (m, .error e)⟩

end FpgaInterface
