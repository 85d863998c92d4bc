/-!
# Kinds of interface elements

A header groups its elements by kind: controls and indicators, arrays of both, the sizes of those
arrays, and the two directions of DMA FIFOs.

* `Kind.all`: the kinds in declaration order, which is the first sort key of a location;
* `Kind.tag`: what a header writes in front of a datatype;
* `Kind.withSize`: from the kind of an array to the kind that holds its size.
-/

namespace FpgaInterface

/-- The category of an interface element. -/
inductive Kind where
  | control
  | indicator
  | controlArray
  | indicatorArray
  | controlArraySize
  | indicatorArraySize
  | targetToHostFifo
  | hostToTargetFifo
  deriving DecidableEq, Repr

namespace Kind

/-- The kinds in declaration order. -/
def all : List Kind :=
  [control, indicator, controlArray, indicatorArray, controlArraySize, indicatorArraySize,
   targetToHostFifo, hostToTargetFifo]

def name : Kind → String
  | control => "Control"
  | indicator => "Indicator"
  | controlArray => "ControlArray"
  | indicatorArray => "IndicatorArray"
  | controlArraySize => "ControlArraySize"
  | indicatorArraySize => "IndicatorArraySize"
  | targetToHostFifo => "TargetToHostFifo"
  | hostToTargetFifo => "HostToTargetFifo"

def ofName? (s : String) : Option Kind := all.find? (·.name == s)

/-- The start of the type name that a header gives an element of the kind. A size kind has the tag
of its array kind: what tells it apart stands at the end of the type name. -/
def tag : Kind → String
  | controlArraySize => "ControlArray"
  | indicatorArraySize => "IndicatorArray"
  | k => k.name

/-- Arrays and their sizes. -/
def isArray : Kind → Bool
  | controlArray | indicatorArray | controlArraySize | indicatorArraySize => true
  | _ => false

def isSize : Kind → Bool
  | controlArraySize | indicatorArraySize => true
  | _ => false

def isFifo : Kind → Bool
  | targetToHostFifo | hostToTargetFifo => true
  | _ => false

def order : Kind → Nat
  | control => 0
  | indicator => 1
  | controlArray => 2
  | indicatorArray => 3
  | controlArraySize => 4
  | indicatorArraySize => 5
  | targetToHostFifo => 6
  | hostToTargetFifo => 7

/-- The size kind of an array kind; any other kind is its own. -/
def withSize : Kind → Kind
  | controlArray => controlArraySize
  | indicatorArray => indicatorArraySize
  | k => k

theorem mem_all (k : Kind) : k ∈ all := by cases k <;> decide

theorem ofName?_name (k : Kind) : ofName? k.name = some k := by cases k <;> decide +kernel

theorem order_inj {a b : Kind} (h : a.order = b.order) : a = b := by
  cases a <;> cases b <;> first | rfl | cases h

end Kind

end FpgaInterface
