import FpgaInterface.CustomType.ConstantName
import FpgaInterface.CustomType.Layout
import FpgaInterface.Note

/-!
# Custom types

Fixed-point registers and clusters are declared by several constants each, one for a field.

* `CustomTypes`: the fields collected so far, by element;
* `CustomTypes.read`: reads one declaration;
* `customTypeProgress`: the fields of a header, up to the first declaration that is refused;
* `CustomTypes.registers`: the registers that the fields make up, both lists in order of names.

A constant of another field makes its element known and is otherwise passed over.
-/

namespace FpgaInterface

/-- The fields of one element. -/
structure CustomType where
  elementClass : String
  address : Option Int := none
  layout : Option FxpLayout := none
  clusterType : Option String := none
  packedSize : Option Int := none
  arraySize : Option Int := none
  deriving DecidableEq, Repr

/-- A fixed-point register. -/
structure FxpRegister where
  name : String
  elementClass : String
  layout : FxpLayout
  address : Int
  arraySize : Option Int
  deriving DecidableEq, Repr

structure ClusterRegister where
  name : String
  elementClass : String
  clusterType : String
  address : Int
  packedSize : Int
  arraySize : Option Int
  deriving DecidableEq, Repr

/-- The fields collected so far, by element. -/
abbrev CustomTypes := SortedMap String CustomType

/-! ## Reading declarations -/

/-- The name of a type: a text or an identifier. -/
def typeNameOf : Option Node → Except ConstantError String
  | some (.ident name _) => .ok name
  | n => if isText n then textOf n else .error (.notTypeName <| match foundIn n with
    | .constant .. => "Constant"
    | .node className _ => className)

/-- A value that is given for the first time. -/
def once (constant : String) (old : Option α) (new : Except CustomTypeError α) :
    Except CustomTypeError (Option α) := do
  let a ← new
  match old with
  | none => .ok (some a)
  | some _ => .error (.declaredTwice constant)

/-- The fields of an element with one more. -/
def CustomType.withField (t : CustomType) (constant : String) (init : Option Node) :
    Field → Except CustomTypeError CustomType
  | .resource => do
    return { t with address := ← once constant t.address ((integerOf init).mapError .constant) }
  | .typeInfo => do
    return { t with layout := ← once constant t.layout (readLayout init) }
  | .type => do
    return { t with
      clusterType := ← once constant t.clusterType ((typeNameOf init).mapError .constant) }
  | .packedSize => do
    return { t with
      packedSize := ← once constant t.packedSize ((integerOf init).mapError .constant) }
  | .size => do
    return { t with arraySize := ← once constant t.arraySize ((integerOf init).mapError .constant) }

/-- The parts of the name of a constant declaration under a stem. -/
def Declaration.constantName? (stem : String) (d : Declaration) : Option (String × ConstantName) :=
  if d.quals.contains "const" then do
    let name ← d.name
    let parts ← ConstantName.ofText? stem name
    return (name, parts)
  else none

/-- The fields of the element that a constant belongs to, before the constant. -/
def CustomTypes.fieldsFor (ts : CustomTypes) (c : ConstantName) : CustomType :=
  (ts.get? c.name).getD { elementClass := c.elementClass }

/-- Reads one declaration. A refused one leaves its element known. -/
def CustomTypes.read (stem : String) (ts : CustomTypes) (d : Declaration) :
    CustomTypes × Option CustomTypeError :=
  match d.constantName? stem with
  | none => (ts, none)
  | some (constant, c) =>
    if d.init.isNone then (ts, some (.noInitialiser constant))
    else
      let t := ts.fieldsFor c
      let known := ts.insert c.name t
      if t.elementClass ≠ c.elementClass then
        (known, some (.twoClasses c.name t.elementClass c.elementClass))
      else match Field.ofText? c.field with
        | none => (known, none)
        | some field => match t.withField constant d.init field with
          | .ok t' => (ts.insert c.name t', none)
          | .error e => (known, some e)

def CustomTypes.notes (stem : String) (ts : CustomTypes) (d : Declaration) : List Note :=
  match d.constantName? stem with
  | none => []
  | some (constant, c) =>
    ⟨.debug, "Found custom type constant " ++ constant⟩ ::
      if d.init.isSome && (ts.fieldsFor c).elementClass = c.elementClass &&
          (Field.ofText? c.field).isNone then
        [⟨.debug, "Ignoring unknown custom type field " ++ c.field⟩]
      else []

/-- The fields that the declarations of a header give, up to the first that is refused. -/
def customTypeProgress (stem : String) (ts : CustomTypes) :
    List Declaration → Progress CustomTypes CustomTypeError
  | [] => { state := ts }
  | d :: rest =>
    match ts.read stem d with
    | (ts', some e) => { state := ts', notes := ts.notes stem d, fault := some e }
    | (ts', none) =>
      let p := customTypeProgress stem ts' rest
      { p with notes := ts.notes stem d ++ p.notes }

/-! ## Registers -/

/-- A register of a custom type. -/
inductive CustomRegister where
  | fxp (r : FxpRegister)
  | cluster (r : ClusterRegister)
  deriving DecidableEq, Repr

/-- An address that a register may have. -/
def checkedAddress (address : Int) : Except CustomTypeError Int :=
  if 0 ≤ address then .ok address else .error (.invalidRegister [⟨[.key "address"], .below 0⟩])

/-- The register that the fields of an element make up. -/
def CustomType.register (name : String) (t : CustomType) :
    Except CustomTypeError CustomRegister :=
  match t.address with
  | none => .error (.noAddress name)
  | some address => match t.layout with
    | some layout => do
      return .fxp ⟨name, t.elementClass, layout, ← checkedAddress address, t.arraySize⟩
    | none => match t.clusterType with
      | none => .error (.noTypeInformation name)
      | some clusterType => match t.packedSize with
        | none => .error (.noPackedSize name)
        | some size => do
          return .cluster
            ⟨name, t.elementClass, clusterType, ← checkedAddress address, size, t.arraySize⟩

def CustomRegister.fxp? : CustomRegister → Option FxpRegister
  | fxp r => some r
  | cluster _ => none

def CustomRegister.cluster? : CustomRegister → Option ClusterRegister
  | fxp _ => none
  | cluster r => some r

/-- The fixed-point registers and the clusters, both in order of names. The smallest name that makes
up none decides the error. -/
def CustomTypes.registers (ts : CustomTypes) :
    Except CustomTypeError (List FxpRegister × List ClusterRegister) := do
  let rs ← ts.entries.mapM fun e => e.2.register e.1
  return (rs.filterMap CustomRegister.fxp?, rs.filterMap CustomRegister.cluster?)

end FpgaInterface
