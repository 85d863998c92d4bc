import FpgaInterface.Element.AddressSet
import FpgaInterface.Value

/-!
# Changes of an address set

The changes that a caller may ask for, with keys and values of any type.

* `Change`, `Answer`: what is asked for, and what comes back;
* `AddressSet.find`: look-up, with a refusal of what cannot be a key; `AddressSet.get`,
  `AddressSet.getOr` and `AddressSet.has` answer from it;
* `AddressSet.put`: stores a value, refused by key, by type and by range in that order;
* `AddressSet.apply`: one change; a change that fails leaves the set as it is, but for an update,
  which keeps the rows before the one that failed;
* `AddressSet.run`: any sequence of changes, from the empty set on.
-/

namespace FpgaInterface

/-- What stands for a key. -/
inductive Key where
  | location (l : Location)
  | foreign (v : Value)
  deriving Repr

/-- Rows under locations are rows under keys. -/
instance : Coe (List (Location × Value)) (List (Key × Value)) :=
  ⟨List.map fun r => (.location r.1, r.2)⟩

/-- Why a change fails. -/
inductive ChangeError where
  | foreignKey (type : String)
  /-- What is looked up cannot be a key, since a value of this type may change. -/
  | unhashable (type : String)
  | notInteger (l : Location)
  | tooWide (e : AddressSet.TooWide)
  | absent
  deriving DecidableEq, Repr

def ChangeError.message : ChangeError → String
  | foreignKey type => "AddressSet keys must be LocationDefinition, got " ++ type
  | unhashable type => "unhashable type: '" ++ type ++ "'"
  | notInteger l => "Value for " ++ l.text ++ " must be an int"
  | tooWide e => e.message
  | absent => "no such key"

inductive Change where
  | set (k : Key) (v : Value)
  | delete (k : Key)
  /-- Removes a key and answers its value. -/
  | pop (k : Key)
  /-- Removes a key and answers its value; a key that is not there answers the value given. -/
  | popOr (k : Key) (v : Value)
  /-- Removes the smallest key and answers its entry. -/
  | popFirst
  /-- Answers the value of a key; one that is not there is stored and answered. -/
  | setDefault (k : Key) (v : Value)
  /-- Stores rows one by one, up to the first that fails. -/
  | update (rows : List (Key × Value))
  | clear

inductive Answer where
  | nothing
  | value (v : Value)
  | entry (e : Entry)

namespace AddressSet

def valueOf (w : UInt32) : Value := .int w.toNat

/-- The word of a key. A key of another type has none; what cannot be a key is refused. -/
def find (s : AddressSet) : Key → Except ChangeError UInt32
  | .location l => match s.get? l with
    | some w => .ok w
    | none => .error .absent
  | .foreign v => match v.unhashable? with
    | none => .error .absent
    | some type => .error (.unhashable type)

def get (s : AddressSet) (k : Key) : Except ChangeError Value := (s.find k).map valueOf

/-- The value of a key; a key that is not there answers the value given. -/
def getOr (s : AddressSet) (k : Key) (v : Value) : Except ChangeError Value :=
  match s.find k with
  | .ok w => .ok (valueOf w)
  | .error .absent => .ok v
  | .error e => .error e

def has (s : AddressSet) (k : Key) : Except ChangeError Bool :=
  match s.find k with
  | .ok _ => .ok true
  | .error .absent => .ok false
  | .error e => .error e

def put (s : AddressSet) (k : Key) (v : Value) : Except ChangeError AddressSet :=
  match k with
  | .foreign key => .error (.foreignKey key.typeName)
  | .location l => match v with
    | .int i => (s.set l i).mapError .tooWide
    | _ => .error (.notInteger l)

/-- Stores rows one by one, up to the first that fails. -/
def putRows (s : AddressSet) : List (Key × Value) → AddressSet × Except ChangeError Unit
  | [] => (s, .ok ())
  | (k, v) :: rest =>
    match s.put k v with
    | .ok t => t.putRows rest
    | .error e => (s, .error e)

def remove (s : AddressSet) : Key → AddressSet
  | .location l => s.erase l
  | .foreign _ => s

def apply (s : AddressSet) : Change → AddressSet × Except ChangeError Answer
  | .set k v => match s.put k v with
    | .ok t => (t, .ok .nothing)
    | .error e => (s, .error e)
  | .delete k => match s.find k with
    | .ok _ => (s.remove k, .ok .nothing)
    | .error e => (s, .error e)
  | .pop k => match s.find k with
    | .ok w => (s.remove k, .ok (.value (valueOf w)))
    | .error e => (s, .error e)
  | .popOr k v => match s.find k with
    | .ok w => (s.remove k, .ok (.value (valueOf w)))
    | .error .absent => (s, .ok (.value v))
    | .error e => (s, .error e)
  | .popFirst => match s.first? with
    | some e => (s.erase e.1, .ok (.entry e))
    | none => (s, .error .absent)
  | .setDefault k v => match s.find k with
    | .ok w => (s, .ok (.value (valueOf w)))
    | .error .absent => match s.put k v with
      | .ok t => (t, .ok (.value v))
      | .error e => (s, .error e)
    | .error e => (s, .error e)
  | .update rows => match s.putRows rows with
    | (t, .ok _) => (t, .ok .nothing)
    | (t, .error e) => (t, .error e)
  | .clear => (SortedMap.empty, .ok .nothing)

/-- The set after a sequence of changes, failed ones included. -/
def run (changes : List Change) : AddressSet :=
  changes.foldl (fun s c => (s.apply c).1) SortedMap.empty

end AddressSet

end FpgaInterface
