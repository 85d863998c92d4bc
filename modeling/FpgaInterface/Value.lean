import FpgaInterface.Binary64

/-!
# Values from outside

What a build file or a caller may hand in where a certain type is asked for. The names of the types
are those that messages use. A value that may change, or holds one that may, is no key of a table.
-/

namespace FpgaInterface

/-- A value of any type. -/
inductive Value where
  | null
  | bool (b : Bool)
  | int (i : Int)
  | real (x : Binary64)
  | text (s : String)
  | bytes (bs : List UInt8)
  | list (items : List Value)
  /-- Values without an order of their own. -/
  | set (items : List Value)
  | table (rows : List (Value × Value))
  /-- Values in an order, of another type: a tuple, a range, or an iterator, which has no length. -/
  | series (type : String) (sized : Bool) (items : List Value)
  /-- A value of another type that is neither a number nor holds values, such as a date, with the
  text that shows it. -/
  | other (type shown : String)
  deriving Repr, BEq

instance : Inhabited Value := ⟨.null⟩

namespace Value

def typeName : Value → String
  | null => "NoneType"
  | bool _ => "bool"
  | int _ => "int"
  | real _ => "float"
  | text _ => "str"
  | bytes _ => "bytes"
  | list _ => "list"
  | set _ => "set"
  | table _ => "dict"
  | series type _ _ => type
  | other type _ => type

mutual

/-- The type of a value that cannot be the key of a table, since it may change or holds such a
value. -/
def unhashable? : Value → Option String
  | list _ => some "list"
  | set _ => some "set"
  | table _ => some "dict"
  | series _ true items => unhashableItem? items
  | _ => none

/-- The type of the first item that cannot be the key of a table. -/
def unhashableItem? : List Value → Option String
  | [] => none
  | v :: rest => v.unhashable?.or (unhashableItem? rest)

end

end Value

end FpgaInterface
