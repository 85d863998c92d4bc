import FpgaInterface.Text.Shortest
import FpgaInterface.Value

/-!
# Quantities

Addresses, sizes and counts are handed in as values of any type. Integers, truth values and binary
fractions are numbers and can stand for each other; that something else was handed in shows only
when it is used.

* `Value.integer?`, `Value.isBelowZero?`, `Value.isAtMostZero?`: what is asked of an address, a size
  or a count;
* `Value.numberText`: a number as messages show it;
* `Value.equals`: equality of values, whatever the types of the numbers in them.
-/

namespace FpgaInterface

namespace Value

/-! ## Numbers -/

def ofTruth (b : Bool) : Int := if b then 1 else 0

/-- The integer that a value is, if it is one. Truth values are. -/
def integer? : Value → Option Int
  | int i => some i
  | bool b => some (ofTruth b)
  | _ => none

/-- A number without its digits behind the point. -/
def integerPart? : Value → Option Int
  | real x => x.truncated?
  | v => v.integer?

/-- A value compared with zero, if values of its type can be. Of a fraction that is no number all
comparisons are false. -/
def zeroOrder? : Value → Option (Option Ordering)
  | int i => some (some (compare i 0))
  | bool b => some (some (compare (ofTruth b) 0))
  | real x => some x.zeroOrder?
  | _ => none

/-- The answer to `v < 0`, if there is one. -/
def isBelowZero? (v : Value) : Option Bool := v.zeroOrder?.map (· = some .lt)

/-- The answer to `v <= 0`, if there is one. -/
def isAtMostZero? (v : Value) : Option Bool :=
  v.zeroOrder?.map fun o => o = some .lt || o = some .eq

theorem isAtMostZero?_of_integer? {v : Value} {i : Int} (h : v.integer? = some i) :
    v.isAtMostZero? = some (decide (i ≤ 0)) := by
  cases v with
  | int | bool =>
    cases h
    simp [isAtMostZero?, zeroOrder?, Int.compare_eq_lt, Int.le_iff_lt_or_eq]
  | _ => cases h

def numberText : Value → String
  | int i => Text.signed "" Text.decimal i
  | bool b => if b then "True" else "False"
  | real x => Text.realText x
  | _ => ""

example : (real (.ofDecimal true 5 (-1))).isBelowZero? = some true ∧
    (real .notNumber).isAtMostZero? = some false ∧ (text "1").isAtMostZero? = none := by
  decide +kernel

/-! ## Equality -/

/-- The number that a value is, if it is one: an integer unless it has a fraction. -/
def number? : Value → Option (Int ⊕ Binary64)
  | real .notNumber => none
  | real x => some (match x.whole? with
    | some i => .inl i
    | none => .inr x)
  | v => v.integer?.map .inl

/-- Two values that hold no other values are equal. -/
def sameScalar : Value → Value → Bool
  | null, null => true
  | text s, text t => s = t
  | bytes bs, bytes cs => bs = cs
  | other type shown, other type' shown' => type = type' && shown = shown'
  | v, w => v.number?.isSome && v.number? = w.number?

mutual

def equals : Value → Value → Bool
  | list vs, w => match w with
    | list ws => equalItems vs ws
    | _ => false
  | set vs, w => match w with
    | set ws => vs.length = ws.length && allIn vs ws
    | _ => false
  | table rows, w => match w with
    | table rows' => rows.length = rows'.length && allRowsIn rows rows'
    | _ => false
  | series type sized vs, w => match w with
    | series type' sized' ws => type = type' && sized && sized' && equalItems vs ws
    | _ => false
  | v, w => v.sameScalar w
termination_by structural v => v

def equalItems : List Value → List Value → Bool
  | [], [] => true
  | v :: vs, w :: ws => v.equals w && equalItems vs ws
  | _, _ => false
termination_by structural vs => vs

/-- Each of some values is equal to one of others. -/
def allIn : List Value → List Value → Bool
  | [], _ => true
  | v :: vs, ws => ws.any (fun w => v.equals w) && allIn vs ws
termination_by structural vs => vs

/-- Each of some rows has an equal key and an equal value in one of others. -/
def allRowsIn : List (Value × Value) → List (Value × Value) → Bool
  | [], _ => true
  | (key, v) :: rest, rows =>
    rows.any (fun row => key.equals row.1 && v.equals row.2) && allRowsIn rest rows
termination_by structural rows => rows

end

example : (list [bool true, real (.ofNat 2)]).equals (list [int 1, int 2]) ∧
    (set [int 1, int 2]).equals (set [int 2, int 1]) := by
  decide +kernel

example : ¬ (text "1").equals (int 1) ∧ ¬ (real .notNumber).equals (real .notNumber) := by
  decide +kernel

end Value

end FpgaInterface
