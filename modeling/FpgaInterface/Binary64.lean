/-!
# Binary fractions of 64 bits

* `Binary64`: a fraction of 53 bits with an exponent of eleven, an infinity, or no number;
* `nearest`: the fraction that is nearest to a ratio, the even one of two;
* `ofDecimal`, `ofNat`: the fraction nearest to a decimal number;
* `add`, `mul`: the fraction nearest to a sum or a product;
* `whole?`, `truncated?`: the integer that a fraction is, and the one that is left without its digits
  behind the point;
* `zeroOrder?`: whether a fraction is below, at or above zero.

Each operation is exact and rounds once. What is too large becomes an infinity, what is too small a
zero; both keep their sign.
-/

namespace FpgaInterface

/-- A binary fraction. -/
inductive Binary64 where
  /-- The number `mantissa * 2 ^ exponent`, or its negative. -/
  | finite (negative : Bool) (mantissa : Nat) (exponent : Int)
  | infinite (negative : Bool)
  | notNumber
  deriving DecidableEq, Repr

namespace Binary64

/-! ## Rounding -/

def mantissaBits : Nat := 53

def leastExponent : Int := -1074

def greatestExponent : Int := 971

/-- The natural number nearest to a ratio; the even one of two. -/
def roundHalfEven (num den : Nat) : Nat :=
  let q := num / den
  let r := num % den
  if 2 * r < den || (2 * r = den && q % 2 = 0) then q else q + 1

/-- A ratio over a power of two. -/
def overPower (num den : Nat) (q : Int) : Nat × Nat :=
  if 0 ≤ q then (num, den <<< q.toNat) else (num <<< (-q).toNat, den)

/-- The fraction that is nearest to a ratio. -/
def nearest (negative : Bool) (num den : Nat) : Binary64 :=
  if num = 0 then finite negative 0 0
  else
    let q : Int := (num.log2 : Int) - den.log2 - mantissaBits
    let (n, d) := overPower num den q
    let q := max leastExponent (if 1 <<< mantissaBits ≤ n / d then q + 1 else q)
    let (n, d) := overPower num den q
    let m := roundHalfEven n d
    let (m, q) := if m = 1 <<< mantissaBits then (m / 2, q + 1) else (m, q)
    if m = 0 then finite negative 0 0
    else if greatestExponent < q then infinite negative
    else finite negative m q

/-- The ratio that `mantissa * 10 ^ exponent` is. -/
def decimalRatio (mantissa : Nat) (exponent : Int) : Nat × Nat :=
  if 0 ≤ exponent then (mantissa * Nat.pow 10 exponent.toNat, 1)
  else (mantissa, Nat.pow 10 (-exponent).toNat)

/-- The fraction that is nearest to `mantissa * 10 ^ exponent`. A power of ten has three bits or
more for each zero, so that far exponents decide alone. -/
def ofDecimal (negative : Bool) (mantissa : Nat) (exponent : Int) : Binary64 :=
  if mantissa = 0 then finite negative 0 0
  else if 0 ≤ exponent && 1024 < mantissa.log2 + 3 * exponent then infinite negative
  else if exponent < 0 && mantissa.log2 + 3 * exponent < -1080 then finite negative 0 0
  else
    let (num, den) := decimalRatio mantissa exponent
    nearest negative num den

def ofNat (n : Nat) : Binary64 := nearest false n 1

/-! ## Operations -/

def neg : Binary64 → Binary64
  | finite negative m e => finite (!negative) m e
  | infinite negative => infinite !negative
  | notNumber => notNumber

def withSign (negative : Bool) (x : Binary64) : Binary64 := if negative then x.neg else x

/-- The fraction that is nearest to `n * 2 ^ exponent`; zero is positive. -/
def scaled (n : Int) (exponent : Int) : Binary64 :=
  let (num, den) := overPower n.natAbs 1 (-exponent)
  nearest (n < 0) num den

/-- A mantissa with its sign, over the weight of a smaller exponent. -/
def aligned (negative : Bool) (m : Nat) (e least : Int) : Int :=
  let n : Int := (m <<< (e - least).toNat : Nat)
  if negative then -n else n

def add : Binary64 → Binary64 → Binary64
  | notNumber, _ => notNumber
  | _, notNumber => notNumber
  | infinite a, infinite b => if a = b then infinite a else notNumber
  | infinite a, _ => infinite a
  | _, infinite b => infinite b
  | finite a m e, finite b n f =>
    if m = 0 && n = 0 then finite (a && b) 0 0
    else
      let least := min e f
      scaled (aligned a m e least + aligned b n f least) least

def mul : Binary64 → Binary64 → Binary64
  | notNumber, _ => notNumber
  | _, notNumber => notNumber
  | infinite a, infinite b => infinite (a != b)
  | infinite a, finite b n _ => if n = 0 then notNumber else infinite (a != b)
  | finite a m _, infinite b => if m = 0 then notNumber else infinite (a != b)
  | finite a m e, finite b n f =>
    let (num, den) := overPower (m * n) 1 (-(e + f))
    nearest (a != b) num den

/-- The integer that a fraction is, if it is one. -/
def whole? : Binary64 → Option Int
  | finite negative m e =>
    if 0 ≤ e then some (aligned negative m e 0)
    else if m % (1 <<< (-e).toNat) = 0 then
      let n : Int := (m >>> (-e).toNat : Nat)
      some (if negative then -n else n)
    else none
  | _ => none

/-- The integer between a fraction and zero that is nearest to the fraction. -/
def truncated? : Binary64 → Option Int
  | finite negative m e =>
    let n : Int := if 0 ≤ e then (m <<< e.toNat : Nat) else (m >>> (-e).toNat : Nat)
    some (if negative then -n else n)
  | _ => none

/-- A fraction compared with zero. What is no number is neither below nor at nor above it. -/
def zeroOrder? : Binary64 → Option Ordering
  | finite negative m _ => some (if m = 0 then .eq else if negative then .lt else .gt)
  | infinite negative => some (if negative then .lt else .gt)
  | notNumber => none

example : (ofDecimal true 25 (-1)).truncated? = some (-2) ∧ notNumber.zeroOrder? = none := by
  decide +kernel
example : (ofDecimal false 320 (-1)).whole? = some 32 ∧
    (ofDecimal true 325 (-1)).whole? = none := by
  decide +kernel
example : ofDecimal false 9007199254740993 0 = ofNat (1 <<< 53) := by decide +kernel
example : ofDecimal false 3 (-324) = finite false 1 (-1074) ∧
    ofDecimal true 1 99999999999 = infinite true := by
  decide +kernel
example : (ofDecimal false 1 (-1)).add (ofDecimal false 2 (-1)) =
    ofDecimal false 30000000000000004 (-17) := by
  decide +kernel

end Binary64

end FpgaInterface
