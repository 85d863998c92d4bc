import FpgaInterface.Binary64
import FpgaInterface.Text.Numeral

/-!
# Binary fractions as texts

The text of a binary fraction has the fewest decimal digits that read back to it, and of several
such texts the nearest one.

* `shortest`: the fewest digits that read back;
* `realText`: the text of a fraction, positional from `10 ^ -4` up to `10 ^ 16`.
-/

namespace FpgaInterface.Text

/-! ## Decimal digits -/

/-- The exponent of the first decimal digit of a ratio that is not zero. -/
def leadingPower (num den : Nat) : Int :=
  let guess : Int := (digits 10 num).length - (digits 10 den).length
  let (n, d) := Binary64.decimalRatio 1 guess
  if num * d < den * n then guess - 1 else guess

/-- The two decimal numbers of a grid on both sides of a ratio, the nearer one first; of two that
are as near, the even one. -/
def neighbours (num den : Nat) (grid : Int) : List (Nat × Int) :=
  let (n, d) := Binary64.decimalRatio 1 grid
  let below := num * d / (den * n)
  let near := Binary64.roundHalfEven (num * d) (den * n)
  [(near, grid), (if near = below then below + 1 else below, grid)]

/-- With this many digits every fraction reads back. -/
def digitsEnough : Nat := 17

/-- The ratio that a fraction is, without its sign. -/
def ratioOf (mantissa : Nat) (exponent : Int) : Nat × Nat :=
  Binary64.overPower mantissa 1 (-exponent)

/-- The decimal number with the fewest digits that reads back to `mantissa * 2 ^ exponent`: digits
and the exponent of ten. -/
def shortest (mantissa : Nat) (exponent : Int) : Nat × Int :=
  let (num, den) := ratioOf mantissa exponent
  let power := leadingPower num den
  let tries := (List.range digitsEnough).flatMap fun (n : Nat) =>
    neighbours num den (power - n)
  let readsBack := fun (d : Nat × Int) =>
    Binary64.ofDecimal false d.1 d.2 = .finite false mantissa exponent
  (tries.find? readsBack).getD (mantissa, 0)

/-! ## Layout -/

def trimZeros (ds : List Char) : List Char := (ds.reverse.dropWhile (· = '0')).reverse

/-- Digits with a point before the first one that counts as a fraction, and a digit on each side. -/
def pointed (ds : List Char) (whole : Int) : List Char :=
  if whole ≤ 0 then "0.".toList ++ List.replicate (-whole).toNat '0' ++ ds
  else
    let filled := ds ++ List.replicate (whole.toNat - ds.length) '0'
    let fraction := filled.drop whole.toNat
    filled.take whole.toNat ++ '.' :: (if fraction.isEmpty then ['0'] else fraction)

/-- Digits with a point after the first one, and an exponent of two digits or more. -/
def scientific (ds : List Char) (power : Int) : List Char :=
  let e := (digits 10 power.natAbs).map lowerDigit
  ds.take 1 ++ (if ds.length ≤ 1 then [] else '.' :: ds.drop 1) ++
    ['e', if power < 0 then '-' else '+'] ++ List.replicate (2 - e.length) '0' ++ e

/-- The digits of a fraction that is not negative, laid out. -/
def laidOut (mantissa : Nat) (exponent : Int) : List Char :=
  let (m, e) := shortest mantissa exponent
  let all := (digits 10 m).map lowerDigit
  let power : Int := e + all.length - 1
  let ds := trimZeros all
  if -4 ≤ power && power < 16 then pointed ds (power + 1) else scientific ds power

def realText : Binary64 → String
  | .notNumber => "nan"
  | .infinite negative => if negative then "-inf" else "inf"
  | .finite negative m e =>
    (if negative then "-" else "") ++ if m = 0 then "0.0" else String.ofList (laidOut m e)

example : realText (.ofDecimal false 15 (-1)) = "1.5" ∧
    realText (.ofDecimal true 1 16) = "-1e+16" ∧ realText (.ofDecimal false 1 (-4)) = "0.0001" := by
  decide +kernel
example : realText (.ofDecimal false 30000000000000004 (-17)) = "0.30000000000000004" := by
  decide +kernel

end FpgaInterface.Text
