/-!
# Base 64

* `Base64.digit?`: the value of a digit;
* `Base64.decode?`: the bytes that a text spells in base 64.

Each digit stands for six bits. Characters that are no digits do not count, and nothing counts after
the padding that completes a group of four. A group that nothing completes spells no bytes.
-/

namespace FpgaInterface.Text.Base64

def digit? (c : Char) : Option Nat :=
  if 'A' ≤ c && c ≤ 'Z' then some (c.toNat - 'A'.toNat)
  else if 'a' ≤ c && c ≤ 'z' then some (c.toNat - 'a'.toNat + 26)
  else if c.isDigit then some (c.toNat - '0'.toNat + 52)
  else if c = '+' then some 62
  else if c = '/' then some 63
  else none

/-- The bytes that follow `place` digits of a group, of which `held` is left over, and `pads` marks
of padding. -/
def decodeFrom (place held pads : Nat) : List Char → Option (List UInt8)
  | [] => if place = 0 then some [] else none
  | c :: rest =>
    if c = '=' then
      if place < 2 then decodeFrom place held pads rest
      else if 4 ≤ place + pads + 1 then some []
      else decodeFrom place held (pads + 1) rest
    else match digit? c with
      | none => decodeFrom place held pads rest
      | some d => match place with
        | 0 => decodeFrom 1 d 0 rest
        | 1 => (UInt8.ofNat (held * 4 + d / 16) :: ·) <$> decodeFrom 2 (d % 16) 0 rest
        | 2 => (UInt8.ofNat (held * 16 + d / 4) :: ·) <$> decodeFrom 3 (d % 4) 0 rest
        | _ => (UInt8.ofNat (held * 64 + d) :: ·) <$> decodeFrom 0 0 0 rest

def decode? (cs : List Char) : Option (List UInt8) := decodeFrom 0 0 0 cs

example : decode? "aGk=".toList = some [0x68, 0x69] := by decide +kernel
example : decode? "a Gk".toList = none ∧ decode? "=".toList = some [] := by decide +kernel

end FpgaInterface.Text.Base64
