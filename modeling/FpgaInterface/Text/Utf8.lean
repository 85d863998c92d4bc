import FpgaInterface.Text.Quoted

/-!
# Bytes that spell no text

* `Utf8.fault?`: the first place at which bytes stop being the UTF-8 form of a text;
* `Utf8.Fault.message`: its wording;
* `Utf8.Fault.chunkStart`: what is read before it if the bytes are read in chunks.

A sequence is cut short if the bytes end where more of it could follow; it is broken by the first
byte that cannot follow.
-/

namespace FpgaInterface.Text.Utf8

/-- What is wrong with a sequence of bytes. -/
inductive Cause where
  /-- No sequence starts with the byte. -/
  | start
  /-- A byte cannot follow those before it. -/
  | continuation
  /-- The bytes end within a sequence. -/
  | cutShort
  deriving DecidableEq, Repr

/-- A place where bytes stop being a text. -/
structure Fault where
  first : UInt8
  /-- The number of bytes before it. -/
  position : Nat
  /-- The number of bytes of the sequence up to the fault. -/
  length : Nat
  cause : Cause
  deriving DecidableEq, Repr

/-- The bytes that may follow the first byte of a sequence, each as a range; none if no sequence of
several bytes starts with it. -/
def followers? (b : UInt8) : Option (List (UInt8 × UInt8)) :=
  if 0xc2 ≤ b && b ≤ 0xdf then some [(0x80, 0xbf)]
  else if b = 0xe0 then some [(0xa0, 0xbf), (0x80, 0xbf)]
  else if b = 0xed then some [(0x80, 0x9f), (0x80, 0xbf)]
  else if 0xe1 ≤ b && b ≤ 0xef then some [(0x80, 0xbf), (0x80, 0xbf)]
  else if b = 0xf0 then some [(0x90, 0xbf), (0x80, 0xbf), (0x80, 0xbf)]
  else if b = 0xf4 then some [(0x80, 0x8f), (0x80, 0xbf), (0x80, 0xbf)]
  else if 0xf1 ≤ b && b ≤ 0xf3 then some [(0x80, 0xbf), (0x80, 0xbf), (0x80, 0xbf)]
  else none

/-- What is wrong with the bytes after the first of a sequence, and how many of them are right. -/
def followFault? (count : Nat) : List (UInt8 × UInt8) → List UInt8 → Option (Nat × Cause)
  | [], _ => none
  | _ :: _, [] => some (count, .cutShort)
  | (least, most) :: ranges, b :: rest =>
    if least ≤ b && b ≤ most then followFault? (count + 1) ranges rest
    else some (count, .continuation)

/-- The first fault of bytes with `position` bytes before them; `skip` of them belong to a sequence
that was looked at. -/
def faultFrom (position skip : Nat) : List UInt8 → Option Fault
  | [] => none
  | b :: rest => match skip with
    | n + 1 => faultFrom (position + 1) n rest
    | 0 =>
      if b < 0x80 then faultFrom (position + 1) 0 rest
      else match followers? b with
        | none => some ⟨b, position, 1, .start⟩
        | some ranges => match followFault? 1 ranges rest with
          | some (length, cause) => some ⟨b, position, length, cause⟩
          | none => faultFrom (position + 1) ranges.length rest

def fault? (bytes : List UInt8) : Option Fault := faultFrom 0 0 bytes

def Cause.message : Cause → String
  | start => "invalid start byte"
  | continuation => "invalid continuation byte"
  | cutShort => "unexpected end of data"

def Fault.message (f : Fault) : String :=
  "'utf-8' codec can't decode " ++
    (if f.length = 1 then
      "byte 0x" ++ String.ofList (hexPadded 2 f.first.toNat) ++ " in position " ++
        decimal f.position
    else
      "bytes in position " ++ decimal f.position ++ "-" ++ decimal (f.position + f.length - 1)) ++
    ": " ++ f.cause.message

def isFollower (b : UInt8) : Bool := 0x80 ≤ b && b ≤ 0xbf

/-- The number of bytes read before those among which a fault shows, if they are read in chunks of
some size. A sequence that a chunk leaves open is read with the next chunk, or at the end. -/
def Fault.chunkStart (f : Fault) (size : Nat) (bytes : List UInt8) : Nat :=
  match f.cause with
  | .cutShort => f.position
  | cause =>
    let shown := if cause = .start then f.position else f.position + f.length
    let chunk := shown / size * size
    let opened := ((bytes.take (chunk + 1)).reverse.takeWhile isFollower).length
    if f.position ≤ chunk then f.position else chunk - opened

example : (fault? [0x61, 0xc3, 0xa9, 0xff]).map Fault.message =
    some "'utf-8' codec can't decode byte 0xff in position 3: invalid start byte" := by
  decide +kernel
example : (fault? [0xe2, 0x82]).map Fault.message =
    some "'utf-8' codec can't decode bytes in position 0-1: unexpected end of data" := by
  decide +kernel
example : fault? [0xf0, 0x9f, 0x98, 0x80] = none := by decide
example : (fault? [0x61, 0xc3, 0xa9, 0xff]).map (·.chunkStart 2 [0x61, 0xc3, 0xa9, 0xff]) =
    some 1 := by decide +kernel

end FpgaInterface.Text.Utf8
