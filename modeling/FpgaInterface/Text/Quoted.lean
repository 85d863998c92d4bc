import FpgaInterface.Text.Numeral
import FpgaInterface.Text.Printable

/-!
# Quoted texts

* `quoted`, `quotedBytes`: a text as a message shows it, in quotes and without unprintable
  characters, and bytes likewise;
* `asciiLiteral`: a text as a string literal of ASCII characters in double quotes.

`quoted` takes single quotes, or double ones for a text that holds a single quote and no double one.
`asciiLiteral` writes a character above `~` as `\uXXXX`, in two units if it has no single one.
-/

namespace FpgaInterface.Text

/-- The lower-case hexadecimal numeral of a number, filled up with zeros to a width. -/
def hexPadded (width n : Nat) : List Char :=
  let ds := (digits 16 n).map lowerDigit
  List.replicate (width - ds.length) '0' ++ ds

/-! ## Texts in messages -/

def quotedChar (quote c : Char) : List Char :=
  if c = quote || c = '\\' then ['\\', c]
  else if c = '\t' then ['\\', 't']
  else if c = '\n' then ['\\', 'n']
  else if c = '\r' then ['\\', 'r']
  else if isPrintable c then [c]
  else if c.toNat ≤ 0xff then '\\' :: 'x' :: hexPadded 2 c.toNat
  else if c.toNat ≤ 0xffff then '\\' :: 'u' :: hexPadded 4 c.toNat
  else '\\' :: 'U' :: hexPadded 8 c.toNat

/-- The quote around a text: single, unless the text holds a single quote and no double one. -/
def quoteFor (cs : List Char) : Char :=
  if cs.contains '\'' && !cs.contains '"' then '"' else '\''

/-- The text as a message shows it. -/
def quoted (s : String) : String :=
  let cs := s.toList
  let q := quoteFor cs
  String.ofList (q :: cs.flatMap (quotedChar q) ++ [q])

/-- One byte of quoted bytes. Bytes above those of ASCII characters are shown as numerals. -/
def quotedByte (quote : Char) (b : UInt8) : List Char :=
  if b < 0x80 then quotedChar quote (Char.ofNat b.toNat) else '\\' :: 'x' :: hexPadded 2 b.toNat

def quotedBytes (bs : List UInt8) : String :=
  let q := quoteFor (bs.map fun b => Char.ofNat b.toNat)
  String.ofList ('b' :: q :: bs.flatMap (quotedByte q) ++ [q])

def quotedList (ss : List String) : String := "[" ++ ", ".intercalate (ss.map quoted) ++ "]"

/-! ## Literals of ASCII characters -/

/-- The units of sixteen bits that spell a code point. -/
def units16 (n : Nat) : List Nat :=
  if n < 0x10000 then [n]
  else [0xd800 + (n - 0x10000) / 0x400, 0xdc00 + (n - 0x10000) % 0x400]

def asciiChar (c : Char) : List Char :=
  if c = '"' || c = '\\' then ['\\', c]
  else if c = '\n' then ['\\', 'n']
  else if c = '\r' then ['\\', 'r']
  else if c = '\t' then ['\\', 't']
  else if c = '\x0c' then ['\\', 'f']
  else if c = '\x08' then ['\\', 'b']
  else if ' ' ≤ c && c ≤ '~' then [c]
  else (units16 c.toNat).flatMap fun u => '\\' :: 'u' :: hexPadded 4 u

def asciiLiteralChars (cs : List Char) : List Char := '"' :: cs.flatMap asciiChar ++ ['"']

/-- The text as a string literal of ASCII characters. -/
def asciiLiteral (s : String) : String := String.ofList (asciiLiteralChars s.toList)

end FpgaInterface.Text
