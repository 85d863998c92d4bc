import FpgaInterface.Proofs.AsciiLiteral
import Mathlib.Tactic.IntervalCases

/-!
# JSON objects read back

* `Json.read?` : the value that a text spells by the rules of JSON, with blanks around it and nothing
  else. Of numbers, natural ones are read, and no lists and nulls are;
* `Json.readText_asciiLiteral` : the literal of a text is read as that text;
* `Json.print` : a value as it is written. Every value is read back (`Json.readValue_print`), alone
  in a text as well (`Json.read?_print`).
-/

namespace FpgaInterface

open Text

inductive Json where
  | bool (b : Bool)
  | number (n : Nat)
  | text (s : String)
  | object (members : List (String × Json))

namespace Json

/-! ## Reading texts -/

def escapes : List (Char × Char) :=
  [('"', '"'), ('\\', '\\'), ('/', '/'), ('b', '\x08'), ('f', '\x0c'), ('n', '\n'), ('r', '\r'),
   ('t', '\t')]

def code? (ds : List Char) : Option Nat :=
  if ds.all fun c => c.toNat < 0x80 && (digit? 16 c).isSome then
    some ((ds.filterMap (digit? 16)).foldl (fun n d => n * 16 + d) 0)
  else none

/-- The codes of the characters up to the quote that ends a text, and what follows it. -/
def readCodes : List Char → Option (List Nat × List Char)
  | [] => none
  | '"' :: rest => some ([], rest)
  | '\\' :: 'u' :: a :: b :: c :: d :: rest => do
    let u ← code? [a, b, c, d]
    let (us, rest) ← readCodes rest
    return (u :: us, rest)
  | '\\' :: e :: rest => do
    let c ← escapes.lookup e
    let (us, rest) ← readCodes rest
    return (c.toNat :: us, rest)
  | c :: rest =>
    if c = '\\' || c.toNat < 0x20 then none
    else do
      let (us, rest) ← readCodes rest
      return (c.toNat :: us, rest)

def isHigh (u : Nat) : Bool := 0xd800 ≤ u && u < 0xdc00

def isLow (u : Nat) : Bool := 0xdc00 ≤ u && u < 0xe000

/-- The character with a code. Halves of a pair are none. -/
def charOf? (n : Nat) : Option Char := if n.isValidChar then some (Char.ofNat n) else none

/-- The characters with some codes. The halves of a pair that follow each other are one. -/
def charsOf : List Nat → Option (List Char)
  | [] => some []
  | [u] => do return [← charOf? u]
  | high :: low :: rest =>
    if isHigh high && isLow low then do
      let c ← charOf? (0x10000 + (high - 0xd800) * 0x400 + (low - 0xdc00))
      return c :: (← charsOf rest)
    else do
      let c ← charOf? high
      return c :: (← charsOf (low :: rest))

/-- The text behind an opening quote, and what follows it. -/
def readText (cs : List Char) : Option (String × List Char) := do
  let (us, rest) ← readCodes cs
  return (String.ofList (← charsOf us), rest)

/-! ## Reading values -/

def isBlank (c : Char) : Bool := c = ' ' || c = '\t' || c = '\n' || c = '\r'

def skip (cs : List Char) : List Char := cs.dropWhile isBlank

def readNumber (cs : List Char) : Option (Nat × List Char) :=
  match cs.takeWhile Char.isDigit with
  | [] => none
  | ds => if ds.head? = some '0' && 1 < ds.length then none
    else some ((ds.filterMap (digit? 10)).foldl (fun n d => n * 10 + d) 0,
      cs.dropWhile Char.isDigit)

/-- A colon and the value of a member with a name. -/
def readNamed (value : List Char → Option (Json × List Char)) (key : String) (cs : List Char) :
    Option ((String × Json) × List Char) :=
  match skip cs with
  | ':' :: rest => do
    let (v, rest) ← value rest
    return ((key, v), rest)
  | _ => none

def readMember (value : List Char → Option (Json × List Char)) (cs : List Char) :
    Option ((String × Json) × List Char) :=
  match skip cs with
  | '"' :: rest => do
    let (key, rest) ← readText rest
    readNamed value key rest
  | _ => none

/-- The members behind the first one, up to the bracket that ends the object. -/
def moreMembers (value : List Char → Option (Json × List Char)) :
    Nat → List Char → Option (List (String × Json) × List Char)
  | 0, _ => none
  | fuel + 1, cs => match skip cs with
    | '\x7d' :: rest => some ([], rest)
    | ',' :: rest => do
      let (m, rest) ← readMember value rest
      let (ms, rest) ← moreMembers value fuel rest
      return (m :: ms, rest)
    | _ => none

/-- The value at the start of a text, and what follows it. -/
def readValue : Nat → List Char → Option (Json × List Char)
  | 0, _ => none
  | fuel + 1, cs => match skip cs with
    | 't' :: 'r' :: 'u' :: 'e' :: rest => some (.bool true, rest)
    | 'f' :: 'a' :: 'l' :: 's' :: 'e' :: rest => some (.bool false, rest)
    | '"' :: rest => do
      let (s, rest) ← readText rest
      return (.text s, rest)
    | '\x7b' :: rest => match skip rest with
      | '\x7d' :: rest => some (.object [], rest)
      | rest => do
        let (m, rest) ← readMember (readValue fuel) rest
        let (ms, rest) ← moreMembers (readValue fuel) fuel rest
        return (.object (m :: ms), rest)
    | cs => do
      let (n, rest) ← readNumber cs
      return (.number n, rest)

def read? (s : String) : Option Json := do
  let (v, rest) ← readValue (s.toList.length + 1) s.toList
  if (skip rest).isEmpty then return v else none

/-! ## Texts are read back -/

theorem ascii_digits : ∀ value < 16,
    (lowerDigit value).toNat < 0x80 ∧ (upperDigit value).toNat < 0x80 := by decide

theorem code?_of_isNumeral {n : Nat} {ds : List Char} (h : IsNumeral 16 n ds) :
    code? ds = some n := by
  have hdigit := h.digit? (by decide)
  obtain ⟨values, hvalues, rfl⟩ := h
  have hall : (ds.all fun c => c.toNat < 0x80 && (digit? 16 c).isSome) = true := by
    rw [List.all_eq_true]
    intro c hc
    obtain ⟨value, hlt, hvalue⟩ := exists_isDigit hvalues c hc
    have hascii := ascii_digits value hlt
    have hsmall : c.toNat < 0x80 := by
      rcases hvalue with rfl | rfl
      · exact hascii.1
      · exact hascii.2
    rw [hdigit c hc, Bool.and_true, decide_eq_true_eq]
    exact hsmall
  rw [code?, if_pos hall, filterMap_digit? hvalues (by decide), foldl_eq_ofDigits]

theorem readCodes_unitChars {u : Nat} (hu : u < 0x10000) (rest : List Char) :
    readCodes (unitChars u ++ rest) = (readCodes rest).map fun p => (u :: p.1, p.2) := by
  have hcode := code?_of_isNumeral (isNumeral_hexPadded 4 u)
  have hlength := length_hexPadded (show 0 < 4 by decide) hu
  unfold unitChars
  match hexPadded 4 u, hlength, hcode with
  | [a, b, c, d], _, hcode =>
    show readCodes ('\\' :: 'u' :: a :: b :: c :: d :: rest) = _
    rw [readCodes, hcode]
    cases readCodes rest <;> rfl

theorem readCodes_units {us : List Nat} (hus : ∀ u ∈ us, u < 0x10000) (rest : List Char) :
    readCodes (us.flatMap unitChars ++ rest) =
      (readCodes rest).map fun p => (us ++ p.1, p.2) := by
  induction us with
  | nil => simp
  | cons u us ih =>
    have hrest := ih fun v hv => hus v (List.mem_cons_of_mem _ hv)
    rw [List.flatMap_cons, List.append_assoc,
      readCodes_unitChars (hus u (List.mem_cons_self ..)), hrest, Option.map_map]
    rfl

theorem lt_of_mem_units16 (c : Char) : ∀ u ∈ units16 c.toNat, u < 0x10000 := by
  have htop := toNat_not_half c
  intro u hu
  unfold units16 at hu
  split at hu
  · next hsmall =>
    rw [List.mem_singleton.1 hu]
    exact hsmall
  · rcases List.mem_pair.1 hu with hu | hu <;> omega

/-- A character that a backslash and a letter stand for is read as itself. -/
theorem readCodes_escape {c e : Char} (h : escapes.lookup e = some c) (hu : e ≠ 'u')
    (hc : c.toNat < 0x10000) (rest : List Char) :
    readCodes ('\\' :: e :: rest) =
      (readCodes rest).map fun p => (units16 c.toNat ++ p.1, p.2) := by
  rw [readCodes, h, units16_of_lt hc]
  · cases readCodes rest <;> rfl
  · rintro a b c d rest' rfl
    exact absurd rfl hu

theorem lookup_of_mem_letterEscapes : ∀ p ∈ letterEscapes,
    escapes.lookup p.2 = some p.1 ∧ p.1.toNat < 0x10000 := by decide

theorem readCodes_asciiChar (c : Char) (rest : List Char) :
    readCodes (asciiChar c ++ rest) =
      (readCodes rest).map fun p => (units16 c.toNat ++ p.1, p.2) := by
  obtain ⟨e, he, hchars⟩ | ⟨hquote, hescape, hlow, hhigh, hchars⟩ | hchars := asciiChar_cases c
  · obtain ⟨hlookup, hlt⟩ := lookup_of_mem_letterEscapes _ he
    rw [hchars]
    exact readCodes_escape hlookup (letterEscapes_ne_u _ he) hlt rest
  · rw [hchars, List.singleton_append, readCodes, if_neg (by simpa [hescape] using hlow),
      units16_of_lt (by omega)]
    · cases readCodes rest <;> rfl
    · exact hquote
    · rintro a b c' d rest' rfl
      exact absurd rfl hescape
    · rintro e rest' rfl
      exact absurd rfl hescape
  · rw [hchars]
    exact readCodes_units (lt_of_mem_units16 c) rest

theorem readCodes_asciiChars (cs rest : List Char) :
    readCodes (cs.flatMap asciiChar ++ '"' :: rest) =
      some (cs.flatMap fun c => units16 c.toNat, rest) := by
  induction cs with
  | nil => rfl
  | cons c cs ih =>
    rw [List.flatMap_cons, List.append_assoc, readCodes_asciiChar, ih]
    rfl

theorem charOf?_toNat (c : Char) : charOf? c.toNat = some c := by
  have hvalid : c.toNat.isValidChar := c.valid
  rw [charOf?, if_pos hvalid, Char.ofNat_toNat]

theorem charsOf_cons {u : Nat} (h : isHigh u = false) (us : List Nat) :
    charsOf (u :: us) = (charOf? u).bind fun c => (charsOf us).map (c :: ·) := by
  cases us with
  | nil => rfl
  | cons v us =>
    rw [charsOf, h, Bool.false_and, if_neg Bool.false_ne_true]
    simp only [bind, pure, Option.map_eq_bind, Function.comp_def]

theorem charsOf_units (cs : List Char) :
    charsOf (cs.flatMap fun c => units16 c.toNat) = some cs := by
  induction cs with
  | nil => rfl
  | cons c cs ih =>
    have htop := toNat_not_half c
    rw [List.flatMap_cons]
    by_cases hc : c.toNat < 0x10000
    · have hhigh : isHigh c.toNat = false := by
        simp only [isHigh, Bool.and_eq_false_imp, decide_eq_true_eq, decide_eq_false_iff_not]
        omega
      rw [units16_of_lt hc, List.singleton_append, charsOf_cons hhigh, ih, charOf?_toNat]
      rfl
    · have hpair : (isHigh (0xd800 + (c.toNat - 0x10000) / 0x400) &&
          isLow (0xdc00 + (c.toNat - 0x10000) % 0x400)) = true := by
        simp only [isHigh, isLow, Bool.and_eq_true, decide_eq_true_eq]
        omega
      have hcode : 0x10000 + (0xd800 + (c.toNat - 0x10000) / 0x400 - 0xd800) * 0x400 +
          (0xdc00 + (c.toNat - 0x10000) % 0x400 - 0xdc00) = c.toNat := by omega
      rw [units16_of_not_lt hc, List.cons_append, List.cons_append, List.nil_append, charsOf,
        if_pos hpair, hcode, charOf?_toNat, ih]
      rfl

theorem readText_asciiChars (s : String) (rest : List Char) :
    readText (s.toList.flatMap asciiChar ++ '"' :: rest) = some (s, rest) := by
  rw [readText, readCodes_asciiChars]
  show (charsOf (s.toList.flatMap fun c => units16 c.toNat)).bind
    (fun cs => some (String.ofList cs, rest)) = _
  rw [charsOf_units, Option.bind_some, String.ofList_toList]

theorem readText_asciiLiteral (s : String) (rest : List Char) :
    ∃ cs, asciiLiteralChars s.toList ++ rest = '"' :: cs ∧ readText cs = some (s, rest) :=
  ⟨s.toList.flatMap asciiChar ++ '"' :: rest, by simp [asciiLiteralChars], readText_asciiChars s rest⟩

/-! ## Numbers are read back -/

theorem isDigit_lowerDigit : ∀ d < 10, (lowerDigit d).isDigit = true := by decide

theorem readNumber_decimal (n : Nat) {rest : List Char}
    (hrest : ∀ c ∈ rest.head?, c.isDigit = false) :
    readNumber ((decimal n).toList ++ rest) = some (n, rest) := by
  have hall : ∀ c ∈ (decimal n).toList, c.isDigit = true := by
    intro c hc
    obtain ⟨d, hd, rfl⟩ := exists_of_mem_decimal hc
    exact isDigit_lowerDigit d hd
  have htake := takeWhile_append_of_head hall hrest
  have hdrop := dropWhile_append_of_head hall hrest
  have hzero : ¬ (((decimal n).toList.head? = some '0' && 1 < (decimal n).toList.length) : Bool) := by
    rw [Bool.and_eq_true, decide_eq_true_eq, decide_eq_true_eq, not_and]
    intro hhead
    rw [length_decimal_of_head hhead]
    decide
  obtain ⟨values, hvalues, hsum⟩ := isNumeral_decimal n
  obtain ⟨d, ds, hds⟩ := List.exists_cons_of_ne_nil (decimal_ne_nil n)
  unfold readNumber
  rw [htake, hdrop]
  rw [hds] at hzero hvalues ⊢
  dsimp only
  rw [if_neg hzero, filterMap_digit? hvalues (by decide), foldl_eq_ofDigits, hsum]

/-! ## Values are read back -/

/-- A member of an object as it is written, with the characters of its value. -/
def memberChars (key : String) (value : List Char) : List Char :=
  asciiLiteralChars key.toList ++ ':' :: ' ' :: value

mutual

def print : Json → List Char
  | .bool true => ['t', 'r', 'u', 'e']
  | .bool false => ['f', 'a', 'l', 's', 'e']
  | .number n => (decimal n).toList
  | .text s => asciiLiteralChars s.toList
  | .object [] => ['\x7b', '\x7d']
  | .object ((key, v) :: rest) => '\x7b' :: (memberChars key (print v) ++ printMore rest)

/-- The members behind the first one as they are written. -/
def printMore : List (String × Json) → List Char
  | [] => ['\x7d']
  | (key, v) :: rest => ',' :: ' ' :: (memberChars key (print v) ++ printMore rest)

end

mutual

/-- The number of values and brackets in a value. -/
def size : Json → Nat
  | .bool _ | .number _ | .text _ | .object [] => 1
  | .object ((_, v) :: rest) => 1 + size v + sizeMore rest

def sizeMore : List (String × Json) → Nat
  | [] => 1
  | (_, v) :: rest => 1 + size v + sizeMore rest

end

section Equations
variable (value : List Char → Option (Json × List Char)) (fuel : Nat) (cs : List Char)

theorem readMember_space : readMember value (' ' :: cs) = readMember value cs := rfl

theorem readMember_quote :
    readMember value ('"' :: cs) = (readText cs).bind fun p => readNamed value p.1 p.2 := rfl

theorem readNamed_colon (key : String) :
    readNamed value key (':' :: cs) = (value cs).bind fun p => some ((key, p.1), p.2) := rfl

theorem moreMembers_comma :
    moreMembers value (fuel + 1) (',' :: cs) = (readMember value cs).bind fun m =>
      (moreMembers value fuel m.2).bind fun ms => some (m.1 :: ms.1, ms.2) := rfl

theorem readValue_space : readValue (fuel + 1) (' ' :: cs) = readValue (fuel + 1) cs := rfl

theorem readValue_quote :
    readValue (fuel + 1) ('"' :: cs) = (readText cs).bind fun p => some (.text p.1, p.2) := rfl

theorem readValue_open :
    readValue (fuel + 1) ('\x7b' :: '"' :: cs) = (readMember (readValue fuel) ('"' :: cs)).bind
      fun m => (moreMembers (readValue fuel) fuel m.2).bind
        fun ms => some (.object (m.1 :: ms.1), ms.2) := rfl

end Equations

theorem memberChars_append (key : String) (cs rest : List Char) :
    memberChars key cs ++ rest = asciiLiteralChars key.toList ++ ':' :: ' ' :: (cs ++ rest) := by
  rw [memberChars, List.append_assoc]
  rfl

theorem readMember_memberChars {value : List Char → Option (Json × List Char)} {v : Json}
    {cs rest : List Char} (h : value (' ' :: (cs ++ rest)) = some (v, rest)) (key : String) :
    readMember value (memberChars key cs ++ rest) = some ((key, v), rest) := by
  obtain ⟨text, htext, hkey⟩ := readText_asciiLiteral key (':' :: ' ' :: (cs ++ rest))
  rw [memberChars_append, htext, readMember_quote, hkey, Option.bind_some, readNamed_colon, h,
    Option.bind_some]

theorem readValue_digit (fuel : Nat) : ∀ d < 10, ∀ cs : List Char,
    readValue (fuel + 1) (lowerDigit d :: cs) =
      (readNumber (lowerDigit d :: cs)).bind fun p => some (.number p.1, p.2) := by
  intro d hd cs
  interval_cases d <;> rfl

theorem readValue_decimal (fuel n : Nat) (rest : List Char) :
    readValue (fuel + 1) ((decimal n).toList ++ rest) =
      (readNumber ((decimal n).toList ++ rest)).bind fun p => some (.number p.1, p.2) := by
  obtain ⟨c, cs, hcs⟩ := List.exists_cons_of_ne_nil (decimal_ne_nil n)
  obtain ⟨d, hd, rfl⟩ := exists_of_mem_decimal (hcs ▸ List.mem_cons_self ..)
  rw [hcs, List.cons_append]
  exact readValue_digit fuel d hd _

theorem sizeMore_pos (ms : List (String × Json)) : 1 ≤ sizeMore ms := by
  cases ms with
  | nil => exact Nat.le_refl _
  | cons m ms =>
    rw [sizeMore]
    omega

/-- What follows a value in an object is no digit, so that a number ends there. -/
theorem head?_printMore (ms : List (String × Json)) (rest : List Char) :
    ∀ c ∈ (printMore ms ++ rest).head?, c.isDigit = false := by
  intro c hc
  cases ms with
  | nil =>
    obtain rfl : '\x7d' = c := Option.some.inj hc
    decide
  | cons m ms =>
    obtain rfl : ',' = c := Option.some.inj hc
    decide

mutual

/-- Every value is read back, whatever follows it. -/
theorem readValue_print : ∀ (v : Json) (fuel : Nat) (rest : List Char), size v ≤ fuel →
    (∀ c ∈ rest.head?, c.isDigit = false) → readValue fuel (print v ++ rest) = some (v, rest)
  | .bool true, fuel + 1, rest, _, _ => rfl
  | .bool false, fuel + 1, rest, _, _ => rfl
  | .number n, fuel + 1, rest, _, hrest => by
    rw [print, readValue_decimal, readNumber_decimal n hrest]
    rfl
  | .text s, fuel + 1, rest, _, _ => by
    obtain ⟨cs, hcs, hread⟩ := readText_asciiLiteral s rest
    rw [print, hcs, readValue_quote, hread, Option.bind_some]
  | .object [], fuel + 1, rest, _, _ => rfl
  | .object ((key, v) :: more), fuel + 1, rest, hsize, _ => by
    rw [size] at hsize
    have hpos := sizeMore_pos more
    obtain ⟨depth, rfl⟩ : ∃ depth, fuel = depth + 1 := ⟨fuel - 1, by omega⟩
    have hvalue : readValue (depth + 1) (' ' :: (print v ++ (printMore more ++ rest))) =
        some (v, printMore more ++ rest) := by
      rw [readValue_space]
      exact readValue_print v (depth + 1) _ (by omega) (head?_printMore more rest)
    have hmember := readMember_memberChars hvalue key
    have hmore := moreMembers_printMore more (depth + 1) (depth + 1) rest (by omega) (by omega)
    obtain ⟨text, htext, -⟩ :=
      readText_asciiLiteral key (':' :: ' ' :: (print v ++ (printMore more ++ rest)))
    rw [memberChars_append, htext] at hmember
    rw [print, List.cons_append, List.append_assoc, memberChars_append, htext, readValue_open, hmember,
      Option.bind_some, hmore, Option.bind_some]
  | .bool _, 0, _, hsize, _ => by simp [size] at hsize
  | .number _, 0, _, hsize, _ => by simp [size] at hsize
  | .text _, 0, _, hsize, _ => by simp [size] at hsize
  | .object [], 0, _, hsize, _ => by simp [size] at hsize
  | .object (_ :: _), 0, _, hsize, _ => by simp [size] at hsize

theorem moreMembers_printMore : ∀ (ms : List (String × Json)) (depth fuel : Nat) (rest : List Char),
    sizeMore ms ≤ depth → sizeMore ms ≤ fuel →
      moreMembers (readValue depth) fuel (printMore ms ++ rest) = some (ms, rest)
  | [], depth, fuel + 1, rest, _, _ => rfl
  | (key, v) :: more, depth, fuel + 1, rest, hdepth, hfuel => by
    rw [sizeMore] at hdepth hfuel
    obtain ⟨depth, rfl⟩ : ∃ d, depth = d + 1 := ⟨depth - 1, by omega⟩
    have hvalue : readValue (depth + 1) (' ' :: (print v ++ (printMore more ++ rest))) =
        some (v, printMore more ++ rest) := by
      rw [readValue_space]
      exact readValue_print v (depth + 1) _ (by omega) (head?_printMore more rest)
    have hmember := readMember_memberChars hvalue key
    have hmore := moreMembers_printMore more (depth + 1) fuel rest (by omega) (by omega)
    rw [printMore, List.cons_append, List.cons_append, List.append_assoc, moreMembers_comma,
      readMember_space, hmember, Option.bind_some, hmore, Option.bind_some]
  | [], _, 0, _, _, hfuel => by simp [sizeMore] at hfuel
  | _ :: _, _, 0, _, _, hfuel => by simp [sizeMore] at hfuel

end

mutual

theorem size_le_length : ∀ v : Json, size v ≤ (print v).length
  | .bool true | .bool false | .text _ | .object [] => by simp [size, print, asciiLiteralChars]
  | .number n => by
    rw [size, print]
    exact List.length_pos_iff.2 (decimal_ne_nil n)
  | .object ((key, v) :: more) => by
    have hvalue := size_le_length v
    have hmore := sizeMore_le_length more
    simp only [size, print, memberChars, List.length_append, List.length_cons]
    omega

theorem sizeMore_le_length : ∀ ms : List (String × Json), sizeMore ms ≤ (printMore ms).length
  | [] => by simp [sizeMore, printMore]
  | (key, v) :: more => by
    have hvalue := size_le_length v
    have hmore := sizeMore_le_length more
    simp only [sizeMore, printMore, memberChars, List.length_append, List.length_cons]
    omega

end

/-- A value that is written alone, with blanks after it, is read back. -/
theorem read?_print {v : Json} {after : List Char} (h : ∀ c ∈ after, isBlank c = true) :
    read? (String.ofList (print v ++ after)) = some v := by
  have hblank : ∀ c, isBlank c = true → c.isDigit = false := by
    intro c hc
    simp only [isBlank, Bool.or_eq_true, decide_eq_true_eq] at hc
    rcases hc with ((rfl | rfl) | rfl) | rfl <;> decide
  have hrest : ∀ c ∈ after.head?, c.isDigit = false := fun c hc =>
    hblank c (h c (List.mem_of_mem_head? hc))
  have hsize : size v ≤ (print v ++ after).length + 1 := by
    have := size_le_length v
    rw [List.length_append]
    omega
  have hskip : skip after = [] := by
    unfold skip
    rw [List.dropWhile_eq_nil_iff]
    exact h
  rw [read?, String.toList_ofList, readValue_print v _ after hsize hrest]
  show (if (skip after).isEmpty then some v else none) = some v
  rw [hskip]
  rfl

end Json

end FpgaInterface
