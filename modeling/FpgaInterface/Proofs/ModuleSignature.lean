import FpgaInterface.Proofs.JsonText
import FpgaInterface.Proofs.ModuleIdentity
import FpgaInterface.Text.Parts

/-!
# The signature that a module states

A module is read by the rules of its own language: what a line assigns, and what a literal spells.

* `Literal.read?` : the code points that a literal on one line spells, in either kind of quotes;
* `Literal.read?_asciiLiteral` : of a literal of ASCII characters they are the units of its text;
* `assigned?` : what the last line that assigns a name holds behind the sign; in a module this is the
  literal of the signature (`assigned?_moduleBody`);
* `StatesSignature` : the literal spells the signature;
* `statesSignature_iff` : it does exactly if every character has a single unit.
-/

namespace FpgaInterface

open Text

variable {c : Char} {cs ds rest line : List Char} {codes : List Nat}

namespace Literal

/-! ## Reading literals -/

def escapes : List (Char × Char) :=
  [('\\', '\\'), ('\'', '\''), ('"', '"'), ('a', '\x07'), ('b', '\x08'), ('f', '\x0c'), ('n', '\n'),
   ('r', '\r'), ('t', '\t'), ('v', '\x0b')]

/-- A character that no literal on one line holds. -/
def endsLine (c : Char) : Bool := c = '\n' || c = '\r' || c = '\x00'

def isOctal (c : Char) : Bool := '0' ≤ c && c ≤ '7'

def readNumber (width : Nat) (cs : List Char) : Option (List Nat × List Char) := do
  let n ← Json.code? (cs.take width)
  if width ≤ cs.length && n < 0x110000 then return ([n], cs.drop width) else none

/-- What an escape stands for, and what follows it. A backslash before another character stands for
itself. Escapes with the name of a character are not read. -/
def readEscape : List Char → Option (List Nat × List Char)
  | [] => none
  | 'x' :: rest => readNumber 2 rest
  | 'u' :: rest => readNumber 4 rest
  | 'U' :: rest => readNumber 8 rest
  | 'N' :: _ => none
  | c :: rest =>
    if isOctal c then
      let ds := ((c :: rest).take 3).takeWhile isOctal
      some ([(ds.filterMap (digit? 8)).foldl (fun n d => n * 8 + d) 0], (c :: rest).drop ds.length)
    else if endsLine c then none
    else match escapes.lookup c with
      | some d => some ([d.toNat], rest)
      | none => some (['\\'.toNat, c.toNat], rest)

theorem length_le_of_readNumber {width : Nat} (h : readNumber width cs = some (codes, rest)) :
    rest.length ≤ cs.length := by
  obtain ⟨n, -, h⟩ := Option.bind_eq_some_iff.1 h
  split at h
  · cases h
    rw [List.length_drop]
    omega
  · cases h

theorem length_le_of_readEscape (h : readEscape cs = some (codes, rest)) :
    rest.length ≤ cs.length := by
  unfold readEscape at h
  split at h
  · cases h
  · exact (length_le_of_readNumber h).trans (Nat.le_succ _)
  · exact (length_le_of_readNumber h).trans (Nat.le_succ _)
  · exact (length_le_of_readNumber h).trans (Nat.le_succ _)
  · cases h
  · split at h
    · cases h
      rw [List.length_drop]
      omega
    · split at h
      · cases h
      · split at h <;> cases h <;> exact Nat.le_succ _

/-- The code points up to the quote that ends a literal, and what follows it. -/
def readBody (quote : Char) : List Char → Option (List Nat × List Char)
  | [] => none
  | c :: rest =>
    if c = quote then some ([], rest)
    else if c = '\\' then
      match _h : readEscape rest with
      | none => none
      | some (codes, rest') => (readBody quote rest').map fun p => (codes ++ p.1, p.2)
    else if endsLine c then none
    else (readBody quote rest).map fun p => (c.toNat :: p.1, p.2)
termination_by cs => cs.length
decreasing_by
  · exact Nat.lt_succ_of_le (length_le_of_readEscape _h)
  · exact Nat.lt_succ_self _

/-- The code points that a text spells that is one literal on a line. Three quotes would start a
literal of many lines. -/
def read? : List Char → Option (List Nat)
  | [] => none
  | quote :: cs =>
    if (quote = '"' || quote = '\'') && !([quote, quote].isPrefixOf cs) then
      match readBody quote cs with
      | some (codes, []) => some codes
      | _ => none
    else none

example : read? "'\\x41\\101\\q\"\\u20ac'".toList = some [0x41, 0x41, 0x5c, 0x71, 0x22, 0x20ac] := by
  cbv

/-! ## Literals of ASCII characters -/

theorem readEscape_unit {u : Nat} (hu : u < 0x10000) (rest : List Char) :
    readEscape ('u' :: (hexPadded 4 u ++ rest)) = some ([u], rest) := by
  have hlength := length_hexPadded (show 0 < 4 by decide) hu
  have htop : (4 ≤ (hexPadded 4 u ++ rest).length && u < 0x110000) = true := by
    rw [List.length_append, hlength, Bool.and_eq_true, decide_eq_true_eq, decide_eq_true_eq]
    omega
  rw [readEscape, readNumber, List.take_left' hlength, List.drop_left' hlength,
    Json.code?_of_isNumeral (isNumeral_hexPadded 4 u)]
  exact if_pos htop

theorem readBody_escape (h : readEscape cs = some (codes, rest)) :
    readBody '"' ('\\' :: cs) = (readBody '"' rest).map fun p => (codes ++ p.1, p.2) := by
  rw [readBody, if_neg (by decide), if_pos rfl]
  split
  · next hnone => cases hnone.symm.trans h
  · next codes' rest' hsome =>
    cases hsome.symm.trans h
    rfl

theorem readBody_units {us : List Nat} (hus : ∀ u ∈ us, u < 0x10000) (rest : List Char) :
    readBody '"' (us.flatMap unitChars ++ rest) =
      (readBody '"' rest).map fun p => (us ++ p.1, p.2) := by
  induction us with
  | nil => simp
  | cons u us ih =>
    obtain ⟨hu, hus⟩ := List.forall_mem_cons.1 hus
    rw [List.flatMap_cons, List.append_assoc, unitChars, List.cons_append, List.cons_append,
      readBody_escape (readEscape_unit hu _), ih hus, Option.map_map]
    rfl

theorem readEscape_letter {e : Char} (h : (c, e) ∈ letterEscapes) (rest : List Char) :
    readEscape (e :: rest) = some (units16 c.toNat, rest) := by
  simp only [letterEscapes, List.mem_cons, List.not_mem_nil, or_false, Prod.mk.injEq] at h
  rcases h with ⟨rfl, rfl⟩ | ⟨rfl, rfl⟩ | ⟨rfl, rfl⟩ | ⟨rfl, rfl⟩ | ⟨rfl, rfl⟩ | ⟨rfl, rfl⟩ | ⟨rfl, rfl⟩
  all_goals rfl

theorem readBody_plain (hquote : c ≠ '"') (hescape : c ≠ '\\') (hprintable : 0x20 ≤ c.toNat)
    (rest : List Char) :
    readBody '"' (c :: rest) = (readBody '"' rest).map fun p => (c.toNat :: p.1, p.2) := by
  have hends : endsLine c = false := by
    have hlow : ∀ d : Char, d.toNat < 0x20 → decide (c = d) = false := by
      rintro d hd
      refine decide_eq_false ?_
      rintro rfl
      omega
    rw [endsLine, hlow '\n' (by decide), hlow '\r' (by decide), hlow '\x00' (by decide)]
    rfl
  rw [readBody, if_neg hquote, if_neg hescape, hends, if_neg Bool.false_ne_true]

/-- A character is read as its units. -/
theorem readBody_asciiChar (c : Char) (rest : List Char) :
    readBody '"' (asciiChar c ++ rest) =
      (readBody '"' rest).map fun p => (units16 c.toNat ++ p.1, p.2) := by
  obtain ⟨e, he, hchars⟩ | ⟨hquote, hescape, hlow, hhigh, hchars⟩ | hchars := asciiChar_cases c
  · rw [hchars]
    exact readBody_escape (readEscape_letter he rest)
  · rw [hchars, List.singleton_append, readBody_plain hquote hescape hlow,
      units16_of_lt (by omega)]
    rfl
  · rw [hchars]
    exact readBody_units (Json.lt_of_mem_units16 c) rest

theorem readBody_asciiChars (cs rest : List Char) :
    readBody '"' (cs.flatMap asciiChar ++ '"' :: rest) =
      some (cs.flatMap fun c => units16 c.toNat, rest) := by
  induction cs with
  | nil =>
    rw [List.flatMap_nil, List.nil_append, readBody, if_pos rfl]
    rfl
  | cons c cs ih =>
    rw [List.flatMap_cons, List.append_assoc, readBody_asciiChar, ih]
    rfl

/-- The literal of a text spells the units of its characters. -/
theorem read?_asciiLiteralChars (cs : List Char) :
    read? (asciiLiteralChars cs) = some (cs.flatMap fun c => units16 c.toNat) := by
  have hshort : ['"', '"'].isPrefixOf (cs.flatMap asciiChar ++ ['"']) = false := by
    cases cs with
    | nil => rfl
    | cons c cs =>
      refine Bool.eq_false_iff.2 fun hstart => ?_
      obtain ⟨xs, hxs⟩ := List.isPrefixOf_iff_prefix.1 hstart
      rw [List.flatMap_cons, List.append_assoc] at hxs
      exact asciiChar_append_ne_quote hxs.symm
  rw [asciiLiteralChars, List.cons_append, read?, hshort, if_pos (by decide), readBody_asciiChars]

end Literal

/-! ## Units and characters -/

/-- The units of a text are its characters exactly if every character has a single one. -/
theorem flatMap_units16_eq_iff : (cs.flatMap fun c => units16 c.toNat) = cs.map Char.toNat ↔
    ∀ c ∈ cs, c.toNat < 0x10000 := by
  induction cs with
  | nil => simp
  | cons c cs ih =>
    rw [List.flatMap_cons, List.map_cons, List.forall_mem_cons]
    by_cases hc : c.toNat < 0x10000
    · rw [units16_of_lt hc, List.singleton_append, List.cons.injEq, and_iff_right rfl,
        and_iff_right hc, ih]
    · have htop := toNat_not_half c
      refine iff_of_false (fun h => ?_) fun h => hc h.1
      rw [units16_of_not_lt hc, List.cons_append] at h
      have hhigh := (List.cons.inj h).1
      omega

/-! ## Assignments -/

/-- What the last line that assigns a name holds behind the sign. -/
def assigned? (name cs : List Char) : Option (List Char) :=
  (partsAt '\n' cs).reverse.findSome? fun line =>
    if (name ++ " = ".toList).isPrefixOf line then some (line.drop (name.length + 3)) else none

/-- No line of a text starts with a character. -/
def StartsNoLine (c : Char) (cs : List Char) : Prop := ∀ line ∈ partsAt '\n' cs, line.head? ≠ some c

theorem startsNoLine_append_cons : StartsNoLine c (cs ++ '\n' :: ds) ↔
    StartsNoLine c cs ∧ StartsNoLine c ds := by
  simp only [StartsNoLine, partsAt_append_cons, List.forall_mem_append]

theorem startsNoLine_of_not_mem (h : '\n' ∉ cs) : StartsNoLine c cs ↔ cs.head? ≠ some c := by
  rw [StartsNoLine, partsAt_of_not_mem h, List.forall_mem_singleton]

theorem startsNoLine_nil : StartsNoLine c [] := (startsNoLine_of_not_mem List.not_mem_nil).2 nofun

theorem startsNoLine_cons : StartsNoLine c ('\n' :: ds) ↔ StartsNoLine c ds := by
  rw [← List.nil_append ('\n' :: ds), startsNoLine_append_cons, and_iff_right startsNoLine_nil]

/-- No line behind the assignment starts like it. -/
theorem assigned?_append {name value after : List Char} (hname : name.head? = some c)
    (hline : '\n' ∉ name ++ (" = ".toList ++ value)) (hafter : StartsNoLine c after)
    (before : List Char) :
    assigned? name (before ++ '\n' :: (name ++ (" = ".toList ++ (value ++ '\n' :: after)))) =
      some value := by
  have hlater : ((partsAt '\n' after).reverse.findSome? fun line =>
      if (name ++ " = ".toList).isPrefixOf line then some (line.drop (name.length + 3)) else none) =
        none := by
    refine List.findSome?_eq_none_iff.2 fun line hmem => if_neg fun hstart => ?_
    obtain ⟨rest, rfl⟩ := List.isPrefixOf_iff_prefix.1 hstart
    refine hafter _ (List.mem_reverse.1 hmem) ?_
    rw [List.append_assoc, List.head?_append, hname]
    rfl
  have hparts : partsAt '\n' (before ++ '\n' :: (name ++ (" = ".toList ++ (value ++ '\n' :: after)))) =
      partsAt '\n' before ++ (name ++ (" = ".toList ++ value)) :: partsAt '\n' after := by
    rw [partsAt_append_cons, ← partsAt_append_sep hline, List.append_assoc, List.append_assoc]
  have hprefix : (name ++ " = ".toList).isPrefixOf (name ++ (" = ".toList ++ value)) = true :=
    List.isPrefixOf_iff_prefix.2 ⟨value, List.append_assoc ..⟩
  have hdrop : (name ++ (" = ".toList ++ value)).drop (name.length + 3) = value := by
    rw [← List.append_assoc]
    exact List.drop_left' (List.length_append ..)
  rw [assigned?, hparts, List.reverse_append, List.reverse_cons, List.findSome?_append,
    List.findSome?_append, hlater, List.findSome?_singleton, if_pos hprefix, hdrop]
  rfl

/-! ## The lines of a module -/

theorem newline_not_mem_asciiChar (c : Char) : '\n' ∉ asciiChar c := by
  have hletters : ∀ p ∈ letterEscapes, '\n' ∉ ['\\', p.2] := by decide
  obtain ⟨e, he, hchars⟩ | ⟨-, -, hlow, -, hchars⟩ | hchars := asciiChar_cases c
  · exact hchars ▸ hletters _ he
  · rw [hchars, List.mem_singleton]
    rintro rfl
    exact absurd hlow (by decide)
  · rw [hchars]
    intro hmem
    obtain ⟨u, -, hu⟩ := List.mem_flatMap.1 hmem
    have hdigits := (isNumeral_hexPadded 4 u).not_mem (by decide) (show digit? 16 '\n' = none by decide)
    simp [unitChars, hdigits] at hu

theorem newline_not_mem_asciiLiteralChars (cs : List Char) : '\n' ∉ asciiLiteralChars cs := by
  have hchars : '\n' ∉ cs.flatMap asciiChar := by
    intro hmem
    obtain ⟨c, -, hc⟩ := List.mem_flatMap.1 hmem
    exact newline_not_mem_asciiChar c hc
  simp [asciiLiteralChars, hchars]

/-- The text of a binding is one line that starts with a blank. -/
def Binding.IsLine (b : Binding) : Prop := ∃ chars, b.line.toList = ' ' :: chars ++ ['\n'] ∧ '\n' ∉ chars

theorem Declares.isLine {s : AddressSet} {e : Entry} {b : Binding} (h : Declares s e b)
    (hword : IsWord e.1.name) : b.IsLine := by
  have hname : '\n' ∉ b.name.toList :=
    h.name ▸ not_mem_of_isWord (by decide +kernel) (by decide +kernel) hword
  have hctype := h.not_mem_ctype.2
  have haccessor : '\n' ∉ b.accessor.name.toList := by
    cases b.accessor <;> decide
  have haddress : '\n' ∉ (upperHex e.2.toNat).toList :=
    (isNumeral_upperHex _).not_mem (by decide) (by decide)
  obtain ⟨chars, hend, hchars⟩ : ∃ chars, lineEnd b.size = chars ++ ['\n'] ∧ '\n' ∉ chars := by
    cases hsize : b.size with
    | none => exact ⟨[')'], rfl, by decide⟩
    | some size =>
      obtain ⟨n, rfl⟩ := (h.plain hword).size _ hsize
      have hdecimal : '\n' ∉ (decimal n).toList :=
        (isNumeral_decimal n).not_mem (by decide) (by decide)
      refine ⟨", ".toList ++ ((decimal n).toList ++ [')']), ?_, ?_⟩
      · rw [lineEnd, signed_natCast]
        simp
      · simp [hdecimal]
  refine ⟨"   ".toList ++ (b.name.toList ++ ' ' :: ("= ".toList ++ (b.accessor.name.toList ++
    '(' :: ("ctypes.".toList ++ (b.ctype.toList ++ ',' :: (" 0x".toList ++
      ((upperHex e.2.toNat).toList ++ chars))))))), ?_, ?_⟩
  · rw [Binding.line_toList h.address, hend]
    simp
  · simp [hname, hctype, haccessor, haddress, hchars]

theorem startsNoLine_lines {bs : List Binding} (hbs : ∀ b ∈ bs, b.IsLine) (hc : c ≠ ' ')
    (hrest : StartsNoLine c rest) : StartsNoLine c (bs.flatMap (·.line.toList) ++ rest) := by
  induction bs with
  | nil => exact hrest
  | cons b bs ih =>
    obtain ⟨hb, hbs⟩ := List.forall_mem_cons.1 hbs
    obtain ⟨chars, hline, hchars⟩ := hb
    rw [List.flatMap_cons, hline, List.append_assoc, List.append_assoc, List.singleton_append,
      startsNoLine_append_cons, startsNoLine_of_not_mem (by simp [hchars])]
    exact ⟨fun h => hc (Option.some.inj h).symm, ih hbs⟩

/-- The lines of a namespace start with a blank, or with its keyword. -/
theorem startsNoLine_namespaceText {space : Namespace} {about : String} {bs : List Binding}
    (hbs : ∀ b ∈ bs, b.IsLine) (habout : '\n' ∉ about.toList) (hc : c ≠ ' ') (hc' : c ≠ 'c')
    (hrest : StartsNoLine c rest) :
    StartsNoLine c ((namespaceText space about bs).toList ++ rest) := by
  have hname : '\n' ∉ space.name.toList := by cases space <;> decide
  have hsplit : (namespaceText space about bs).toList ++ rest =
      "class ".toList ++ (space.name.toList ++ [':']) ++ '\n' ::
        ("    \"\"\"".toList ++ (about.toList ++ ['"', '"', '"']) ++ '\n' :: (bodyChars bs ++ rest)) := by
    rw [namespaceText_toList]
    simp
  rw [hsplit, startsNoLine_append_cons, startsNoLine_append_cons,
    startsNoLine_of_not_mem (by simp [hname]), startsNoLine_of_not_mem (by simp [habout])]
  refine ⟨fun h => hc' (Option.some.inj h).symm, fun h => hc (Option.some.inj h).symm, ?_⟩
  cases bs with
  | nil => exact hrest
  | cons b bs =>
    have hlines := startsNoLine_lines hbs hc hrest
    rw [List.flatMap_cons] at hlines
    exact startsNoLine_cons.2 hlines

/-- The last line that assigns the signature is that of the module, whatever the interface is called. -/
theorem assigned?_moduleBody {interface signature : String} {rs fs : List Binding}
    (hrs : ∀ b ∈ rs, b.IsLine) (hfs : ∀ b ∈ fs, b.IsLine) :
    assigned? "SIGNATURE".toList (moduleBody interface signature rs fs).toList =
      some (asciiLiteralChars signature.toList) := by
  obtain ⟨front, above, hbody, habove⟩ : ∃ front above : String,
      moduleBody interface signature rs fs = front ++ above ++ "SIGNATURE = " ++
        asciiLiteral signature ++ "\n\n\n" ++ registersText rs ++ "\n\n\n" ++ fifosText fs ∧
      above.toList.getLast? = some '\n' := ⟨_, _, rfl, by decide⟩
  obtain ⟨chars, hchars⟩ := List.getLast?_eq_some_iff.1 habove
  have hmodule : (moduleBody interface signature rs fs).toList =
      front.toList ++ chars ++ '\n' :: ("SIGNATURE".toList ++ (" = ".toList ++
        (asciiLiteralChars signature.toList ++ '\n' :: '\n' :: '\n' :: ((registersText rs).toList ++
          '\n' :: '\n' :: '\n' :: ((fifosText fs).toList ++ []))))) := by
    rw [hbody]
    simp [hchars, asciiLiteral]
  have hfifos : StartsNoLine 'S' ((fifosText fs).toList ++ []) :=
    startsNoLine_namespaceText hfs (by decide) (by decide) (by decide) startsNoLine_nil
  have hregisters : StartsNoLine 'S' ((registersText rs).toList ++ '\n' :: '\n' :: '\n' ::
      ((fifosText fs).toList ++ [])) := by
    refine startsNoLine_namespaceText hrs (by decide) (by decide) (by decide) ?_
    simpa only [startsNoLine_cons] using hfifos
  rw [hmodule]
  refine assigned?_append (c := 'S') rfl ?_ ?_ _
  · simp [newline_not_mem_asciiLiteralChars]
  · simpa only [startsNoLine_cons] using hregisters

/-- A module states the signature of its description: what it assigns is one literal, and that spells
the characters of the signature. -/
def StatesSignature (d : Description) (text : String) : Prop :=
  ∃ literal, assigned? "SIGNATURE".toList text.toList = some literal ∧
    Literal.read? literal = some (d.signature.toList.map Char.toNat)

/-- What a module assigns is one literal, and that spells the units of the signature. -/
theorem assigned?_moduleText {d : Description} {interface text : String}
    (h : moduleText d interface = .ok text) : ∃ literal,
      assigned? "SIGNATURE".toList text.toList = some literal ∧
      Literal.read? literal = some (d.signature.toList.flatMap fun c => units16 c.toNat) := by
  have hlines : ∀ {space : Namespace} {bs}, space.bindings d.registers = .ok bs →
      ∀ b ∈ bs, b.IsLine := by
    intro space bs hbs b hb
    obtain ⟨e, hdeclares, hword⟩ := Namespace.exists_declares hbs b hb
    exact hdeclares.isLine hword
  obtain ⟨rs, fs, hrs, hfs, rfl⟩ := moduleText_eq_ok_iff.1 h
  exact ⟨_, assigned?_moduleBody (hlines (registerBindings_eq _ ▸ hrs))
    (hlines (fifoBindings_eq _ ▸ hfs)), Literal.read?_asciiLiteralChars _⟩

theorem statesSignature_iff_forall {d : Description} {interface text : String}
    (h : moduleText d interface = .ok text) :
    StatesSignature d text ↔ ∀ c ∈ d.signature.toList, c.toNat < 0x10000 := by
  obtain ⟨literal, hassigned, hread⟩ := assigned?_moduleText h
  rw [← flatMap_units16_eq_iff]
  constructor
  · rintro ⟨literal', hassigned', hread'⟩
    cases hassigned.symm.trans hassigned'
    exact Option.some.inj (hread.symm.trans hread')
  · intro heq
    exact ⟨literal, hassigned, heq ▸ hread⟩

/-- **What a module states as its signature.** For every description and interface with a module, the
last line that assigns the signature holds one literal, which spells the units of the signature. So
it spells the signature exactly if every character of it has a single unit. -/
theorem statesSignature_iff {d : Description} {interface text : String}
    (h : moduleText d interface = .ok text) :
    (∃ literal, assigned? "SIGNATURE".toList text.toList = some literal ∧
      Literal.read? literal = some (d.signature.toList.flatMap fun c => units16 c.toNat)) ∧
    (StatesSignature d text ↔ ∀ c ∈ d.signature.toList, c.toNat < 0x10000) :=
  ⟨assigned?_moduleText h, statesSignature_iff_forall h⟩

/-- Quotes, backslashes and control characters are read back, and an interface cannot assign it. -/
theorem statesSignature_iff_controlCharacters :
    ∃ text, moduleText ⟨"a\"\\\n\x00é\uffff", sizedTaps⟩ "Main\nSIGNATURE = 1" = .ok text ∧
      StatesSignature ⟨"a\"\\\n\x00é\uffff", sizedTaps⟩ text := by
  obtain ⟨rs, hrs⟩ := exists_of_toBool
    (show (registerBindings sizedTaps).toBool = true by decide +kernel)
  obtain ⟨fs, hfs⟩ := exists_of_toBool
    (show (fifoBindings sizedTaps).toBool = true by decide +kernel)
  have htext : moduleText ⟨"a\"\\\n\x00é\uffff", sizedTaps⟩ "Main\nSIGNATURE = 1" = .ok _ :=
    moduleText_eq_ok_iff.2 ⟨rs, fs, hrs, hfs, rfl⟩
  have hunits : ("a\"\\\n\x00é\uffff".toList.all fun c => c.toNat < 0x10000) = true := by decide
  simp only [List.all_eq_true, decide_eq_true_eq] at hunits
  exact ⟨_, htext, (statesSignature_iff htext).2.2 hunits⟩

/-- A character with a pair of units is read as two. -/
theorem not_statesSignature_pair :
    ∃ text, moduleText ⟨"😀", SortedMap.empty⟩ "Main" = .ok text ∧
      ¬ StatesSignature ⟨"😀", SortedMap.empty⟩ text := by
  have htext : moduleText ⟨"😀", SortedMap.empty⟩ "Main" = .ok _ :=
    moduleText_eq_ok_iff.2 ⟨[], [], rfl, rfl, rfl⟩
  refine ⟨_, htext, fun hstates => ?_⟩
  exact absurd ((statesSignature_iff_forall htext).1 hstates '😀' (by decide)) (by decide)

end FpgaInterface
