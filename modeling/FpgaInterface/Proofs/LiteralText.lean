import FpgaInterface.Binding.ModuleText
import FpgaInterface.Proofs.Numeral

/-!
# Texts of integer literals

Every spelling of a number is read as that number. Some texts that spell no integer literal are read
as well, since what stands after the mark of a notation is read with all that a numeral may have
around its digits.

* `parseInteger_of_literal` : literals have the value that they spell, and addresses are written as
  such literals;
* `IsIntegerText` : digits in one of the four notations, with a suffix and blanks around them;
* `Marks ds radix payload` : the radix that the start of a literal marks, and what is read in it;
* `Text.Spelling.IsBare` : a spelling without blanks, sign, mark, underscores and digits of another
  script;
* `RefusesOthers` : a text that is no integer literal is refused;
* `refusesOthers_iff` : it is, exactly if what is read has no spelling that is not bare.
-/

namespace FpgaInterface

/-! ## Literals of a number -/

/-- An address is written as a hexadecimal literal. -/
theorem isLiteral_addressText (n : Nat) : IsLiteral n (addressText n).toList := by
  have hne : (Text.upperHex n).toList ≠ [] := by
    rw [Text.upperHex, String.toList_ofList, ne_eq, List.map_eq_nil_iff]
    exact Text.digits_ne_nil 16 n
  refine ⟨'0' :: 'x' :: (Text.upperHex n).toList, [], ?_, ?_, List.forall_mem_nil _⟩
  · rw [addressText, Text.signed_natCast, String.toList_append, List.append_nil]
    rfl
  · exact .hexadecimal (by decide) (Text.isNumeral_upperHex n) hne

theorem parseInteger_of_isLiteral {n : Nat} {text : String} {cs : List Char}
    (before after : List Char) (hbefore : ∀ c ∈ before, Text.isBlank c = true)
    (hafter : ∀ c ∈ after, Text.isBlank c = true) (hcs : IsLiteral n cs)
    (htext : text.toList = before ++ (cs ++ after)) : parseInteger text = .ok (n : Int) := by
  rw [parseInteger, integerLiteral?_of_isLiteral hbefore hafter hcs htext]

/-- **A literal has the value that it spells**, in each notation, with any suffix and any blanks
around it. An address is written as a literal of it, and so read back. -/
theorem parseInteger_of_literal (n : Nat) :
    (∀ (text : String) (before cs after : List Char), (∀ c ∈ before, Text.isBlank c = true) →
      (∀ c ∈ after, Text.isBlank c = true) → IsLiteral n cs →
        text.toList = before ++ (cs ++ after) → parseInteger text = .ok (n : Int)) ∧
      IsLiteral n (addressText n).toList ∧ parseInteger (addressText n) = .ok (n : Int) := by
  refine ⟨fun text before cs after hbefore hafter hcs htext => ?_, isLiteral_addressText n, ?_⟩
  · exact parseInteger_of_isLiteral before after hbefore hafter hcs htext
  · exact parseInteger_of_isLiteral [] [] (List.forall_mem_nil _) (List.forall_mem_nil _)
      (isLiteral_addressText n) (List.append_nil _).symm

/-- A number in the four notations, and as an address. -/
theorem parseInteger_of_literal_fourNotations :
    parseInteger " 255uLl\n" = .ok 255 ∧ parseInteger "00377" = .ok 255 ∧
      parseInteger "0X0fFu" = .ok 255 ∧ parseInteger "0B11111111" = .ok 255 ∧
      addressText 255 = "0xFF" ∧ parseInteger (addressText 255) = .ok 255 := by
  have hdecimal : IsLiteral 255 "255uLl".toList :=
    ⟨"255".toList, "uLl".toList, rfl, .decimal ⟨[2, 5, 5], by simp [Text.IsDigit]; decide, by decide⟩
      (by decide) (by decide) (by decide), by simp⟩
  have hoctal : IsLiteral 255 "00377".toList :=
    ⟨"00377".toList, [], rfl, .octal ⟨[0, 3, 7, 7], by simp [Text.IsDigit]; decide, by decide⟩,
      List.forall_mem_nil _⟩
  have hhexadecimal : IsLiteral 255 "0X0fFu".toList :=
    ⟨"0X0fF".toList, ['u'], rfl, .hexadecimal (by decide)
      ⟨[0, 15, 15], by simp [Text.IsDigit]; decide, by decide⟩ (by decide), by simp⟩
  have hbinary : IsLiteral 255 "0B11111111".toList :=
    ⟨"0B11111111".toList, [], rfl, .binary (by decide)
      ⟨List.replicate 8 1, by simp [Text.IsDigit, List.replicate]; decide, by decide⟩ (by decide),
      List.forall_mem_nil _⟩
  have hspace : ∀ c ∈ [' '], Text.isBlank c = true := List.forall_mem_singleton.2 rfl
  have hnewline : ∀ c ∈ ['\n'], Text.isBlank c = true := List.forall_mem_singleton.2 rfl
  have hempty : ∀ c ∈ ([] : List Char), Text.isBlank c = true := List.forall_mem_nil _
  obtain ⟨hread, -, haddress⟩ := parseInteger_of_literal 255
  exact ⟨hread _ _ _ _ hspace hnewline hdecimal rfl, hread _ _ _ _ hempty hempty hoctal rfl,
    hread _ _ _ _ hempty hempty hhexadecimal rfl, hread _ _ _ _ hempty hempty hbinary rfl,
    by decide +kernel, haddress⟩

/-! ## Digits of a radix -/

namespace Text

variable {radix d n : Nat} {c : Char} {cs : List Char}

theorem digit_code_lt : ∀ value < 16,
    (lowerDigit value).toNat < 128 ∧ (upperDigit value).toNat < 128 := by
  decide

theorem IsDigit.code_lt (h : IsDigit radix d c) (hr : radix ≤ 16) : c.toNat < 128 := by
  have hcode := digit_code_lt d (by have := h.1; omega)
  rcases h.2 with rfl | rfl
  · exact hcode.1
  · exact hcode.2

theorem digit_of_code : ∀ k < 128, ∀ d ∈ digit? 16 (Char.ofNat k),
    Char.ofNat k = lowerDigit d ∨ Char.ofNat k = upperDigit d := by
  decide +kernel

/-- Of the digits of all scripts, those of the alphabet are the ones with a code of seven bits. -/
theorem isDigit_of_digit? (h : digit? radix c = some d) (hr : radix ≤ 16) (hc : c.toNat < 128) :
    IsDigit radix d c := by
  have hd := lt_of_digit? h
  exact ⟨hd, forall_char_lt (p := fun c => ∀ d ∈ digit? 16 c, c = lowerDigit d ∨ c = upperDigit d)
    digit_of_code hc d (digit?_of_lt h (by omega))⟩

theorem not_isDigit_of_digit? (h : digit? radix c = none) (hr : radix ≤ 16) :
    ¬ ∃ d, IsDigit radix d c := by
  rintro ⟨d, hd⟩
  rw [hd.digit? hr] at h
  cases h

/-- Digits spell some number. -/
theorem exists_isNumeral_iff :
    (∃ n, IsNumeral radix n cs) ↔ ∀ c ∈ cs, ∃ d, IsDigit radix d c := by
  constructor
  · rintro ⟨n, values, hvalues, -⟩
    exact exists_isDigit hvalues
  · intro h
    suffices hvalues : ∃ values, List.Forall₂ (IsDigit radix) values cs by
      obtain ⟨values, hvalues⟩ := hvalues
      exact ⟨_, values, hvalues, rfl⟩
    induction cs with
    | nil => exact ⟨[], .nil⟩
    | cons c rest ih =>
      obtain ⟨hc, hrest⟩ := List.forall_mem_cons.1 h
      obtain ⟨d, hd⟩ := hc
      obtain ⟨values, hvalues⟩ := ih hrest
      exact ⟨d :: values, .cons hd hvalues⟩

/-! ## Bare spellings -/

namespace Spelling

/-- Digits of the alphabet, with nothing around them and nothing between them. -/
structure IsBare (p : Spelling radix) : Prop where
  before : p.before = []
  sign : p.sign = []
  mark : p.mark = []
  run : ∀ c ∈ p.run, c ≠ '_' ∧ c.toNat < 128
  after : p.after = []

theorem mem_text {p : Spelling radix} : c ∈ p.text ↔
    c ∈ p.before ∨ c ∈ p.sign ∨ c ∈ p.mark ∨ c ∈ p.run ∨ c ∈ p.after := by
  simp only [text, List.mem_append]

theorem IsBare.text_eq {p : Spelling radix} (h : p.IsBare) : p.text = p.run := by
  rw [text, h.before, h.sign, h.mark, h.after]
  exact List.append_nil p.run

theorem isBare_iff (p : Spelling radix) (hr : radix ≤ 16) :
    p.IsBare ↔ ∀ c ∈ p.text, ∃ d, IsDigit radix d c := by
  constructor
  · intro h c hc
    rw [h.text_eq] at hc
    obtain ⟨hscore, hcode⟩ := h.run c hc
    obtain ⟨d, hd⟩ := (Numeral.inRun_eq_true_iff.1 (p.isRun.inRun c hc)).resolve_left hscore
    exact ⟨d, isDigit_of_digit? hd hr hcode⟩
  · intro h
    have hgap : ∀ c, c ∈ p.before ∨ c ∈ p.after → Numeral.isGap c = true → False := by
      intro c hc hgap
      obtain ⟨d, hd⟩ := h c (by rw [mem_text]; tauto)
      have hblank := Numeral.isBlank_of_isGap hgap
      rw [isBlank_of_digit? (hd.digit? hr)] at hblank
      cases hblank
    refine ⟨?_, ?_, ?_, fun c hc => ?_, ?_⟩
    · exact List.eq_nil_iff_forall_not_mem.2 fun c hc => hgap c (.inl hc) (p.before_isGap c hc)
    · have hsign := p.isSign
      simp only [List.mem_cons, List.not_mem_nil, or_false] at hsign
      rcases hsign with hsign | hsign | hsign
      · exact hsign
      · exact absurd (h '+' (by simp [mem_text, hsign]))
          (not_isDigit_of_digit? (digit?_of_sign (by decide)) hr)
      · exact absurd (h '-' (by simp [mem_text, hsign]))
          (not_isDigit_of_digit? (digit?_of_sign (by decide)) hr)
    · rcases p.isMark.eq_nil_or with hmark | ⟨m, hm, hletter⟩
      · exact hmark
      · exact absurd (h m (by rw [mem_text]; tauto))
          (not_isDigit_of_digit? (digit?_of_mem_marks hletter) hr)
    · obtain ⟨d, hd⟩ := h c (by rw [mem_text]; tauto)
      exact ⟨ne_underscore_of_digit? (hd.digit? hr), hd.code_lt hr⟩
    · exact List.eq_nil_iff_forall_not_mem.2 fun c hc => hgap c (.inr hc) (p.after_isGap c hc)

end Spelling

end Text

/-! ## The radix of a literal -/

variable {radix n : Nat} {ds payload : List Char} {text : String} {v : Int}

/-- Digits in one of the four notations, of any length. -/
def IsDigitString (ds : List Char) : Prop :=
  ∃ n, IsLiteralBody n ds ∨
    Text.IsNumeral 10 n ds ∧ ds.head? ≠ some '0' ∧ Text.Numeral.decimalDigitLimit < ds.length

/-- The start of a literal marks a radix; the payload is read in it. -/
inductive Marks : List Char → Nat → List Char → Prop
  | hexadecimal {x : Char} {rest : List Char} (mark : x ∈ ['x', 'X']) : Marks ('0' :: x :: rest) 16 rest
  | binary {b : Char} {rest : List Char} (mark : b ∈ ['b', 'B']) : Marks ('0' :: b :: rest) 2 rest
  | octal {c : Char} {rest : List Char} (noMark : c ∉ ['x', 'X', 'b', 'B']) :
    Marks ('0' :: c :: rest) 8 (c :: rest)
  | decimal {ds : List Char} (start : ds.head? ≠ some '0' ∨ ds = ['0']) : Marks ds 10 ds

namespace Marks

theorem radix_le (h : Marks ds radix payload) : radix ≤ 16 := by
  cases h <;> decide

theorem exists_payload (ds : List Char) : ∃ radix payload, Marks ds radix payload := by
  by_cases hhead : ds.head? = some '0'
  · obtain ⟨rest, rfl⟩ := List.head?_eq_some_iff.1 hhead
    cases rest with
    | nil => exact ⟨10, ['0'], .decimal (.inr rfl)⟩
    | cons c rest =>
      by_cases hx : c ∈ ['x', 'X']
      · exact ⟨16, rest, .hexadecimal hx⟩
      · by_cases hb : c ∈ ['b', 'B']
        · exact ⟨2, rest, .binary hb⟩
        · refine ⟨8, c :: rest, .octal ?_⟩
          simp only [List.mem_cons, List.not_mem_nil, or_false] at hx hb ⊢
          tauto
  · exact ⟨10, ds, .decimal (.inl hhead)⟩

theorem unique {radix' : Nat} {payload' : List Char} (h : Marks ds radix payload)
    (h' : Marks ds radix' payload') : radix = radix' ∧ payload = payload' := by
  cases h <;> cases h' <;> grind

/-- What is read of a literal is its payload, in its radix. -/
theorem integerLiteral?_eq (h : Marks (literalDigits text.toList) radix payload) :
    integerLiteral? text = Text.Numeral.read? radix payload := by
  generalize hds : literalDigits text.toList = ds at h
  cases h with
  | hexadecimal mark =>
    unfold integerLiteral?
    rw [hds]
    rcases List.mem_pair.1 mark with rfl | rfl <;> rfl
  | binary mark =>
    unfold integerLiteral?
    rw [hds]
    rcases List.mem_pair.1 mark with rfl | rfl <;> rfl
  | octal noMark => exact integerLiteral?_of_octal hds noMark
  | decimal start =>
    rcases start with hhead | rfl
    · rw [integerLiteral?_of_decimal (by rw [hds]; exact hhead), hds]
    · unfold integerLiteral?
      rw [hds]
      rfl

end Marks

/-! ## Digit strings -/

/-- The digits of a literal are those of its payload, of which there are some. -/
theorem IsLiteralBody.exists_marks (h : IsLiteralBody n ds) : ∃ radix payload,
    Marks ds radix payload ∧ payload ≠ [] ∧ ∀ c ∈ payload, ∃ d, Text.IsDigit radix d c := by
  cases h with
  | decimal numeral ne_nil noZero =>
    exact ⟨10, ds, .decimal (.inl noZero), ne_nil, Text.exists_isNumeral_iff.1 ⟨n, numeral⟩⟩
  | @octal rest numeral =>
    have hdigits := Text.exists_isNumeral_iff.1 ⟨n, numeral⟩
    cases rest with
    | nil =>
      refine ⟨10, ['0'], .decimal (.inr rfl), List.cons_ne_nil _ _, fun c hc => ⟨0, by decide, ?_⟩⟩
      rw [List.mem_singleton.1 hc]
      exact .inl rfl
    | cons c rest =>
      obtain ⟨d, hd⟩ := hdigits c (List.mem_cons_self ..)
      exact ⟨8, c :: rest, .octal hd.not_mark, List.cons_ne_nil _ _, hdigits⟩
  | hexadecimal mark numeral ne_nil =>
    exact ⟨16, _, .hexadecimal mark, ne_nil, Text.exists_isNumeral_iff.1 ⟨n, numeral⟩⟩
  | binary mark numeral ne_nil =>
    exact ⟨2, _, .binary mark, ne_nil, Text.exists_isNumeral_iff.1 ⟨n, numeral⟩⟩

/-- A literal is a digit string if its payload is. -/
theorem Marks.isDigitString_iff (h : Marks ds radix payload) :
    IsDigitString ds ↔ payload ≠ [] ∧ ∀ c ∈ payload, ∃ d, Text.IsDigit radix d c := by
  constructor
  · rintro ⟨n, hbody | ⟨numeral, hhead, hlong⟩⟩
    · obtain ⟨radix', payload', hmarks, hdigits⟩ := hbody.exists_marks
      obtain ⟨rfl, rfl⟩ := h.unique hmarks
      exact hdigits
    · obtain ⟨rfl, rfl⟩ := h.unique (.decimal (.inl hhead))
      refine ⟨?_, Text.exists_isNumeral_iff.1 ⟨n, numeral⟩⟩
      rintro rfl
      cases hlong
  · rintro ⟨hne, hdigits⟩
    obtain ⟨n, numeral⟩ := Text.exists_isNumeral_iff.2 hdigits
    cases h with
    | hexadecimal mark => exact ⟨n, .inl (.hexadecimal mark numeral hne)⟩
    | binary mark => exact ⟨n, .inl (.binary mark numeral hne)⟩
    | octal => exact ⟨n, .inl (.octal numeral)⟩
    | decimal start =>
      rcases start with hhead | rfl
      · rcases Nat.lt_or_ge Text.Numeral.decimalDigitLimit ds.length with hlong | hlimit
        · exact ⟨n, .inr ⟨numeral, hhead, hlong⟩⟩
        · exact ⟨n, .inl (.decimal numeral hne hhead hlimit)⟩
      · exact ⟨0, .inl (.octal ⟨[], .nil, rfl⟩)⟩

theorem IsDigitString.isPlain (h : IsDigitString ds) : ds ≠ [] ∧ ∀ c ∈ ds, Text.IsPlain c := by
  obtain ⟨n, hbody | ⟨numeral, -, hlong⟩⟩ := h
  · exact ⟨hbody.ne_nil, hbody.isPlain⟩
  · refine ⟨?_, numeral.isPlain (by decide)⟩
    rintro rfl
    cases hlong

/-- An integer literal of any length: digits in one of the four notations and a suffix, with blanks
around them. -/
def IsIntegerText (cs : List Char) : Prop :=
  ∃ before ds suffix after, cs = before ++ (ds ++ suffix ++ after) ∧
    (∀ c ∈ before, Text.isBlank c = true) ∧ (∀ c ∈ after, Text.isBlank c = true) ∧
    (∀ c ∈ suffix, c ∈ ['u', 'U', 'l', 'L']) ∧ IsDigitString ds

theorem exists_dropWhile_reverse (p : Char → Bool) (cs : List Char) :
    ∃ tail, cs = (cs.reverse.dropWhile p).reverse ++ tail ∧ ∀ c ∈ tail, p c = true := by
  refine ⟨(cs.reverse.takeWhile p).reverse, ?_, fun c hc => ?_⟩
  · rw [← List.reverse_append, List.takeWhile_append_dropWhile, List.reverse_reverse]
  · exact List.mem_takeWhile_imp (List.mem_reverse.1 hc)

theorem isIntegerText_iff {cs : List Char} : IsIntegerText cs ↔ IsDigitString (literalDigits cs) := by
  constructor
  · rintro ⟨before, ds, suffix, after, rfl, hbefore, hafter, hsuffix, hds⟩
    rw [literalDigits_append hbefore hafter hds.isPlain.1 hds.isPlain.2 hsuffix]
    exact hds
  · intro h
    have hstart := List.takeWhile_append_dropWhile (p := Text.isBlank) (l := cs)
    obtain ⟨after, hend, hafter⟩ := exists_dropWhile_reverse Text.isBlank (Text.trimStart cs)
    obtain ⟨suffix, hcut, hsuffix⟩ := exists_dropWhile_reverse isSuffixLetter (Text.trim cs)
    refine ⟨cs.takeWhile Text.isBlank, literalDigits cs, suffix, after, ?_,
      fun c hc => List.mem_takeWhile_imp hc, hafter, fun c hc => ?_, h⟩
    · calc cs = cs.takeWhile Text.isBlank ++ Text.trimStart cs := hstart.symm
        _ = cs.takeWhile Text.isBlank ++ (Text.trim cs ++ after) := congrArg _ hend
        _ = _ := congrArg (fun inner => _ ++ (inner ++ after)) hcut
    · simpa [isSuffixLetter, or_assoc] using hsuffix c hc

/-! ## What is refused -/

theorem parseInteger_eq_ok_iff : parseInteger text = .ok v ↔ integerLiteral? text = some v := by
  unfold parseInteger
  cases integerLiteral? text <;> simp

theorem parseInteger_eq_error_iff {e : ConstantError} :
    parseInteger text = .error e ↔ e = .invalidLiteral text ∧ integerLiteral? text = none := by
  unfold parseInteger
  cases integerLiteral? text <;> simp [eq_comm]

/-- A text that is no integer literal is refused. -/
def RefusesOthers (text : String) : Prop :=
  ¬ IsIntegerText text.toList → parseInteger text = .error (.invalidLiteral text)

/-- **Which texts are refused.** A text is read as the integers that its payload spells in the radix
that its start marks, and refused if there is none. All texts that are no integer literals are
refused but those whose payload has a spelling with a blank, a sign, another mark of the radix, an
underscore or a digit of another script. -/
theorem refusesOthers_iff (text : String) :
    ∃ radix payload, Marks (literalDigits text.toList) radix payload ∧
      (∀ v, parseInteger text = .ok v ↔ ∃ p : Text.Spelling radix, p.text = payload ∧ p.value = v) ∧
      (∀ e, parseInteger text = .error e ↔
        e = .invalidLiteral text ∧ ∀ p : Text.Spelling radix, p.text ≠ payload) ∧
      (RefusesOthers text ↔ ∀ p : Text.Spelling radix, p.text = payload → p.IsBare) := by
  obtain ⟨radix, payload, hmarks⟩ := Marks.exists_payload (literalDigits text.toList)
  have hok : ∀ v, parseInteger text = .ok v ↔
      ∃ p : Text.Spelling radix, p.text = payload ∧ p.value = v := by
    intro v
    rw [parseInteger_eq_ok_iff, hmarks.integerLiteral?_eq, Text.Numeral.read?_eq_some_iff]
  have herror : ∀ e, parseInteger text = .error e ↔
      e = .invalidLiteral text ∧ ∀ p : Text.Spelling radix, p.text ≠ payload := by
    intro e
    rw [parseInteger_eq_error_iff, hmarks.integerLiteral?_eq, Text.Numeral.read?_eq_none_iff]
  refine ⟨radix, payload, hmarks, hok, herror, ?_⟩
  rw [RefusesOthers, isIntegerText_iff, hmarks.isDigitString_iff, herror]
  constructor
  · intro hrefuses p hp
    by_contra hbare
    rw [p.isBare_iff hmarks.radix_le, hp] at hbare
    exact (hrefuses fun hdigits => hbare hdigits.2).2 p hp
  · intro hbare hother
    refine ⟨rfl, fun p hp => hother ⟨?_, ?_⟩⟩
    · rw [← hp]
      exact p.text_ne_nil
    · rw [← hp]
      exact (p.isBare_iff hmarks.radix_le).1 (hbare p hp)

/-- One character that is no digit of the radix, in a text that is read all the same. -/
theorem not_refusesOthers_of_mem {c : Char} (hmarks : Marks (literalDigits text.toList) radix payload)
    (hc : c ∈ payload) (hdigit : ¬ ∃ d, Text.IsDigit radix d c) (hok : parseInteger text = .ok v) :
    ¬ RefusesOthers text := by
  intro h
  have hother : ¬ IsIntegerText text.toList := by
    rw [isIntegerText_iff, hmarks.isDigitString_iff]
    exact fun hdigits => hdigit (hdigits.2 c hc)
  have hrefused := h hother
  rw [hok] at hrefused
  cases hrefused

/-- A sign, an underscore, a blank, a second mark and a digit of another script are read. -/
theorem not_refusesOthers_aroundDigits :
    ¬ RefusesOthers "-1" ∧ ¬ RefusesOthers "1_000" ∧ ¬ RefusesOthers "42 u" ∧
      ¬ RefusesOthers "0x0x10" ∧ ¬ RefusesOthers "\u0663" := by
  have hsign : ¬ ∃ d, Text.IsDigit 10 d '-' := Text.not_isDigit_of_digit? (by decide) (by decide)
  have hscore : ¬ ∃ d, Text.IsDigit 10 d '_' := Text.not_isDigit_of_digit? (by decide) (by decide)
  have hblank : ¬ ∃ d, Text.IsDigit 10 d ' ' := Text.not_isDigit_of_digit? (by decide) (by decide)
  have hmark : ¬ ∃ d, Text.IsDigit 16 d 'x' := Text.not_isDigit_of_digit? (by decide) (by decide)
  have hscript : ¬ ∃ d, Text.IsDigit 10 d '\u0663' := by
    rintro ⟨d, hd⟩
    have hcode := hd.code_lt (by decide)
    revert hcode
    decide
  refine ⟨?_, ?_, ?_, ?_, ?_⟩
  · exact not_refusesOthers_of_mem (.decimal (by decide)) (by decide) hsign
      (v := -1) (by decide +kernel)
  · exact not_refusesOthers_of_mem (.decimal (by decide)) (by decide) hscore
      (v := 1000) (by decide +kernel)
  · exact not_refusesOthers_of_mem (.decimal (by decide)) (by decide) hblank
      (v := 42) (by decide +kernel)
  · have hrest : Marks (literalDigits "0x0x10".toList) 16 "0x10".toList := .hexadecimal (by decide)
    exact not_refusesOthers_of_mem hrest (by decide) hmark (v := 16) (by decide +kernel)
  · exact not_refusesOthers_of_mem (.decimal (by decide)) (by decide) hscript
      (v := 3) (by decide +kernel)

end FpgaInterface
