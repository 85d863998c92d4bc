import FpgaInterface.Extract.Constant
import FpgaInterface.Proofs.NumeralSpelling
import Mathlib.Tactic.MkIffOfInductiveProp

/-!
# Integer literals are read as the numbers that they spell

* `Text.IsNumeral radix n cs` : the digits `cs` spell `n`, in letters of either case;
* `Text.Numeral.read?_of_isNumeral` : digits are read as the number that they spell;
* `IsLiteral n cs` : `cs` is a literal of `n` in one of the four notations, with its suffix;
* `integerLiteral?_of_isLiteral` : a literal with blanks around it is read as its number.
-/

namespace FpgaInterface

namespace Text

variable {radix n value : Nat} {c : Char} {cs : List Char} {values : List Nat}

/-- A character is the digit of a value in a radix. -/
def IsDigit (radix value : Nat) (c : Char) : Prop :=
  value < radix ∧ (c = lowerDigit value ∨ c = upperDigit value)

/-- Digits spell a number in a radix, most significant digit first. -/
def IsNumeral (radix n : Nat) (cs : List Char) : Prop :=
  ∃ values, List.Forall₂ (IsDigit radix) values cs ∧ Nat.ofDigits radix values.reverse = n

/-! ## Digits -/

/-- A character that is no blank, no sign, no underscore and no letter of a suffix. -/
@[mk_iff]
structure IsPlain (c : Char) : Prop where
  underscore : c ≠ '_'
  minus : c ≠ '-'
  plus : c ≠ '+'
  blank : isBlank c = false
  letter : isSuffixLetter c = false

instance : DecidablePred IsPlain := fun c => decidable_of_iff' _ (isPlain_iff c)

theorem isPlain_digit : ∀ value < 16, IsPlain (lowerDigit value) ∧ IsPlain (upperDigit value) := by
  decide

theorem IsDigit.isPlain (h : IsDigit radix value c) (hr : radix ≤ 16) : IsPlain c := by
  have := isPlain_digit value (by have := h.1; omega)
  rcases h.2 with rfl | rfl
  · exact this.1
  · exact this.2

theorem digit?_sixteen : ∀ value < 16,
    digit? 16 (lowerDigit value) = some value ∧ digit? 16 (upperDigit value) = some value := by
  decide

theorem IsDigit.digit? (h : IsDigit radix value c) (hr : radix ≤ 16) :
    digit? radix c = some value := by
  have := digit?_sixteen value (by have := h.1; omega)
  rcases h.2 with rfl | rfl
  · exact digit?_of_lt this.1 h.1
  · exact digit?_of_lt this.2 h.1

/-! ## Numerals -/

theorem exists_isDigit (h : List.Forall₂ (IsDigit radix) values cs) :
    ∀ c ∈ cs, ∃ value, IsDigit radix value c := by
  intro c hc
  obtain ⟨value, -, hv⟩ := forall₂_exists_left h c hc
  exact ⟨value, hv⟩

theorem IsNumeral.isPlain (h : IsNumeral radix n cs) (hr : radix ≤ 16) : ∀ c ∈ cs, IsPlain c := by
  intro c hc
  obtain ⟨values, hvalues, -⟩ := h
  obtain ⟨value, hv⟩ := exists_isDigit hvalues c hc
  exact hv.isPlain hr

theorem IsNumeral.digit? (h : IsNumeral radix n cs) (hr : radix ≤ 16) :
    ∀ c ∈ cs, (digit? radix c).isSome := by
  intro c hc
  obtain ⟨values, hvalues, -⟩ := h
  obtain ⟨value, hv⟩ := exists_isDigit hvalues c hc
  rw [hv.digit? hr, Option.isSome_some]

theorem filterMap_digit? (h : List.Forall₂ (IsDigit radix) values cs)
    (hr : radix ≤ 16) : cs.filterMap (digit? radix) = values := by
  induction h with
  | nil => rfl
  | cons hd _ ih => rw [List.filterMap_cons_some (hd.digit? hr), ih]

theorem isRun_of_digits (h : List.Forall₂ (IsDigit radix) values cs) (hr : radix ≤ 16)
    (hne : cs ≠ []) : IsRun radix values cs := by
  induction h with
  | nil => exact absurd rfl hne
  | @cons value c _ rest hc htail ih =>
    cases htail with
    | nil => exact .last (hc.digit? hr)
    | cons => exact .digit (hc.digit? hr) (ih (List.cons_ne_nil _ _))

/-- **Digits are read as the number that they spell.** -/
theorem Numeral.read?_of_isNumeral (h : IsNumeral radix n cs) (hr : radix ≤ 16) (hne : cs ≠ [])
    (hlimit : radix = 10 → cs.length ≤ decimalDigitLimit) : read? radix cs = some (n : Int) := by
  obtain ⟨values, hvalues, rfl⟩ := h
  have hrun := isRun_of_digits hvalues hr hne
  rw [← hvalues.length_eq] at hlimit
  refine read?_eq_some_iff.2 ⟨.ofRun hrun hlimit, ?_, rfl⟩
  exact List.append_nil cs

end Text

/-! ## Literals -/

variable {n : Nat} {cs ds : List Char}

/-- Digits with the mark of their notation spell a number. Octal digits follow a zero, which alone
spells zero; decimal digits do not start with one. -/
inductive IsLiteralBody (n : Nat) : List Char → Prop
  | decimal {ds : List Char} (numeral : Text.IsNumeral 10 n ds) (ne_nil : ds ≠ [])
      (noZero : ds.head? ≠ some '0') (limit : ds.length ≤ Text.Numeral.decimalDigitLimit) :
      IsLiteralBody n ds
  | octal {ds : List Char} (numeral : Text.IsNumeral 8 n ds) : IsLiteralBody n ('0' :: ds)
  | hexadecimal {x : Char} {ds : List Char} (mark : x ∈ ['x', 'X'])
      (numeral : Text.IsNumeral 16 n ds) (ne_nil : ds ≠ []) : IsLiteralBody n ('0' :: x :: ds)
  | binary {b : Char} {ds : List Char} (mark : b ∈ ['b', 'B'])
      (numeral : Text.IsNumeral 2 n ds) (ne_nil : ds ≠ []) : IsLiteralBody n ('0' :: b :: ds)

/-- A literal of a number: its digits with the mark of their notation, and a suffix of `u` and `l`
in either case. -/
def IsLiteral (n : Nat) (cs : List Char) : Prop :=
  ∃ body suffix, cs = body ++ suffix ∧ IsLiteralBody n body ∧ ∀ c ∈ suffix, c ∈ ['u', 'U', 'l', 'L']

theorem IsLiteralBody.isPlain (h : IsLiteralBody n ds) : ∀ c ∈ ds, Text.IsPlain c := by
  cases h with
  | decimal numeral => exact numeral.isPlain (by omega)
  | octal numeral => exact List.forall_mem_cons.2 ⟨by decide, numeral.isPlain (by omega)⟩
  | hexadecimal mark numeral =>
    refine List.forall_mem_cons.2 ⟨by decide, List.forall_mem_cons.2 ⟨?_, ?_⟩⟩
    · rcases List.mem_pair.1 mark with rfl | rfl <;> decide
    · exact numeral.isPlain (by omega)
  | binary mark numeral =>
    refine List.forall_mem_cons.2 ⟨by decide, List.forall_mem_cons.2 ⟨?_, ?_⟩⟩
    · rcases List.mem_pair.1 mark with rfl | rfl <;> decide
    · exact numeral.isPlain (by omega)

theorem IsLiteralBody.ne_nil (h : IsLiteralBody n ds) : ds ≠ [] := by
  cases h with
  | decimal _ ne_nil => exact ne_nil
  | octal | hexadecimal | binary => exact List.cons_ne_nil _ _

theorem octal_ne_mark : ∀ value < 8, Text.lowerDigit value ∉ ['x', 'X', 'b', 'B'] ∧
    Text.upperDigit value ∉ ['x', 'X', 'b', 'B'] := by
  decide

/-- The marks of the other notations are no octal digits. -/
theorem Text.IsDigit.not_mark {value : Nat} {c : Char} (h : IsDigit 8 value c) :
    c ∉ ['x', 'X', 'b', 'B'] := by
  rcases h.2 with rfl | rfl
  · exact (octal_ne_mark value h.1).1
  · exact (octal_ne_mark value h.1).2

/-! ## Reading -/

theorem Text.trim_append {before after : List Char} (hbefore : ∀ c ∈ before, isBlank c = true)
    (hafter : ∀ c ∈ after, isBlank c = true) (hne : cs ≠ [])
    (h : ∀ c ∈ cs, isBlank c = false) : trim (before ++ (cs ++ after)) = cs := by
  have hstart : trimStart (before ++ (cs ++ after)) = cs ++ after := by
    refine dropWhile_append_of_head hbefore fun c hc => h c (List.mem_of_mem_head? ?_)
    rwa [List.head?_append_of_ne_nil _ hne] at hc
  have hend : (cs ++ after).reverse.dropWhile isBlank = cs.reverse := by
    rw [List.reverse_append]
    refine dropWhile_append_of_head (fun c hc => hafter c (List.mem_reverse.1 hc)) fun c hc => ?_
    exact h c (List.mem_reverse.1 (List.mem_of_mem_head? hc))
  rw [trim, hstart, trimEnd, hend, List.reverse_reverse]

/-- The blanks around a literal and its suffix are cut off. -/
theorem literalDigits_append {before body suffix after : List Char}
    (hbefore : ∀ c ∈ before, Text.isBlank c = true) (hafter : ∀ c ∈ after, Text.isBlank c = true)
    (hne : body ≠ []) (hbody : ∀ c ∈ body, Text.IsPlain c)
    (hsuffix : ∀ c ∈ suffix, c ∈ ['u', 'U', 'l', 'L']) :
    literalDigits (before ++ (body ++ suffix ++ after)) = body := by
  have hletter : ∀ c ∈ ['u', 'U', 'l', 'L'], Text.isBlank c = false ∧ isSuffixLetter c = true := by
    intro c hc
    have hcases : c = 'u' ∨ c = 'U' ∨ c = 'l' ∨ c = 'L' := by simpa using hc
    rcases hcases with rfl | rfl | rfl | rfl <;> decide
  have hchar : ∀ c ∈ body ++ suffix, Text.isBlank c = false := by
    intro c hc
    rcases List.mem_append.1 hc with hc | hc
    · exact (hbody c hc).blank
    · exact (hletter c (hsuffix c hc)).1
  have hcut : (body ++ suffix).reverse.dropWhile isSuffixLetter = body.reverse := by
    rw [List.reverse_append]
    refine dropWhile_append_of_head
      (fun c hc => (hletter c (hsuffix c (List.mem_reverse.1 hc))).2) fun c hc => ?_
    exact (hbody c (List.mem_reverse.1 (List.mem_of_mem_head? hc))).letter
  rw [literalDigits, Text.trim_append hbefore hafter (List.append_ne_nil_of_left_ne_nil hne _) hchar,
    hcut, List.reverse_reverse]

/-- Digits after a zero and no other mark are octal. -/
theorem integerLiteral?_of_octal {spelling : String} {c : Char} {rest : List Char}
    (h : literalDigits spelling.toList = '0' :: c :: rest) (hc : c ∉ ['x', 'X', 'b', 'B']) :
    integerLiteral? spelling = Text.Numeral.read? 8 (c :: rest) := by
  unfold integerLiteral?
  rw [h]
  split
  all_goals rename_i heq
  · cases heq
    exact absurd (by decide) hc
  · cases heq
    exact absurd (by decide) hc
  · cases heq
    exact absurd (by decide) hc
  · cases heq
    exact absurd (by decide) hc
  · cases heq
    rfl
  · exact absurd rfl (heq c rest)

/-- Digits that do not start with a zero are decimal. -/
theorem integerLiteral?_of_decimal {spelling : String}
    (h : (literalDigits spelling.toList).head? ≠ some '0') :
    integerLiteral? spelling = Text.Numeral.read? 10 (literalDigits spelling.toList) := by
  unfold integerLiteral?
  split
  all_goals rename_i heq
  · exact absurd (by rw [heq]; rfl) h
  · exact absurd (by rw [heq]; rfl) h
  · exact absurd (by rw [heq]; rfl) h
  · exact absurd (by rw [heq]; rfl) h
  · exact absurd (by rw [heq]; rfl) h
  · rfl

theorem integerLiteral?_of_body {spelling : String} (hds : IsLiteralBody n ds)
    (h : literalDigits spelling.toList = ds) : integerLiteral? spelling = some (n : Int) := by
  cases hds with
  | decimal numeral hne hzero hlimit =>
    rw [integerLiteral?_of_decimal (by rw [h]; exact hzero), h]
    exact Text.Numeral.read?_of_isNumeral numeral (by omega) hne fun _ => hlimit
  | @octal digits numeral =>
    obtain ⟨values, hvalues, hn⟩ := id numeral
    cases hvalues with
    | nil =>
      -- The zero alone is a decimal digit, of the same value.
      subst hn
      unfold integerLiteral?
      rw [h]
      decide
    | @cons value c _ _ hd _ =>
      rw [integerLiteral?_of_octal h hd.not_mark]
      exact Text.Numeral.read?_of_isNumeral numeral (by omega) (List.cons_ne_nil _ _) nofun
  | hexadecimal mark numeral hne =>
    unfold integerLiteral?
    rw [h]
    rcases List.mem_pair.1 mark with rfl | rfl
    · exact Text.Numeral.read?_of_isNumeral numeral (by omega) hne nofun
    · exact Text.Numeral.read?_of_isNumeral numeral (by omega) hne nofun
  | binary mark numeral hne =>
    unfold integerLiteral?
    rw [h]
    rcases List.mem_pair.1 mark with rfl | rfl
    · exact Text.Numeral.read?_of_isNumeral numeral (by omega) hne nofun
    · exact Text.Numeral.read?_of_isNumeral numeral (by omega) hne nofun

/-- **A literal with blanks around it is read as its number.** -/
theorem integerLiteral?_of_isLiteral {spelling : String} {before after : List Char}
    (hbefore : ∀ c ∈ before, Text.isBlank c = true) (hafter : ∀ c ∈ after, Text.isBlank c = true)
    (hcs : IsLiteral n cs) (h : spelling.toList = before ++ (cs ++ after)) :
    integerLiteral? spelling = some (n : Int) := by
  obtain ⟨body, suffix, rfl, hbody, hsuffix⟩ := hcs
  refine integerLiteral?_of_body hbody ?_
  rw [h]
  exact literalDigits_append hbefore hafter hbody.ne_nil hbody.isPlain hsuffix

end FpgaInterface
