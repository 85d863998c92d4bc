import FpgaInterface.Proofs.IntegerLiteral
import FpgaInterface.Text.Quoted

/-!
# Written numerals

A numeral spells the number that it was written for, and no other.

* `Text.IsNumeral.unique` : digits spell one number;
* `Text.isNumeral_decimal`, `isNumeral_upperHex` : what is written spells the number;
* `Text.length_decimal_of_head` : there are no zeros at the start of a decimal numeral;
* `Text.isNumeral_hexPadded`, `length_hexPadded` : zeros at the start change nothing, and numbers
  that need no more digits fill the width exactly.
-/

namespace FpgaInterface.Text

variable {radix n n' width value : Nat} {c : Char} {cs : List Char}

theorem IsNumeral.unique (h : IsNumeral radix n cs) (h' : IsNumeral radix n' cs)
    (hr : radix ≤ 16) : n = n' := by
  obtain ⟨values, hvalues, rfl⟩ := h
  obtain ⟨values', hvalues', rfl⟩ := h'
  rw [← filterMap_digit? hvalues hr, ← filterMap_digit? hvalues' hr]

/-! ## Digits -/

theorem lt_of_mem_digits (hr : 2 ≤ radix) : ∀ d ∈ digits radix n, d < radix := by
  fun_induction digits radix n with
  | case1 n h ih =>
    intro d hd
    rcases List.mem_append.1 hd with hd | hd
    · exact ih d hd
    · rw [List.mem_singleton.1 hd]
      exact Nat.mod_lt _ (by omega)
  | case2 n h =>
    intro d hd
    rw [List.mem_singleton.1 hd]
    omega

theorem ofDigits_digits (radix n : Nat) : Nat.ofDigits radix (digits radix n).reverse = n := by
  fun_induction digits radix n with
  | case1 n h ih =>
    rw [List.reverse_append, List.reverse_singleton, List.singleton_append, Nat.ofDigits_cons, ih]
    exact Nat.mod_add_div n radix
  | case2 n h => exact Nat.ofDigits_singleton ..

theorem length_digits_le (hr : 2 ≤ radix) (hwidth : 0 < width) (h : n < radix ^ width) :
    (digits radix n).length ≤ width := by
  fun_induction digits radix n generalizing width with
  | case1 n hn ih =>
    rw [List.length_append, List.length_singleton]
    obtain ⟨width, rfl⟩ : ∃ k, width = k + 1 := ⟨width - 1, by omega⟩
    have hrest : n / radix < radix ^ width := by
      rw [Nat.div_lt_iff_lt_mul (by omega), ← Nat.pow_succ]
      exact h
    -- A width of one leaves no room for a second digit.
    have hpos : 0 < width := by
      rcases Nat.eq_zero_or_pos width with rfl | hpos
      · rw [Nat.zero_add, Nat.pow_one] at h
        omega
      · exact hpos
    have := ih hpos hrest
    omega
  | case2 n hn => exact hwidth

theorem digits_ne_nil (radix n : Nat) : digits radix n ≠ [] := by
  rw [digits]
  split <;> simp

theorem head?_digits_ne_zero (hr : 2 ≤ radix) (hn : 0 < n) : (digits radix n).head? ≠ some 0 := by
  fun_induction digits radix n with
  | case1 n h ih =>
    have hrest := ih (Nat.div_pos h.2 (by omega))
    obtain ⟨d, ds, hds⟩ := List.exists_cons_of_ne_nil (digits_ne_nil radix (n / radix))
    rw [hds] at hrest ⊢
    exact hrest
  | case2 n h =>
    rw [List.head?_cons, ne_eq, Option.some.injEq]
    omega

/-! ## Numerals -/

theorem isNumeral_digits (hr : 2 ≤ radix) {letter : Nat → Char}
    (hletter : ∀ d, letter d = lowerDigit d ∨ letter d = upperDigit d) :
    IsNumeral radix n ((digits radix n).map letter) := by
  refine ⟨digits radix n, ?_, ofDigits_digits radix n⟩
  rw [List.forall₂_map_right_iff, List.forall₂_same]
  exact fun d hd => ⟨lt_of_mem_digits hr d hd, hletter d⟩

theorem isNumeral_decimal (n : Nat) : IsNumeral 10 n (decimal n).toList := by
  rw [decimal, String.toList_ofList]
  exact isNumeral_digits (by decide) fun d => .inl rfl

theorem toList_decimal (n : Nat) : (decimal n).toList = (digits 10 n).map lowerDigit :=
  String.toList_ofList

theorem decimal_ne_nil (n : Nat) : (decimal n).toList ≠ [] := by
  rw [toList_decimal, ne_eq, List.map_eq_nil_iff]
  exact digits_ne_nil 10 n

theorem exists_of_mem_decimal (h : c ∈ (decimal n).toList) : ∃ d < 10, c = lowerDigit d := by
  rw [toList_decimal] at h
  obtain ⟨d, hd, rfl⟩ := List.mem_map.1 h
  exact ⟨d, lt_of_mem_digits (by decide) d hd, rfl⟩

theorem lowerDigit_eq_zero_iff : ∀ d < 10, (lowerDigit d = '0' ↔ d = 0) := by decide

/-- A decimal numeral of several digits does not start with a zero. -/
theorem length_decimal_of_head (h : (decimal n).toList.head? = some '0') :
    (decimal n).toList.length = 1 := by
  obtain ⟨d, ds, hds⟩ := List.exists_cons_of_ne_nil (digits_ne_nil 10 n)
  have hd : d < 10 := lt_of_mem_digits (by decide) d (by rw [hds]; exact List.mem_cons_self ..)
  rw [toList_decimal, hds, List.map_cons, List.head?_cons, Option.some.injEq,
    lowerDigit_eq_zero_iff d hd] at h
  rcases Nat.eq_zero_or_pos n with rfl | hn
  · decide +kernel
  · have hhead : (digits 10 n).head? ≠ some 0 := head?_digits_ne_zero (by decide) hn
    rw [hds, h] at hhead
    exact absurd rfl hhead

theorem signed_natCast (numeral : Nat → String) (n : Nat) :
    signed "" numeral (n : Int) = numeral n := by
  rw [signed, if_neg (by omega), Int.natAbs_natCast, String.empty_append, String.empty_append]

theorem isNumeral_upperHex (n : Nat) : IsNumeral 16 n (upperHex n).toList := by
  rw [upperHex, String.toList_ofList]
  exact isNumeral_digits (by decide) fun d => .inr rfl

theorem IsNumeral.zero_cons (h : IsNumeral radix n cs) (hr : 2 ≤ radix) :
    IsNumeral radix n ('0' :: cs) := by
  obtain ⟨values, hvalues, rfl⟩ := h
  refine ⟨0 :: values, .cons ⟨by omega, .inl rfl⟩ hvalues, ?_⟩
  rw [List.reverse_cons, Nat.ofDigits_append, Nat.ofDigits_singleton, Nat.mul_zero, Nat.add_zero]

theorem IsNumeral.replicate_append (h : IsNumeral radix n cs) (hr : 2 ≤ radix) (zeros : Nat) :
    IsNumeral radix n (List.replicate zeros '0' ++ cs) := by
  induction zeros with
  | zero => exact h
  | succ zeros ih =>
    rw [List.replicate_succ, List.cons_append]
    exact ih.zero_cons hr

theorem isNumeral_hexPadded (width n : Nat) : IsNumeral 16 n (hexPadded width n) :=
  (isNumeral_digits (by decide) fun d => .inl rfl).replicate_append (by decide) _

theorem length_hexPadded (hwidth : 0 < width) (h : n < 16 ^ width) :
    (hexPadded width n).length = width := by
  have := length_digits_le (show 2 ≤ 16 by decide) hwidth h
  simp only [hexPadded, List.length_append, List.length_replicate, List.length_map]
  omega

/-- A character that is no digit does not stand in a numeral. -/
theorem IsNumeral.not_mem (h : IsNumeral radix n cs) (hr : radix ≤ 16)
    (hc : Text.digit? radix c = none) : c ∉ cs := by
  intro hmem
  have hdigit := h.digit? hr c hmem
  rw [hc] at hdigit
  cases hdigit

end FpgaInterface.Text
