import FpgaInterface.Proofs.Traversal
import FpgaInterface.Text.Numeral
import Mathlib.Data.List.TakeWhile
import Mathlib.Data.Nat.Digits.Defs

/-!
# How integers may be spelled

A numeral is read with more around its digits than a header writes: blanks, a sign, the mark of the
radix and single underscores.

* `Text.IsRun radix values cs` : digits, with at most one underscore between two of them;
* `Text.Spelling radix` : the parts of a numeral, with its `text` and its `value`;
* `Text.Numeral.read?_eq_some_iff` : a text is read as an integer exactly if it spells it.
-/

namespace FpgaInterface.Text

variable {radix d n : Nat} {c : Char} {cs after : List Char} {values : List Nat} {v : Int}

/-! ## Digits, blanks and signs -/

/-- What holds of the codes below a bound holds of their characters. -/
theorem forall_char_lt {bound : Nat} {p : Char → Prop} (h : ∀ k < bound, p (Char.ofNat k))
    (hc : c.toNat < bound) : p c := by
  have hp := h c.toNat hc
  rwa [Char.ofNat_toNat] at hp

theorem isBlank_digitZeros :
    ∀ z ∈ digitZeros, ∀ k < 10, isBlank (Char.ofNat (z + k)) = false := by
  decide +kernel

theorem isBlank_of_decimalDigit? (h : (decimalDigit? c).isSome) : isBlank c = false := by
  rw [decimalDigit?, Option.isSome_map, Option.isSome_iff_exists] at h
  obtain ⟨z, hz⟩ := h
  have hrow := List.find?_some hz
  simp only [Bool.and_eq_true, decide_eq_true_eq] at hrow
  have hc := isBlank_digitZeros z (List.mem_of_find?_eq_some hz) (c.toNat - z) (by omega)
  rwa [show z + (c.toNat - z) = c.toNat by omega, Char.ofNat_toNat] at hc

theorem lt_of_digit? (h : digit? radix c = some d) : d < radix :=
  of_decide_eq_true (Option.filter_eq_some_iff.1 h).2

/-- A digit is one of each radix above its value. -/
theorem digit?_of_lt {radix' : Nat} (h : digit? radix c = some d) (hd : d < radix') :
    digit? radix' c = some d := by
  unfold digit? at h ⊢
  exact Option.filter_eq_some_iff.2 ⟨(Option.filter_eq_some_iff.1 h).1, decide_eq_true hd⟩

/-- A digit of any radix is a decimal digit of some script or a letter. -/
theorem decimal_or_letter_of_digit? (h : digit? radix c = some d) :
    (decimalDigit? c).isSome ∨ 65 ≤ c.toNat ∧ c.toNat < 128 := by
  unfold digit? at h
  obtain ⟨hvalue, -⟩ := Option.filter_eq_some_iff.1 h
  cases hdecimal : decimalDigit? c with
  | some d => exact .inl rfl
  | none =>
    right
    rw [hdecimal] at hvalue
    by_contra hcode
    have hletter : ¬ ('a' ≤ c ∧ c ≤ 'z') ∧ ¬ ('A' ≤ c ∧ c ≤ 'Z') := by
      simp only [Char.le_def, UInt32.le_iff_toNat_le]
      change ¬ (97 ≤ c.toNat ∧ c.toNat ≤ 122) ∧ ¬ (65 ≤ c.toNat ∧ c.toNat ≤ 90)
      omega
    simp [hletter] at hvalue

theorem isBlank_of_digit? (h : digit? radix c = some d) : isBlank c = false := by
  rcases decimal_or_letter_of_digit? h with hdecimal | ⟨hlow, hhigh⟩
  · exact isBlank_of_decimalDigit? hdecimal
  · exact forall_char_lt (p := fun c => 65 ≤ c.toNat → isBlank c = false) (by decide) hhigh hlow

theorem decimalDigit?_of_sign (h : c ∈ ['_', '-', '+']) : decimalDigit? c = none := by
  have hcases : c = '_' ∨ c = '-' ∨ c = '+' := by simpa using h
  rcases hcases with rfl | rfl | rfl <;> decide

/-- The signs and the underscore are digits of no radix. -/
theorem digit?_of_sign (h : c ∈ ['_', '-', '+']) : digit? radix c = none := by
  have hletter : ¬ ('a' ≤ c ∧ c ≤ 'z') ∧ ¬ ('A' ≤ c ∧ c ≤ 'Z') := by
    have hcases : c = '_' ∨ c = '-' ∨ c = '+' := by simpa using h
    rcases hcases with rfl | rfl | rfl <;> decide
  simp [digit?, decimalDigit?_of_sign h, hletter]

theorem digit?_of_mem_marks (h : c ∈ Numeral.marks radix) : digit? radix c = none := by
  unfold Numeral.marks at h
  split_ifs at h with h16 h8 h2
  · subst h16
    rcases List.mem_pair.1 h with rfl | rfl <;> decide
  · subst h8
    rcases List.mem_pair.1 h with rfl | rfl <;> decide
  · subst h2
    rcases List.mem_pair.1 h with rfl | rfl <;> decide
  · exact absurd h List.not_mem_nil

/-- A mark is a letter. -/
theorem not_sign_of_mem_marks (h : c ∈ Numeral.marks radix) : c ≠ '_' ∧ isBlank c = false := by
  unfold Numeral.marks at h
  split_ifs at h
  · rcases List.mem_pair.1 h with rfl | rfl <;> decide
  · rcases List.mem_pair.1 h with rfl | rfl <;> decide
  · rcases List.mem_pair.1 h with rfl | rfl <;> decide
  · exact absurd h List.not_mem_nil

namespace Numeral

theorem isBlank_of_isGap (h : isGap c = true) : isBlank c = true := by
  unfold isGap at h
  exact (Bool.and_eq_true_iff.1 h).1

theorem inRun_of_digit? (h : digit? radix c = some d) : inRun radix c = true := by
  rw [inRun, h, Option.isSome_some, Bool.or_true]

theorem inRun_eq_true_iff : inRun radix c = true ↔ c = '_' ∨ ∃ d, digit? radix c = some d := by
  rw [inRun, Bool.or_eq_true, beq_iff_eq, Option.isSome_iff_exists]

theorem not_inRun_of_isGap (h : isGap c = true) : inRun radix c = false := by
  rw [← Bool.not_eq_true, inRun_eq_true_iff]
  rintro (rfl | ⟨value, hvalue⟩)
  · revert h
    decide
  · have hblank := isBlank_of_isGap h
    rw [isBlank_of_digit? hvalue] at hblank
    cases hblank

end Numeral

/-! ## Runs of digits -/

/-- Digits with their values, most significant first, and at most one underscore between two. -/
inductive IsRun (radix : Nat) : List Nat → List Char → Prop
  | last {d : Nat} {c : Char} (hc : digit? radix c = some d) : IsRun radix [d] [c]
  | digit {d : Nat} {c : Char} {values : List Nat} {cs : List Char}
    (hc : digit? radix c = some d) (rest : IsRun radix values cs) :
    IsRun radix (d :: values) (c :: cs)
  | underscore {d : Nat} {c : Char} {values : List Nat} {cs : List Char}
    (hc : digit? radix c = some d) (rest : IsRun radix values cs) :
    IsRun radix (d :: values) (c :: '_' :: cs)

theorem ne_underscore_of_digit? (h : digit? radix c = some d) : c ≠ '_' := by
  rintro rfl
  rw [digit?_of_sign (by decide)] at h
  cases h

theorem digit?_underscore : digit? radix '_' = none := digit?_of_sign (by decide)

theorem IsRun.exists_head (h : IsRun radix values cs) :
    ∃ d c rest, digit? radix c = some d ∧ cs = c :: rest := by
  cases h with
  | last hc => exact ⟨_, _, _, hc, rfl⟩
  | digit hc => exact ⟨_, _, _, hc, rfl⟩
  | underscore hc => exact ⟨_, _, _, hc, rfl⟩

theorem IsRun.inRun (h : IsRun radix values cs) : ∀ c ∈ cs, Numeral.inRun radix c = true := by
  induction h with
  | last hc => simpa using Numeral.inRun_of_digit? hc
  | digit hc _ ih => exact List.forall_mem_cons.2 ⟨Numeral.inRun_of_digit? hc, ih⟩
  | underscore hc _ ih =>
    exact List.forall_mem_cons.2 ⟨Numeral.inRun_of_digit? hc, List.forall_mem_cons.2 ⟨rfl, ih⟩⟩

theorem IsRun.filterMap (h : IsRun radix values cs) : cs.filterMap (digit? radix) = values := by
  induction h with
  | last hc => simp [hc]
  | digit hc _ ih => rw [List.filterMap_cons_some hc, ih]
  | underscore hc _ ih =>
    rw [List.filterMap_cons_some hc, List.filterMap_cons_none digit?_underscore, ih]

namespace Numeral

theorem separated_cons (h : c ≠ '_') : separated (c :: cs) = separated cs := by
  rw [separated.eq_def]
  split
  · rename_i heq
    cases heq
  · rename_i heq
    cases heq
    exact absurd rfl h
  · rename_i heq
    cases heq
    exact absurd rfl h
  · rename_i heq
    cases heq
    rfl

theorem separated_underscore (h : c ≠ '_') :
    separated ('_' :: c :: cs) = separated (c :: cs) := by
  rw [separated.eq_def]
  split
  · rename_i heq
    cases heq
  · rename_i heq
    cases heq
  · rename_i heq
    cases heq
    exact absurd rfl h
  · rename_i heq
    cases heq
    rfl

end Numeral

theorem IsRun.separated (h : IsRun radix values cs) : Numeral.separated cs = true := by
  induction h with
  | last hc => rw [Numeral.separated_cons (ne_underscore_of_digit? hc), Numeral.separated]
  | digit hc _ ih => rw [Numeral.separated_cons (ne_underscore_of_digit? hc), ih]
  | underscore hc rest ih =>
    obtain ⟨value, d, tail, hd, rfl⟩ := rest.exists_head
    rw [Numeral.separated_cons (ne_underscore_of_digit? hc),
      Numeral.separated_underscore (ne_underscore_of_digit? hd), ih]

/-- Digits and underscores that are separated are a run, once they start with a digit. -/
theorem isRun_of_separated (c : Char) (cs : List Char) (hc : c ≠ '_')
    (hrun : ∀ d ∈ c :: cs, Numeral.inRun radix d = true) (hsep : Numeral.separated (c :: cs) = true) :
    ∃ values, IsRun radix values (c :: cs) := by
  obtain ⟨hhead, hrest⟩ := List.forall_mem_cons.1 hrun
  obtain ⟨value, hvalue⟩ := (Numeral.inRun_eq_true_iff.1 hhead).resolve_left hc
  rw [Numeral.separated_cons hc] at hsep
  match cs with
  | [] => exact ⟨[value], .last hvalue⟩
  | d :: rest =>
    by_cases hd : d = '_'
    · subst hd
      match rest with
      | [] => cases hsep
      | e :: rest =>
        have he : e ≠ '_' := by
          rintro rfl
          cases hsep
        rw [Numeral.separated_underscore he] at hsep
        obtain ⟨values, h⟩ := isRun_of_separated e rest he (List.forall_mem_cons.1 hrest).2 hsep
        exact ⟨value :: values, .underscore hvalue h⟩
    · obtain ⟨values, h⟩ := isRun_of_separated d rest hd hrest hsep
      exact ⟨value :: values, .digit hvalue h⟩

/-- The digits are added up from the most significant one. -/
theorem foldl_eq_ofDigits (radix : Nat) (values : List Nat) :
    values.foldl (fun n d => n * radix + d) 0 = Nat.ofDigits radix values.reverse := by
  rw [Nat.ofDigits_eq_foldr, List.foldr_reverse]
  congr 1
  funext n d
  rw [Nat.cast_id, Nat.add_comm, Nat.mul_comm]

/-- A run is read as the number that its digits spell, unless it is decimal and too long. -/
theorem Numeral.value?_eq_some_iff (h : ∀ c ∈ cs, inRun radix c = true) :
    value? radix cs = some n ↔ ∃ values, IsRun radix values cs ∧
      (radix = 10 → values.length ≤ decimalDigitLimit) ∧ Nat.ofDigits radix values.reverse = n := by
  have hvalue : ∀ {values}, IsRun radix values cs → value? radix cs =
      if radix = 10 ∧ decimalDigitLimit < values.length then none
      else some (Nat.ofDigits radix values.reverse) := by
    intro values hrun
    obtain ⟨value, c, rest, hc, rfl⟩ := hrun.exists_head
    unfold value?
    rw [hrun.filterMap, hrun.separated]
    simp [foldl_eq_ofDigits, ne_underscore_of_digit? hc]
  constructor
  · intro hn
    have hstart : ∃ c rest, cs = c :: rest ∧ c ≠ '_' ∧ separated cs = true := by
      unfold value? at hn
      cases cs with
      | nil => simp at hn
      | cons c rest =>
        refine ⟨c, rest, rfl, ?_, ?_⟩
        · rintro rfl
          simp at hn
        · by_contra hsep
          simp [hsep] at hn
    obtain ⟨c, rest, rfl, hc, hsep⟩ := hstart
    obtain ⟨values, hrun⟩ := isRun_of_separated c rest hc h hsep
    rw [hvalue hrun] at hn
    split at hn
    · cases hn
    · next hlimit =>
      exact ⟨values, hrun, fun h10 => by omega, Option.some.inj hn⟩
  · rintro ⟨values, hrun, hlimit, rfl⟩
    rw [hvalue hrun, if_neg]
    rintro ⟨h10, hlong⟩
    have := hlimit h10
    omega

/-! ## Marks -/

/-- The mark of a radix, after a zero of any script; an underscore may follow it. -/
inductive IsMark (radix : Nat) : List Char → Prop
  | missing : IsMark radix []
  | letter {zero m : Char} (hzero : decimalDigit? zero = some 0) (hm : m ∈ Numeral.marks radix) :
    IsMark radix [zero, m]
  | underscore {zero m : Char} (hzero : decimalDigit? zero = some 0)
    (hm : m ∈ Numeral.marks radix) : IsMark radix [zero, m, '_']

theorem IsMark.eq_nil_or {mark : List Char} (h : IsMark radix mark) :
    mark = [] ∨ ∃ m ∈ mark, m ∈ Numeral.marks radix := by
  cases h with
  | missing => exact .inl rfl
  | letter _ hm => exact .inr ⟨_, by simp, hm⟩
  | underscore _ hm => exact .inr ⟨_, by simp, hm⟩

namespace Numeral

/-- What follows a digit in a run, or the end of it, is no mark. -/
theorem dropMark_of_isRun (h : IsRun radix values cs) (hafter : ∀ c ∈ after, isGap c = true) :
    dropMark radix (cs ++ after) = cs ++ after := by
  have hsecond : ∀ m ∈ (cs ++ after).tail.head?, m ∉ marks radix := by
    intro m hm hmark
    obtain ⟨value, c, rest, -, rfl⟩ := h.exists_head
    have hmem := List.mem_of_mem_head? hm
    rw [List.cons_append, List.tail_cons] at hmem
    rcases List.mem_append.1 hmem with hrest | hgap
    · rcases inRun_eq_true_iff.1 (h.inRun m (List.mem_cons_of_mem _ hrest)) with rfl | ⟨d, hd⟩
      · exact (not_sign_of_mem_marks hmark).1 rfl
      · rw [digit?_of_mem_marks hmark] at hd
        cases hd
    · have hblank := isBlank_of_isGap (hafter m hgap)
      rw [(not_sign_of_mem_marks hmark).2] at hblank
      cases hblank
  unfold dropMark
  split
  · rename_i zero m rest heq
    rw [heq] at hsecond ⊢
    rw [if_neg (by simp [hsecond m rfl])]
  · rfl

theorem dropMark_append {mark : List Char} (hmark : IsMark radix mark) (h : IsRun radix values cs)
    (hafter : ∀ c ∈ after, isGap c = true) : dropMark radix (mark ++ (cs ++ after)) = cs ++ after := by
  obtain ⟨value, c, rest, hc, hcs⟩ := h.exists_head
  cases hmark with
  | missing =>
    rw [List.nil_append]
    exact dropMark_of_isRun h hafter
  | letter hzero hm =>
    simp [dropMark, hzero, hm, hcs, ne_underscore_of_digit? hc]
  | underscore hzero hm => simp [dropMark, hzero, hm]

theorem exists_mark (radix : Nat) (cs : List Char) :
    ∃ mark, IsMark radix mark ∧ cs = mark ++ dropMark radix cs := by
  unfold dropMark
  split
  · rename_i zero m rest
    split
    · next h =>
      rw [Bool.and_eq_true, decide_eq_true_eq, decide_eq_true_eq] at h
      split
      · next hscore =>
        obtain ⟨tail, rfl⟩ := List.head?_eq_some_iff.1 hscore
        exact ⟨[zero, m, '_'], .underscore h.1 h.2, rfl⟩
      · exact ⟨[zero, m], .letter h.1 h.2, rfl⟩
    · exact ⟨[], .missing, rfl⟩
  · exact ⟨[], .missing, rfl⟩

end Numeral

/-! ## Spellings -/

/-- The parts of a numeral: blanks, a sign, the mark of the radix, digits and blanks. -/
structure Spelling (radix : Nat) where
  before : List Char
  sign : List Char
  mark : List Char
  run : List Char
  after : List Char
  /-- The values of the digits. -/
  values : List Nat
  before_isGap : ∀ c ∈ before, Numeral.isGap c = true
  after_isGap : ∀ c ∈ after, Numeral.isGap c = true
  isSign : sign ∈ [[], ['+'], ['-']]
  isMark : IsMark radix mark
  isRun : IsRun radix values run
  limit : radix = 10 → values.length ≤ Numeral.decimalDigitLimit

namespace Spelling

def text (p : Spelling radix) : List Char := p.before ++ (p.sign ++ (p.mark ++ (p.run ++ p.after)))

/-- The integer that the parts spell. -/
def value (p : Spelling radix) : Int :=
  if p.sign = ['-'] then -(Nat.ofDigits radix p.values.reverse : Nat)
  else (Nat.ofDigits radix p.values.reverse : Nat)

/-- Digits with nothing around them. -/
def ofRun {run : List Char} (isRun : IsRun radix values run)
    (limit : radix = 10 → values.length ≤ Numeral.decimalDigitLimit) : Spelling radix where
  before := []
  sign := []
  mark := []
  run := run
  after := []
  values := values
  before_isGap := List.forall_mem_nil _
  after_isGap := List.forall_mem_nil _
  isSign := List.mem_cons_self ..
  isMark := .missing
  isRun := isRun
  limit := limit

theorem text_ne_nil (p : Spelling radix) : p.text ≠ [] := by
  obtain ⟨d, c, rest, -, hrun⟩ := p.isRun.exists_head
  simp [text, hrun]

end Spelling

namespace Numeral

/-- The zero before a mark and the first digit are neither blanks nor signs. -/
theorem exists_head_of_isMark {mark : List Char} (hmark : IsMark radix mark)
    (h : IsRun radix values cs) (after : List Char) :
    ∃ c rest, mark ++ (cs ++ after) = c :: rest ∧ isBlank c = false ∧ c ∉ ['_', '-', '+'] := by
  have hzero : ∀ zero, decimalDigit? zero = some 0 →
      isBlank zero = false ∧ zero ∉ ['_', '-', '+'] := by
    intro zero hzero
    refine ⟨isBlank_of_decimalDigit? (by rw [hzero]; rfl), fun hmem => ?_⟩
    rw [decimalDigit?_of_sign hmem] at hzero
    cases hzero
  cases hmark with
  | missing =>
    obtain ⟨d, c, rest, hc, rfl⟩ := h.exists_head
    refine ⟨c, rest ++ after, rfl, isBlank_of_digit? hc, fun hmem => ?_⟩
    rw [digit?_of_sign hmem] at hc
    cases hc
  | letter h0 => exact ⟨_, _, rfl, hzero _ h0⟩
  | underscore h0 => exact ⟨_, _, rfl, hzero _ h0⟩

theorem isGap_of_isBlank (h : isBlank c = false) : isGap c = false := by
  rw [isGap, h, Bool.false_and]

/-- The blanks and the sign are taken off what starts with neither. -/
theorem dropStart_append {front sign tail : List Char} (hfront : ∀ c ∈ front, isGap c = true)
    (hsign : sign = [] ∨ sign = ['+'] ∨ sign = ['-'])
    (htail : ∃ c rest, tail = c :: rest ∧ isBlank c = false ∧ c ∉ ['_', '-', '+']) :
    dropStart radix (front ++ (sign ++ tail)) = (decide (sign = ['-']), dropMark radix tail) := by
  obtain ⟨c, rest, rfl, hblank, hc⟩ := htail
  have hgap : ∀ d ∈ (sign ++ c :: rest).head?, isGap d = false := by
    rcases hsign with rfl | rfl | rfl
    · simpa using isGap_of_isBlank hblank
    · simpa using isGap_of_isBlank (c := '+') rfl
    · simpa using isGap_of_isBlank (c := '-') rfl
  unfold dropStart
  rw [dropWhile_append_of_head hfront hgap]
  rcases hsign with rfl | rfl | rfl
  · rw [List.nil_append]
    split
    · rename_i heq
      cases heq
      simp at hc
    · rename_i heq
      cases heq
      simp at hc
    · rfl
  · rfl
  · rfl

/-- The start of a spelling is taken off, whatever its digits are. -/
theorem dropStart_text (p : Spelling radix) :
    dropStart radix p.text = (decide (p.sign = ['-']), p.run ++ p.after) := by
  have hsign : p.sign = [] ∨ p.sign = ['+'] ∨ p.sign = ['-'] := by simpa using p.isSign
  rw [Spelling.text, dropStart_append p.before_isGap hsign
    (exists_head_of_isMark p.isMark p.isRun p.after),
    dropMark_append p.isMark p.isRun p.after_isGap]

theorem exists_start (radix : Nat) (cs : List Char) :
    ∃ before sign mark, (∀ c ∈ before, isGap c = true) ∧ sign ∈ [[], ['+'], ['-']] ∧
      IsMark radix mark ∧ cs = before ++ (sign ++ (mark ++ (dropStart radix cs).2)) ∧
      (dropStart radix cs).1 = decide (sign = ['-']) := by
  have hsplit := List.takeWhile_append_dropWhile (p := isGap) (l := cs)
  have hgap : ∀ c ∈ cs.takeWhile isGap, isGap c = true := fun c hc => List.mem_takeWhile_imp hc
  unfold dropStart
  split
  · rename_i rest heq
    obtain ⟨mark, hmark, hrest⟩ := exists_mark radix rest
    refine ⟨cs.takeWhile isGap, ['-'], mark, hgap, by decide, hmark, ?_, rfl⟩
    rw [← hrest, List.singleton_append, ← heq, hsplit]
  · rename_i rest heq
    obtain ⟨mark, hmark, hrest⟩ := exists_mark radix rest
    refine ⟨cs.takeWhile isGap, ['+'], mark, hgap, by decide, hmark, ?_, rfl⟩
    rw [← hrest, List.singleton_append, ← heq, hsplit]
  · obtain ⟨mark, hmark, hrest⟩ := exists_mark radix (cs.dropWhile isGap)
    refine ⟨cs.takeWhile isGap, [], mark, hgap, by decide, hmark, ?_, rfl⟩
    rw [← hrest, List.nil_append, hsplit]

/-- **A text is read as an integer exactly if it spells it.** -/
theorem read?_eq_some_iff : read? radix cs = some v ↔
    ∃ p : Spelling radix, p.text = cs ∧ p.value = v := by
  constructor
  · intro h
    obtain ⟨before, sign, mark, hbefore, hsign, hmark, hcs, hnegative⟩ := exists_start radix cs
    unfold read? at h
    dsimp only at h
    split at h
    · next hafter =>
      obtain ⟨i, hi, hv⟩ := Option.map_eq_some_iff.1 h
      obtain ⟨n, hn, hcast⟩ := Option.bind_eq_some_iff.1 hi
      cases hcast
      obtain ⟨values, hrun, hlimit, hvalues⟩ :=
        (value?_eq_some_iff fun c hc => List.mem_takeWhile_imp hc).1 hn
      refine ⟨⟨before, sign, mark, _, _, values, hbefore, List.all_eq_true.1 hafter, hsign, hmark,
        hrun, hlimit⟩, ?_, ?_⟩
      · rw [Spelling.text, List.takeWhile_append_dropWhile]
        exact hcs.symm
      · rw [hnegative] at hv
        simpa [Spelling.value, hvalues] using hv
    · cases h
  · rintro ⟨p, rfl, rfl⟩
    have hgap : ∀ c ∈ p.after.head?, inRun radix c = false := fun c hc =>
      not_inRun_of_isGap (p.after_isGap c (List.mem_of_mem_head? hc))
    have hvalue := (value?_eq_some_iff p.isRun.inRun).2 ⟨p.values, p.isRun, p.limit, rfl⟩
    unfold read?
    rw [dropStart_text]
    dsimp only
    rw [dropWhile_append_of_head p.isRun.inRun hgap, takeWhile_append_of_head p.isRun.inRun hgap,
      if_pos (List.all_eq_true.2 p.after_isGap), hvalue]
    simp [Spelling.value]

theorem read?_eq_none_iff : read? radix cs = none ↔ ∀ p : Spelling radix, p.text ≠ cs := by
  rw [Option.eq_none_iff_forall_ne_some]
  constructor
  · intro h p hp
    exact h p.value (read?_eq_some_iff.2 ⟨p, hp, rfl⟩)
  · intro h v hv
    obtain ⟨p, hp, -⟩ := read?_eq_some_iff.1 hv
    exact h p hp

end Numeral

end FpgaInterface.Text
