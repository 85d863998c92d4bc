import FpgaInterface.Proofs.Numeral

/-!
# Literals of ASCII characters

A literal is the literal of one text, whatever follows it.

* `Text.asciiChar_cases` : what is written of a character;
* `Text.AsciiSpelling c cs` : how a character is written in a literal: as itself, by a letter, or
  by the numerals of its units;
* `Text.unitChars_flatMap_append_inj` : the units of a character are told apart;
* `Text.asciiChar_append_inj` : so are the characters of a literal;
* `Text.asciiLiteralChars_append_inj` : a literal ends where its text does.
-/

namespace FpgaInterface.Text

variable {c d : Char} {cs ds xs ys : List Char}

/-! ## Units -/

/-- A unit in a literal. -/
def unitChars (u : Nat) : List Char := '\\' :: 'u' :: hexPadded 4 u

theorem unitChars_append_inj {u v : Nat} (hu : u < 0x10000) (hv : v < 0x10000)
    (h : unitChars u ++ xs = unitChars v ++ ys) : u = v ∧ xs = ys := by
  simp only [unitChars, List.cons_append, List.cons.injEq, true_and] at h
  have hlength : (hexPadded 4 u).length = (hexPadded 4 v).length := by
    rw [length_hexPadded (by decide) hu, length_hexPadded (by decide) hv]
  obtain ⟨hchars, hrest⟩ := List.append_inj h hlength
  have hnumeral := isNumeral_hexPadded 4 u
  rw [hchars] at hnumeral
  exact ⟨hnumeral.unique (isNumeral_hexPadded 4 v) (by decide), hrest⟩

/-- A code point is no half of a pair of units. -/
theorem toNat_not_half (c : Char) : c.toNat < 0xd800 ∨ 0xdfff < c.toNat ∧ c.toNat < 0x110000 := by
  have hvalid := c.valid
  simp only [UInt32.isValidChar, Nat.isValidChar] at hvalid
  simp only [Char.toNat]
  omega

theorem units16_of_lt {n : Nat} (h : n < 0x10000) : units16 n = [n] := if_pos h

theorem units16_of_not_lt {n : Nat} (h : ¬ n < 0x10000) :
    units16 n = [0xd800 + (n - 0x10000) / 0x400, 0xdc00 + (n - 0x10000) % 0x400] := if_neg h

/-- A single unit does not start a pair. -/
theorem unitChars_ne_pair (hc : c.toNat < 0x10000) (hd : ¬ d.toNat < 0x10000) :
    (units16 c.toNat).flatMap unitChars ++ xs ≠ (units16 d.toNat).flatMap unitChars ++ ys := by
  intro h
  rw [units16_of_lt hc, units16_of_not_lt hd] at h
  simp only [List.flatMap_cons, List.flatMap_nil, List.append_nil, List.append_assoc] at h
  have hhalf := toNat_not_half c
  have htop := toNat_not_half d
  obtain ⟨hunit, -⟩ := unitChars_append_inj hc (by omega) h
  omega

theorem unitChars_flatMap_append_inj
    (h : (units16 c.toNat).flatMap unitChars ++ xs = (units16 d.toNat).flatMap unitChars ++ ys) :
    c = d ∧ xs = ys := by
  by_cases hc : c.toNat < 0x10000 <;> by_cases hd : d.toNat < 0x10000
  · rw [units16_of_lt hc, units16_of_lt hd] at h
    simp only [List.flatMap_cons, List.flatMap_nil, List.append_nil] at h
    obtain ⟨hunit, hrest⟩ := unitChars_append_inj hc hd h
    exact ⟨Char.toNat_inj.1 hunit, hrest⟩
  · exact absurd h (unitChars_ne_pair hc hd)
  · exact absurd h.symm (unitChars_ne_pair hd hc)
  · rw [units16_of_not_lt hc, units16_of_not_lt hd] at h
    simp only [List.flatMap_cons, List.flatMap_nil, List.append_nil, List.append_assoc] at h
    have hctop := toNat_not_half c
    have hdtop := toNat_not_half d
    obtain ⟨hhigh, h⟩ := unitChars_append_inj (by omega) (by omega) h
    obtain ⟨hlow, hrest⟩ := unitChars_append_inj (by omega) (by omega) h
    exact ⟨Char.toNat_inj.1 (by omega), hrest⟩

/-! ## Characters -/

/-- The characters that a letter stands for, with the letter. -/
def letterEscapes : List (Char × Char) :=
  [('"', '"'), ('\\', '\\'), ('\n', 'n'), ('\r', 'r'), ('\t', 't'), ('\x0c', 'f'), ('\x08', 'b')]

/-- A character is written by a letter, as itself if it is printable, or by the numerals of its
units. -/
theorem asciiChar_cases (c : Char) :
    (∃ e, (c, e) ∈ letterEscapes ∧ asciiChar c = ['\\', e]) ∨
    (c ≠ '"' ∧ c ≠ '\\' ∧ 0x20 ≤ c.toNat ∧ c.toNat ≤ 0x7e ∧ asciiChar c = [c]) ∨
    asciiChar c = (units16 c.toNat).flatMap unitChars := by
  unfold asciiChar
  simp only [Bool.or_eq_true, Bool.and_eq_true, decide_eq_true_eq]
  split_ifs with hself hn hr ht hf hb hplain
  · refine .inl ⟨c, ?_, rfl⟩
    rcases hself with rfl | rfl <;> decide
  · exact .inl ⟨'n', by rw [hn]; decide, rfl⟩
  · exact .inl ⟨'r', by rw [hr]; decide, rfl⟩
  · exact .inl ⟨'t', by rw [ht]; decide, rfl⟩
  · exact .inl ⟨'f', by rw [hf]; decide, rfl⟩
  · exact .inl ⟨'b', by rw [hb]; decide, rfl⟩
  · rw [not_or] at hself
    exact .inr (.inl ⟨hself.1, hself.2, hplain.1, hplain.2, rfl⟩)
  · exact .inr (.inr rfl)

/-- How a character is written in a literal. -/
inductive AsciiSpelling (c : Char) : List Char → Prop
  | letter {e : Char} (h : (c, e) ∈ letterEscapes) : AsciiSpelling c ['\\', e]
  | plain (hquote : c ≠ '"') (hescape : c ≠ '\\') : AsciiSpelling c [c]
  | units : AsciiSpelling c ((units16 c.toNat).flatMap unitChars)

theorem asciiSpelling_asciiChar (c : Char) : AsciiSpelling c (asciiChar c) := by
  obtain ⟨e, he, hchars⟩ | ⟨hquote, hescape, -, -, hchars⟩ | hchars := asciiChar_cases c
  · exact hchars ▸ .letter he
  · exact hchars ▸ .plain hquote hescape
  · exact hchars ▸ .units

theorem letterEscapes_inj : ∀ p ∈ letterEscapes, ∀ q ∈ letterEscapes, p.2 = q.2 → p.1 = q.1 := by
  decide +kernel

theorem letterEscapes_ne_u : ∀ p ∈ letterEscapes, p.2 ≠ 'u' := by decide

theorem units_eq_cons (n : Nat) :
    ∃ rest, (units16 n).flatMap unitChars = '\\' :: 'u' :: rest := by
  obtain ⟨u, us, hunits⟩ : ∃ u us, units16 n = u :: us := by
    unfold units16
    split <;> exact ⟨_, _, rfl⟩
  refine ⟨hexPadded 4 u ++ us.flatMap unitChars, ?_⟩
  rw [hunits, List.flatMap_cons, unitChars, List.cons_append, List.cons_append]

/-- The characters of a literal are told apart by what is written of them. -/
theorem asciiChar_append_inj (h : asciiChar c ++ xs = asciiChar d ++ ys) : c = d ∧ xs = ys := by
  have hc := asciiSpelling_asciiChar c
  have hd := asciiSpelling_asciiChar d
  obtain ⟨restc, hrestc⟩ := units_eq_cons c.toNat
  obtain ⟨restd, hrestd⟩ := units_eq_cons d.toNat
  generalize asciiChar c = front at h hc
  generalize asciiChar d = front' at h hd
  cases hc with
  | letter he =>
    cases hd with
    | letter he' =>
      obtain ⟨hletter, hrest⟩ := List.cons.inj (List.cons.inj h).2
      exact ⟨letterEscapes_inj _ he _ he' hletter, hrest⟩
    | plain hquote hescape => exact absurd (List.cons.inj h).1.symm hescape
    | units =>
      rw [hrestd] at h
      exact absurd (List.cons.inj (List.cons.inj h).2).1 (letterEscapes_ne_u _ he)
  | plain hquote hescape =>
    cases hd with
    | letter he' => exact absurd (List.cons.inj h).1 hescape
    | plain hquote' hescape' => exact List.cons.inj h
    | units =>
      rw [hrestd] at h
      exact absurd (List.cons.inj h).1 hescape
  | units =>
    cases hd with
    | letter he' =>
      rw [hrestc] at h
      exact absurd (List.cons.inj (List.cons.inj h).2).1.symm (letterEscapes_ne_u _ he')
    | plain hquote' hescape' =>
      rw [hrestc] at h
      exact absurd (List.cons.inj h).1.symm hescape'
    | units => exact unitChars_flatMap_append_inj h

/-- No character of a text is written as the quote that ends its literal. -/
theorem asciiChar_append_ne_quote : asciiChar c ++ xs ≠ '"' :: ys := by
  intro h
  have hc := asciiSpelling_asciiChar c
  obtain ⟨rest, hrest⟩ := units_eq_cons c.toNat
  generalize asciiChar c = front at h hc
  cases hc with
  | letter he => cases (List.cons.inj h).1
  | plain hquote hescape => exact hquote (List.cons.inj h).1
  | units =>
    rw [hrest] at h
    cases (List.cons.inj h).1

/-! ## Texts -/

theorem asciiChars_append_inj
    (h : cs.flatMap asciiChar ++ '"' :: xs = ds.flatMap asciiChar ++ '"' :: ys) :
    cs = ds ∧ xs = ys := by
  induction cs generalizing ds with
  | nil =>
    cases ds with
    | nil => exact ⟨rfl, (List.cons.inj h).2⟩
    | cons d ds =>
      rw [List.flatMap_cons, List.append_assoc] at h
      exact absurd h.symm asciiChar_append_ne_quote
  | cons c cs ih =>
    cases ds with
    | nil =>
      rw [List.flatMap_cons, List.append_assoc] at h
      exact absurd h asciiChar_append_ne_quote
    | cons d ds =>
      rw [List.flatMap_cons, List.flatMap_cons, List.append_assoc, List.append_assoc] at h
      obtain ⟨rfl, hrest⟩ := asciiChar_append_inj h
      obtain ⟨rfl, hend⟩ := ih hrest
      exact ⟨rfl, hend⟩

/-- **A literal determines its text and where it ends.** -/
theorem asciiLiteralChars_append_inj
    (h : asciiLiteralChars cs ++ xs = asciiLiteralChars ds ++ ys) : cs = ds ∧ xs = ys := by
  simp only [asciiLiteralChars, List.cons_append, List.append_assoc, List.nil_append,
    List.cons.injEq, true_and] at h
  exact asciiChars_append_inj h

end FpgaInterface.Text
