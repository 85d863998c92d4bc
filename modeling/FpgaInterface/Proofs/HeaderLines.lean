import FpgaInterface.Header.Preamble
import FpgaInterface.Text.Parts

/-!
# The lines of a copy that can be read by itself

* `Text.not_isLineBreak_of_mem_lines` : no line holds a character that ends lines;
* `Header.copyLines_eq` : the lines of the copy are those of the preamble and the kept ones;
* `Header.ShownAt text m n` : line `m` of the header is line `n` of the copy
  (`ShownAt.same_line`). Each line of the copy after the preamble is one line of the header
  (`exists_shownAt`, `ShownAt.unique`);
* `Header.ShownAt.add_includesAbove` : how far the two numbers are apart.
-/

namespace FpgaInterface

namespace Text

theorem not_isLineBreak_of_mem_linesFrom {line cs l : List Char}
    (hline : ∀ c ∈ line, isLineBreak c = false) (h : l ∈ linesFrom line cs) :
    ∀ c ∈ l, isLineBreak c = false := by
  fun_induction linesFrom line cs with
  | case1 => cases h
  | case2 line =>
    rw [List.mem_singleton.1 h]
    exact fun c hc => hline c (List.mem_reverse.1 hc)
  | case3 line rest ih =>
    rcases List.mem_cons.1 h with rfl | h
    · exact fun c hc => hline c (List.mem_reverse.1 hc)
    · exact ih (by simp) h
  | case4 line c rest _ _ ih =>
    rcases List.mem_cons.1 h with rfl | h
    · exact fun c hc => hline c (List.mem_reverse.1 hc)
    · exact ih (by simp) h
  | case5 line c rest _ hbreak ih =>
    refine ih ?_ h
    intro c' hc'
    rcases List.mem_cons.1 hc' with rfl | hc'
    · exact Bool.eq_false_iff.2 hbreak
    · exact hline c' hc'

theorem not_isLineBreak_of_mem_lines {cs l : List Char} (h : l ∈ lines cs) :
    ∀ c ∈ l, isLineBreak c = false := not_isLineBreak_of_mem_linesFrom (by simp) h

theorem newline_not_mem_of_mem_lines {cs l : List Char} (h : l ∈ lines cs) : '\n' ∉ l := by
  intro hmem
  have hbreak := not_isLineBreak_of_mem_lines h _ hmem
  revert hbreak
  decide

end Text

/-! ## Lists that are filtered -/

section Filter
variable {α : Type} {p : α → Bool} {as : List α} {a : α} {i j k : Nat}

/-- A kept item comes after those before it that are kept. -/
theorem getElem?_filter_countP (h : as[i]? = some a) (hp : p a = true) :
    (as.filter p)[(as.take i).countP p]? = some a := by
  induction as generalizing i with
  | nil => cases h
  | cons b as ih =>
    cases i with
    | zero =>
      obtain rfl : b = a := Option.some.inj h
      simp [hp]
    | succ i =>
      have hrest := ih h
      cases hb : p b with
      | true => simpa [hb, List.filter_cons] using hrest
      | false => simpa [hb, List.filter_cons] using hrest

theorem exists_of_getElem?_filter (h : (as.filter p)[k]? = some a) :
    ∃ i, as[i]? = some a ∧ p a = true ∧ (as.take i).countP p = k := by
  induction as generalizing k with
  | nil => cases h
  | cons b as ih =>
    cases hb : p b with
    | true =>
      rw [List.filter_cons_of_pos hb] at h
      cases k with
      | zero =>
        obtain rfl : b = a := Option.some.inj h
        exact ⟨0, rfl, hb, rfl⟩
      | succ k =>
        obtain ⟨i, hi, ha, hcount⟩ := ih h
        exact ⟨i + 1, hi, ha, by simp [hb, hcount]⟩
    | false =>
      rw [List.filter_cons_of_neg (by simp [hb])] at h
      obtain ⟨i, hi, ha, hcount⟩ := ih h
      exact ⟨i + 1, hi, ha, by simp [hb, hcount]⟩

theorem countP_take_succ (h : as[i]? = some a) (hp : p a = true) :
    (as.take (i + 1)).countP p = (as.take i).countP p + 1 := by
  rw [List.take_add_one, h, Option.toList_some, List.countP_append, List.countP_singleton, if_pos hp]

/-- Kept items with equally many kept ones before them are one item. -/
theorem eq_of_countP_take_eq {b : α} (hi : as[i]? = some a) (hj : as[j]? = some b) (ha : p a = true)
    (hb : p b = true) (h : (as.take i).countP p = (as.take j).countP p) : i = j := by
  have hmono : ∀ {m n : Nat}, m ≤ n → (as.take m).countP p ≤ (as.take n).countP p := by
    intro m n hmn
    exact (List.take_prefix_take_left hmn).sublist.countP_le
  have hi' := countP_take_succ hi ha
  have hj' := countP_take_succ hj hb
  rcases Nat.lt_trichotomy i j with hlt | rfl | hlt
  · have := hmono (show i + 1 ≤ j from hlt)
    omega
  · rfl
  · have := hmono (show j + 1 ≤ i from hlt)
    omega

end Filter

namespace Header

variable {text : String} {m m' n : Nat}

/-! ## The copy -/

theorem joinLines_eq_joinWith (ls : List (List Char)) : joinLines ls = Text.joinWith '\n' ls := by
  induction ls with
  | nil => rfl
  | cons line rest ih =>
    cases rest with
    | nil => rfl
    | cons next rest => rw [joinLines, ih, Text.joinWith_cons _ _ (List.cons_ne_nil _ _)]; nofun

theorem partsAt_joinLines {ls : List (List Char)} (hne : ls ≠ []) (h : ∀ l ∈ ls, '\n' ∉ l) :
    Text.partsAt '\n' (joinLines ls ++ ['\n']) = ls ++ [[]] := by
  rw [Text.partsAt_append_cons, joinLines_eq_joinWith, Text.partsAt_joinWith hne h]
  rfl

/-- The lines of the copy, as they are counted where it is read. -/
def copyLines (text : String) : List (List Char) := Text.partsAt '\n' (parseReady text).toList

def preambleLines : Nat := preamble.toList.count '\n'

theorem preamble_ends : ∃ front, preamble.toList = front ++ ['\n'] := by
  obtain ⟨front, hfront⟩ : ∃ front : String, preamble = front ++ "\n" := ⟨_, rfl⟩
  exact ⟨front.toList, by rw [hfront, String.toList_append]; rfl⟩

theorem copyLines_eq (h : keptLines text.toList ≠ []) :
    ∃ front, front.length = preambleLines ∧
      copyLines text = front ++ (keptLines text.toList ++ [[]]) := by
  obtain ⟨front, hfront⟩ := preamble_ends
  refine ⟨Text.partsAt '\n' front, ?_, ?_⟩
  · rw [Text.length_partsAt, preambleLines, hfront, List.count_append]
    rfl
  · have hkept : ∀ l ∈ keptLines text.toList, '\n' ∉ l := fun l hl =>
      Text.newline_not_mem_of_mem_lines (List.mem_filter.1 hl).1
    rw [copyLines, parseReady, withoutIncludes, String.toList_append, String.toList_ofList, hfront,
      List.append_assoc, List.singleton_append, Text.partsAt_append_cons, partsAt_joinLines h hkept]

/-! ## Numbers of lines -/

/-- The line of the header with a number, counted from one, is kept, and this is its number in the
copy. -/
inductive ShownAt (text : String) : Nat → Nat → Prop
  | kept (i : Nat) (line : List Char) (here : (Text.lines text.toList)[i]? = some line)
    (kept : isIncludeLine line = false) :
    ShownAt text (i + 1)
      (preambleLines + ((Text.lines text.toList).take i).countP (!isIncludeLine ·) + 1)

/-- The number of lines that are left out among the first `m`. -/
def includesAbove (text : String) (m : Nat) : Nat :=
  ((Text.lines text.toList).take m).countP isIncludeLine

theorem ShownAt.same_line (h : ShownAt text m n) :
    ∃ line, (Text.lines text.toList)[m - 1]? = some line ∧
      (copyLines text)[n - 1]? = some line := by
  obtain ⟨i, line, here, kept⟩ := h
  have hkept : (keptLines text.toList)[
      ((Text.lines text.toList).take i).countP (!isIncludeLine ·)]? = some line :=
    getElem?_filter_countP here (by rw [kept]; rfl)
  have hne : keptLines text.toList ≠ [] := by
    intro hnil
    rw [hnil] at hkept
    cases hkept
  obtain ⟨front, hlength, hcopy⟩ := copyLines_eq hne
  refine ⟨line, here, ?_⟩
  rw [hcopy, Nat.add_sub_cancel, List.getElem?_append_right (by omega), hlength,
    Nat.add_sub_cancel_left, List.getElem?_append_left (List.getElem?_eq_some_iff.1 hkept).1, hkept]

theorem ShownAt.le_length (h : ShownAt text m n) :
    1 ≤ m ∧ m ≤ (Text.lines text.toList).length := by
  obtain ⟨i, line, here, -⟩ := h
  have := (List.getElem?_eq_some_iff.1 here).1
  omega

/-- The preamble moves a line down, and the lines left out before it move it up. -/
theorem ShownAt.add_includesAbove (h : ShownAt text m n) :
    n + includesAbove text m = m + preambleLines := by
  obtain ⟨i, line, here, kept⟩ := h
  have hlength := (List.getElem?_eq_some_iff.1 here).1
  have htake : includesAbove text (i + 1) =
      ((Text.lines text.toList).take i).countP isIncludeLine := by
    rw [includesAbove, List.take_add_one, here, Option.toList_some, List.countP_append,
      List.countP_singleton, if_neg (by simp [kept]), Nat.add_zero]
  have hsplit := List.length_eq_countP_add_countP isIncludeLine
    (l := (Text.lines text.toList).take i)
  rw [List.length_take] at hsplit
  rw [htake]
  simp only [Bool.not_eq_true, Bool.decide_eq_false] at hsplit
  omega

theorem ShownAt.unique (h : ShownAt text m n) (h' : ShownAt text m' n) : m = m' := by
  obtain ⟨i, line, here, kept⟩ := h
  generalize hn : preambleLines + ((Text.lines text.toList).take i).countP (!isIncludeLine ·) + 1 =
    n at h'
  obtain ⟨j, line', here', kept'⟩ := h'
  have := eq_of_countP_take_eq here here' (p := (!isIncludeLine ·)) (by simp [kept])
    (by simp [kept']) (by omega)
  omega

theorem exists_shownAt (h : preambleLines < n)
    (h' : n ≤ preambleLines + (keptLines text.toList).length) : ∃ m, ShownAt text m n := by
  obtain ⟨k, rfl⟩ : ∃ k, n = preambleLines + k + 1 := ⟨n - preambleLines - 1, by omega⟩
  obtain ⟨line, hline⟩ : ∃ line, (keptLines text.toList)[k]? = some line :=
    ⟨_, List.getElem?_eq_getElem (by omega)⟩
  obtain ⟨i, here, hkept, rfl⟩ := exists_of_getElem?_filter hline
  exact ⟨i + 1, .kept i line here (by simpa using hkept)⟩

end Header

end FpgaInterface
