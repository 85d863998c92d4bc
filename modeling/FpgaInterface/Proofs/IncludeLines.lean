import FpgaInterface.Header.Spelling
import FpgaInterface.Proofs.HeaderLines
import FpgaInterface.Proofs.Traversal

/-!
# The lines of a header without its includes

* `Text.lines_append_newline` : lines before a newline and after it are those of the whole;
* `Header.lines_withoutIncludes` : the lines that are left are the kept ones, or an empty one;
* `Header.withoutIncludes_filters` : so no include is left, also behind the preamble, and leaving
  them out again changes nothing;
* `Header.startsWithInclude` : the first token of a line is the directive
  (`Header.startsWithInclude_iff`);
* `Header.RemovesLines p cs result` : a text without its lines of a kind, where only newlines end
  lines;
* `Header.KeepsOthers` : this is how a header loses the lines that start with the directive;
* `Header.keepsOthers_iff` : every other end of a line counts as a newline and becomes one, so a line
  that is to be kept must hold none.
-/

namespace FpgaInterface

namespace Text

variable {line cs ds : List Char} {c : Char}

/-! ## Lines of texts put together -/

theorem isLineBreak_newline : isLineBreak '\n' = true := by decide

theorem linesFrom_cons (h : isLineBreak c = false) (line cs : List Char) :
    linesFrom line (c :: cs) = linesFrom (c :: line) cs := by
  rw [linesFrom, if_neg (by simp [h])]
  rintro rest rfl -
  revert h
  decide

/-- A character that ends lines ends one, unless it is the first half of an end of two. -/
theorem linesFrom_cons_break (h : isLineBreak c = true) (hpair : c = '\r' → cs.head? ≠ some '\n')
    (line : List Char) : linesFrom line (c :: cs) = line.reverse :: lines cs := by
  rw [linesFrom, if_pos h, lines]
  rintro rest hc rfl
  exact hpair hc rfl

theorem linesFrom_append_newline (line cs ds : List Char) :
    linesFrom line (cs ++ '\n' :: ds) = linesFrom line (cs ++ ['\n']) ++ lines ds := by
  have hnewline : ∀ line ds, linesFrom line ('\n' :: ds) = line.reverse :: lines ds :=
    fun line ds => linesFrom_cons_break isLineBreak_newline nofun line
  fun_induction linesFrom line cs with
  | case1 line | case2 line =>
    rw [List.nil_append, List.nil_append, hnewline, hnewline]
    rfl
  | case3 line rest ih =>
    simp only [List.cons_append, linesFrom, ih]
  | case4 line c rest hpair hbreak ih =>
    by_cases hend : c = '\r' ∧ rest = []
    · -- the carriage return and the newline behind it are one end
      obtain ⟨rfl, rfl⟩ := hend
      rfl
    · have hcons : ∀ es, linesFrom line (c :: (rest ++ '\n' :: es)) =
          line.reverse :: linesFrom [] (rest ++ '\n' :: es) := by
        refine fun es => linesFrom_cons_break hbreak (fun hc => ?_) line
        cases rest with
        | nil => exact absurd ⟨hc, rfl⟩ hend
        | cons d rest =>
          intro hd
          obtain rfl : d = '\n' := Option.some.inj hd
          exact hpair _ hc rfl
      rw [List.cons_append, List.cons_append, hcons, hcons, ih, List.cons_append]
  | case5 line c rest _ hbreak ih =>
    have hc : isLineBreak c = false := Bool.eq_false_iff.2 hbreak
    rw [List.cons_append, List.cons_append, linesFrom_cons hc, linesFrom_cons hc, ih]

/-- Lines before a newline and after it are those of the whole. -/
theorem lines_append_newline (cs ds : List Char) :
    lines (cs ++ '\n' :: ds) = lines (cs ++ ['\n']) ++ lines ds := linesFrom_append_newline [] cs ds

/-- No character of a line ends one. -/
def IsOneLine (line : List Char) : Prop := ∀ c ∈ line, isLineBreak c = false

instance : DecidablePred IsOneLine := fun line =>
  decidable_of_iff (line.all (!isLineBreak ·) = true) (by simp [IsOneLine])

theorem linesFrom_append (h : IsOneLine cs) (line ds : List Char) :
    linesFrom line (cs ++ ds) = linesFrom (cs.reverse ++ line) ds := by
  induction cs generalizing line with
  | nil => rfl
  | cons c cs ih =>
    obtain ⟨hc, hcs⟩ := List.forall_mem_cons.1 h
    rw [List.cons_append, linesFrom_cons hc, ih hcs, List.reverse_cons, List.append_assoc]
    rfl

theorem lines_line_newline (h : IsOneLine line) : lines (line ++ ['\n']) = [line] := by
  rw [lines, linesFrom_append h, linesFrom_cons_break isLineBreak_newline nofun, List.append_nil,
    List.reverse_reverse]
  rfl

theorem lines_line (h : IsOneLine line) (hne : line ≠ []) : lines line = [line] := by
  have hfrom := linesFrom_append h [] []
  rw [List.append_nil, List.append_nil] at hfrom
  rw [lines, hfrom, linesFrom, if_neg (by simpa using hne), List.reverse_reverse]

theorem isOneLine_of_mem_lines (h : line ∈ lines cs) : IsOneLine line :=
  not_isLineBreak_of_mem_lines h

theorem IsOneLine.newline_not_mem (h : IsOneLine line) : '\n' ∉ line := by
  intro hmem
  cases isLineBreak_newline.symm.trans (h _ hmem)

/-! ## Characters of joined parts -/

section Join
variable {sep : Char} {part : List Char} {parts : List (List Char)}

theorem mem_joinWith_of_mem (hpart : part ∈ parts) (hc : c ∈ part) : c ∈ joinWith sep parts := by
  induction parts with
  | nil => cases hpart
  | cons first rest ih =>
    cases rest with
    | nil =>
      rw [List.mem_singleton.1 hpart] at hc
      exact hc
    | cons next rest =>
      rw [joinWith_cons _ _ (List.cons_ne_nil _ _)]
      rcases List.mem_cons.1 hpart with rfl | hpart
      · exact List.mem_append_left _ hc
      · exact List.mem_append_right _ (List.mem_cons_of_mem _ (ih hpart))

theorem eq_or_exists_of_mem_joinWith (h : c ∈ joinWith sep parts) :
    c = sep ∨ ∃ part ∈ parts, c ∈ part := by
  induction parts with
  | nil => cases h
  | cons first rest ih =>
    cases rest with
    | nil => exact .inr ⟨first, List.mem_cons_self .., h⟩
    | cons next rest =>
      rw [joinWith_cons _ _ (List.cons_ne_nil _ _)] at h
      rcases List.mem_append.1 h with h | h
      · exact .inr ⟨first, List.mem_cons_self .., h⟩
      · rcases List.mem_cons.1 h with rfl | h
        · exact .inl rfl
        · exact (ih h).imp_right fun ⟨part, hpart, hc⟩ => ⟨part, List.mem_cons_of_mem _ hpart, hc⟩

theorem joinWith_append_nil (sep : Char) (h : parts ≠ []) :
    joinWith sep (parts ++ [[]]) = joinWith sep parts ++ [sep] := by
  induction parts with
  | nil => exact absurd rfl h
  | cons part rest ih =>
    rw [List.cons_append, joinWith_cons sep part (by simp)]
    by_cases hrest : rest = []
    · rw [hrest]
      rfl
    · rw [ih hrest, joinWith_cons sep part hrest, List.append_assoc, List.cons_append]

end Join

end Text

namespace Header

open Text

variable {text : String} {cs line : List Char} {ls : List (List Char)} {p : List Char → Bool}

theorem lines_joinLines (hne : ls ≠ []) (h : ∀ l ∈ ls, IsOneLine l) :
    lines (joinLines ls ++ ['\n']) = ls := by
  induction ls with
  | nil => exact absurd rfl hne
  | cons line rest ih =>
    obtain ⟨hline, hrest⟩ := List.forall_mem_cons.1 h
    cases rest with
    | nil => exact lines_line_newline hline
    | cons next rest =>
      have hjoin : joinLines (line :: next :: rest) = line ++ '\n' :: joinLines (next :: rest) := rfl
      rw [hjoin, List.append_assoc, List.cons_append, lines_append_newline, lines_line_newline hline,
        ih (List.cons_ne_nil _ _) hrest]
      rfl

/-! ## The lines that are left -/

/-- The kept lines, or one empty line if none is kept. -/
def linesLeft (cs : List Char) : List (List Char) := if keptLines cs = [] then [[]] else keptLines cs

theorem linesLeft_ne_nil (cs : List Char) : linesLeft cs ≠ [] := by
  unfold linesLeft
  split
  · exact List.cons_ne_nil _ _
  · assumption

theorem mem_linesLeft (h : line ∈ linesLeft cs) :
    line = [] ∨ line ∈ lines cs ∧ isIncludeLine line = false := by
  unfold linesLeft at h
  split at h
  · exact .inl (List.mem_singleton.1 h)
  · simpa [keptLines] using Or.inr (a := line = []) h

theorem isOneLine_of_mem_linesLeft (h : line ∈ linesLeft cs) : IsOneLine line := by
  rcases mem_linesLeft h with rfl | ⟨hline, -⟩
  · exact List.forall_mem_nil _
  · exact isOneLine_of_mem_lines hline

theorem not_isIncludeLine_of_mem_linesLeft (h : line ∈ linesLeft cs) : isIncludeLine line = false := by
  rcases mem_linesLeft h with rfl | ⟨-, hline⟩
  · decide
  · exact hline

/-- An empty line is written as no line is. -/
theorem withoutIncludes_toList (text : String) :
    (withoutIncludes text).toList = joinLines (linesLeft text.toList) ++ ['\n'] := by
  rw [withoutIncludes, String.toList_ofList, linesLeft]
  split
  · next h => rw [h]; rfl
  · rfl

theorem lines_withoutIncludes (text : String) :
    lines (withoutIncludes text).toList = linesLeft text.toList := by
  rw [withoutIncludes_toList]
  exact lines_joinLines (linesLeft_ne_nil _) fun l hl => isOneLine_of_mem_linesLeft hl

/-- No line of a header without includes is left out. -/
theorem keptLines_withoutIncludes (text : String) :
    keptLines (withoutIncludes text).toList = linesLeft text.toList := by
  rw [keptLines, lines_withoutIncludes, List.filter_eq_self]
  intro l hl
  rw [not_isIncludeLine_of_mem_linesLeft hl, Bool.not_false]

theorem withoutIncludes_idem (text : String) :
    withoutIncludes (withoutIncludes text) = withoutIncludes text := by
  rw [← String.toList_inj, withoutIncludes_toList text, withoutIncludes, String.toList_ofList,
    keptLines_withoutIncludes]

theorem not_isIncludeLine_of_mem_preamble :
    ∀ l ∈ lines preamble.toList, isIncludeLine l = false := by
  -- the characters of the preamble are quicker to find line by line
  unfold preamble
  simp only [String.toList_append]
  decide +kernel

theorem lines_parseReady (text : String) :
    lines (parseReady text).toList = lines preamble.toList ++ linesLeft text.toList := by
  obtain ⟨front, hfront⟩ := preamble_ends
  rw [parseReady, String.toList_append, hfront, List.append_assoc, List.singleton_append,
    lines_append_newline, lines_withoutIncludes]

theorem length_linesLeft_le (cs : List Char) :
    (linesLeft cs).length ≤ max (lines cs).length 1 := by
  unfold linesLeft
  split
  · exact Nat.le_max_right _ _
  · exact Nat.le_trans (List.length_filter_le _ _) (Nat.le_max_left _ _)

/-- **Leaving out includes filters the lines of a header.** What is left are the lines that are no
includes, in order and unchanged, or one empty line. So no include is left, also behind the preamble,
the lines get no more than they were or one, and leaving the includes out again changes nothing. -/
theorem withoutIncludes_filters (text : String) :
    lines (withoutIncludes text).toList =
        (if (lines text.toList).filter (fun l => !isIncludeLine l) = [] then [[]]
          else (lines text.toList).filter fun l => !isIncludeLine l) ∧
      (∀ l ∈ lines (withoutIncludes text).toList, isIncludeLine l = false) ∧
      (∀ l ∈ lines (parseReady text).toList, isIncludeLine l = false) ∧
      (lines (withoutIncludes text).toList).length ≤ max (lines text.toList).length 1 ∧
      withoutIncludes (withoutIncludes text) = withoutIncludes text := by
  refine ⟨lines_withoutIncludes text, fun l hl => ?_, fun l hl => ?_, ?_, withoutIncludes_idem text⟩
  · rw [lines_withoutIncludes] at hl
    exact not_isIncludeLine_of_mem_linesLeft hl
  · rw [lines_parseReady] at hl
    rcases List.mem_append.1 hl with hl | hl
    · exact not_isIncludeLine_of_mem_preamble l hl
    · exact not_isIncludeLine_of_mem_linesLeft hl
  · rw [lines_withoutIncludes]
    exact length_linesLeft_le _

/-! ## Ends of lines as newlines -/

/-- A text in which every end of a line is a newline. -/
def newlined (cs : List Char) : List Char := cs.map fun c => if isLineBreak c then '\n' else c

theorem linesFrom_newlined (h : '\r' ∉ cs) (line : List Char) :
    linesFrom line (newlined cs) = linesFrom line cs := by
  induction cs generalizing line with
  | nil => rfl
  | cons c cs ih =>
    rw [List.mem_cons, not_or] at h
    obtain ⟨hc, hcs⟩ := h
    cases hbreak : isLineBreak c with
    | true =>
      have hcons : newlined (c :: cs) = '\n' :: newlined cs := by simp [newlined, hbreak]
      rw [hcons, linesFrom_cons_break isLineBreak_newline nofun,
        linesFrom_cons_break hbreak fun h => absurd h.symm hc, lines, lines, ih hcs]
    | false =>
      have hcons : newlined (c :: cs) = c :: newlined cs := by simp [newlined, hbreak]
      rw [hcons, linesFrom_cons hbreak, linesFrom_cons hbreak, ih hcs]

theorem keptLines_newlined (h : '\r' ∉ cs) : keptLines (newlined cs) = keptLines cs := by
  rw [keptLines, keptLines, lines, lines, linesFrom_newlined h]

theorem eq_newline_of_mem_newlined {c : Char} (h : c ∈ newlined cs) (hbreak : isLineBreak c = true) :
    c = '\n' := by
  obtain ⟨d, -, hd⟩ := List.mem_map.1 h
  split at hd
  · exact hd.symm
  · next hother =>
    rw [hd] at hother
    exact absurd hbreak hother

/-! ## Lines between newlines -/

/-- A part between newlines holds no end of a line where only newlines are some. -/
theorem isOneLine_of_mem_partsAt (h : ∀ c ∈ cs, isLineBreak c = true → c = '\n')
    (hline : line ∈ partsAt '\n' cs) : IsOneLine line := by
  refine fun c hc => Bool.eq_false_iff.2 fun hbreak => ?_
  have hcs : c ∈ cs := by
    rw [← joinWith_partsAt '\n' cs]
    exact mem_joinWith_of_mem hline hc
  obtain rfl := h c hcs hbreak
  exact not_mem_of_mem_partsAt hline hc

/-- The lines of a text are its parts between newlines, without the last one if that is empty. -/
theorem parts_eq_lines (hne : ls ≠ []) (h : ∀ l ∈ ls, IsOneLine l) :
    ls = lines (joinWith '\n' ls) ∨ ls = lines (joinWith '\n' ls) ++ [[]] := by
  induction ls with
  | nil => exact absurd rfl hne
  | cons line rest ih =>
    obtain ⟨hline, hrest⟩ := List.forall_mem_cons.1 h
    cases rest with
    | nil =>
      cases line with
      | nil => exact .inr rfl
      | cons c line => exact .inl (lines_line hline (List.cons_ne_nil _ _)).symm
    | cons next rest =>
      rw [joinWith_cons _ _ (List.cons_ne_nil _ _), lines_append_newline, lines_line_newline hline,
        List.append_assoc, List.singleton_append, List.singleton_append]
      exact (ih (List.cons_ne_nil _ _) hrest).imp (congrArg _) (congrArg _)

/-- The result is the text without its lines of a kind. Lines are the parts between newlines, what
stands in the other ones stays, and one newline may be added at the end. -/
def RemovesLines (p : List Char → Bool) (cs result : List Char) : Prop :=
  result = joinWith '\n' ((partsAt '\n' cs).filter fun l => !p l) ∨
    result = joinWith '\n' ((partsAt '\n' cs).filter fun l => !p l) ++ ['\n']

instance (p : List Char → Bool) (cs result : List Char) : Decidable (RemovesLines p cs result) :=
  inferInstanceAs (Decidable (_ ∨ _))

/-- Where only newlines end lines, leaving out the includes removes their lines. -/
theorem removesLines_joinLines (h : ∀ c ∈ cs, isLineBreak c = true → c = '\n') :
    RemovesLines isIncludeLine cs (joinLines (keptLines cs) ++ ['\n']) := by
  have hparts := parts_eq_lines (partsAt_ne_nil '\n' cs) fun l hl => isOneLine_of_mem_partsAt h hl
  rw [joinWith_partsAt] at hparts
  rw [RemovesLines, joinLines_eq_joinWith, keptLines]
  rcases hparts with hparts | hparts
  · rw [hparts]
    exact .inr rfl
  · have hempty : [([] : List Char)].filter (fun l => !isIncludeLine l) = [[]] := rfl
    rw [hparts, List.filter_append, hempty]
    by_cases hkept : (lines cs).filter (fun l => !isIncludeLine l) = []
    · rw [hkept]
      exact .inr rfl
    · exact .inl (joinWith_append_nil '\n' hkept).symm

/-- Leaving out the includes removes their lines from the text with newlines for all ends of lines. -/
theorem removesLines_withoutIncludes (h : '\r' ∉ text.toList) :
    RemovesLines isIncludeLine (newlined text.toList) (withoutIncludes text).toList := by
  rw [withoutIncludes, String.toList_ofList, ← keptLines_newlined h]
  exact removesLines_joinLines fun c hc => eq_newline_of_mem_newlined hc

/-! ## Lines that start with the directive -/

/-- The name of the directive that a line starts with: its first token is a sign with that name. -/
def directiveName? (line : List Char) : Option (List Char) :=
  match line.dropWhile isBlank with
  | '#' :: rest => some (rest.takeWhile fun c => isNameStart c || c.isDigit)
  | _ => none

/-- The first token of a line is the directive. -/
def startsWithInclude (line : List Char) : Bool := directiveName? line = some "include".toList

theorem isIncludeLine_iff :
    isIncludeLine line = true ↔ ∃ rest, trimStart line = includeDirective.toList ++ rest := by
  rw [isIncludeLine, List.isPrefixOf_iff_prefix]
  exact exists_congr fun _ => eq_comm

/-- Such a line begins like the directive, and no character of a longer word follows. -/
theorem startsWithInclude_iff :
    startsWithInclude line = true ↔ ∃ rest, trimStart line = includeDirective.toList ++ rest ∧
      ∀ c ∈ rest.head?, (isNameStart c || c.isDigit) = false := by
  have hword : ∀ c ∈ "include".toList, (isNameStart c || c.isDigit) = true :=
    List.all_eq_true.1 (by decide +kernel)
  have hdirective : includeDirective.toList = '#' :: "include".toList := rfl
  rw [startsWithInclude, decide_eq_true_eq, directiveName?, hdirective, trimStart]
  split
  · next rest hline =>
    rw [Option.some.injEq, takeWhile_eq_iff hword]
    simp only [hline, List.cons_append, List.cons.injEq, true_and]
  · next hother =>
    refine ⟨nofun, ?_⟩
    rintro ⟨rest, hline, -⟩
    exact absurd hline (hother _)

/-- A header loses the lines that start with the directive, and keeps everything else. -/
def KeepsOthers (text : String) : Prop :=
  RemovesLines startsWithInclude text.toList (withoutIncludes text).toList

/-- Of the parts that are left between newlines, none is an include and each is one line. -/
theorem mem_partsAt_withoutIncludes (h : line ∈ partsAt '\n' (withoutIncludes text).toList) :
    isIncludeLine line = false ∧ IsOneLine line := by
  rw [withoutIncludes_toList, partsAt_joinLines (linesLeft_ne_nil _) fun l hl =>
    (isOneLine_of_mem_linesLeft hl).newline_not_mem] at h
  rcases List.mem_append.1 h with h | h
  · exact ⟨not_isIncludeLine_of_mem_linesLeft h, isOneLine_of_mem_linesLeft h⟩
  · rw [List.mem_singleton.1 h]
    exact ⟨by decide, List.forall_mem_nil _⟩

/-- What is removed from a text does not cut up the lines that stay. -/
theorem RemovesLines.mem_partsAt {result : List Char} (h : RemovesLines p cs result)
    (hline : line ∈ partsAt '\n' cs) (hp : p line = false) : line ∈ partsAt '\n' result := by
  have hmem : line ∈ (partsAt '\n' cs).filter fun l => !p l := List.mem_filter.2 ⟨hline, by rw [hp]; rfl⟩
  have hparts : partsAt '\n' (joinWith '\n' ((partsAt '\n' cs).filter fun l => !p l)) =
      (partsAt '\n' cs).filter fun l => !p l :=
    partsAt_joinWith (List.ne_nil_of_mem hmem) fun l hl =>
      not_mem_of_mem_partsAt (List.mem_filter.1 hl).1
  rcases h with rfl | rfl
  · rw [hparts]
    exact hmem
  · rw [partsAt_append_cons, hparts]
    exact List.mem_append_left _ hmem

/-- Lines that are left, and lines that were to be left: an empty one may be missing at the end, and
one empty line is left for none. -/
def SameLines (ls kept : List (List Char)) : Prop :=
  kept = ls ∨ kept = ls ++ [[]] ∨ kept = [] ∧ ls = [[]]

/-- Joined lines determine the lines. -/
theorem removesLines_joinLines_iff (hne : ls ≠ []) (h : ∀ l ∈ ls, '\n' ∉ l) :
    RemovesLines p cs (joinLines ls ++ ['\n']) ↔
      SameLines ls ((partsAt '\n' cs).filter fun l => !p l) := by
  have hkept : ∀ l ∈ (partsAt '\n' cs).filter fun l => !p l, '\n' ∉ l := fun l hl =>
    not_mem_of_mem_partsAt (List.mem_filter.1 hl).1
  rw [RemovesLines, SameLines, joinLines_eq_joinWith, List.append_left_inj]
  generalize (partsAt '\n' cs).filter (fun l => !p l) = kept at hkept
  have hls := partsAt_joinWith hne h
  constructor
  · rintro (heq | heq)
    · refine .inr (.inl ?_)
      have hparts := congrArg (partsAt '\n') heq
      rw [partsAt_append_cons, hls] at hparts
      cases kept with
      | nil => simp [joinWith] at heq
      | cons l rest =>
        rw [partsAt_joinWith (List.cons_ne_nil _ _) hkept] at hparts
        exact hparts.symm
    · have hparts := congrArg (partsAt '\n') heq
      rw [hls] at hparts
      cases kept with
      | nil => exact .inr (.inr ⟨rfl, hparts⟩)
      | cons l rest =>
        rw [partsAt_joinWith (List.cons_ne_nil _ _) hkept] at hparts
        exact .inl hparts.symm
  · rintro (rfl | rfl | ⟨rfl, rfl⟩)
    · exact .inr rfl
    · exact .inl (joinWith_append_nil '\n' hne).symm
    · exact .inr rfl

theorem keepsOthers_iff_sameLines (text : String) :
    KeepsOthers text ↔ SameLines (lines (withoutIncludes text).toList)
      ((partsAt '\n' text.toList).filter fun l => !startsWithInclude l) := by
  rw [KeepsOthers, lines_withoutIncludes, withoutIncludes_toList]
  exact removesLines_joinLines_iff (linesLeft_ne_nil _) fun l hl =>
    (isOneLine_of_mem_linesLeft hl).newline_not_mem

/-- A line that is to be kept holds no other end of a line and no directive at its start. -/
theorem KeepsOthers.isOneLine (h : KeepsOthers text) (hline : line ∈ partsAt '\n' text.toList)
    (hkeep : startsWithInclude line = false) : isIncludeLine line = false ∧ IsOneLine line :=
  mem_partsAt_withoutIncludes (h.mem_partsAt hline hkeep)

theorem keepsOthers_of_isOneLine (h : ∀ line ∈ partsAt '\n' text.toList,
    isIncludeLine line = startsWithInclude line ∧ IsOneLine line) : KeepsOthers text := by
  have hends : ∀ c ∈ text.toList, isLineBreak c = true → c = '\n' := by
    intro c hc hbreak
    rw [← joinWith_partsAt '\n' text.toList] at hc
    rcases eq_or_exists_of_mem_joinWith hc with hc | ⟨line, hline, hc⟩
    · exact hc
    · rw [(h line hline).2 c hc] at hbreak
      cases hbreak
  have hfilter : (partsAt '\n' text.toList).filter (fun l => !isIncludeLine l) =
      (partsAt '\n' text.toList).filter fun l => !startsWithInclude l :=
    List.filter_congr fun l hl => by rw [(h l hl).1]
  have hremoves := removesLines_joinLines hends
  rw [RemovesLines, hfilter] at hremoves
  rw [KeepsOthers, RemovesLines, withoutIncludes, String.toList_ofList]
  exact hremoves

theorem isIncludeLine_of_startsWithInclude (h : startsWithInclude line = true) :
    isIncludeLine line = true := by
  obtain ⟨rest, hrest, -⟩ := startsWithInclude_iff.1 h
  exact isIncludeLine_iff.2 ⟨rest, hrest⟩

/-- **How a header loses its includes.** In a text without carriage returns each other end of a line
becomes a newline, and then the lines between newlines that begin with the directive are removed, also
if it goes on as a longer word. So everything else stays exactly if the lines of the result are those
between newlines that do not start with the directive. If no include holds another end of a line, this
means that no other line holds one or begins like the directive. -/
theorem keepsOthers_iff (h : '\r' ∉ text.toList) :
    RemovesLines isIncludeLine (newlined text.toList) (withoutIncludes text).toList ∧
      (KeepsOthers text ↔ SameLines (lines (withoutIncludes text).toList)
        ((partsAt '\n' text.toList).filter fun l => !startsWithInclude l)) ∧
      ((∀ line ∈ partsAt '\n' text.toList, startsWithInclude line = true → IsOneLine line) →
        (KeepsOthers text ↔ ∀ line ∈ partsAt '\n' text.toList, startsWithInclude line = false →
          isIncludeLine line = false ∧ IsOneLine line)) := by
  refine ⟨removesLines_withoutIncludes h, keepsOthers_iff_sameLines text, fun hincludes => ?_⟩
  refine ⟨fun hkeeps line hline hkeep => hkeeps.isOneLine hline hkeep, fun hothers => ?_⟩
  refine keepsOthers_of_isOneLine fun line hline => ?_
  cases hstarts : startsWithInclude line with
  | true => exact ⟨isIncludeLine_of_startsWithInclude hstarts, hincludes line hline hstarts⟩
  | false => exact hothers line hline hstarts

theorem keepsOthers_iff_spacedIncludes :
    '\r' ∉ "  #include \"NiFpga.h\"\nint x;\t// #include\n\n#include<stdint.h>".toList ∧
      KeepsOthers "  #include \"NiFpga.h\"\nint x;\t// #include\n\n#include<stdint.h>" :=
  ⟨by decide +kernel, ((keepsOthers_iff (by decide +kernel)).2.2 (by decide +kernel)).2
    (by decide +kernel)⟩

/-- A form feed ends a comment, and a longer word than the directive is left out. -/
theorem not_keepsOthers_formFeed :
    ¬ KeepsOthers "// gain\x0cint x;\n" ∧ ¬ KeepsOthers "#include_next <stdint.h>\nint x;\n" := by
  constructor
  · intro h
    have hline : "// gain\x0cint x;".toList ∈ partsAt '\n' "// gain\x0cint x;\n".toList := by
      decide +kernel
    exact absurd (h.isOneLine hline (by decide +kernel)).2 (by decide +kernel)
  · intro h
    have hline : "#include_next <stdint.h>".toList ∈
        partsAt '\n' "#include_next <stdint.h>\nint x;\n".toList := by decide +kernel
    exact absurd (h.isOneLine hline (by decide +kernel)).1 (by decide +kernel)

end Header

end FpgaInterface
