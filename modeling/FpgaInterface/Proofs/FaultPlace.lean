import FpgaInterface.Extract.Interface
import FpgaInterface.Proofs.Numeral
import FpgaInterface.Proofs.PathText

/-!
# The place in the text of a fault

The text of a fault shows a path, a line, a column where there is one, and a message, with colons
between them. A path may hold colons and digits of its own.

* `Header.digitsAndColon_eq_some_iff` : what a number with a colon behind it is;
* `Header.splitFrom_eq_some` : the file of a text ends at a colon, and a line follows it;
* `Header.splitFrom_of_first`, `splitFrom_of_earlier` : it ends at the first such colon;
* `Header.HoldsLine path` : in the path a colon is followed by digits, which end with it or at
  another colon;
* `Header.located_placedText_iff` : the place is found again exactly if its path does not look so,
  and its line is not too long to be read.
-/

namespace FpgaInterface.Header

open Text

variable {cs ds rest before after path message : List Char} {line : Nat}

/-! ## Digits and a colon -/

theorem isAnyDigit_colon : isAnyDigit ':' = false := by decide

theorem colon_not_mem (h : ∀ c ∈ ds, isAnyDigit c = true) : ':' ∉ ds := by
  intro hmem
  have := h ':' hmem
  rw [isAnyDigit_colon] at this
  cases this

/-- A run of digits ends before a colon. -/
theorem digitsAndColon_eq_some_iff : digitsAndColon cs = some (ds, rest) ↔
    cs = ds ++ ':' :: rest ∧ ds ≠ [] ∧ ∀ c ∈ ds, isAnyDigit c = true := by
  constructor
  · intro h
    unfold digitsAndColon at h
    split at h
    · next d more tail htake hdrop =>
      cases h
      have hsplit := List.takeWhile_append_dropWhile (p := isAnyDigit) (l := cs)
      rw [htake, hdrop] at hsplit
      refine ⟨hsplit.symm, List.cons_ne_nil _ _, fun c hc => ?_⟩
      rw [← htake] at hc
      exact List.mem_takeWhile_imp hc
    · cases h
  · rintro ⟨rfl, hne, hdigits⟩
    obtain ⟨d, more, rfl⟩ := List.exists_cons_of_ne_nil hne
    have hcolon : ∀ c ∈ (':' :: rest).head?, isAnyDigit c = false := by
      rintro c ⟨⟩
      exact isAnyDigit_colon
    unfold digitsAndColon
    rw [takeWhile_append_of_head hdigits hcolon, dropWhile_append_of_head hdigits hcolon]
    rfl

theorem decimalDigit?_lowerDigit : ∀ d < 10, decimalDigit? (lowerDigit d) = some d := by decide

theorem isAnyDigit_of_mem_decimal {c : Char} {n : Nat} (h : c ∈ (decimal n).toList) :
    isAnyDigit c = true := by
  obtain ⟨d, hd, rfl⟩ := exists_of_mem_decimal h
  rw [isAnyDigit, decimalDigit?_lowerDigit d hd, Option.isSome_some]

theorem anyDigitsValue_decimal (n : Nat) : anyDigitsValue (decimal n).toList = n := by
  have hvalues : ∀ (ds : List Nat) (start : Nat), (∀ d ∈ ds, d < 10) →
      (ds.map lowerDigit).foldl (fun n c => n * 10 + (decimalDigit? c).getD 0) start =
        ds.foldl (fun n d => n * 10 + d) start := by
    intro ds
    induction ds with
    | nil => exact fun _ _ => rfl
    | cons d ds ih =>
      intro start h
      have hd := decimalDigit?_lowerDigit d (h d (List.mem_cons_self ..))
      rw [List.map_cons, List.foldl_cons, List.foldl_cons, hd, Option.getD_some]
      exact ih _ fun d' hd' => h d' (List.mem_cons_of_mem _ hd')
  have hdigits : ∀ d ∈ digits 10 n, d < 10 := lt_of_mem_digits (by decide)
  rw [anyDigitsValue, toList_decimal, hvalues _ _ hdigits, foldl_eq_ofDigits,
    ofDigits_digits]

theorem digitsAndColon_decimal (n : Nat) (rest : List Char) :
    digitsAndColon ((decimal n).toList ++ ':' :: rest) = some ((decimal n).toList, rest) :=
  digitsAndColon_eq_some_iff.2 ⟨rfl, decimal_ne_nil n, fun _ => isAnyDigit_of_mem_decimal⟩

/-- Digits stand at the start, which end at a colon or with the text. -/
def StartsWithLine (cs : List Char) : Prop :=
  ∃ ds after, cs = ds ++ after ∧ ds ≠ [] ∧ (∀ c ∈ ds, isAnyDigit c = true) ∧
    ∀ c ∈ after.head?, c = ':'

/-- A text is taken for a line number with what stands before the next colon. -/
theorem startsWithLine_iff (cs after : List Char) :
    StartsWithLine cs ↔ digitsAndColon (cs ++ ':' :: after) ≠ none := by
  rw [Option.ne_none_iff_exists']
  constructor
  · rintro ⟨ds, more, rfl, hne, hdigits, hmore⟩
    cases more with
    | nil => exact ⟨(ds, after), digitsAndColon_eq_some_iff.2 ⟨by simp, hne, hdigits⟩⟩
    | cons c more =>
      obtain rfl := hmore c rfl
      exact ⟨(ds, more ++ ':' :: after), digitsAndColon_eq_some_iff.2 ⟨by simp, hne, hdigits⟩⟩
  · rintro ⟨⟨ds, rest⟩, h⟩
    obtain ⟨happend, hne, hdigits⟩ := digitsAndColon_eq_some_iff.1 h
    rcases List.append_eq_append_iff.1 happend with ⟨more, rfl, hmore⟩ | ⟨more, rfl, hmore⟩
    · cases more with
      | nil => exact ⟨cs, [], by simp, by simpa using hne, by simpa using hdigits, nofun⟩
      | cons c more =>
        obtain rfl := (List.cons.inj hmore).1
        exact absurd (List.mem_append_right _ (List.mem_cons_self ..)) (colon_not_mem hdigits)
    · refine ⟨ds, more, rfl, hne, hdigits, fun c hc => ?_⟩
      cases more with
      | nil => cases hc
      | cons d more =>
        cases hc
        exact ((List.cons.inj hmore).1).symm

/-! ## Lines and messages -/

theorem oneLine?_of_not_mem (h : '\n' ∉ cs) :
    oneLine? cs = some (cs.dropWhile isBlank) := by
  have hline : ∀ c ∈ cs.dropWhile isBlank, decide (c ≠ '\n') = true := by
    intro c hc
    have hmem : c ∈ cs := (List.dropWhile_suffix _).subset hc
    simpa using fun e : c = '\n' => h (e ▸ hmem)
  unfold oneLine?
  dsimp only
  rw [List.dropWhile_eq_nil_iff.2 hline, List.takeWhile_eq_self_iff.2 hline]

/-- A text of one line names a line exactly if digits and a colon stand at its start. -/
theorem afterFile?_ne_none_iff (h : '\n' ∉ cs) :
    afterFile? cs ≠ none ↔ digitsAndColon cs ≠ none := by
  unfold afterFile?
  cases hdigits : digitsAndColon cs with
  | none => simp
  | some found =>
    obtain ⟨ds, rest⟩ := found
    obtain ⟨rfl, -, -⟩ := digitsAndColon_eq_some_iff.1 hdigits
    have hrest : '\n' ∉ rest := fun hmem =>
      h (List.mem_append_right _ (List.mem_cons_of_mem _ hmem))
    cases hcolumn : digitsAndColon rest with
    | none => simp [hcolumn, oneLine?_of_not_mem hrest]
    | some column =>
      obtain ⟨ds', rest'⟩ := column
      obtain ⟨rfl, -, -⟩ := digitsAndColon_eq_some_iff.1 hcolumn
      have hrest' : '\n' ∉ rest' := fun hmem =>
        hrest (List.mem_append_right _ (List.mem_cons_of_mem _ hmem))
      simp [hcolumn, oneLine?_of_not_mem hrest']

/-! ## The file of a text -/

theorem splitFrom_eq_some {file cs q message : List Char} {line : Nat}
    (h : splitFrom file cs = some (q, line, message)) :
    ∃ before after, cs = before ++ ':' :: after ∧ q = file.reverse ++ before ∧
      afterFile? after = some (line, message) := by
  induction cs generalizing file with
  | nil => cases h
  | cons c rest ih =>
    rw [splitFrom] at h
    split at h
    · next found hfound =>
      cases h
      split at hfound
      · next hc => exact ⟨[], rest, by rw [hc]; rfl, (List.append_nil _).symm, hfound⟩
      · cases hfound
    · split at h
      · cases h
      · obtain ⟨before, after, rfl, rfl, hafter⟩ := ih h
        refine ⟨c :: before, after, rfl, ?_, hafter⟩
        rw [List.reverse_cons, List.append_assoc, List.singleton_append]

/-- A file ends at the first colon that a line follows. -/
theorem splitFrom_of_first {file : List Char} (hline : '\n' ∉ before)
    (hfirst : ∀ front rest, before = front ++ ':' :: rest →
      afterFile? (rest ++ ':' :: after) = none)
    (hafter : afterFile? after = some (line, message)) :
    splitFrom file (before ++ ':' :: after) = some (file.reverse ++ before, line, message) := by
  induction before generalizing file with
  | nil => simp [splitFrom, hafter]
  | cons c before ih =>
    have hhere : (if c = ':' then afterFile? (before ++ ':' :: after) else none) = none := by
      split
      · next hc => exact hfirst [] before (by rw [hc]; rfl)
      · rfl
    have hc : c ≠ '\n' := fun e => hline (e ▸ List.mem_cons_self ..)
    rw [List.cons_append, splitFrom]
    simp only [hhere, if_neg hc]
    rw [ih (fun hmem => hline (List.mem_cons_of_mem _ hmem)) fun front rest h =>
        hfirst (c :: front) rest (by rw [h, List.cons_append]), List.reverse_cons,
      List.append_assoc, List.singleton_append]

/-- It does not go on behind a colon that a line follows. -/
theorem splitFrom_of_earlier (file : List Char) (hline : '\n' ∉ before)
    (hafter : afterFile? after ≠ none) :
    ∃ front more line message, before = front ++ more ∧
      splitFrom file (before ++ ':' :: after) = some (file.reverse ++ front, line, message) := by
  induction before generalizing file with
  | nil =>
    obtain ⟨⟨line, message⟩, hfound⟩ := Option.ne_none_iff_exists'.1 hafter
    exact ⟨[], [], line, message, rfl, by simp [splitFrom, hfound]⟩
  | cons c before ih =>
    have hc : c ≠ '\n' := fun e => hline (e ▸ List.mem_cons_self ..)
    rw [List.cons_append, splitFrom]
    cases hhere : (if c = ':' then afterFile? (before ++ ':' :: after) else none) with
    | some found =>
      obtain ⟨line, message⟩ := found
      exact ⟨[], c :: before, line, message, rfl, by simp⟩
    | none =>
      obtain ⟨front, more, line, message, hfront, hsplit⟩ :=
        ih (c :: file) fun hmem => hline (List.mem_cons_of_mem _ hmem)
      refine ⟨c :: front, more, line, message, by rw [hfront, List.cons_append], ?_⟩
      simp only [if_neg hc]
      rw [hsplit, List.reverse_cons, List.append_assoc, List.singleton_append]

/-! ## Places that are found again -/

/-- The text of a fault: a path, a line, a column where there is one, and a message. -/
def placedText (path : String) (line : Nat) (column : Option Nat) (message : String) : String :=
  path ++ ":" ++ decimal line ++
    (match column with
      | some column => ":" ++ decimal column
      | none => "") ++ ": " ++ message

/-- In a path a colon is followed by digits, which end with the path or at another colon. -/
def HoldsLine (path : List Char) : Prop :=
  ∃ before rest, path = before ++ ':' :: rest ∧ StartsWithLine rest

theorem not_holdsLine_nil : ¬ HoldsLine [] := by
  rintro ⟨before, rest, h, -⟩
  exact List.cons_ne_nil _ _ (List.append_eq_nil_iff.1 h.symm).2

theorem holdsLine_cons {c : Char} {cs : List Char} :
    HoldsLine (c :: cs) ↔ c = ':' ∧ StartsWithLine cs ∨ HoldsLine cs := by
  constructor
  · rintro ⟨before, rest, h, hrest⟩
    rcases before with _ | ⟨d, before⟩
    · obtain ⟨rfl, rfl⟩ := List.cons.inj h
      exact .inl ⟨rfl, hrest⟩
    · exact .inr ⟨before, rest, (List.cons.inj h).2, hrest⟩
  · rintro (⟨rfl, h⟩ | ⟨before, rest, rfl, h⟩)
    · exact ⟨[], cs, rfl, h⟩
    · exact ⟨c :: before, rest, rfl, h⟩

instance decidableStartsWithLine (cs : List Char) : Decidable (StartsWithLine cs) :=
  decidable_of_iff _ (startsWithLine_iff cs []).symm

instance decidableHoldsLine : (path : List Char) → Decidable (HoldsLine path)
  | [] => isFalse not_holdsLine_nil
  | _ :: cs =>
    have := decidableHoldsLine cs
    decidable_of_iff _ holdsLine_cons.symm

example : HoldsLine "d:3:NiFpga_Main.h".toList ∧ HoldsLine "NiFpga_Main.h:3".toList ∧
    ¬ HoldsLine "C:/3d/NiFpga_Main.h".toList := by decide +kernel

def afterLine (column : Option Nat) (message : List Char) : List Char :=
  match column with
  | some column => (decimal column).toList ++ ':' :: ' ' :: message
  | none => ' ' :: message

def afterPath (line : Nat) (column : Option Nat) (message : List Char) : List Char :=
  (decimal line).toList ++ ':' :: afterLine column message

section Placed
variable {path message : String} {line : Nat} {column : Option Nat}

theorem toList_placedText : (placedText path line column message).toList =
    path.toList ++ ':' :: afterPath line column message.toList := by
  cases column <;> simp [placedText, afterPath, afterLine]

theorem newline_not_mem_afterPath {message : List Char} (h : '\n' ∉ message) :
    '\n' ∉ afterPath line column message := by
  have hdecimal : ∀ n, '\n' ∉ (decimal n).toList := by
    intro n hmem
    have hdigit := isAnyDigit_of_mem_decimal hmem
    rw [show isAnyDigit '\n' = false by decide] at hdigit
    cases hdigit
  cases column <;> simp [afterPath, afterLine, hdecimal, h]

/-- The text of a fault goes on in one line from any colon of the path. -/
theorem newline_not_mem_rest {front rest message : List Char} (hpath : '\n' ∉ front ++ ':' :: rest)
    (hmessage : '\n' ∉ message) : '\n' ∉ rest ++ ':' :: afterPath line column message := by
  have hrest : '\n' ∉ rest := fun hmem =>
    hpath (List.mem_append_right _ (List.mem_cons_of_mem _ hmem))
  simp [hrest, newline_not_mem_afterPath hmessage]

/-- A fault at a position shows it in its text. -/
theorem SyntaxFault.text_of_position {f : SyntaxFault} {p : Position}
    (h : f.place = .position p) :
    f.text = placedText p.file p.line (some p.column) f.cause.message := by
  simp [SyntaxFault.text, h, FaultPlace.text, Position.text, placedText, String.append_assoc]

/-- The line and the message behind a path are found again. -/
theorem afterFile?_afterPath {message : List Char} (hline : '\n' ∉ message)
    (hstart : ∀ c ∈ message.head?, isBlank c = false) :
    afterFile? (afterPath line column message) = some (line, message) := by
  have hblank : ' ' :: message = [' '] ++ message := rfl
  have hmessage : oneLine? (' ' :: message) = some message := by
    rw [oneLine?_of_not_mem (by simpa using hline), hblank,
      dropWhile_append_of_head (List.forall_mem_singleton.2 rfl) hstart]
  have hspace : digitsAndColon (' ' :: message) = none := by
    rw [Option.eq_none_iff_forall_ne_some]
    rintro ⟨ds, rest⟩ h
    obtain ⟨happend, hne, hdigits⟩ := digitsAndColon_eq_some_iff.1 h
    obtain ⟨d, more, rfl⟩ := List.exists_cons_of_ne_nil hne
    have hd := hdigits d (List.mem_cons_self ..)
    rw [← (List.cons.inj happend).1] at hd
    cases hd
  unfold afterFile? afterPath afterLine
  cases column with
  | none => simp [digitsAndColon_decimal, hspace, hmessage, anyDigitsValue_decimal]
  | some column => simp [digitsAndColon_decimal, hmessage, anyDigitsValue_decimal]

/-- The place in a text is found again. -/
def ReadsPlace (text path : String) (line : Nat) (message : String) : Prop :=
  splitFault text = some (path, line, message) ∧ tooManyDigits? text = none

/-- A fault is reported as an error with this message, at this line of this file. -/
def SyntaxFault.IsReportedAt (f : SyntaxFault) (name path : String) (line : Nat)
    (message : String) : Prop :=
  f.bareText? = none ∧ f.located name = ⟨message, some (Path.ofText path), some line⟩

/-- The place is the one that the text shows where no line stands in the path. -/
theorem splitFault_placedText (line : Nat) (column : Option Nat) (hpath : '\n' ∉ path.toList) (hmessage : '\n' ∉ message.toList)
    (hstart : ∀ c ∈ message.toList.head?, isBlank c = false) (hholds : ¬ HoldsLine path.toList) :
    splitFault (placedText path line column message) = some (path, line, message) := by
  have hfirst : ∀ front rest, path.toList = front ++ ':' :: rest →
      afterFile? (rest ++ ':' :: afterPath line column message.toList) = none := by
    intro front rest h
    have hrest : '\n' ∉ rest ++ ':' :: afterPath line column message.toList :=
      newline_not_mem_rest (h ▸ hpath) hmessage
    by_contra hne
    have hstarts := (startsWithLine_iff rest _).2 ((afterFile?_ne_none_iff hrest).1 hne)
    exact hholds ⟨front, rest, h, hstarts⟩
  rw [splitFault, toList_placedText,
    splitFrom_of_first hpath hfirst (afterFile?_afterPath hmessage hstart)]
  simp

/-- Where a line stands in the path, a file with fewer colons is found. -/
theorem splitFault_placedText_of_holdsLine (line : Nat) (column : Option Nat)
    (hpath : '\n' ∉ path.toList) (hmessage : '\n' ∉ message.toList)
    (hholds : HoldsLine path.toList) :
    ∃ file line' message', splitFault (placedText path line column message) =
      some (file, line', message') ∧ file.toList.count ':' < path.toList.count ':' := by
  obtain ⟨before, rest, hparts, hstarts⟩ := hholds
  have hbefore : '\n' ∉ before := fun hmem => hpath (hparts ▸ List.mem_append_left _ hmem)
  have hrest : '\n' ∉ rest ++ ':' :: afterPath line column message.toList :=
    newline_not_mem_rest (hparts ▸ hpath) hmessage
  obtain ⟨front, more, line', message', rfl, hsplit⟩ := splitFrom_of_earlier [] hbefore
    ((afterFile?_ne_none_iff hrest).2 ((startsWithLine_iff rest _).1 hstarts))
  refine ⟨String.ofList front, line', String.ofList message', ?_, ?_⟩
  · rw [splitFault, toList_placedText, hparts, List.append_assoc, List.cons_append, hsplit]
    rfl
  · rw [String.toList_ofList, hparts, List.count_append, List.count_append, List.count_cons_self]
    omega

/-- The line that is found can be read if its digits are not too many. -/
theorem tooManyDigits?_placedText
    (hsplit : splitFault (placedText path line column message) = some (path, line, message)) :
    tooManyDigits? (placedText path line column message) = none ↔
      (decimal line).toList.length ≤ Numeral.decimalDigitLimit := by
  have hcolon : ∀ c ∈ (':' :: afterLine column message.toList).head?, isAnyDigit c = false := by
    rintro c ⟨⟩
    exact isAnyDigit_colon
  have hdigits : ((placedText path line column message).toList.drop (path.length + 1)).takeWhile
      isAnyDigit = (decimal line).toList := by
    rw [toList_placedText, ← String.length_toList, List.drop_append, List.drop_eq_nil_of_le
      (by omega), List.nil_append, Nat.add_sub_cancel_left, List.drop_succ_cons, List.drop_zero,
      afterPath, takeWhile_append_of_head (fun _ => isAnyDigit_of_mem_decimal) hcolon]
  simp [tooManyDigits?, hsplit, hdigits]

/-- A place is found again exactly if no line stands in its path, and its own line is not too long
to be read. -/
theorem located_placedText_iff (hpath : '\n' ∉ path.toList) (hmessage : '\n' ∉ message.toList)
    (hstart : ∀ c ∈ message.toList.head?, isBlank c = false) :
    (ReadsPlace (placedText path line column message) path line message ↔
      ¬ HoldsLine path.toList ∧ (decimal line).toList.length ≤ Numeral.decimalDigitLimit) ∧
    ∀ (f : SyntaxFault) (name : String), f.isUnplaced = false →
      f.text = placedText path line column message →
      (f.IsReportedAt name path line message ↔
        ¬ HoldsLine path.toList ∧ (decimal line).toList.length ≤ Numeral.decimalDigitLimit) := by
  by_cases hholds : HoldsLine path.toList
  · obtain ⟨file, line', message', hsplit, hcount⟩ :=
      splitFault_placedText_of_holdsLine line column hpath hmessage hholds
    refine ⟨⟨?_, fun h => absurd hholds h.1⟩,
      fun f name _ htext => ⟨?_, fun h => absurd hholds h.1⟩⟩
    · rintro ⟨hread, -⟩
      rw [hsplit] at hread
      cases hread
      omega
    · rintro ⟨-, hlocated⟩
      rw [SyntaxFault.located, htext, hsplit] at hlocated
      have hfile : Path.ofText file = Path.ofText path := by
        simpa using congrArg Located.file hlocated
      have hcolons := congrArg (fun p : Path => p.text.toList.count ':') hfile
      simp only [Path.count_text_ofText _ (show ':' ≠ '/' by decide) (show ':' ≠ '.' by decide)]
        at hcolons
      omega
  · have hsplit := splitFault_placedText line column hpath hmessage hstart hholds
    have hlimit := tooManyDigits?_placedText hsplit
    refine ⟨?_, fun f name hplaced htext => ?_⟩
    · simp [ReadsPlace, hsplit, hlimit, hholds]
    · simp [SyntaxFault.IsReportedAt, SyntaxFault.bareText?, SyntaxFault.located, hplaced, htext,
        hsplit, hlimit, hholds]

end Placed

/-- A fault of a header whose path has no colon. -/
def plainPathFault : SyntaxFault := ⟨.function, .position ⟨"NiFpga_Main.h", 17, 5⟩⟩

theorem located_placedText_iff_plainPath :
    ReadsPlace (placedText "NiFpga_Main.h" 17 none "Invalid function definition") "NiFpga_Main.h" 17
        "Invalid function definition" ∧
      plainPathFault.IsReportedAt "" "NiFpga_Main.h" 17 "Invalid function definition" := by
  have hplace : ¬ HoldsLine "NiFpga_Main.h".toList ∧
      (decimal 17).toList.length ≤ Numeral.decimalDigitLimit := by decide +kernel
  have hpath : '\n' ∉ "NiFpga_Main.h".toList := by decide +kernel
  have hmessage : '\n' ∉ "Invalid function definition".toList := by decide +kernel
  have hstart : ∀ c ∈ "Invalid function definition".toList.head?, isBlank c = false := by
    have hhead : "Invalid function definition".toList.head? = some 'I' := by decide +kernel
    rw [hhead]
    rintro c ⟨⟩
    decide
  have htext : plainPathFault.text =
      placedText "NiFpga_Main.h" 17 (some 5) "Invalid function definition" := by decide +kernel
  exact ⟨(located_placedText_iff hpath hmessage hstart).1.2 hplace,
    ((located_placedText_iff hpath hmessage hstart).2 _ "" rfl htext).2 hplace⟩

def parseFault? : Except SyntaxFault Node → Option SyntaxFault
  | .ok _ => none
  | .error f => some f

theorem eq_error_of_parseFault? {parsed : Except SyntaxFault Node} {f : SyntaxFault}
    (h : parseFault? parsed = some f) : parsed = .error f := by
  cases parsed with
  | ok tree => cases h
  | error fault => rw [Option.some.inj h]

/-- A fault of a header whose path looks as if it had a line. -/
def linePathFault : SyntaxFault := ⟨.function, .position ⟨"d:3:NiFpga_Main.h", 1, 5⟩⟩

theorem not_isReportedAt_linePath :
    parse "d:3:NiFpga_Main.h" "int b\nint c;\n" = .error linePathFault ∧
      linePathFault.text =
        placedText "d:3:NiFpga_Main.h" 1 (some 5) "Invalid function definition" ∧
      ¬ linePathFault.IsReportedAt "d:3:NiFpga_Main.h" "d:3:NiFpga_Main.h" 1
        "Invalid function definition" := by
  refine ⟨eq_error_of_parseFault? (by decide +kernel), by decide +kernel, ?_⟩
  rintro ⟨-, hlocated⟩
  exact absurd (congrArg Located.line hlocated) (by decide +kernel)

end FpgaInterface.Header
