import FpgaInterface.Build.Project

/-!
# The words of the commands

What a text spells is said by a grammar of its own: words with gaps between them, and a word in
pieces that are plain, escaped or quoted.

* `Words.Inside`, `Words.Piece`, `Words.Pieces`, `Words.Spells` : the grammar, with the characters
  that each part stands for;
* `words_eq_ok_iff` : a text has the words that it spells, so a text that spells none has a fault;
* `spells_nil_iff` : only gaps spell no word;
* `Project.SplitsAlike` : the compiler and the preprocessor are started by the same words, or both
  have a fault;
* `Project.StartsWithOption` : the preprocessor has a fault, and the compiler is an option;
* `Project.splitsAlike_iff` : the first holds of every command but those that are only gaps, the
  second of these.
-/

namespace FpgaInterface

namespace Words

/-! ## The grammar -/

/-- A character that stands for itself outside of quotes. -/
def isPlain (c : Char) : Bool := !isGap c && c != '\'' && c != '"' && c != '\\'

/-- The characters that a text between double quotes stands for. A backslash stands for itself,
unless it is in front of a double quote or another one. -/
inductive Inside : List Char → List Char → Prop
  | nil : Inside [] []
  | plain {c : Char} {s v : List Char} (hquote : c ≠ '"') (hescape : c ≠ '\\') (h : Inside s v) :
    Inside (c :: s) (c :: v)
  | escaped {c : Char} {s v : List Char} (hc : c = '"' ∨ c = '\\') (h : Inside s v) :
    Inside ('\\' :: c :: s) (c :: v)
  | kept {c : Char} {s v : List Char} (hquote : c ≠ '"') (hescape : c ≠ '\\') (h : Inside s v) :
    Inside ('\\' :: c :: s) ('\\' :: c :: v)

/-- The characters that a piece of a word stands for. -/
inductive Piece : List Char → List Char → Prop
  | plain {c : Char} (h : isPlain c = true) : Piece [c] [c]
  | escaped (c : Char) : Piece ['\\', c] [c]
  | single {cs : List Char} (h : '\'' ∉ cs) : Piece ('\'' :: cs ++ ['\'']) cs
  | double {s v : List Char} (h : Inside s v) : Piece ('"' :: s ++ ['"']) v

/-- The characters that pieces stand for one after another. -/
inductive Pieces : List Char → List Char → Prop
  | nil : Pieces [] []
  | cons {s v s' v' : List Char} (h : Piece s v) (h' : Pieces s' v') : Pieces (s ++ s') (v ++ v')

/-- The words that a text spells. A word has a piece at least, and ends at a gap or with the
text. -/
inductive Spells : List Char → List String → Prop
  | nil : Spells [] []
  | gap {c : Char} {cs : List Char} {ws : List String} (hc : isGap c = true) (h : Spells cs ws) :
    Spells (c :: cs) ws
  | word {s v s' v' cs : List Char} {ws : List String} (hfirst : Piece s v) (hmore : Pieces s' v')
    (hend : ∀ c ∈ cs.head?, isGap c = true) (h : Spells cs ws) :
    Spells (s ++ s' ++ cs) (String.ofList (v ++ v') :: ws)

variable {c : Char} {s v cs rest w : List Char} {word : Option (List Char)} {ws : List String}
  {f : WordsFault}

/-- Only gaps spell no word. -/
theorem spells_nil_iff : Spells cs [] ↔ ∀ c ∈ cs, isGap c = true := by
  constructor
  · intro h
    generalize hws : ([] : List String) = ws at h
    induction h with
    | nil => exact fun c hc => absurd hc List.not_mem_nil
    | gap hc _ ih => exact List.forall_mem_cons.2 ⟨hc, ih hws⟩
    | word => cases hws
  · intro h
    induction cs with
    | nil => exact .nil
    | cons c cs ih =>
      exact .gap (h c List.mem_cons_self) (ih fun c' hc' => h c' (List.mem_cons_of_mem _ hc'))

/-! ## One character -/

theorem split_gap (h : isGap c = true) (rest : List Char) :
    split .open none (c :: rest) = split .open none rest :=
  if_pos h

/-- A word ends at a gap. -/
theorem split_wordGap (h : isGap c = true) (w rest : List Char) :
    split .open (some w) (c :: rest) =
      (split .open none rest).map (String.ofList w.reverse :: ·) :=
  if_pos h

theorem split_nonGap (h : isGap c = false) (word : Option (List Char)) (rest : List Char) :
    split .open word (c :: rest) =
      if c = '\'' || c = '"' then split (.quoted c) (some (word.getD [])) rest
      else if c = '\\' then split .escaped word rest
      else split .open (some (c :: word.getD [])) rest :=
  if_neg (by simp [h])

theorem split_quote (h : c = '\'' ∨ c = '"') (word : Option (List Char)) (rest : List Char) :
    split .open word (c :: rest) = split (.quoted c) (some (word.getD [])) rest := by
  have hgap : isGap c = false := by rcases h with rfl | rfl <;> decide
  rw [split_nonGap hgap, if_pos (by simpa using h)]

theorem split_escape (word : Option (List Char)) (rest : List Char) :
    split .open word ('\\' :: rest) = split .escaped word rest := by
  rw [split_nonGap (by decide), if_neg (by decide), if_pos rfl]

theorem split_escaped (c : Char) (word : Option (List Char)) (rest : List Char) :
    split .escaped word (c :: rest) = split .open (some (c :: word.getD [])) rest := rfl

theorem split_plain (h : isPlain c = true) (word : Option (List Char)) (rest : List Char) :
    split .open word (c :: rest) = split .open (some (c :: word.getD [])) rest := by
  simp only [isPlain, Bool.and_eq_true, Bool.not_eq_true', bne_iff_ne] at h
  obtain ⟨⟨⟨hgap, hsingle⟩, hdouble⟩, hescape⟩ := h
  rw [split_nonGap hgap, if_neg (by simp [hsingle, hdouble]), if_neg hescape]

theorem split_close (q : Char) (word : Option (List Char)) (rest : List Char) :
    split (.quoted q) word (q :: rest) = split .open word rest :=
  if_pos rfl

theorem split_quoted {q : Char} (hquote : c ≠ q) (hescape : c = '\\' → q ≠ '"')
    (w rest : List Char) :
    split (.quoted q) (some w) (c :: rest) = split (.quoted q) (some (c :: w)) rest :=
  (if_neg hquote).trans (if_neg (by simpa using hescape))

theorem split_escapedInside (c : Char) (w rest : List Char) :
    split (.quoted '"') (some w) ('\\' :: c :: rest) =
      split (.quoted '"') (some ((if c = '"' || c = '\\' then [c] else [c, '\\']) ++ w)) rest :=
  (if_neg (by decide)).trans (if_pos (by decide))

/-! ## What is spelled is split -/

theorem split_inside (h : Inside s v) (w rest : List Char) :
    split (.quoted '"') (some w) (s ++ rest) =
      split (.quoted '"') (some (v.reverse ++ w)) rest := by
  induction h generalizing w with
  | nil => rfl
  | plain hquote hescape _ ih =>
    rw [List.cons_append, split_quoted hquote fun h => absurd h hescape, ih, List.reverse_cons,
      List.append_assoc, List.singleton_append]
  | escaped hc _ ih =>
    rw [List.cons_append, List.cons_append, split_escapedInside, if_pos (by simpa using hc), ih,
      List.reverse_cons, List.append_assoc]
  | kept hquote hescape _ ih =>
    rw [List.cons_append, List.cons_append, split_escapedInside,
      if_neg (by simp [hquote, hescape]), ih]
    simp

theorem split_single (h : '\'' ∉ cs) (w rest : List Char) :
    split (.quoted '\'') (some w) (cs ++ '\'' :: rest) =
      split .open (some (cs.reverse ++ w)) rest := by
  induction cs generalizing w with
  | nil => rw [List.nil_append, split_close, List.reverse_nil, List.nil_append]
  | cons c cs ih =>
    obtain ⟨hc, hcs⟩ := List.ne_and_not_mem_of_not_mem_cons h
    rw [List.cons_append, split_quoted hc.symm fun _ => by decide, ih hcs, List.reverse_cons,
      List.append_assoc, List.singleton_append]

theorem split_piece (h : Piece s v) (word : Option (List Char)) (rest : List Char) :
    split .open word (s ++ rest) = split .open (some (v.reverse ++ word.getD [])) rest := by
  cases h with
  | plain hc => exact split_plain hc word rest
  | escaped c =>
    rw [List.cons_append, split_escape, List.singleton_append, split_escaped]
    rfl
  | single hcs =>
    rw [List.append_assoc, List.cons_append, split_quote (.inl rfl), List.singleton_append,
      split_single hcs]
  | double hinside =>
    rw [List.append_assoc, List.cons_append, split_quote (.inr rfl), split_inside hinside,
      List.singleton_append, split_close]

theorem split_pieces (h : Pieces s v) (w rest : List Char) :
    split .open (some w) (s ++ rest) = split .open (some (v.reverse ++ w)) rest := by
  induction h generalizing w with
  | nil => rfl
  | cons hpiece _ ih =>
    rw [List.append_assoc, split_piece hpiece, Option.getD_some, ih, List.reverse_append,
      List.append_assoc]

/-- A word ends at a gap or with the text. -/
theorem split_end (h : ∀ c ∈ cs.head?, isGap c = true) (w : List Char) :
    split .open (some w) cs =
      (split .open none cs).map (String.ofList w.reverse :: ·) := by
  cases cs with
  | nil => rfl
  | cons c cs =>
    have hc : isGap c = true := h c rfl
    rw [split_wordGap hc, split_gap hc]

theorem split_of_spells (h : Spells cs ws) : split .open none cs = .ok ws := by
  induction h with
  | nil => rfl
  | gap hc _ ih => rw [split_gap hc, ih]
  | word hfirst hmore hend _ ih =>
    rw [List.append_assoc, split_piece hfirst, split_pieces hmore, split_end hend, ih]
    simp [Except.map]

/-! ## What is split is spelled -/

/-- A text after a double quote has its other one, or a fault. -/
theorem exists_inside : ∀ cs : List Char,
    (∃ s v rest, cs = s ++ '"' :: rest ∧ Inside s v) ∨
      ∀ w, ∃ f, split (.quoted '"') (some w) cs = .error f
  | [] => .inr fun _ => ⟨.openQuote, rfl⟩
  | c :: cs => by
    by_cases hquote : c = '"'
    · exact .inl ⟨[], [], cs, by rw [hquote, List.nil_append], .nil⟩
    by_cases hescape : c = '\\'
    · subst hescape
      cases cs with
      | nil => exact .inr fun _ => ⟨.openEscape, rfl⟩
      | cons c cs =>
        rcases exists_inside cs with ⟨s, v, rest, rfl, h⟩ | hfault
        · by_cases hc : c = '"' ∨ c = '\\'
          · exact .inl ⟨'\\' :: c :: s, c :: v, rest, rfl, .escaped hc h⟩
          · obtain ⟨hquote', hescape'⟩ := not_or.1 hc
            exact .inl ⟨'\\' :: c :: s, '\\' :: c :: v, rest, rfl, .kept hquote' hescape' h⟩
        · refine .inr fun w => ?_
          rw [split_escapedInside]
          exact hfault _
    · rcases exists_inside cs with ⟨s, v, rest, rfl, h⟩ | hfault
      · exact .inl ⟨c :: s, c :: v, rest, rfl, .plain hquote hescape h⟩
      · refine .inr fun w => ?_
        rw [split_quoted hquote fun h => absurd h hescape]
        exact hfault _

theorem split_openSingle (h : '\'' ∉ cs) (w : List Char) :
    split (.quoted '\'') (some w) cs = .error .openQuote := by
  induction cs generalizing w with
  | nil => rfl
  | cons c cs ih =>
    obtain ⟨hc, hcs⟩ := List.ne_and_not_mem_of_not_mem_cons h
    rw [split_quoted hc.symm fun _ => by decide, ih hcs]

/-- A text that begins with no gap begins with a piece, or has a fault. -/
theorem exists_piece (hc : isGap c = false) (cs : List Char) :
    (∃ s v rest, c :: cs = s ++ rest ∧ rest.length ≤ cs.length ∧ Piece s v) ∨
      ∀ word, ∃ f, split .open word (c :: cs) = .error f := by
  by_cases hsingle : c = '\''
  · subst hsingle
    by_cases hcs : '\'' ∈ cs
    · obtain ⟨inner, rest, rfl, hinner⟩ := List.eq_append_cons_of_mem hcs
      exact .inl ⟨'\'' :: inner ++ ['\''], inner, rest, by simp, by simp; omega, .single hinner⟩
    · refine .inr fun word => ⟨.openQuote, ?_⟩
      rw [split_quote (.inl rfl), split_openSingle hcs]
  by_cases hdouble : c = '"'
  · subst hdouble
    rcases exists_inside cs with ⟨s, v, rest, rfl, h⟩ | hfault
    · exact .inl ⟨'"' :: s ++ ['"'], v, rest, by simp, by simp; omega, .double h⟩
    · refine .inr fun word => ?_
      rw [split_quote (.inr rfl)]
      exact hfault _
  by_cases hescape : c = '\\'
  · subst hescape
    cases cs with
    | nil =>
      refine .inr fun word => ⟨.openEscape, ?_⟩
      rw [split_escape]
      rfl
    | cons c cs => exact .inl ⟨['\\', c], [c], cs, rfl, by simp, .escaped c⟩
  · refine .inl ⟨[c], [c], cs, rfl, Nat.le_refl _, .plain ?_⟩
    simp [isPlain, hc, hsingle, hdouble, hescape]

/-- A text that goes on in a word: the pieces up to the end of it, and the words after it. -/
def GoesOn (w cs : List Char) (ws : List String) : Prop :=
  ∃ s v rest later, cs = s ++ rest ∧ Pieces s v ∧ (∀ c ∈ rest.head?, isGap c = true) ∧
    Spells rest later ∧ ws = String.ofList (w ++ v) :: later

/-- The words of a text after a place outside of a word, and in one. -/
theorem spells_of_split (cs : List Char) :
    (∀ ws, split .open none cs = .ok ws → Spells cs ws) ∧
      ∀ w ws, split .open (some w) cs = .ok ws → GoesOn w.reverse cs ws := by
  match cs with
  | [] =>
    refine ⟨fun ws h => ?_, fun w ws h => ?_⟩
    · obtain rfl := Except.ok.inj h
      exact .nil
    · obtain rfl := Except.ok.inj h
      exact ⟨[], [], [], [], rfl, .nil, by simp, .nil, by simp⟩
  | c :: cs =>
    have ih := spells_of_split cs
    cases hc : isGap c with
    | true =>
      have hend : ∀ d ∈ (c :: cs).head?, isGap d = true := fun d hd => Option.some_inj.1 hd ▸ hc
      refine ⟨fun ws h => .gap hc (ih.1 ws ((split_gap hc cs).symm.trans h)), fun w ws h => ?_⟩
      rw [split_wordGap hc] at h
      cases hlater : split .open none cs with
      | error f =>
        rw [hlater] at h
        cases h
      | ok later =>
        rw [hlater] at h
        obtain rfl := Except.ok.inj h
        exact ⟨[], [], c :: cs, later, rfl, .nil, hend, .gap hc (ih.1 later hlater), by simp⟩
    | false =>
      rcases exists_piece hc cs with ⟨s, v, rest, hcs, hshort, hpiece⟩ | hfault
      · have ih := (spells_of_split rest).2
        rw [hcs]
        refine ⟨fun ws h => ?_, fun w ws h => ?_⟩
        · rw [split_piece hpiece] at h
          obtain ⟨s', v', rest, later, rfl, hpieces, hend, hlater, rfl⟩ := ih _ ws h
          rw [← List.append_assoc]
          simpa using Spells.word hpiece hpieces hend hlater
        · rw [split_piece hpiece] at h
          obtain ⟨s', v', rest, later, rfl, hpieces, hend, hlater, rfl⟩ := ih _ ws h
          exact ⟨s ++ s', v ++ v', rest, later, by simp, .cons hpiece hpieces, hend, hlater,
            by simp⟩
      · refine ⟨fun ws h => ?_, fun w ws h => ?_⟩
        · obtain ⟨f, hf⟩ := hfault none
          rw [hf] at h
          cases h
        · obtain ⟨f, hf⟩ := hfault (some w)
          rw [hf] at h
          cases h
termination_by cs.length

end Words

/-- A command has the words that it spells. -/
theorem words_eq_ok_iff {command : String} {ws : List String} :
    words command = .ok ws ↔ Words.Spells command.toList ws :=
  ⟨(Words.spells_of_split _).1 ws, Words.split_of_spells⟩

namespace Project

/-! ## The two commands -/

def withCommand (p : Project) (command : Option String) : Project :=
  { p with compiler := command, preprocessor := command }

/-- The compiler and the preprocessor have both a fault, or they are both started by the words of
the command, of which there is one at least. -/
def SplitsAlike (p : Project) (environment : Option String) (output : String) : Prop :=
  ((∃ f, p.compileCommand environment output = .error f) ∧
    ∃ f, p.preprocessCommand environment = .error f) ∨
  ∃ program added, program ≠ [] ∧
    Words.Spells (commandOr environment p.compiler).toList program ∧
    p.compileCommand environment output = .ok (program ++ "-shared" :: added) ∧
    p.preprocessCommand environment = .ok (program ++ p.preprocessorArguments.getD ["-E"])

/-- There is no command for the preprocessor, and what starts the compiler is an option of it. -/
def StartsWithOption (p : Project) (environment : Option String) (output : String) : Prop :=
  p.preprocessCommand environment = .error .empty ∧
    ∃ added, p.compileCommand environment output = .ok ("-shared" :: added)

variable {environment command : Option String} {program : List String} {f : WordsFault}

theorem commands_of_words (h : words (commandOr environment command) = .ok program)
    (p : Project) (output : String) :
    (∃ added, (p.withCommand command).compileCommand environment output =
      .ok (program ++ "-shared" :: added)) ∧
    (p.withCommand command).preprocessCommand environment =
      if program = [] then .error .empty
      else .ok (program ++ p.preprocessorArguments.getD ["-E"]) := by
  constructor
  · simp only [withCommand, compileCommand, h, bind, Except.bind, List.append_assoc,
      List.cons_append]
    exact ⟨_, rfl⟩
  · show FpgaInterface.preprocessCommand environment command p.preprocessorArguments = _
    unfold FpgaInterface.preprocessCommand
    rw [h]
    cases program with
    | nil => rfl
    | cons first rest =>
      rw [if_neg (List.cons_ne_nil _ _)]
      rfl

theorem commands_of_fault (h : words (commandOr environment command) = .error f)
    (p : Project) (output : String) :
    (p.withCommand command).compileCommand environment output = .error f ∧
      (p.withCommand command).preprocessCommand environment = .error (.words f) := by
  constructor
  · show Project.compileCommand { p with compiler := command } environment output = _
    unfold compileCommand
    rw [h]
    rfl
  · show FpgaInterface.preprocessCommand environment command p.preprocessorArguments = _
    unfold FpgaInterface.preprocessCommand
    rw [h]
    rfl

theorem words_eq_nil_iff {text : String} :
    words text = .ok [] ↔ ∀ c ∈ text.toList, Words.isGap c = true :=
  words_eq_ok_iff.trans Words.spells_nil_iff

theorem not_splitsAlike {p : Project} {output : String} {argv : List String}
    (hpreprocess : p.preprocessCommand environment = .error .empty)
    (hcompile : p.compileCommand environment output = .ok argv) :
    ¬ p.SplitsAlike environment output := by
  rintro (⟨⟨f, hfault⟩, -⟩ | ⟨program, added, -, -, -, halike⟩)
  · rw [hcompile] at hfault
    cases hfault
  · rw [hpreprocess] at halike
    cases halike

/-- **A command starts the compiler and the preprocessor alike, unless it is only gaps.** Then the
preprocessor has a fault and the compiler none: it is started by an option. -/
theorem splitsAlike_iff (p : Project) (environment command : Option String) (output : String) :
    ((p.withCommand command).SplitsAlike environment output ↔
      ∃ c ∈ (commandOr environment command).toList, Words.isGap c = false) ∧
    ((p.withCommand command).StartsWithOption environment output ↔
      ∀ c ∈ (commandOr environment command).toList, Words.isGap c = true) := by
  rw [← words_eq_nil_iff]
  have hgaps : (∃ c ∈ (commandOr environment command).toList, Words.isGap c = false) ↔
      words (commandOr environment command) ≠ .ok [] := by
    rw [Ne, words_eq_nil_iff]
    simp
  rw [hgaps]
  cases hwords : words (commandOr environment command) with
  | error f =>
    obtain ⟨hcompile, hpreprocess⟩ := commands_of_fault hwords p output
    refine ⟨iff_of_true (.inl ⟨⟨f, hcompile⟩, _, hpreprocess⟩) nofun, iff_of_false ?_ nofun⟩
    rintro ⟨hempty, -⟩
    rw [hpreprocess] at hempty
    cases hempty
  | ok program =>
    obtain ⟨⟨added, hcompile⟩, hpreprocess⟩ := commands_of_words hwords p output
    by_cases hnil : program = []
    · subst hnil
      rw [if_pos rfl] at hpreprocess
      refine ⟨iff_of_false ?_ fun hne => hne rfl, iff_of_true ⟨hpreprocess, added, hcompile⟩ rfl⟩
      exact not_splitsAlike hpreprocess hcompile
    · rw [if_neg hnil] at hpreprocess
      refine ⟨iff_of_true (.inr ⟨program, added, hnil, words_eq_ok_iff.1 hwords, hcompile,
        hpreprocess⟩) fun h => hnil (Except.ok.inj h), iff_of_false ?_ fun h =>
          hnil (Except.ok.inj h)⟩
      rintro ⟨hempty, -⟩
      rw [hpreprocess] at hempty
      cases hempty

/-- A project with two blanks for a command, of which the compiler is the option after them. -/
theorem not_splitsAlike_blanks :
    ¬ ((⟨"Main", .ofText "NiFpga_Main.h", .ofText "NiFpga.c", none, none, none, none, none, none⟩ :
      Project).withCommand (some "  ")).SplitsAlike none "out.so" := by
  have hblanks : (commandOr none (some "  ")).toList = List.replicate 2 ' ' := by decide +kernel
  have hwords : words (commandOr none (some "  ")) = .ok [] := by
    rw [words_eq_nil_iff, hblanks]
    exact fun c hc => List.eq_of_mem_replicate hc ▸ rfl
  obtain ⟨⟨added, hcompile⟩, hpreprocess⟩ := commands_of_words hwords _ "out.so"
  exact not_splitsAlike hpreprocess hcompile

end Project

end FpgaInterface
