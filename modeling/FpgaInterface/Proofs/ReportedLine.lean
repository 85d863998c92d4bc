import FpgaInterface.Proofs.BuildOutcome
import FpgaInterface.Proofs.FaultPlace
import FpgaInterface.Proofs.HeaderLines

/-!
# The line that a fault of a header is reported at

A header is read as a copy with the preamble before it and without the lines that include other
headers. The text of a fault is taken apart again into file and line.

* `SyntaxFault.line_of_located` : a fault at a position of the header is reported at the line of that
  position;
* `describeHeader_unreadable` : a header that cannot be read is one whose copy cannot be parsed;
* `PointsAtHeader` : a fault is reported at the line of the header at which the parser stopped;
* `pointsAtHeader_iff` : it is so where as many lines are left out above as the preamble has.
-/

namespace FpgaInterface

open Text

/-! ## Reading back a place -/

/-- Two texts with as many separators before one of them end there alike. -/
theorem eq_of_count_eq {c : Char} {as bs as' bs' : List Char} (h : as ++ c :: bs = as' ++ c :: bs')
    (hcount : as.count c = as'.count c) : as = as' ∧ bs = bs' := by
  rcases List.append_eq_append_iff.1 h with ⟨more, rfl, hrest⟩ | ⟨more, rfl, hrest⟩
  · cases more with
    | nil =>
      rw [List.nil_append, List.cons.injEq] at hrest
      exact ⟨(List.append_nil _).symm, hrest.2⟩
    | cons d more =>
      obtain rfl : c = d := (List.cons.inj hrest).1
      rw [List.count_append, List.count_cons_self] at hcount
      omega
  · cases more with
    | nil =>
      rw [List.nil_append, List.cons.injEq] at hrest
      exact ⟨List.append_nil _, hrest.2.symm⟩
    | cons d more =>
      obtain rfl : c = d := (List.cons.inj hrest).1
      rw [List.count_append, List.count_cons_self] at hcount
      omega

namespace Header

theorem line_of_afterFile? {n line : Nat} {rest message : List Char}
    (h : afterFile? ((decimal n).toList ++ ':' :: rest) = some (line, message)) : line = n := by
  unfold afterFile? at h
  rw [digitsAndColon_decimal] at h
  simp only [bind, Option.bind_some, Option.bind_eq_some_iff] at h
  obtain ⟨message', -, h⟩ := h
  obtain ⟨rfl, -⟩ := Prod.mk.inj (Option.some.inj h)
  exact anyDigitsValue_decimal n

variable {f : SyntaxFault} {p : Position} {header : Path} {name : String} {L : Int}

/-- A fault at a position of the header that is reported at a line of the header is reported at the
line of the position. -/
theorem SyntaxFault.line_of_located (hplace : f.place = .position p) (hfile : p.file = header.text)
    (hnames : (f.located name).file = some header) (hline : (f.located name).line = some L) :
    L = p.line := by
  unfold SyntaxFault.located at hnames hline
  split at hnames
  · next file line message hsplit =>
    rw [hsplit] at hline
    obtain rfl : (line : Int) = L := Option.some.inj hline
    have hpath : Path.ofText file = header := Option.some.inj hnames
    obtain ⟨⟨q, line', message'⟩, hfrom, hparts⟩ := Option.map_eq_some_iff.1 hsplit
    obtain ⟨hq, rfl, -⟩ : String.ofList q = file ∧ line' = line ∧ String.ofList message' = message := by
      simpa using hparts
    obtain ⟨before, after, htext, hbefore, hafter⟩ := splitFrom_eq_some hfrom
    rw [List.reverse_nil, List.nil_append] at hbefore
    subst hbefore
    -- the file that is read back has the colons of the header, so it ends where the header does
    have hcount : q.count ':' = p.file.toList.count ':' := by
      rw [hfile, ← hpath, Path.count_text_ofText _ (by decide) (by decide), ← hq,
        String.toList_ofList]
    rw [SyntaxFault.text_of_position hplace, toList_placedText] at htext
    obtain ⟨-, hrest⟩ := eq_of_count_eq htext.symm hcount
    rw [hrest] at hafter
    rw [line_of_afterFile? hafter]
  · next hsplit =>
    rw [hsplit] at hline
    cases hline

end Header

/-! ## Headers that cannot be read -/

section Describe
variable {tools : Tools} {command : Option String} {arguments : Option (List String)}
  {interface name name' text : String} {header : Path} {w : Workspace} {f : Header.SyntaxFault}
  {p : Position} {L : Int}

theorem describe_ne_unreadable (tree : Node) :
    describe interface tree ≠ .error (.unreadable name f) := by
  intro h
  rcases bind_eq_error_iff.1 h with h | ⟨registers, -, h⟩
  · cases hregisters : (addressProgress interface tree.typedefs).result with
    | ok registers =>
      rw [hregisters] at h
      cases h
    | error e =>
      rw [hregisters] at h
      cases h
  · split at h <;> cases h

theorem describeText_unreadable
    (h : describeText name interface text = .error (.unreadable name' f)) :
    name' = name ∧ Header.parse name text = .error f := by
  rcases bind_eq_error_iff.1 h with h | ⟨tree, -, h⟩
  · unfold readTree at h
    cases hparse : Header.parse name text with
    | ok tree =>
      rw [hparse] at h
      cases h
    | error fault =>
      rw [hparse] at h
      cases h
      exact ⟨rfl, rfl⟩
  · exact absurd h (describe_ne_unreadable tree)

/-- With a preprocessor that changes nothing, the copy of the header is read. -/
theorem describeHeader_copy {program : List String}
    (hcopy : ∀ program text, tools.preprocess program text = .ok text)
    (hprogram : preprocessCommand tools.environment command arguments = .ok program)
    (hread : w.tree.read header = .ok text) :
    (describeHeader tools command arguments interface header w).1 =
      (describeText header.text interface (Header.parseReady text)).mapError .header := by
  have hreads : Action.readText header w = (.ok text, w) := by
    rw [Action.readText_apply, hread]
    rfl
  have hpreprocess : preprocessText tools program header (Header.parseReady text) w =
      (.ok (Header.parseReady text),
        { w with calls := w.calls ++ [.preprocess (program ++ [header.name])] }) := by
    unfold preprocessText
    rw [Action.note_bind, hcopy, Action.ofExcept_apply]
    rfl
  unfold describeHeader
  rw [hprogram, Action.ofExcept_ok_bind, Action.bind_of_ok hreads, Action.bind_of_ok hpreprocess,
    Action.ofExcept_apply]

theorem describeHeader_unreadable
    (hcopy : ∀ program text, tools.preprocess program text = .ok text)
    (hread : w.tree.read header = .ok text)
    (h : (describeHeader tools command arguments interface header w).1 =
      .error (.header (.unreadable name f))) :
    name = header.text ∧ Header.parse header.text (Header.parseReady text) = .error f := by
  cases hprogram : preprocessCommand tools.environment command arguments with
  | error fault =>
    have hstops : (Action.ofExcept .preprocessCommand
        (preprocessCommand tools.environment command arguments)) w =
        (.error (.preprocessCommand fault), w) := by
      rw [Action.ofExcept_apply, hprogram]
      rfl
    unfold describeHeader at h
    rw [Action.bind_of_error hstops] at h
    cases h
  | ok program =>
    rw [describeHeader_copy hcopy hprogram hread] at h
    cases hdescribe : describeText header.text interface (Header.parseReady text) with
    | ok d =>
      rw [hdescribe] at h
      cases h
    | error e =>
      rw [hdescribe] at h
      cases h
      exact describeText_unreadable hdescribe

/-- A fault that is reported at a line of the header is reported at the line of the header at which
the parser stopped in the copy. -/
def PointsAtHeader (tools : Tools) (command : Option String) (arguments : Option (List String))
    (interface : String) (header : Path) (w : Workspace) : Prop :=
  ∀ text name f L, w.tree.read header = .ok text →
    (describeHeader tools command arguments interface header w).1 =
      .error (.header (.unreadable name f)) →
    (f.located name).file = some header → (f.located name).line = some L →
      ∃ p m, f.place = .position p ∧ Header.ShownAt text m p.line ∧ L = m

/-- The line that is reported is that of the copy. It is the line of the header only where as many
lines are left out above as the preamble has. -/
theorem pointsAtHeader_iff (hcopy : ∀ program text, tools.preprocess program text = .ok text)
    (hread : w.tree.read header = .ok text)
    (hfault : (describeHeader tools command arguments interface header w).1 =
      .error (.header (.unreadable name f)))
    (hplace : f.place = .position p) (hfile : p.file = header.text)
    (hnames : (f.located name).file = some header) (hline : (f.located name).line = some L) :
    Header.parse header.text (Header.parseReady text) = .error f ∧ L = p.line ∧
      (∀ m, Header.ShownAt text m p.line →
        L + Header.includesAbove text m = m + Header.preambleLines) ∧
      (PointsAtHeader tools command arguments interface header w ↔
        ∃ m, Header.ShownAt text m p.line ∧
          Header.includesAbove text m = Header.preambleLines) := by
  have hparse := (describeHeader_unreadable hcopy hread hfault).2
  have hL : L = p.line := Header.SyntaxFault.line_of_located hplace hfile hnames hline
  refine ⟨hparse, hL, fun m hm => ?_, ?_, ?_⟩
  · have := hm.add_includesAbove
    omega
  · intro h
    obtain ⟨p', m, hplace', hshown, hm⟩ := h text name f L hread hfault hnames hline
    obtain rfl : p = p' := by simpa [hplace] using hplace'
    have := hshown.add_includesAbove
    exact ⟨m, hshown, by omega⟩
  · rintro ⟨m, hshown, hincludes⟩ text' name' f' L' hread' hfault' hnames' hline'
    cases hread.symm.trans hread'
    cases hfault.symm.trans hfault'
    cases hline.symm.trans hline'
    have := hshown.add_includesAbove
    exact ⟨p, m, hplace, hshown, by omega⟩

end Describe

/-- A preprocessor that changes nothing. -/
def copyingTools : Tools where
  preprocess _ text := .ok text
  compile _ := .ok ()

/-- A header of two lines. The second one declares a name that the preamble has for a type. -/
def takenNameText : String := "#include \"NiFpga.h\"\nint uint8_t;\n"

def takenNameFiles : Workspace where
  tree :=
    { entries := SortedMap.empty.insert "/NiFpga_Main.h" (.file (.text takenNameText))
      folder := [] }

def takenNameFault : Header.SyntaxFault :=
  ⟨.nameTaken "uint8_t", .position ⟨"NiFpga_Main.h", 17, 5⟩⟩

theorem parse_takenName :
    Header.parse "NiFpga_Main.h" (Header.parseReady takenNameText) = .error takenNameFault := by
  have hfault : Header.parseFault? (Header.parse "NiFpga_Main.h" (Header.parseReady takenNameText)) =
      some takenNameFault := by
    -- the characters of the preamble are quicker to find line by line
    have hchars : Header.preamble.toList = Header.preamble.toList := rfl
    conv_rhs at hchars => unfold Header.preamble
    simp only [String.toList_append] at hchars
    rw [Header.parse, Header.tokens, Header.parseReady, String.toList_append, hchars]
    decide +kernel
  exact Header.eq_error_of_parseFault? hfault

theorem read_takenName :
    takenNameFiles.tree.read (Path.ofText "NiFpga_Main.h") = .ok takenNameText := by
  decide +kernel

theorem describe_takenName :
    (describeHeader copyingTools none none "Main" (Path.ofText "NiFpga_Main.h")
      takenNameFiles).1 = .error (.header (.unreadable "NiFpga_Main.h" takenNameFault)) := by
  have htext : (Path.ofText "NiFpga_Main.h").text = "NiFpga_Main.h" := by decide +kernel
  have hprogram : preprocessCommand none none none = .ok ["cc", "-E"] := by decide +kernel
  rw [describeHeader_copy (fun _ _ => rfl) hprogram read_takenName, htext, describeText, readTree,
    parse_takenName]
  rfl

theorem pointsAtHeader_iff_takenName :
    (takenNameFault.located "NiFpga_Main.h").line = some 17 ∧
      (PointsAtHeader copyingTools none none "Main" (Path.ofText "NiFpga_Main.h") takenNameFiles ↔
        ∃ m, Header.ShownAt takenNameText m 17 ∧
          Header.includesAbove takenNameText m = Header.preambleLines) :=
  ⟨by decide +kernel, (pointsAtHeader_iff (L := 17) (fun _ _ => rfl) read_takenName
    describe_takenName rfl (by decide +kernel) (by decide +kernel) (by decide +kernel)).2.2.2⟩

theorem not_pointsAtHeader_takenName :
    ¬ PointsAtHeader copyingTools none none "Main" (Path.ofText "NiFpga_Main.h")
      takenNameFiles := by
  intro h
  obtain ⟨p, m, -, hshown, hm⟩ := h takenNameText "NiFpga_Main.h" takenNameFault 17 read_takenName
    describe_takenName (by decide +kernel) (by decide +kernel)
  have hlines : (Text.lines takenNameText.toList).length = 2 := by decide +kernel
  have := hshown.le_length
  omega

end FpgaInterface
