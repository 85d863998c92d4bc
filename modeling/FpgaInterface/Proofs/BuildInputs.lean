import FpgaInterface.Proofs.HeaderProject

/-!
# What a build leaves of its inputs

A module is named after the interface, which is named in the header, and the header may be named
like the module.

* `BuildRun` : a run that builds a project of a header, and how it leaves the files. The compiler
  writes the library and nothing else (`CompilerLeaves`);
* `KeepsInputs` : the header and the sources hold what they held;
* `OverwritesHeader` : the module is written where the header is, which held something else;
* `buildRun_inputs` : the inputs are kept unless the header is overwritten. Its name ends like that
  of a module then, and the sources are kept all the same.
-/

namespace FpgaInterface

/-- The inputs of a project hold what they held. -/
def KeepsInputs (p : Project) (t t' : FileTree) : Prop :=
  ∀ file ∈ p.inputs, t.KeepsFile file t'

/-- What the compiler leaves beside what a run does: a library, if it was called. -/
inductive CompilerLeaves (output : Path) (w w' : Workspace) : FileTree → Prop
  | nothing : CompilerLeaves output w w' w'.tree
  | library {names : List String} {c : Content} (called : w'.compilations ≠ w.compilations)
    (locate : w'.tree.locate (Project.libraryIn output) = .ok names)
    (notFolder : w'.tree.entryAt? names ≠ some .folder) :
    CompilerLeaves output w w' (w'.tree.put names (.file c))

/-- A run that builds a project of a header into a folder, whether it succeeds, and the files after
it. -/
inductive BuildRun (tools : Tools) (p : Project) (w : Workspace) : Path → Bool → FileTree → Prop
  | build {tree t' : FileTree} {header : String} {options : Arguments} {folder : Option Path}
    {withLibrary : Bool} {result : Except BuildError (List (String × Path))} {w' : Workspace}
    (project : Project.ofHeaderWith tree (Path.ofText header) options = .ok p)
    (run : p.build tools folder withLibrary w = (result, w'))
    (leaves : CompilerLeaves (p.outputIn folder w.tree) w w' t') :
    BuildRun tools p w (p.outputIn folder w.tree) result.toBool t'
  | bindings {tree t' : FileTree} {header : String} {options : Arguments} {folder : Option Path}
    {result : Except BuildError (List (String × Path))} {w' : Workspace}
    (project : Project.ofHeaderWith tree (Path.ofText header) options = .ok p)
    (run : p.buildBindings tools folder w = (result, w'))
    (leaves : CompilerLeaves (p.outputIn folder w.tree) w w' t') :
    BuildRun tools p w (p.outputIn folder w.tree) result.toBool t'
  | generate {t' : FileTree} {args : List String} {r : Request} {folder : Path}
    (read : Request.read args = .ok r) (task : r.task = .generate)
    (project : r.project w.tree = .ok p) (chosen : ChosenFolder w.tree r folder)
    (leaves : CompilerLeaves folder w (runLine tools args w).1 t') :
    BuildRun tools p w folder (exitStatus (runLine tools args w).2 == 0) t'

/-- A run that succeeds writes the module where the header is, which held something else. -/
structure OverwritesHeader (tools : Tools) (p : Project) (w : Workspace) (output : Path)
    (succeeds : Bool) (t' : FileTree) : Prop where
  succeeds : succeeds = true
  samePlace : t'.SamePlace (p.moduleIn output) p.header
  differs : ∃ d text w₁, p.describe tools w = (.ok d, w₁) ∧ moduleText d p.interface = .ok text ∧
    w.tree.find p.header ≠ .ok (.file (.text text))

/-- What a run leaves of its inputs. -/
structure InputsAfter (tools : Tools) (p : Project) (w : Workspace) (output : Path)
    (succeeds : Bool) (t' : FileTree) : Prop where
  /-- They are kept unless the header is overwritten. -/
  kept_iff : KeepsInputs p w.tree t' ↔ ¬ OverwritesHeader tools p w output succeeds t'
  /-- The sources are kept all the same. -/
  sources : ∀ source ∈ p.sourcesBeside, w.tree.KeepsFile source t'
  /-- A header that is not named like the module is kept too. -/
  otherName : p.header.name ≠ moduleFile p.interface → KeepsInputs p w.tree t'

namespace Project

variable {tools : Tools} {p : Project} {w w' w₁ : Workspace} {d : Description}
variable {folder : Option Path} {output : Path} {withLibrary : Bool} {t t' : FileTree}
variable {built : List (String × Path)} {result : Except BuildError (List (String × Path))}

/-! ## Steps of a run -/

/-- Writing the bindings is building without the library. -/
theorem buildBindings_eq (tools : Tools) (p : Project) (folder : Option Path) (w : Workspace) :
    p.buildBindings tools folder w = p.build tools folder false w := by
  obtain ⟨r, w₁, hrender⟩ := Action.exists_outcome (p.render tools) w
  unfold buildBindings build
  cases r with
  | error e => rw [Action.bind_of_error hrender, Action.bind_of_error hrender]
  | ok files =>
    rw [Action.bind_of_ok hrender, Action.bind_of_ok hrender]
    obtain ⟨r, w₂, hwrite⟩ := Action.exists_outcome (p.writeBindings files folder) w₁
    change _ = (p.writeBindings files folder >>= fun bindings => pure ([] ++ bindings)) w₁
    cases r with
    | error e => rw [Action.bind_of_error hwrite, hwrite]
    | ok bindings =>
      rw [Action.bind_of_ok hwrite, hwrite]
      rfl

/-- A header that is described is a file. -/
theorem found_of_describe (h : p.describe tools w = (.ok d, w₁)) :
    ∃ s, w.tree.find p.header = .ok (.file (.text s)) := by
  unfold describe describeHeader at h
  obtain ⟨program, w₂, hprogram, h⟩ := Action.bind_eq_ok_iff.1 h
  rw [Action.ofExcept_apply] at hprogram
  obtain ⟨-, rfl⟩ := Prod.mk.inj hprogram
  obtain ⟨text, w₃, htext, -⟩ := Action.bind_eq_ok_iff.1 h
  rw [Action.readText_apply] at htext
  have hread := mapError_eq_ok_iff.1 (Prod.mk.inj htext).1
  unfold FileTree.read at hread
  split at hread
  · cases hread
  · cases hread
  · next s hfind => exact ⟨s, hfind⟩
  · cases hread

/-- A build that succeeds makes folders, and then writes the module. -/
theorem written_of_build (h : p.build tools folder withLibrary w = (.ok built, w')) :
    ∃ d text w₁ made, p.describe tools w = (.ok d, w₁) ∧ moduleText d p.interface = .ok text ∧
      MadeFolders (p.outputIn folder w.tree) w.tree made ∧
      made.write (p.moduleIn (p.outputIn folder w.tree)) text = .ok w'.tree := by
  obtain ⟨-, d, text, w₁, w₂, hdescribe, htext, hfirst, hwrite, -, -⟩ := built_of_build h
  have hleaves := hfirst.leavesNoFile (untouched_of_describe hdescribe)
  have houtcome := bindingsOutcome_of_writeBindings hleaves hwrite
  generalize hout : ((Except.ok [(moduleFile p.interface, p.moduleIn (p.outputIn folder w.tree))],
    w') : Except BuildError (List (String × Path)) × Workspace) = out at houtcome
  cases houtcome with
  | notWritten => cases hout
  | written tree hwritten =>
    obtain ⟨-, rfl⟩ := Prod.mk.inj hout
    exact ⟨d, text, w₁, _, hdescribe, htext, hleaves.folders.trans (.makeFolders ..), hwritten⟩

/-- A build that fails changes nothing and calls no compiler, or has read the header. -/
theorem failed_of_build {e : BuildError}
    (h : p.build tools folder withLibrary w = (.error e, w')) :
    Untouched w w' ∨ (∃ s, w.tree.find p.header = .ok (.file (.text s))) ∧
      MadeFolders (p.outputIn folder w.tree) w.tree w'.tree := by
  obtain ⟨r, w₁, hdescribe⟩ := Action.exists_outcome (p.describe tools) w
  cases r with
  | error e' =>
    cases h.symm.trans (build_of_describe_error hdescribe)
    exact .inl (untouched_of_describe hdescribe)
  | ok d => exact .inr ⟨found_of_describe hdescribe, (leavesNoFile_of_build_error h).folders⟩

end Project

namespace CompilerLeaves

variable {output q q' : Path} {w w' : Workspace} {t' : FileTree} {name : String}

theorem eq_of_untouched (h : CompilerLeaves output w w' t') (huntouched : Untouched w w') :
    t' = w.tree := by
  cases h with
  | nothing => exact huntouched.tree
  | library hcalled => exact absurd huntouched.compilations hcalled

/-- The compiler writes no file of another name than that of the library. -/
theorem keepsFile (h : CompilerLeaves output w w' t') (hname : Path.IsFileName name)
    (hne : name ≠ Project.libraryFile) : w'.tree.KeepsFile (q.child name) t' := by
  cases h with
  | nothing => exact FileTree.KeepsFile.refl _ _
  | @library names c _ hlocate hfolder =>
    have hlibrary : Path.IsFileName Project.libraryFile :=
      ⟨by decide +kernel, by decide +kernel, by decide +kernel, by decide +kernel⟩
    refine FileTree.keepsFile_put hfolder fun names' hlocate' hkey => hne ?_
    rw [Project.libraryIn, Path.join_ofText hlibrary] at hlocate
    have hsame : w'.tree.SamePlace (q.child name) (output.child Project.libraryFile) :=
      ⟨names', names, hlocate', hlocate, hkey⟩
    exact hsame.name_eq hname hlibrary

theorem samePlace_iff (h : CompilerLeaves output w w' t') :
    t'.SamePlace q q' ↔ w'.tree.SamePlace q q' := by
  cases h with
  | nothing => exact .rfl
  | library _ _ hfolder => exact FileTree.samePlace_put_iff hfolder

end CompilerLeaves

section Runs

variable {tools : Tools} {p : Project} {w w' : Workspace} {folder : Option Path} {output : Path}
  {withLibrary succeeds : Bool} {t' : FileTree}
  {result : Except BuildError (List (String × Path))}

theorem inputsAfter_of_keeps (h : KeepsInputs p w.tree t')
    (hover : ¬ OverwritesHeader tools p w output succeeds t') :
    InputsAfter tools p w output succeeds t' :=
  ⟨iff_of_true h hover, fun source hsource => h source (List.mem_cons_of_mem _ hsource), fun _ => h⟩

/-- A build that fails keeps its inputs: at most it has made folders, and the folder of the header
was there before. -/
theorem keepsInputs_of_error {e : BuildError} (hp : p.OfHeader)
    (hslash : ∀ c, w.tree.find p.header = .ok (.file c) → '/' ∉ p.header.name.toList)
    (h : p.build tools folder withLibrary w = (.error e, w'))
    (hleaves : CompilerLeaves (p.outputIn folder w.tree) w w' t') : KeepsInputs p w.tree t' := by
  intro file hfile
  rcases Project.failed_of_build h with huntouched | ⟨⟨s, hfind⟩, hmade⟩
  · rw [hleaves.eq_of_untouched huntouched]
    exact FileTree.KeepsFile.refl _ _
  · obtain ⟨name, rfl, hname, hlibrary⟩ := hp.exists_child_of_mem_inputs (hslash _ hfind) hfile
    rw [← hp.child_parent] at hfind
    obtain ⟨here, hhere⟩ := FileTree.exists_hasFolder_of_find hfind
    exact (hmade.keepsFile hhere name).trans (hleaves.keepsFile hname hlibrary)

/-- A file of a folder that was there is kept unless the module is written in its place. -/
theorem keepsFile_of_written {made : FileTree} {q place : Path} {here : List String}
    {name text : String} (hhere : w.tree.HasFolder q here)
    (hmade : MadeFolders output w.tree made) (hwrite : made.write place text = .ok w'.tree)
    (hleaves : CompilerLeaves output w w' t') (hname : Path.IsFileName name)
    (hlibrary : name ≠ Project.libraryFile) (hother : ¬ w'.tree.SamePlace place (q.child name)) :
    w.tree.KeepsFile (q.child name) t' :=
  (hmade.keepsFile hhere name).trans
    ((FileTree.keepsFile_of_write hwrite hother).trans (hleaves.keepsFile hname hlibrary))

/-- What a build leaves of its inputs that succeeds. -/
theorem inputsAfter_of_ok {built : List (String × Path)} (hp : p.OfHeader)
    (hslash : ∀ c, w.tree.find p.header = .ok (.file c) → '/' ∉ p.header.name.toList)
    (h : p.build tools folder withLibrary w = (.ok built, w'))
    (hleaves : CompilerLeaves (p.outputIn folder w.tree) w w' t') :
    InputsAfter tools p w (p.outputIn folder w.tree) true t' := by
  obtain ⟨d, text, w₁, made, hdescribe, htext, hmade, hwrite⟩ := Project.written_of_build h
  obtain ⟨s, hfind⟩ := Project.found_of_describe hdescribe
  have hslash := hslash _ hfind
  have hheader := hp.isFileName_header hslash
  have hmodule := hp.isFileName_module hslash
  have hplace := Path.join_ofText hmodule (p.outputIn folder w.tree)
  rw [Project.moduleIn, hplace] at hwrite
  obtain ⟨here, hhere⟩ : ∃ here, w.tree.HasFolder p.header.parent here := by
    rw [← hp.child_parent] at hfind
    exact FileTree.exists_hasFolder_of_find hfind
  have hsources : ∀ source ∈ p.sourcesBeside, w.tree.KeepsFile source t' := by
    intro source hsource
    obtain ⟨name, rfl, hname, hlibrary, hne⟩ := hp.exists_child hslash hsource
    exact keepsFile_of_written hhere hmade hwrite hleaves hname hlibrary
      fun hsame => hne (hsame.name_eq hmodule hname).symm
  have hlibrary := hp.header_ne_libraryFile
  by_cases hsame : w'.tree.SamePlace
      ((p.outputIn folder w.tree).child (moduleFile p.interface)) p.header
  · have hnames := hsame
    rw [← hp.child_parent] at hnames
    have hfound : t'.find p.header = .ok (.file (.text text)) := by
      rw [← hp.child_parent]
      exact (hleaves.keepsFile hheader hlibrary _).2
        (FileTree.find_of_samePlace hwrite hheader.dots hnames)
    refine ⟨⟨fun hkeeps hover => ?_, fun hover => List.forall_mem_cons.2 ⟨?_, hsources⟩⟩, hsources,
      fun hne => absurd (hnames.name_eq hmodule hheader).symm hne⟩
    · obtain ⟨d', text', w₁', hdescribe', htext', hdiffers⟩ := hover.differs
      cases hdescribe.symm.trans hdescribe'
      cases htext.symm.trans htext'
      exact hdiffers ((hkeeps _ List.mem_cons_self _).1 hfound)
    · by_cases hdiffers : w.tree.find p.header = .ok (.file (.text text))
      · exact fun c => by rw [hfound, hdiffers]
      · refine absurd ⟨rfl, ?_, d, text, w₁, hdescribe, htext, hdiffers⟩ hover
        rw [Project.moduleIn, hplace]
        exact hleaves.samePlace_iff.2 hsame
  · refine inputsAfter_of_keeps (List.forall_mem_cons.2 ⟨?_, hsources⟩) fun hover => hsame ?_
    · rw [← hp.child_parent] at hsame ⊢
      exact keepsFile_of_written hhere hmade hwrite hleaves hheader hlibrary hsame
    · rw [← hplace]
      exact hleaves.samePlace_iff.1 hover.samePlace

theorem inputsAfter_of_build (hp : p.OfHeader)
    (hslash : ∀ c, w.tree.find p.header = .ok (.file c) → '/' ∉ p.header.name.toList)
    (h : p.build tools folder withLibrary w = (result, w'))
    (hleaves : CompilerLeaves (p.outputIn folder w.tree) w w' t') :
    InputsAfter tools p w (p.outputIn folder w.tree) result.toBool t' := by
  cases result with
  | error e =>
    exact inputsAfter_of_keeps (keepsInputs_of_error hp hslash h hleaves)
      fun hover => nomatch hover.succeeds
  | ok built => exact inputsAfter_of_ok hp hslash h hleaves

/-- **A run keeps its inputs, unless it writes the module over the header.** That is a header with
the name of the module. The sources are kept in every run. -/
theorem buildRun_inputs (h : BuildRun tools p w output succeeds t') :
    InputsAfter tools p w output succeeds t' := by
  cases h with
  | @build _ _ header _ _ _ _ _ hproject hrun hleaves =>
    obtain ⟨hp, hheader⟩ := Project.ofHeader_of_ofHeaderWith hproject
    refine inputsAfter_of_build hp (fun _ _ => ?_) hrun hleaves
    rw [hheader]
    exact Path.slash_name_ofText header
  | @bindings _ _ header _ _ _ _ hproject hrun hleaves =>
    obtain ⟨hp, hheader⟩ := Project.ofHeader_of_ofHeaderWith hproject
    rw [Project.buildBindings_eq] at hrun
    refine inputsAfter_of_build hp (fun _ _ => ?_) hrun hleaves
    rw [hheader]
    exact Path.slash_name_ofText header
  | generate hread htask hproject hchosen hleaves =>
    obtain ⟨hp, hslash⟩ := Request.ofHeader_of_project hproject
    have hr := Request.complete_of_read hread
    obtain ⟨result, hgenerates, hreports⟩ := Request.exists_generates hr htask tools w
    rw [runLine_of_read hread] at hleaves ⊢
    generalize Request.run tools _ w = out at hgenerates hreports hleaves ⊢
    obtain ⟨w', response⟩ := out
    cases hgenerates with
    | noProject hfails => cases hproject.symm.trans hfails
    | @ofBuild _ _ result _ hproject' hchosen' hbuild =>
      cases hproject.symm.trans hproject'
      rw [Request.chosenFolder_iff hr hproject] at hchosen hchosen'
      subst hchosen hchosen'
      have hstatus : (exitStatus response == 0) = result.toBool := by
        rcases hreports.status_cases with ⟨hstatus, files, hresult⟩ | ⟨hstatus, e, hresult⟩
        · rw [hstatus, mapError_eq_ok_iff.1 hresult]
          rfl
        · rw [hstatus]
          cases result with
          | ok files => cases hresult
          | error e => rfl
      rw [hstatus]
      exact inputsAfter_of_build hp hslash hbuild hleaves

end Runs

theorem eq_ok_of_toOption {ε α : Type} {x : Except ε α} {a : α} (h : x.toOption = some a) :
    x = .ok a := by
  cases x with
  | error e => cases h
  | ok b => rw [Option.some.inj h]

/-- A header with the name of the module alone, without its sources. -/
def moduleNamedFiles : Workspace where
  tree :=
    { entries := SortedMap.empty.insert "/NiFpga_M.py" (.file (.text ""))
      folder := [] }

def moduleNamedProject : Project where
  interface := "M"
  header := Path.ofText "NiFpga_M.py"
  commonSource := Path.ofText "NiFpga.c"

theorem ne_empty_of_moduleText {d : Description} {interface text : String}
    (h : moduleText d interface = .ok text) : text ≠ "" := by
  obtain ⟨rs, -, h⟩ := bind_eq_ok_iff.1 h
  obtain ⟨fs, -, h⟩ := bind_eq_ok_iff.1 h
  obtain rfl := Except.ok.inj h
  intro hempty
  have hend := congrArg String.toList hempty
  rw [endedOnce, String.toList_ofList] at hend
  exact List.append_ne_nil_of_right_ne_nil _ (List.cons_ne_nil _ _) hend

/-- The run that builds the module beside this header, without the library, overwrites it. -/
theorem exists_moduleNamedRun : ∃ t',
    BuildRun (signatureTools 0) moduleNamedProject moduleNamedFiles ⟨"/", []⟩ true t' ∧
      ¬ KeepsInputs moduleNamedProject moduleNamedFiles.tree t' := by
  have hproject : Project.ofHeaderWith moduleNamedFiles.tree (Path.ofText "NiFpga_M.py") [] =
      .ok moduleNamedProject := eq_ok_of_toOption (by decide +kernel)
  have hp := (Project.ofHeader_of_ofHeaderWith hproject).1
  have hempty : moduleNamedFiles.tree.find moduleNamedProject.header = .ok (.file (.text "")) :=
    eq_ok_of_toOption (by decide +kernel)
  have hafter : let run := moduleNamedProject.build (signatureTools 0) none false moduleNamedFiles
      run.1.toBool = true ∧
        (run.2.tree.locate (moduleNamedProject.moduleIn ⟨"/", []⟩)).toOption =
          some ["NiFpga_M.py"] ∧
        (run.2.tree.locate moduleNamedProject.header).toOption = some ["NiFpga_M.py"] := by
    decide +kernel
  obtain ⟨result, w', hrun⟩ := Action.exists_outcome
    (moduleNamedProject.build (signatureTools 0) none false) moduleNamedFiles
  rw [hrun] at hafter
  obtain ⟨hsucceeds, hlocate, hlocate'⟩ := hafter
  obtain ⟨built, rfl⟩ := exists_of_toBool hsucceeds
  refine ⟨w'.tree, .build hproject hrun .nothing, fun hkeeps => ?_⟩
  have hinputs := inputsAfter_of_ok hp (fun _ _ => by decide +kernel) hrun .nothing
  obtain ⟨d, text, w₁, -, hdescribe, htext, -, -⟩ := Project.written_of_build hrun
  have hsame : w'.tree.SamePlace (moduleNamedProject.moduleIn ⟨"/", []⟩)
      moduleNamedProject.header :=
    ⟨_, _, eq_ok_of_toOption hlocate, eq_ok_of_toOption hlocate', rfl⟩
  refine hinputs.kept_iff.1 hkeeps ⟨rfl, hsame, d, text, w₁, hdescribe, htext,
    fun hfind => ne_empty_of_moduleText htext ?_⟩
  cases hempty.symm.trans hfind
  rfl

/-- A build with its library from a header that is named like one keeps its inputs. One from a
header with the name of the module overwrites that. -/
theorem buildRun_inputs_twoHeaders :
    (∃ t', BuildRun (signatureTools 0) signatureProject signatureFiles ⟨"/", []⟩ true t' ∧
      KeepsInputs signatureProject signatureFiles.tree t' ∧
      t'.find (Project.libraryIn ⟨"/", []⟩) = .ok (.file (.text "ELF"))) ∧
    ∃ t', BuildRun (signatureTools 0) moduleNamedProject moduleNamedFiles ⟨"/", []⟩ true t' ∧
      OverwritesHeader (signatureTools 0) moduleNamedProject moduleNamedFiles ⟨"/", []⟩ true
        t' := by
  constructor
  · have hproject : Project.ofHeaderWith signatureFiles.tree (Path.ofText "h/NiFpga_M.h") [] =
        .ok signatureProject := eq_ok_of_toOption (by decide +kernel)
    obtain ⟨result, w', hrun⟩ := Action.exists_outcome
      (signatureProject.build (signatureTools 0) none true) signatureFiles
    have hafter : let run := signatureProject.build (signatureTools 0) none true signatureFiles
        run.1.toBool = true ∧ run.2.compilations ≠ signatureFiles.compilations ∧
          (run.2.tree.locate (Project.libraryIn ⟨"/", []⟩)).toOption = some ["libni_fpga.so"] ∧
          run.2.tree.entryAt? ["libni_fpga.so"] ≠ some .folder := by
      decide +kernel
    rw [hrun] at hafter
    obtain ⟨hsucceeds, hcalled, hlocate, hfolder⟩ := hafter
    have hlocate := eq_ok_of_toOption hlocate
    have hleaves := CompilerLeaves.library (c := .text "ELF") hcalled hlocate hfolder
    have hfiles := BuildRun.build hproject hrun hleaves
    dsimp only at hsucceeds
    rw [hsucceeds] at hfiles
    exact ⟨_, hfiles, (buildRun_inputs hfiles).otherName (by decide +kernel),
      FileTree.find_put hlocate hfolder⟩
  · obtain ⟨t', hfiles, hchanged⟩ := exists_moduleNamedRun
    exact ⟨t', hfiles, not_not.1 (mt (buildRun_inputs hfiles).kept_iff.2 hchanged)⟩

theorem not_keepsInputs_moduleName : ¬ ∀ (tools : Tools) (p : Project) (w : Workspace)
    (output : Path) (succeeds : Bool) (t' : FileTree), BuildRun tools p w output succeeds t' →
      KeepsInputs p w.tree t' := by
  intro h
  obtain ⟨t', hfiles, hchanged⟩ := exists_moduleNamedRun
  exact hchanged (h _ _ _ _ _ _ hfiles)

end FpgaInterface
