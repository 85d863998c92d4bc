import FpgaInterface.Build.Steps
import FpgaInterface.Proofs.FileChange
import FpgaInterface.Proofs.Traversal

/-!
# What a build leaves

A build reads the header and renders the module, then compiles the library, and writes the module
last.

* `Action.bind_eq_ok_iff`, `Action.bind_eq_error_iff` : a sequence of steps, taken apart;
* `Untouched` : the same files and no call of the compiler. Reading the header leaves the workspace
  so (`Project.untouched_of_describe`);
* `Project.LibraryOutcome`, `Project.BindingsOutcome` : where building the library and writing the
  module can fail, and what they leave;
* `Project.build_cases` : a build stops before it writes the module, or the module is left to write;
* `Project.Built` : what a build leaves that succeeds;
* `build_outcome` : a build that fails changes no file.
-/

namespace FpgaInterface

/-! ## Steps -/

namespace Action

variable {α β ε : Type} {a : Action α} {f : α → Action β} {w w' : Workspace} {e : BuildError}

theorem bind_apply (a : Action α) (f : α → Action β) (w : Workspace) :
    (a >>= f) w = match a w with
      | (.ok x, w₁) => f x w₁
      | (.error e, w₁) => (.error e, w₁) := by
  show ExceptT.bindCont f (a w).1 (a w).2 = _
  obtain ⟨r | r, w⟩ := a w <;> rfl

theorem exists_outcome (a : Action α) (w : Workspace) : ∃ r w', a w = (r, w') := ⟨_, _, rfl⟩

theorem bind_of_ok {x : α} (h : a w = (.ok x, w')) : (a >>= f) w = f x w' := by
  rw [bind_apply, h]

theorem bind_of_error (h : a w = (.error e, w')) : (a >>= f) w = (.error e, w') := by
  rw [bind_apply, h]

theorem bind_eq_ok_iff {y : β} :
    (a >>= f) w = (.ok y, w') ↔ ∃ x w₁, a w = (.ok x, w₁) ∧ f x w₁ = (.ok y, w') := by
  constructor
  · intro h
    obtain ⟨r, w₁, ha⟩ := exists_outcome a w
    cases r with
    | error e =>
      rw [bind_of_error ha] at h
      cases h
    | ok x =>
      rw [bind_of_ok ha] at h
      exact ⟨x, w₁, ha, h⟩
  · rintro ⟨x, w₁, ha, hf⟩
    rw [bind_of_ok ha, hf]

theorem bind_eq_error_iff :
    (a >>= f) w = (.error e, w') ↔
      a w = (.error e, w') ∨ ∃ x w₁, a w = (.ok x, w₁) ∧ f x w₁ = (.error e, w') := by
  constructor
  · intro h
    obtain ⟨r, w₁, ha⟩ := exists_outcome a w
    cases r with
    | error e =>
      rw [bind_of_error ha] at h
      cases h
      exact .inl ha
    | ok x =>
      rw [bind_of_ok ha] at h
      exact .inr ⟨x, w₁, ha, h⟩
  · rintro (ha | ⟨x, w₁, ha, hf⟩)
    · exact bind_of_error ha
    · rw [bind_of_ok ha, hf]

@[simp] theorem ofExcept_ok_bind (wrap : ε → BuildError) (x : α) :
    (ofExcept wrap (.ok x) >>= f) w = f x w := rfl

@[simp] theorem note_bind (call : ToolCall) (f : Unit → Action β) :
    (note call >>= f) w = f () { w with calls := w.calls ++ [call] } := rfl

theorem ofExcept_apply (wrap : ε → BuildError) (r : Except ε α) (w : Workspace) :
    ofExcept wrap r w = (r.mapError wrap, w) := by cases r <;> rfl

theorem readText_apply (p : Path) (w : Workspace) :
    readText p w = ((w.tree.read p).mapError .file, w) := ofExcept_apply ..

theorem makeFolders_apply (p : Path) (w : Workspace) :
    makeFolders p w =
      ((w.tree.makeFolders p).2.mapError .file, { w with tree := (w.tree.makeFolders p).1 }) :=
  ofExcept_apply ..

theorem writeText_of_ok {p : Path} {text : String} {tree : FileTree}
    (h : w.tree.write p text = .ok tree) : writeText p text w = (.ok (), { w with tree }) := by
  have hwrite : (ofExcept .file (w.tree.write p text) : Action FileTree) w = (.ok tree, w) := by
    rw [ofExcept_apply, h]
    rfl
  exact bind_of_ok (a := ofExcept .file (w.tree.write p text)) hwrite

theorem writeText_of_error {p : Path} {text : String} {f : FileFault}
    (h : w.tree.write p text = .error f) : writeText p text w = (.error (.file f), w) := by
  have hwrite :
      (ofExcept .file (w.tree.write p text) : Action FileTree) w = (.error (.file f), w) := by
    rw [ofExcept_apply, h]
    rfl
  exact bind_of_error (a := ofExcept .file (w.tree.write p text)) hwrite

end Action

/-! ## Reading and rendering -/

def ToolCall.compiled? : ToolCall → Option (List String)
  | preprocess _ => none
  | compile words => some words

def Workspace.compilations (w : Workspace) : List (List String) :=
  w.calls.filterMap ToolCall.compiled?

/-- The files are the same, and the compiler was not called. -/
structure Untouched (w w' : Workspace) : Prop where
  tree : w'.tree = w.tree
  compilations : w'.compilations = w.compilations

theorem Untouched.trans {w w' w'' : Workspace} (h : Untouched w w') (h' : Untouched w' w'') :
    Untouched w w'' := ⟨h'.tree.trans h.tree, h'.compilations.trans h.compilations⟩

/-- A step that changes no file and does not call the compiler. -/
def Action.OnlyReads {α : Type} (a : Action α) : Prop := ∀ w, Untouched w (a w).2

namespace Action

variable {α β ε : Type} {a : Action α} {f : α → Action β}

theorem OnlyReads.bind (ha : a.OnlyReads) (hf : ∀ x, (f x).OnlyReads) : (a >>= f).OnlyReads := by
  intro w
  have hfirst := ha w
  obtain ⟨r, w₁, ha⟩ := exists_outcome a w
  rw [ha] at hfirst
  cases r with
  | error e =>
    rw [bind_of_error ha]
    exact hfirst
  | ok x =>
    rw [bind_of_ok ha]
    exact hfirst.trans (hf x w₁)

theorem onlyReads_ofExcept (wrap : ε → BuildError) (r : Except ε α) :
    (ofExcept wrap r).OnlyReads := by
  intro w
  rw [ofExcept_apply]
  exact ⟨rfl, rfl⟩

theorem onlyReads_readText (p : Path) : (readText p).OnlyReads := by
  intro w
  rw [readText_apply]
  exact ⟨rfl, rfl⟩

theorem onlyReads_note_preprocess (words : List String) :
    (note (.preprocess words)).OnlyReads := by
  intro w
  refine ⟨rfl, ?_⟩
  show (w.calls ++ [ToolCall.preprocess words]).filterMap ToolCall.compiled? = _
  rw [List.filterMap_append]
  exact List.append_nil _

end Action

namespace Project

variable {tools : Tools} {p : Project} {w w' w₁ : Workspace} {d : Description}

theorem onlyReads_describe (tools : Tools) (p : Project) : (p.describe tools).OnlyReads := by
  refine .bind (Action.onlyReads_ofExcept _ _) fun program => ?_
  refine .bind (Action.onlyReads_readText _) fun text => ?_
  refine .bind ?_ fun text => Action.onlyReads_ofExcept _ _
  exact .bind (Action.onlyReads_note_preprocess _) fun _ => Action.onlyReads_ofExcept _ _

theorem untouched_of_describe {r : Except BuildError Description}
    (h : p.describe tools w = (r, w')) : Untouched w w' := by
  have huntouched := onlyReads_describe tools p w
  rw [h] at huntouched
  exact huntouched

theorem render_of_describe (h : p.describe tools w = (.ok d, w')) :
    p.render tools w = ((moduleFiles d p.interface).mapError .binding, w') := by
  unfold render
  rw [Action.bind_of_ok h, Action.ofExcept_apply]

/-! ## Compiling -/

/-- The folder for what is built. -/
def outputIn (p : Project) (folder : Option Path) (t : FileTree) : Path :=
  (folder.or p.outputFolder).getD ⟨"/", t.folder⟩

def libraryIn (output : Path) : Path := output.join (Path.ofText libraryFile)

def moduleIn (p : Project) (output : Path) : Path :=
  output.join (Path.ofText (moduleFile p.interface))

variable {folder : Option Path} {output : Path} {e : BuildError}

theorem resolveFolder_apply (p : Project) (folder : Option Path) (w : Workspace) :
    p.resolveFolder folder w = (.ok (p.outputIn folder w.tree), w) := rfl

/-- What the library leaves: the folders are made, and the compiler is called once at most. -/
inductive LibraryOutcome (tools : Tools) (p : Project) (output : Path) (w : Workspace) :
    Except BuildError Path × Workspace → Prop
  /-- The folders cannot be made, or there is no command. -/
  | notCompiled (e : BuildError) :
    LibraryOutcome tools p output w
      (.error e, { w with tree := (w.tree.makeFolders output).1 })
  | compiled (program : List String)
    (command : p.compileCommand tools.environment (libraryIn output).text = .ok program) :
    LibraryOutcome tools p output w
      (((tools.compile program).mapError (.compiler program)).map fun _ => libraryIn output,
        { tree := (w.tree.makeFolders output).1, calls := w.calls ++ [.compile program] })

theorem buildLibrary_outcome (tools : Tools) (p : Project) (folder : Option Path) (w : Workspace) :
    LibraryOutcome tools p (p.outputIn folder w.tree) w (p.buildLibrary tools folder w) := by
  unfold buildLibrary
  rw [Action.bind_of_ok (resolveFolder_apply p folder w)]
  generalize p.outputIn folder w.tree = output
  have hfolders := Action.makeFolders_apply output w
  cases hmade : (w.tree.makeFolders output).2 with
  | error f =>
    rw [hmade] at hfolders
    rw [Action.bind_of_error hfolders]
    exact .notCompiled _
  | ok _ =>
    rw [hmade] at hfolders
    rw [Action.bind_of_ok hfolders]
    change LibraryOutcome tools p output w
      ((Action.ofExcept .command (p.compileCommand tools.environment (libraryIn output).text) >>= _)
        _)
    cases hcommand : p.compileCommand tools.environment (libraryIn output).text with
    | error f => exact .notCompiled (.command f)
    | ok program =>
      have hcompiled : LibraryOutcome tools p output w _ := .compiled program hcommand
      rw [Action.ofExcept_ok_bind, Action.note_bind]
      cases hcompile : tools.compile program with
      | error f =>
        rw [hcompile] at hcompiled
        exact hcompiled
      | ok _ =>
        rw [hcompile] at hcompiled
        exact hcompiled

/-! ## Writing the module -/

/-- What the module leaves: the folders are made, and it is written or no file changes. -/
inductive BindingsOutcome (output : Path) (name text : String) (w : Workspace) :
    Except BuildError (List (String × Path)) × Workspace → Prop
  | notWritten (e : BuildError) :
    BindingsOutcome output name text w
      (.error e, { w with tree := (w.tree.makeFolders output).1 })
  | written (tree : FileTree)
    (written : (w.tree.makeFolders output).1.write (output.join (Path.ofText name)) text =
      .ok tree) :
    BindingsOutcome output name text w
      (.ok [(name, output.join (Path.ofText name))], { w with tree })

theorem writeBindings_outcome (p : Project) (name text : String) (folder : Option Path)
    (w : Workspace) :
    BindingsOutcome (p.outputIn folder w.tree) name text w
      (p.writeBindings [(name, text)] folder w) := by
  unfold writeBindings
  rw [Action.bind_of_ok (resolveFolder_apply p folder w)]
  generalize p.outputIn folder w.tree = output
  have hfolders := Action.makeFolders_apply output w
  unfold Action.writeFiles
  cases hmade : (w.tree.makeFolders output).2 with
  | error f =>
    rw [hmade] at hfolders
    rw [Action.bind_of_error hfolders]
    exact .notWritten _
  | ok _ =>
    rw [hmade] at hfolders
    rw [Action.bind_of_ok hfolders, List.mapM_cons, List.mapM_nil]
    cases hwrite : (w.tree.makeFolders output).1.write (output.join (Path.ofText name)) text with
    | error f =>
      have hfails := Action.writeText_of_error
        (w := { w with tree := (w.tree.makeFolders output).1 }) hwrite
      rw [Action.bind_of_error (Action.bind_of_error hfails)]
      exact .notWritten _
    | ok tree =>
      have hwritten := Action.writeText_of_ok
        (w := { w with tree := (w.tree.makeFolders output).1 }) hwrite
      have hfile := Action.bind_of_ok (a := Action.writeText (output.join (Path.ofText name)) text)
        (f := fun _ => pure (name, output.join (Path.ofText name))) hwritten
      rw [Action.bind_of_ok hfile]
      exact .written tree hwrite

/-! ## Building -/

/-- No file is new or changed, and the compiler is called once at most. -/
structure LeavesNoFile (output : Path) (w w' : Workspace) : Prop where
  folders : MadeFolders output w.tree w'.tree
  files : ∀ k c, w'.tree.entries.get? k = some (.file c) ↔ w.tree.entries.get? k = some (.file c)
  compiledOnce : w'.compilations = w.compilations ∨
    ∃ program, w'.compilations = w.compilations ++ [program]

/-- The compiler succeeded, called once, and no file is new or changed beside its own. -/
structure Compiled (tools : Tools) (p : Project) (output : Path) (w w' : Workspace) : Prop where
  folders : MadeFolders output w.tree w'.tree
  program : ∃ program, p.compileCommand tools.environment (libraryIn output).text = .ok program ∧
    tools.compile program = .ok () ∧ w'.compilations = w.compilations ++ [program]

/-- The library is built before anything else, if it is asked for. -/
def LibraryFirst (tools : Tools) (p : Project) (folder : Option Path) (output : Path)
    (withLibrary : Bool) (w w₁ w₂ : Workspace) : Prop :=
  if withLibrary then
    p.buildLibrary tools folder w₁ = (.ok (libraryIn output), w₂) ∧ Compiled tools p output w w₂
  else w₂ = w₁

def libraryEntry (output : Path) (withLibrary : Bool) : List (String × Path) :=
  if withLibrary then [(libraryFile, libraryIn output)] else []

/-- What a build leaves that succeeds. -/
structure Built (tools : Tools) (p : Project) (folder : Option Path) (output : Path)
    (withLibrary : Bool) (w : Workspace) (built : List (String × Path)) (w' : Workspace) :
    Prop where
  /-- The library, if asked for, and the module. -/
  files : built = libraryEntry output withLibrary ++ [(moduleFile p.interface, p.moduleIn output)]
  /-- The module is that of the header. It is written after the compiler succeeded, and no other
  file is new or changed. -/
  written : ∃ d text w₁ w₂, p.describe tools w = (.ok d, w₁) ∧
    moduleText d p.interface = .ok text ∧
    LibraryFirst tools p folder output withLibrary w w₁ w₂ ∧
    p.writeBindings [(moduleFile p.interface, text)] folder w₂ =
      (.ok [(moduleFile p.interface, p.moduleIn output)], w') ∧
    WroteFile output (p.moduleIn output) text w.tree w'.tree ∧
    w'.compilations = w₂.compilations

variable {withLibrary : Bool} {library : Path} {name text : String} {built : List (String × Path)}

theorem leavesNoFile_of_madeFolders (h : MadeFolders output w.tree w'.tree)
    (hcompiled : w'.compilations = w.compilations ∨
      ∃ program, w'.compilations = w.compilations ++ [program]) : LeavesNoFile output w w' :=
  ⟨h, fun _ _ => h.file_iff, hcompiled⟩

theorem compilations_compile (t : FileTree) (program : List String) :
    Workspace.compilations { tree := t, calls := w.calls ++ [.compile program] } =
      w.compilations ++ [program] := List.filterMap_append

theorem LibraryOutcome.of_error (h : LibraryOutcome tools p output w (.error e, w')) :
    LeavesNoFile output w w' := by
  generalize hout : ((Except.error e, w') : Except BuildError Path × Workspace) = out at h
  cases h with
  | notCompiled =>
    cases hout
    exact leavesNoFile_of_madeFolders (.makeFolders ..) (.inl rfl)
  | compiled program =>
    obtain ⟨-, rfl⟩ := Prod.mk.inj hout
    exact leavesNoFile_of_madeFolders (.makeFolders ..) (.inr ⟨program, compilations_compile ..⟩)

theorem LibraryOutcome.of_ok (h : LibraryOutcome tools p output w (.ok library, w')) :
    library = libraryIn output ∧ Compiled tools p output w w' := by
  generalize hout : ((Except.ok library, w') : Except BuildError Path × Workspace) = out at h
  cases h with
  | notCompiled => cases hout
  | compiled program command =>
    obtain ⟨hlibrary, rfl⟩ := Prod.mk.inj hout
    cases hcompile : tools.compile program with
    | error f =>
      rw [hcompile] at hlibrary
      cases hlibrary
    | ok _ =>
      rw [hcompile] at hlibrary
      cases hlibrary
      exact ⟨rfl, .makeFolders .., program, command, hcompile, compilations_compile ..⟩

theorem BindingsOutcome.of_error (h : BindingsOutcome output name text w (.error e, w')) :
    MadeFolders output w.tree w'.tree ∧ w'.compilations = w.compilations := by
  cases h
  exact ⟨.makeFolders .., rfl⟩

theorem BindingsOutcome.of_ok (h : BindingsOutcome output name text w (.ok built, w')) :
    built = [(name, output.join (Path.ofText name))] ∧
      (∀ t, MadeFolders output t w.tree →
        WroteFile output (output.join (Path.ofText name)) text t w'.tree) ∧
      w'.compilations = w.compilations := by
  cases h with
  | written tree hwrite =>
    exact ⟨rfl, fun t ht => (ht.trans (.makeFolders ..)).wroteFile hwrite, rfl⟩

theorem build_of_describe_error (h : p.describe tools w = (.error e, w')) :
    p.build tools folder withLibrary w = (.error e, w') := by
  unfold build render
  exact Action.bind_of_error (Action.bind_of_error h)

theorem build_of_binding_error {f : BindingError} (h : p.describe tools w = (.ok d, w'))
    (hf : moduleText d p.interface = .error f) :
    p.build tools folder withLibrary w = (.error (.binding f), w') := by
  have hrender : p.render tools w = (.error (.binding f), w') := by
    rw [render_of_describe h, moduleFiles, hf]
    rfl
  exact Action.bind_of_error hrender

/-- After the module is rendered, the library and the module are left to build. -/
theorem build_of_rendered (h : p.describe tools w = (.ok d, w₁))
    (htext : moduleText d p.interface = .ok text) (folder : Option Path) :
    let files := [(moduleFile p.interface, text)]
    p.build tools folder true w =
        (p.buildLibrary tools folder >>= fun library =>
          p.writeBindings files folder >>= fun bindings =>
            pure ([(libraryFile, library)] ++ bindings)) w₁ ∧
      p.build tools folder false w =
        (p.writeBindings files folder >>= fun bindings => pure ([] ++ bindings)) w₁ := by
  have hrender : p.render tools w = (.ok [(moduleFile p.interface, text)], w₁) := by
    rw [render_of_describe h, moduleFiles, htext]
    rfl
  unfold build
  rw [Action.bind_of_ok hrender, Action.bind_of_ok hrender]
  exact ⟨rfl, rfl⟩

theorem build_of_library_error (h : p.describe tools w = (.ok d, w₁))
    (htext : moduleText d p.interface = .ok text)
    (hlibrary : p.buildLibrary tools folder w₁ = (.error e, w')) :
    p.build tools folder true w = (.error e, w') := by
  rw [(build_of_rendered h htext folder).1]
  exact Action.bind_of_error hlibrary

theorem leavesNoFile_of_untouched (h : Untouched w w') (output : Path) :
    LeavesNoFile output w w' := by
  refine leavesNoFile_of_madeFolders ?_ (.inl h.compilations)
  rw [h.tree]
  exact .refl ..

theorem leavesNoFile_of_library_error (h : p.describe tools w = (.ok d, w₁))
    (hlibrary : p.buildLibrary tools folder w₁ = (.error e, w')) :
    LeavesNoFile (p.outputIn folder w.tree) w w' := by
  obtain ⟨htree, hcompilations⟩ := untouched_of_describe h
  have houtcome := buildLibrary_outcome tools p folder w₁
  rw [hlibrary, htree] at houtcome
  obtain ⟨hfolders, -, honce⟩ := houtcome.of_error
  rw [htree] at hfolders
  rw [hcompilations] at honce
  exact leavesNoFile_of_madeFolders hfolders honce

theorem compiled_of_buildLibrary (h : p.describe tools w = (.ok d, w₁))
    (hlibrary : p.buildLibrary tools folder w₁ = (.ok library, w')) :
    library = libraryIn (p.outputIn folder w.tree) ∧
      Compiled tools p (p.outputIn folder w.tree) w w' := by
  obtain ⟨htree, hcompilations⟩ := untouched_of_describe h
  have houtcome := buildLibrary_outcome tools p folder w₁
  rw [hlibrary, htree] at houtcome
  obtain ⟨hpath, hfolders, hprogram⟩ := houtcome.of_ok
  rw [htree] at hfolders
  rw [hcompilations] at hprogram
  exact ⟨hpath, hfolders, hprogram⟩

/-- A build stops before it writes the module, or the module is all that is left to write. -/
theorem build_cases (tools : Tools) (p : Project) (folder : Option Path) (withLibrary : Bool)
    (w : Workspace) :
    (∃ e w', p.build tools folder withLibrary w = (.error e, w') ∧
        LeavesNoFile (p.outputIn folder w.tree) w w') ∨
      ∃ d text w₁ w₂, p.describe tools w = (.ok d, w₁) ∧ moduleText d p.interface = .ok text ∧
        LibraryFirst tools p folder (p.outputIn folder w.tree) withLibrary w w₁ w₂ ∧
        p.build tools folder withLibrary w =
          (p.writeBindings [(moduleFile p.interface, text)] folder >>= fun bindings =>
            pure (libraryEntry (p.outputIn folder w.tree) withLibrary ++ bindings)) w₂ := by
  obtain ⟨r, w₁, hdescribe⟩ := Action.exists_outcome (p.describe tools) w
  have huntouched := untouched_of_describe hdescribe
  cases r with
  | error e =>
    exact .inl ⟨e, w₁, build_of_describe_error hdescribe, leavesNoFile_of_untouched huntouched _⟩
  | ok d =>
    cases htext : moduleText d p.interface with
    | error f =>
      exact .inl ⟨_, w₁, build_of_binding_error hdescribe htext,
        leavesNoFile_of_untouched huntouched _⟩
    | ok text =>
      obtain ⟨hwith, hwithout⟩ := build_of_rendered hdescribe htext folder
      cases withLibrary with
      | false => exact .inr ⟨d, text, w₁, w₁, hdescribe, htext, rfl, hwithout⟩
      | true =>
        obtain ⟨r, w₂, hlibrary⟩ := Action.exists_outcome (p.buildLibrary tools folder) w₁
        cases r with
        | error e =>
          exact .inl ⟨e, w₂, build_of_library_error hdescribe htext hlibrary,
            leavesNoFile_of_library_error hdescribe hlibrary⟩
        | ok library =>
          obtain ⟨rfl, hcompiled⟩ := compiled_of_buildLibrary hdescribe hlibrary
          rw [Action.bind_of_ok hlibrary] at hwith
          exact .inr ⟨d, text, w₁, w₂, hdescribe, htext, ⟨hlibrary, hcompiled⟩, hwith⟩

/-- When the module is written, no file is new or changed yet. -/
theorem LibraryFirst.leavesNoFile {w₂ : Workspace} (huntouched : Untouched w w₁)
    (h : LibraryFirst tools p folder output withLibrary w w₁ w₂) : LeavesNoFile output w w₂ := by
  cases withLibrary with
  | false =>
    obtain rfl : w₂ = w₁ := h
    exact leavesNoFile_of_untouched huntouched output
  | true =>
    obtain ⟨-, hfolders, program, -, -, hcompiled⟩ :
      p.buildLibrary tools folder w₁ = (.ok (libraryIn output), w₂) ∧
        Compiled tools p output w w₂ := h
    exact leavesNoFile_of_madeFolders hfolders (.inr ⟨program, hcompiled⟩)

theorem bindingsOutcome_of_writeBindings {r : Except BuildError (List (String × Path))}
    (hleaves : LeavesNoFile (p.outputIn folder w.tree) w w₁)
    (h : p.writeBindings [(name, text)] folder w₁ = (r, w')) :
    BindingsOutcome (p.outputIn folder w.tree) name text w₁ (r, w') := by
  have houtcome := writeBindings_outcome p name text folder w₁
  rw [h, outputIn, hleaves.folders.folder] at houtcome
  exact houtcome

theorem leavesNoFile_of_build_error (h : p.build tools folder withLibrary w = (.error e, w')) :
    LeavesNoFile (p.outputIn folder w.tree) w w' := by
  obtain ⟨e', w'', hstopped, hleaves⟩ | ⟨d, text, w₁, w₂, hdescribe, -, hfirst, hbuild⟩ :=
    build_cases tools p folder withLibrary w
  · cases h.symm.trans hstopped
    exact hleaves
  · have hleaves := hfirst.leavesNoFile (untouched_of_describe hdescribe)
    rcases Action.bind_eq_error_iff.1 (hbuild.symm.trans h) with hwrite | ⟨bindings, w₃, -, hpure⟩
    · obtain ⟨hmore, hsame⟩ := (bindingsOutcome_of_writeBindings hleaves hwrite).of_error
      exact leavesNoFile_of_madeFolders (hleaves.folders.trans hmore)
        (hsame ▸ hleaves.compiledOnce)
    · cases hpure

theorem built_of_build (h : p.build tools folder withLibrary w = (.ok built, w')) :
    Built tools p folder (p.outputIn folder w.tree) withLibrary w built w' := by
  obtain ⟨e', w'', hstopped, -⟩ | ⟨d, text, w₁, w₂, hdescribe, htext, hfirst, hbuild⟩ :=
    build_cases tools p folder withLibrary w
  · cases h.symm.trans hstopped
  · have hleaves := hfirst.leavesNoFile (untouched_of_describe hdescribe)
    obtain ⟨bindings, w₃, hwrite, hpure⟩ := Action.bind_eq_ok_iff.1 (hbuild.symm.trans h)
    cases hpure
    obtain ⟨rfl, hwrote, hsame⟩ := (bindingsOutcome_of_writeBindings hleaves hwrite).of_ok
    exact ⟨rfl, d, text, w₁, w₂, hdescribe, htext, hfirst, hwrite, hwrote _ hleaves.folders, hsame⟩

end Project

open Project in
/-- **A build leaves no partial output.** A header that cannot be read or rendered leaves everything
as it was. Any failure leaves every file as it was. A success leaves the module as the one file that
is new or changed, after the compiler succeeded. -/
theorem build_outcome (tools : Tools) (p : Project) (folder : Option Path) (withLibrary : Bool)
    (w : Workspace) :
    (∀ e w', p.describe tools w = (.error e, w') →
        p.build tools folder withLibrary w = (.error e, w') ∧ Untouched w w') ∧
      (∀ d f w', p.describe tools w = (.ok d, w') → moduleText d p.interface = .error f →
        p.build tools folder withLibrary w = (.error (.binding f), w') ∧ Untouched w w') ∧
      (∀ d text w₁ e w', p.describe tools w = (.ok d, w₁) → moduleText d p.interface = .ok text →
        withLibrary = true → p.buildLibrary tools folder w₁ = (.error e, w') →
          p.build tools folder withLibrary w = (.error e, w') ∧
            LeavesNoFile (p.outputIn folder w.tree) w w') ∧
      (∀ e w', p.build tools folder withLibrary w = (.error e, w') →
        LeavesNoFile (p.outputIn folder w.tree) w w') ∧
      ∀ built w', p.build tools folder withLibrary w = (.ok built, w') →
        Built tools p folder (p.outputIn folder w.tree) withLibrary w built w' := by
  refine ⟨fun e w' h => ?_, fun d f w' h hf => ?_, fun d text w₁ e w' h htext hwith hlibrary => ?_,
    fun _ _ => leavesNoFile_of_build_error, fun _ _ => built_of_build⟩
  · exact ⟨build_of_describe_error h, untouched_of_describe h⟩
  · exact ⟨build_of_binding_error h hf, untouched_of_describe h⟩
  · subst hwith
    exact ⟨build_of_library_error h htext hlibrary, leavesNoFile_of_library_error h hlibrary⟩

/-- A preprocessor that always answers a signature alone, and a compiler that ends with a status. -/
def signatureTools (status : Int) : Tools where
  preprocess _ _ := .ok "const char* const NiFpga_M_Signature = \"AB\";"
  compile _ := if status = 0 then .ok () else .error (.exit status)

def signatureProject : Project where
  interface := "M"
  header := Path.ofText "h/NiFpga_M.h"
  commonSource := Path.ofText "h/NiFpga.c"

def signatureFiles : Workspace where
  tree :=
    { entries := (SortedMap.empty.insert "/h" .folder).insert "/h/NiFpga_M.h" (.file (.text ""))
      folder := [] }

theorem build_outcome_signature :
    (∃ built w', signatureProject.build (signatureTools 0) none true signatureFiles =
        (.ok built, w') ∧ built.map (·.1) = ["libni_fpga.so", "NiFpga_M.py"] ∧
        Project.Built (signatureTools 0) signatureProject none ⟨"/", []⟩ true signatureFiles built
          w') ∧
      ∃ e w', signatureProject.build (signatureTools 1) none true signatureFiles =
        (.error e, w') ∧ w'.compilations.length = 1 ∧
        Project.LeavesNoFile ⟨"/", []⟩ signatureFiles w' := by
  constructor
  · obtain ⟨r, w', h⟩ :=
      Action.exists_outcome (signatureProject.build (signatureTools 0) none true) signatureFiles
    have hnames :
        ((signatureProject.build (signatureTools 0) none true signatureFiles).1.toOption.map
          fun built => built.map (·.1)) = some ["libni_fpga.so", "NiFpga_M.py"] := by
      decide +kernel
    rw [h] at hnames
    cases r with
    | error e => cases hnames
    | ok built =>
      exact ⟨built, w', h, Option.some.inj hnames,
        (build_outcome (signatureTools 0) signatureProject none true signatureFiles).2.2.2.2 _ _ h⟩
  · obtain ⟨r, w', h⟩ :=
      Action.exists_outcome (signatureProject.build (signatureTools 1) none true) signatureFiles
    have hfails :
        (signatureProject.build (signatureTools 1) none true signatureFiles).1.isOk = false ∧
        (signatureProject.build (signatureTools 1) none true signatureFiles).2.compilations.length =
          1 := by
      decide +kernel
    rw [h] at hfails
    cases r with
    | error e =>
      exact ⟨e, w', h, hfails.2,
        (build_outcome (signatureTools 1) signatureProject none true signatureFiles).2.2.2.1 _ _ h⟩
    | ok built => cases hfails.1

end FpgaInterface
