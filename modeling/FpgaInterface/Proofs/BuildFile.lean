import FpgaInterface.Build.Config
import FpgaInterface.Proofs.Traversal

/-!
# How loading a build file ends

* `buildFilePath` : where a build file is looked for;
* `loadConfig_of_find` : the result, by what stands there;
* `loadConfig_eq_ok_iff` : a project is that of a table that a text at the path describes;
* `ReportsFault`, `Escapes` : a fault is reported as one of the build file, and when it is not
  (`reportsFault_iff_not_escapes`).
-/

namespace FpgaInterface

variable {tree : FileTree} {file folder : Path} {p : Project} {c : Config}

def buildFilePath (tree : FileTree) (file : Path) : Path := Path.resolve ⟨"/", tree.folder⟩ file

/-- The document of a text as it is read from a file. -/
def documentIn (s : String) : Except Yaml.LoadFault Value :=
  Yaml.load (String.ofList (FileTree.unifyBreaks s.toList))

/-! ## Results -/

theorem loadConfig_of_null (h : file.holdsNull = true) :
    loadConfig tree file =
      .error ⟨buildFilePath tree file, .file ⟨.nullCharacter, buildFilePath tree file⟩⟩ := by
  unfold loadConfig
  exact if_pos h

/-- What loading a build file gives, by what stands at its path. -/
def loadFound (tree : FileTree) (path : Path) :
    Except FileFaultKind FileEntry → Except ConfigFault Project
  | .error .tooLong => .error (.file ⟨.tooLong, path⟩)
  | .error _ => .error (.notFound path)
  | .ok .folder => .error (.file ⟨.isFolder, path⟩)
  | .ok (.file (.binary bytes fault)) => .error (unreadable path bytes fault)
  | .ok (.file (.text s)) => configProject tree path.parent (documentIn s)

theorem loadConfig_of_find (h : file.holdsNull = false) :
    loadConfig tree file =
      (loadFound tree (buildFilePath tree file) (tree.find (buildFilePath tree file))).mapError
        (⟨buildFilePath tree file, ·⟩) := by
  unfold buildFilePath
  simp only [loadConfig, h, Bool.false_eq_true, if_false, FileTree.stands, FileTree.read]
  generalize Path.resolve ⟨"/", tree.folder⟩ file = path
  cases hfind : tree.find path with
  | error kind => cases kind <;> rfl
  | ok entry => rcases entry with _ | ⟨s | ⟨bytes, fault⟩⟩ <;> rfl

/-! ## Projects -/

namespace Project

variable {header : Path} {interface : String} {f : ProjectFault}

theorem of_ofHeader (h : ofHeader tree header = .ok p) :
    interfaceOf? header = some p.interface ∧ p.header = header ∧ p.outputFolder = none := by
  unfold ofHeader at h
  split at h
  · cases h
  · next interface hnamed =>
    dsimp only at h
    split at h
    · cases h
    · cases h
      exact ⟨hnamed, rfl, rfl⟩

theorem ofHeader_eq_error_iff :
    ofHeader tree header = .error f ↔
      (interfaceOf? header = none ∧ f = .notInterfaceHeader header.name) ∨
        ∃ interface, interfaceOf? header = some interface ∧
          tree.find (ownSourceBeside header interface) = .error .tooLong ∧
          f = .file ⟨.tooLong, ownSourceBeside header interface⟩ := by
  unfold ofHeader FileTree.stands
  cases hnamed : interfaceOf? header with
  | none => simp [eq_comm]
  | some interface =>
    cases hfind : tree.find (ownSourceBeside header interface) with
    | ok entry => simp [hfind]
    | error kind => cases kind <;> simp [hfind, eq_comm]

end Project

theorem Config.project_eq_ok_iff :
    c.project tree folder = .ok p ↔
      ∃ q, Project.ofHeader tree (folder.join c.header) = .ok q ∧
        p = { q with
          sysroot := c.sysroot
          compiler := c.compiler
          preprocessor := c.preprocessor
          preprocessorArguments := c.preprocessorArguments
          outputFolder := c.outputFolder.map folder.join } := by
  unfold Config.project
  rw [bind_eq_ok_iff]
  refine exists_congr fun q => and_congr_right fun _ => ?_
  exact ⟨fun h => (Except.ok.inj h).symm, fun h => congrArg Except.ok h.symm⟩

theorem Config.project_eq_error_iff {f : ProjectFault} :
    c.project tree folder = .error f ↔
      Project.ofHeader tree (folder.join c.header) = .error f := by
  unfold Config.project
  rw [bind_eq_error_iff]
  refine ⟨fun h => ?_, .inl⟩
  rcases h with h | ⟨q, -, h⟩
  · exact h
  · cases h

theorem configProject_eq_ok_iff {document : Except Yaml.LoadFault Value} :
    configProject tree folder document = .ok p ↔
      ∃ rows c, document = .ok (.table rows) ∧ Config.ofRows rows = .ok c ∧
        c.project tree folder = .ok p := by
  unfold configProject
  split
  · simp
  · simp
  · next rows =>
    cases hrows : Config.ofRows rows with
    | error vs => simp [hrows]
    | ok c => simp [hrows, mapError_eq_ok_iff]
  · next v hv =>
    constructor
    · nofun
    · rintro ⟨rows, c, htable, -⟩
      exact absurd (Except.ok.inj htable) (hv rows)

/-- A project is that of a text at the path of the build file, which describes a table with the
contents of a build file. -/
theorem loadConfig_eq_ok_iff :
    loadConfig tree file = .ok p ↔
      file.holdsNull = false ∧
        ∃ s rows c, tree.find (buildFilePath tree file) = .ok (.file (.text s)) ∧
          documentIn s = .ok (.table rows) ∧ Config.ofRows rows = .ok c ∧
          c.project tree (buildFilePath tree file).parent = .ok p := by
  cases hnull : file.holdsNull with
  | true => simp [loadConfig_of_null hnull]
  | false =>
    rw [loadConfig_of_find hnull, mapError_eq_ok_iff]
    generalize buildFilePath tree file = path
    generalize tree.find path = found
    rcases found with kind | _ | ⟨s | ⟨bytes, fault⟩⟩
    · cases kind <;> simp [loadFound]
    · simp [loadFound]
    · simp [loadFound, configProject_eq_ok_iff]
    · simp [loadFound]

/-! ## Faults -/

/-- A fault is reported as one of a build file. One of a file or of a scalar stands for itself. -/
def ConfigFault.IsReported : ConfigFault → Prop
  | .file _ | .scalar _ => False
  | _ => True

theorem located?_ne_none_iff {e : ConfigError} : e.located? ≠ none ↔ e.fault.IsReported := by
  obtain ⟨path, f⟩ := e
  cases f <;> simp [ConfigError.located?, ConfigFault.IsReported]

/-- Why the document of a build file in a folder leads to a fault that is not reported: a scalar of
it has no value, or the path of the source beside the header is too long. -/
def DocumentEscapes (tree : FileTree) (folder : Path) : Except Yaml.LoadFault Value → Prop
  | .error (.malformed _ _) => False
  | .error _ => True
  | .ok (.table rows) => ∃ c interface, Config.ofRows rows = .ok c ∧
      Project.interfaceOf? (folder.join c.header) = some interface ∧
      tree.find (Project.ownSourceBeside (folder.join c.header) interface) = .error .tooLong
  | .ok _ => False

/-- Why what stands at the path of a build file leads to a fault that is not reported. -/
def EntryEscapes (tree : FileTree) (path : Path) : Except FileFaultKind FileEntry → Prop
  | .error kind => kind = .tooLong
  | .ok .folder => True
  | .ok (.file (.binary bytes fault)) => ∀ line, unreadable path bytes fault ≠ .notYaml line
  | .ok (.file (.text s)) => DocumentEscapes tree path.parent (documentIn s)

/-- Loading a build file leads to a fault that is not reported. -/
def Escapes (tree : FileTree) (file : Path) : Prop :=
  file.holdsNull = true ∨
    EntryEscapes tree (buildFilePath tree file) (tree.find (buildFilePath tree file))

/-- Every fault of loading a build file is reported as one of it. -/
def ReportsEveryFault (tree : FileTree) (file : Path) : Prop :=
  ∀ e, loadConfig tree file = .error e → e.located? ≠ none

theorem documentEscapes_table_iff {rows : List (Value × Value)} (hrows : Config.ofRows rows = .ok c) :
    DocumentEscapes tree folder (.ok (.table rows)) ↔
      ∃ f, c.project tree folder = .error (.file f) := by
  simp only [Config.project_eq_error_iff, Project.ofHeader_eq_error_iff]
  constructor
  · rintro ⟨c', interface, hrows', hnamed, hfind⟩
    cases hrows.symm.trans hrows'
    exact ⟨_, .inr ⟨interface, hnamed, hfind, rfl⟩⟩
  · rintro ⟨f, ⟨-, hfault⟩ | ⟨interface, hnamed, hfind, -⟩⟩
    · cases hfault
    · exact ⟨c, interface, hrows, hnamed, hfind⟩

theorem reports_document_iff {document : Except Yaml.LoadFault Value} :
    (∀ f, configProject tree folder document = .error f → f.IsReported) ↔
      ¬ DocumentEscapes tree folder document := by
  unfold configProject
  split
  · simp [DocumentEscapes, ConfigFault.IsReported]
  · next f hf =>
    have hescapes : DocumentEscapes tree folder (.error f) := by
      cases f with
      | malformed line index => exact absurd rfl (hf line index)
      | _ => trivial
    simp [hescapes, ConfigFault.IsReported]
  · next rows =>
    cases hrows : Config.ofRows rows with
    | error vs => simp [DocumentEscapes, ConfigFault.IsReported, hrows]
    | ok c =>
      rw [documentEscapes_table_iff hrows]
      cases hproject : c.project tree folder with
      | ok p => simp [hproject, Except.mapError]
      | error f =>
        cases f <;> simp [hproject, Except.mapError, ConfigFault.ofProject, ConfigFault.IsReported]
  · next v hv =>
    have hescapes : ¬ DocumentEscapes tree folder (.ok v) := by
      cases v with
      | table rows => exact absurd rfl (hv rows)
      | _ => exact id
    simp [hescapes, ConfigFault.IsReported]

theorem reports_found_iff {path : Path} {found : Except FileFaultKind FileEntry} :
    (∀ f, loadFound tree path found = .error f → f.IsReported) ↔
      ¬ EntryEscapes tree path found := by
  rcases found with kind | _ | ⟨s | ⟨bytes, fault⟩⟩
  · cases kind <;> simp [loadFound, EntryEscapes, ConfigFault.IsReported]
  · simp [loadFound, EntryEscapes, ConfigFault.IsReported]
  · exact reports_document_iff
  · have hfault : (unreadable path bytes fault).IsReported ↔
        ∃ line, unreadable path bytes fault = .notYaml line := by
      unfold unreadable
      dsimp only
      split <;> simp [ConfigFault.IsReported]
    simp [loadFound, EntryEscapes, hfault]

theorem reportsEveryFault_iff (tree : FileTree) (file : Path) :
    ReportsEveryFault tree file ↔ ¬ Escapes tree file := by
  cases hnull : file.holdsNull with
  | true =>
    have hescapes : Escapes tree file := .inl hnull
    simp [ReportsEveryFault, loadConfig_of_null hnull, hescapes, ConfigError.located?]
  | false =>
    have hescapes : Escapes tree file ↔
        EntryEscapes tree (buildFilePath tree file) (tree.find (buildFilePath tree file)) := by
      simp [Escapes, hnull]
    rw [hescapes, ← reports_found_iff]
    unfold ReportsEveryFault
    rw [loadConfig_of_find hnull]
    generalize loadFound tree (buildFilePath tree file) _ = r
    cases r with
    | error f => simp [Except.mapError, located?_ne_none_iff]
    | ok p => simp [Except.mapError]

/-- A build file with a date that does not exist. -/
def datedBuildFile : FileTree where
  entries := SortedMap.empty.insert "/build.yml"
    (.file (.text "header: NiFpga_Main.h\nsysroot: 2001-13-45\n"))
  folder := []

theorem not_reportsEveryFault_date :
    ¬ ReportsEveryFault datedBuildFile (Path.ofText "build.yml") := by
  intro h
  have hload : loadConfig datedBuildFile (Path.ofText "build.yml") =
      .error ⟨⟨"/", ["build.yml"]⟩, .scalar (.outOfRange "month must be in 1..12")⟩ := by
    decide +kernel
  exact h _ hload rfl

end FpgaInterface
