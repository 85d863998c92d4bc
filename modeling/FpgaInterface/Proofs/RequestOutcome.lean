import FpgaInterface.Command.Run
import FpgaInterface.Proofs.BuildFile
import FpgaInterface.Proofs.BuildOutcome
import FpgaInterface.Proofs.JsonText

/-!
# What a command line leaves

* `successJson`, `failureJson` : the objects that are printed. They are read back (`read?_line`);
* `ChosenFolder` : the folder for what is built, by the request and the build file
  (`Request.chosenFolder_iff`);
* `Request.Generates` : how generating ends, and `Request.Reports` : what the program says then. A
  request ends in one way (`Request.exists_generates`, `Request.Generates.unique`);
* `TellsTruth`, `ShowsResult` : the exit status and the object that is printed say how a run ended;
* `runLine_tellsTruth` : the status always does, the object unless the program stops.
-/

namespace FpgaInterface

/-! ## Objects -/

def failureJson (message : String) : Json :=
  .object [("success", .bool false), ("error", .text message)]

def successJson (files : List (String × Path)) : Json :=
  .object [("success", .bool true),
    ("files", .object (files.map fun file => (file.1, .text file.2.text))),
    ("count", .number files.length)]

section Objects
open Json Text

theorem toList_asciiLiteral (s : String) : (asciiLiteral s).toList = asciiLiteralChars s.toList :=
  String.toList_ofList

theorem toList_failureObject (message : String) :
    (failureObject message).toList = print (failureJson message) := by
  have hstart : "\x7b\"success\": false, \"error\": ".toList =
      '\x7b' :: memberChars "success" (print (.bool false)) ++
        ',' :: ' ' :: asciiLiteralChars "error".toList ++ [':', ' '] := by decide +kernel
  have hend : "\x7d".toList = ['\x7d'] := by decide +kernel
  unfold failureObject
  rw [String.toList_append, String.toList_append, toList_asciiLiteral, hstart, hend]
  simp [failureJson, print, printMore, memberChars]

/-- A row of the files that are printed. -/
def fileRow (file : String × Path) : String :=
  asciiLiteral file.1 ++ ": " ++ asciiLiteral file.2.text

theorem toList_fileRow (file : String × Path) :
    (fileRow file).toList = memberChars file.1 (print (.text file.2.text)) := by
  have hcolon : ": ".toList = [':', ' '] := by decide +kernel
  rw [fileRow, String.toList_append, String.toList_append, hcolon, toList_asciiLiteral,
    toList_asciiLiteral, memberChars, print, List.append_assoc]
  rfl

theorem intercalate_fileRows (file : String × Path) (files : List (String × Path)) :
    [',', ' '].intercalate ((file :: files).map fun file => (fileRow file).toList) ++ ['\x7d'] =
      memberChars file.1 (print (.text file.2.text)) ++
        printMore (files.map fun file => (file.1, .text file.2.text)) := by
  induction files generalizing file with
  | nil => simp [toList_fileRow, printMore]
  | cons next files ih =>
    have hnext := ih next
    rw [List.map_cons] at hnext
    rw [List.map_cons, List.map_cons, List.intercalate_cons_cons, List.append_assoc,
      List.append_assoc, hnext, toList_fileRow, List.map_cons, printMore]
    rfl

theorem toList_fileRows (files : List (String × Path)) :
    '\x7b' :: (", ".intercalate (files.map fileRow)).toList ++ ['\x7d'] =
      print (.object (files.map fun file => (file.1, .text file.2.text))) := by
  have hcomma : ", ".toList = [',', ' '] := by decide +kernel
  rw [String.toList_intercalate, hcomma, List.map_map]
  cases files with
  | nil => rfl
  | cons file files =>
    rw [List.cons_append]
    exact congrArg ('\x7b' :: ·) (intercalate_fileRows file files)

theorem toList_successObject (files : List (String × Path)) :
    (successObject files).toList = print (successJson files) := by
  have hstart : "\x7b\"success\": true, \"files\": \x7b".toList =
      '\x7b' :: memberChars "success" (print (.bool true)) ++
        ',' :: ' ' :: asciiLiteralChars "files".toList ++ [':', ' ', '\x7b'] := by decide +kernel
  have hcount : "\x7d, \"count\": ".toList =
      '\x7d' :: ',' :: ' ' :: asciiLiteralChars "count".toList ++ [':', ' '] := by decide +kernel
  have hend : "\x7d".toList = ['\x7d'] := by decide +kernel
  have hrows := toList_fileRows files
  change ("\x7b\"success\": true, \"files\": \x7b" ++ ", ".intercalate (files.map fileRow) ++
    "\x7d, \"count\": " ++ Text.decimal files.length ++ "\x7d").toList = _
  simp only [String.toList_append, hstart, hcount, hend]
  simp only [successJson, print, printMore, memberChars, ← hrows]
  simp only [List.append_assoc, List.cons_append, List.nil_append]

theorem read?_line {v : Json} {s : String} (h : s.toList = print v) :
    Json.read? (s ++ "\n") = some v := by
  have hline : s ++ "\n" = String.ofList (print v ++ ['\n']) := by
    have hend : "\n".toList = ['\n'] := by decide +kernel
    rw [← String.toList_inj, String.toList_append, h, hend, String.toList_ofList]
  rw [hline]
  exact read?_print (List.forall_mem_singleton.2 rfl)

end Objects

/-! ## The folder -/

/-- A build file describes contents. -/
def HoldsConfig (tree : FileTree) (file : Path) (c : Config) : Prop :=
  ∃ s rows, tree.find (buildFilePath tree file) = .ok (.file (.text s)) ∧
    documentIn s = .ok (.table rows) ∧ Config.ofRows rows = .ok c

theorem HoldsConfig.unique {tree : FileTree} {file : Path} {c c' : Config}
    (h : HoldsConfig tree file c) (h' : HoldsConfig tree file c') : c = c' := by
  obtain ⟨s, rows, hfind, hdocument, hrows⟩ := h
  obtain ⟨s', rows', hfind', hdocument', hrows'⟩ := h'
  cases hfind.symm.trans hfind'
  cases hdocument.symm.trans hdocument'
  exact Except.ok.inj (hrows.symm.trans hrows')

/-- The folder for what is built: the one that the request gives, else the one of the build file,
else that of the header. Paths in a build file start in its folder. -/
inductive ChosenFolder (tree : FileTree) (r : Request) : Path → Prop
  | given {output : String} (given : r.output = some output) (nonempty : output ≠ "") :
    ChosenFolder tree r (Path.ofText output)
  | configured {file : String} {c : Config} {folder : Path} (notGiven : r.output = none)
    (config : r.config = some file) (holds : HoldsConfig tree (Path.ofText file) c)
    (output : c.outputFolder = some folder) :
    ChosenFolder tree r ((buildFilePath tree (Path.ofText file)).parent.join folder)
  | besideConfigured {file : String} {c : Config} (notGiven : r.output = none)
    (config : r.config = some file) (holds : HoldsConfig tree (Path.ofText file) c)
    (output : c.outputFolder = none) :
    ChosenFolder tree r ((buildFilePath tree (Path.ofText file)).parent.join c.header).parent
  | besideHeader {header : String} (notGiven : r.output = none) (config : r.config = none)
    (named : r.header = some header) : ChosenFolder tree r (Path.ofText header).parent

namespace Request

variable {tree : FileTree} {r : Request} {p : Project} {folder : Path} {args : List String}

/-- A request names a header or a build file, and nothing that it gives is empty. -/
structure Complete (r : Request) : Prop where
  source : r.config = none → ∃ header, r.header = some header
  output : r.output ≠ some ""

theorem value?_ne_empty (line : ParsedLine) (key : OptionKey) : line.value? key ≠ some "" := by
  intro h
  rw [ParsedLine.value?, Option.filter_eq_some_iff] at h
  exact absurd h.2 (by decide)

theorem complete_of_read (h : read args = .ok r) : r.Complete := by
  unfold read at h
  obtain ⟨all, -, h⟩ := bind_eq_ok_iff.1 h
  obtain ⟨start, -, h⟩ := bind_eq_ok_iff.1 h
  dsimp only at h
  split at h
  · split at h
    · cases h
    · obtain ⟨line, -, h⟩ := bind_eq_ok_iff.1 h
      split at h
      · cases h
      · next hgiven =>
        cases h
        refine ⟨fun hconfig => ?_, value?_ne_empty line .output⟩
        dsimp only at hconfig
        rw [hconfig, Option.isNone_none, Bool.and_true, Bool.or_eq_true, not_or] at hgiven
        rw [← Option.isSome_iff_exists, ← Bool.not_eq_false, Option.isSome_eq_false_iff]
        exact hgiven.2
  · cases h

/-- Options of the command line change neither the header nor the folder of a project. -/
theorem exists_source (h : r.project tree = .ok p) :
    ∃ q, q.header = p.header ∧ q.outputFolder = p.outputFolder ∧
      (∀ file, r.config = some file → loadConfig tree (Path.ofText file) = .ok q) ∧
      (r.config = none → Project.ofHeader tree (Path.ofText (r.header.getD "")) = .ok q) := by
  unfold Request.project at h
  cases hconfig : r.config with
  | some file =>
    rw [hconfig] at h
    obtain ⟨q, hq, hp⟩ := bind_eq_ok_iff.1 h
    cases hp
    refine ⟨q, rfl, rfl, ?_, nofun⟩
    rintro _ ⟨⟩
    exact mapError_eq_ok_iff.1 hq
  | none =>
    rw [hconfig] at h
    obtain ⟨q, hq, hp⟩ := bind_eq_ok_iff.1 h
    cases hp
    exact ⟨q, rfl, rfl, nofun, fun _ => mapError_eq_ok_iff.1 hq⟩

theorem chosenFolder_of_config {file : String} (houtput : r.output = none)
    (hconfig : r.config = some file) (h : loadConfig tree (Path.ofText file) = .ok p) :
    ChosenFolder tree r folder ↔ folder = p.outputFolder.getD p.header.parent := by
  obtain ⟨-, s, rows, c, hfind, hdocument, hrows, hproject⟩ := loadConfig_eq_ok_iff.1 h
  have hholds : HoldsConfig tree (Path.ofText file) c := ⟨s, rows, hfind, hdocument, hrows⟩
  obtain ⟨q, hheader, rfl⟩ := Config.project_eq_ok_iff.1 hproject
  obtain ⟨-, hheader, -⟩ := Project.of_ofHeader hheader
  rw [hheader]
  constructor
  · intro hfolder
    cases hfolder with
    | given hgiven => cases houtput.symm.trans hgiven
    | configured _ hconfig' hholds' hout =>
      cases hconfig.symm.trans hconfig'
      cases hholds.unique hholds'
      rw [hout]
      rfl
    | besideConfigured _ hconfig' hholds' hout =>
      cases hconfig.symm.trans hconfig'
      cases hholds.unique hholds'
      rw [hout]
      rfl
    | besideHeader _ hnone => cases hconfig.symm.trans hnone
  · rintro rfl
    cases hout : c.outputFolder with
    | some folder => exact .configured houtput hconfig hholds hout
    | none => exact .besideConfigured houtput hconfig hholds hout

theorem chosenFolder_of_header {header : String} (houtput : r.output = none)
    (hconfig : r.config = none) (hheader : r.header = some header) :
    ChosenFolder tree r folder ↔ folder = (Path.ofText header).parent := by
  constructor
  · intro hfolder
    cases hfolder with
    | given hgiven => cases houtput.symm.trans hgiven
    | configured _ hsome => cases hconfig.symm.trans hsome
    | besideConfigured _ hsome => cases hconfig.symm.trans hsome
    | besideHeader _ _ hheader' =>
      cases hheader.symm.trans hheader'
      rfl
  · rintro rfl
    exact .besideHeader houtput hconfig hheader

theorem chosenFolder_of_output {output : String} (hgiven : r.output = some output)
    (hnonempty : output ≠ "") : ChosenFolder tree r folder ↔ folder = Path.ofText output := by
  constructor
  · intro hfolder
    cases hfolder with
    | given hgiven' =>
      cases hgiven.symm.trans hgiven'
      rfl
    | configured hnone => cases hgiven.symm.trans hnone
    | besideConfigured hnone => cases hgiven.symm.trans hnone
    | besideHeader hnone => cases hgiven.symm.trans hnone
  · rintro rfl
    exact .given hgiven hnonempty

theorem chosenFolder_iff (hr : r.Complete) (h : r.project tree = .ok p) :
    ChosenFolder tree r folder ↔ folder = r.folder p := by
  obtain ⟨q, hheader, houtput, hconfigured, hnamed⟩ := exists_source h
  unfold Request.folder
  rw [← hheader, ← houtput]
  cases hgiven : r.output with
  | some output =>
    have hnonempty : output ≠ "" := by
      rintro rfl
      exact hr.output hgiven
    exact chosenFolder_of_output hgiven hnonempty
  | none =>
    cases hconfig : r.config with
    | some file => exact chosenFolder_of_config hgiven hconfig (hconfigured file hconfig)
    | none =>
      obtain ⟨header, hheader⟩ := hr.source hconfig
      obtain ⟨-, hq, hfolder⟩ := Project.of_ofHeader (hnamed hconfig)
      rw [hq, hfolder, hheader]
      exact chosenFolder_of_header hgiven hconfig hheader

/-! ## How generating ends -/

variable {tools : Tools} {w w' : Workspace} {e : RequestError}
variable {result : Except RequestError (List (String × Path))}

/-- How generating ends: there is no project, or its build returns the files or fails. -/
inductive Generates (tools : Tools) (r : Request) (w : Workspace) :
    Except RequestError (List (String × Path)) → Workspace → Prop
  | noProject {e : RequestError} (fails : r.project w.tree = .error e) :
    Generates tools r w (.error e) w
  | ofBuild {p : Project} {folder : Path} {result : Except BuildError (List (String × Path))}
    {w' : Workspace} (project : r.project w.tree = .ok p) (chosen : ChosenFolder w.tree r folder)
    (build : p.build tools (some folder) r.withLibrary w = (result, w')) :
    Generates tools r w (result.mapError .build) w'

theorem Generates.unique {result' : Except RequestError (List (String × Path))} {w'' : Workspace}
    (hr : r.Complete) (h : r.Generates tools w result w') (h' : r.Generates tools w result' w'') :
    result = result' ∧ w' = w'' := by
  cases h with
  | noProject hfails => cases h' with
    | noProject hfails' =>
      cases hfails.symm.trans hfails'
      exact ⟨rfl, rfl⟩
    | ofBuild hproject' => cases hfails.symm.trans hproject'
  | ofBuild hproject hfolder hbuild => cases h' with
    | noProject hfails' => cases hproject.symm.trans hfails'
    | ofBuild hproject' hfolder' hbuild' =>
      cases hproject.symm.trans hproject'
      rw [chosenFolder_iff hr hproject] at hfolder hfolder'
      subst hfolder hfolder'
      cases hbuild.symm.trans hbuild'
      exact ⟨rfl, rfl⟩

/-- What a program says of a result. With an error that is not expected it stops. -/
inductive Reports (json : Bool) :
    Except RequestError (List (String × Path)) → Except RequestError Response → Prop
  | files (files : List (String × Path)) (lines : String) :
    Reports json (.ok files)
      (.ok { status := 0, output := if json then successObject files ++ "\n" else lines })
  | error {e : RequestError} (expected : e.isUnexpected = false) :
    Reports json (.error e) (.ok (Response.failure json e))
  | stop {e : RequestError} (unexpected : e.isUnexpected = true) :
    Reports json (.error e) (.error e)

theorem reports_error (json : Bool) (e : RequestError) :
    Reports json (.error e) (if e.isUnexpected then .error e else .ok (Response.failure json e)) := by
  split
  · next h => exact .stop h
  · next h => exact .error (Bool.eq_false_iff.2 h)

/-- A request that generates leaves what the project and its build leave, and reports how it
ended. -/
theorem exists_generates (hr : r.Complete) (htask : r.task = .generate) (tools : Tools)
    (w : Workspace) :
    ∃ result, r.Generates tools w result (r.run tools w).1 ∧
      Reports r.json result (r.run tools w).2 := by
  unfold Request.run Request.action
  rw [htask]
  dsimp only
  cases hproject : r.project w.tree with
  | error e => exact ⟨_, .noProject hproject, reports_error r.json e⟩
  | ok p =>
    have hfolder : ChosenFolder w.tree r (r.folder p) := (chosenFolder_iff hr hproject).2 rfl
    obtain ⟨x, w', hbuild⟩ :=
      Action.exists_outcome (p.build tools (some (r.folder p)) r.withLibrary) w
    have hgenerates := Generates.ofBuild hproject hfolder hbuild
    dsimp only
    cases x with
    | error e =>
      have hgenerate : r.generate tools p w = (.error e, w') := Action.bind_of_error hbuild
      rw [hgenerate]
      exact ⟨_, hgenerates, reports_error r.json (.build e)⟩
    | ok files =>
      obtain ⟨lines, hgenerate⟩ : ∃ lines, r.generate tools p w =
          (.ok { status := 0, output := if r.json then successObject files ++ "\n" else lines },
            w') := ⟨successLines (r.folderText p) files, Action.bind_of_ok hbuild⟩
      rw [hgenerate]
      exact ⟨_, hgenerates, .files files lines⟩

end Request

/-! ## What a run tells -/

/-- The exit status of a program. One that stops ends with one. -/
def exitStatus : Except RequestError Response → Nat
  | .ok response => response.status
  | .error _ => 1

/-- What a program prints. One that stops prints nothing. -/
def printed : Except RequestError Response → String
  | .ok response => response.output
  | .error _ => ""

/-- No file is new or changed, and none is gone. -/
def SameFiles (t t' : FileTree) : Prop :=
  ∀ k c, t'.entries.get? k = some (.file c) ↔ t.entries.get? k = some (.file c)

/-- The module of the header stands in the chosen folder. -/
def HoldsModule (tools : Tools) (r : Request) (w : Workspace) (t : FileTree) : Prop :=
  ∃ p folder d text w', r.project w.tree = .ok p ∧ ChosenFolder w.tree r folder ∧
    p.describe tools w = (.ok d, w') ∧ moduleText d p.interface = .ok text ∧
    t.find (folder.join (Path.ofText (moduleFile p.interface))) = .ok (.file (.text text))

/-- The exit status says how a run ended, and whether the module is there. -/
structure TellsTruth (tools : Tools) (r : Request) (w : Workspace)
    (out : Workspace × Except RequestError Response) : Prop where
  /-- The status is zero if the build returns. -/
  success : exitStatus out.2 = 0 ↔ ∃ files w', r.Generates tools w (.ok files) w'
  /-- The status is one if not. -/
  failure : exitStatus out.2 ≠ 0 → exitStatus out.2 = 1
  written : exitStatus out.2 = 0 → HoldsModule tools r w out.1.tree
  unchanged : exitStatus out.2 = 1 → SameFiles w.tree out.1.tree

/-- What the object of a result says. -/
def resultJson : Except RequestError (List (String × Path)) → Json
  | .ok files => successJson files
  | .error e => failureJson e.message

/-- What is printed is the object of the result. It counts files with different names. -/
def ShowsResult (tools : Tools) (r : Request) (w : Workspace)
    (out : Workspace × Except RequestError Response) : Prop :=
  ∀ result w', r.Generates tools w result w' →
    Json.read? (printed out.2) = some (resultJson result) ∧
      ∀ files, result = .ok files → (files.map (·.1)).Nodup

section Results

variable {tools : Tools} {r : Request} {w w' : Workspace} {e : RequestError}
variable {files : List (String × Path)} {result : Except RequestError (List (String × Path))}
variable {json : Bool} {response : Except RequestError Response}

theorem Request.Generates.exists_build (h : r.Generates tools w (.ok files) w') :
    ∃ p folder, r.project w.tree = .ok p ∧ ChosenFolder w.tree r folder ∧
      p.build tools (some folder) r.withLibrary w = (.ok files, w') := by
  generalize hresult : (Except.ok files : Except RequestError (List (String × Path))) = result at h
  cases h with
  | noProject => cases hresult
  | ofBuild hproject hfolder hbuild =>
    rw [mapError_eq_ok_iff.1 hresult.symm] at hbuild
    exact ⟨_, _, hproject, hfolder, hbuild⟩

theorem Request.Generates.holdsModule (h : r.Generates tools w (.ok files) w') :
    HoldsModule tools r w w'.tree := by
  obtain ⟨p, folder, hproject, hfolder, hbuild⟩ := h.exists_build
  obtain ⟨-, d, text, w₁, w₂, hdescribe, htext, -, -, hwrote, -⟩ := Project.built_of_build hbuild
  exact ⟨p, folder, d, text, w₁, hproject, hfolder, hdescribe, htext, hwrote.found⟩

theorem moduleFile_ne_libraryFile (interface : String) :
    moduleFile interface ≠ Project.libraryFile := by
  intro h
  have hhead := congrArg (fun s => s.toList.head?) h
  simp [moduleFile, vendorWord, Project.libraryFile] at hhead

theorem Request.Generates.nodup (h : r.Generates tools w (.ok files) w') :
    (files.map (·.1)).Nodup := by
  obtain ⟨p, folder, -, -, hbuild⟩ := h.exists_build
  obtain ⟨rfl, -⟩ := Project.built_of_build hbuild
  unfold Project.libraryEntry
  split
  · simp [(moduleFile_ne_libraryFile p.interface).symm]
  · simp

theorem Request.Generates.sameFiles (h : r.Generates tools w (.error e) w') :
    SameFiles w.tree w'.tree := by
  generalize hresult : (Except.error e : Except RequestError (List (String × Path))) = result at h
  cases h with
  | noProject => exact fun k c => Iff.rfl
  | @ofBuild p folder result w' hproject hfolder hbuild =>
    cases result with
    | ok files => cases hresult
    | error e => exact (Project.leavesNoFile_of_build_error hbuild).files

theorem Request.Reports.status_cases (h : Request.Reports json result response) :
    (exitStatus response = 0 ∧ ∃ files, result = .ok files) ∨
      (exitStatus response = 1 ∧ ∃ e, result = .error e) := by
  cases h with
  | files files => exact .inl ⟨rfl, files, rfl⟩
  | error =>
    refine .inr ⟨?_, _, rfl⟩
    cases json <;> rfl
  | stop => exact .inr ⟨rfl, _, rfl⟩

/-- The object of a result is read back unless the program stops. -/
theorem Request.Reports.read?_printed (h : Request.Reports true result response) :
    Json.read? (printed response) = some (resultJson result) ↔
      ∀ e, result = .error e → e.isUnexpected = false := by
  cases h with
  | files files =>
    have hread : Json.read? (successObject files ++ "\n") = some (successJson files) :=
      read?_line (toList_successObject files)
    exact iff_of_true hread nofun
  | @error e expected =>
    have hread : Json.read? (failureObject e.message ++ "\n") = some (failureJson e.message) :=
      read?_line (toList_failureObject e.message)
    refine iff_of_true hread ?_
    rintro _ ⟨⟩
    exact expected
  | @stop e unexpected =>
    have hread : Json.read? "" = none := by decide +kernel
    refine iff_of_false ?_ fun hexpected => ?_
    · show Json.read? "" ≠ _
      rw [hread]
      nofun
    · cases unexpected.symm.trans (hexpected e rfl)

end Results

section Lines

variable {args : List String} {r : Request} {tools : Tools} {w : Workspace}

theorem runLine_of_read (h : Request.read args = .ok r) : runLine tools args w = r.run tools w := by
  unfold runLine
  rw [h]

theorem tellsTruth_run (hr : r.Complete) (htask : r.task = .generate) :
    TellsTruth tools r w (r.run tools w) := by
  obtain ⟨result, hgenerates, hreports⟩ := Request.exists_generates hr htask tools w
  obtain ⟨hstatus, files, rfl⟩ | ⟨hstatus, e, rfl⟩ := hreports.status_cases
  · refine ⟨iff_of_true hstatus ⟨files, _, hgenerates⟩, fun h => absurd hstatus h,
      fun _ => hgenerates.holdsModule, fun h => ?_⟩
    rw [hstatus] at h
    cases h
  · have hzero : exitStatus (r.run tools w).2 ≠ 0 := by
      rw [hstatus]
      decide
    refine ⟨iff_of_false hzero ?_, fun _ => hstatus, fun h => absurd h hzero,
      fun _ => hgenerates.sameFiles⟩
    rintro ⟨files, w', hreturns⟩
    cases (hgenerates.unique hr hreturns).1

theorem showsResult_run_iff (hr : r.Complete) (htask : r.task = .generate)
    (hjson : r.json = true) : ShowsResult tools r w (r.run tools w) ↔
      ∀ e w', r.Generates tools w (.error e) w' → e.isUnexpected = false := by
  obtain ⟨result, hgenerates, hreports⟩ := Request.exists_generates hr htask tools w
  rw [hjson] at hreports
  have hread := hreports.read?_printed
  constructor
  · intro h e w' hfails
    obtain ⟨rfl, -⟩ := hgenerates.unique hr hfails
    exact hread.1 (h _ _ hfails).1 e rfl
  · intro h result' w' hends
    obtain ⟨rfl, rfl⟩ := hgenerates.unique hr hends
    refine ⟨hread.2 ?_, ?_⟩
    · rintro e rfl
      exact h e _ hgenerates
    · rintro files rfl
      exact hgenerates.nodup

theorem tree_run_of_inspect (htask : r.task = .inspect) : (r.run tools w).1.tree = w.tree := by
  unfold Request.run Request.action
  rw [htask]
  dsimp only
  cases r.project w.tree with
  | error e => rfl
  | ok p =>
    have hreads : (p.view tools).OnlyReads :=
      .bind (Project.onlyReads_describe tools p) fun d => fun w => ⟨rfl, rfl⟩
    have huntouched := hreads w
    dsimp only
    obtain ⟨x, w', hview⟩ := Action.exists_outcome (p.view tools) w
    rw [hview] at huntouched ⊢
    cases x <;> exact huntouched.tree

/-- **The exit status tells the truth.** The object that is asked for does so too, as long as every
error is an expected one. A view changes no file. The compiler prints nothing here, and the output
takes every character. -/
theorem runLine_tellsTruth (tools : Tools) (w : Workspace) (h : Request.read args = .ok r) :
    (r.task = .generate → TellsTruth tools r w (runLine tools args w) ∧
      (r.json = true → (ShowsResult tools r w (runLine tools args w) ↔
        ∀ e w', r.Generates tools w (.error e) w' → e.isUnexpected = false))) ∧
    (r.task = .inspect → (runLine tools args w).1.tree = w.tree) := by
  have hr := Request.complete_of_read h
  rw [runLine_of_read h]
  exact ⟨fun htask => ⟨tellsTruth_run hr htask, showsResult_run_iff hr htask⟩,
    tree_run_of_inspect⟩

end Lines

/-- A request for an object, for the header of the signature alone. -/
def signatureLine : List String := ["generate", "--json", "h/NiFpga_M.h"]

theorem read_signatureLine :
    ∃ r, Request.read signatureLine = .ok r ∧ r.task = .generate ∧ r.json = true := by
  obtain ⟨r, hr⟩ := exists_of_toBool (x := Request.read signatureLine) (by decide +kernel)
  have hoptions : (Request.read signatureLine).toOption.map (fun r => (r.task, r.json)) =
      some (.generate, true) := by decide +kernel
  rw [hr] at hoptions
  obtain ⟨htask, hjson⟩ := Prod.mk.inj (Option.some.inj hoptions)
  exact ⟨r, hr, htask, hjson⟩

theorem runLine_tellsTruth_signature : ∃ r, Request.read signatureLine = .ok r ∧
    r.task = .generate ∧ r.json = true ∧
    TellsTruth (signatureTools 0) r signatureFiles
      (runLine (signatureTools 0) signatureLine signatureFiles) ∧
    ShowsResult (signatureTools 0) r signatureFiles
      (runLine (signatureTools 0) signatureLine signatureFiles) := by
  obtain ⟨r, hr, htask, hjson⟩ := read_signatureLine
  obtain ⟨htells, hshows⟩ :=
    (runLine_tellsTruth (signatureTools 0) signatureFiles hr).1 htask
  refine ⟨r, hr, htask, hjson, htells, (hshows hjson).2 fun e w' hfails => ?_⟩
  -- the build returns, so that nothing fails
  have hstatus : exitStatus (runLine (signatureTools 0) signatureLine signatureFiles).2 = 0 := by
    decide +kernel
  obtain ⟨files, w'', hreturns⟩ := htells.success.1 hstatus
  cases (hreturns.unique (Request.complete_of_read hr) hfails).1

/-- A preprocessor that always answers an enumeration with a pragma in it. -/
def pragmaTools : Tools where
  preprocess _ _ :=
    .ok "typedef enum \x7b\n#pragma p\n NiFpga_M_ControlU8_A = 1 \x7d NiFpga_M_ControlU8;"
  compile _ := .ok ()

theorem not_showsResult_pragma : ∃ r, Request.read signatureLine = .ok r ∧
    r.task = .generate ∧ r.json = true ∧
    exitStatus (runLine pragmaTools signatureLine signatureFiles).2 = 1 ∧
    ¬ ShowsResult pragmaTools r signatureFiles
      (runLine pragmaTools signatureLine signatureFiles) := by
  obtain ⟨r, hr, htask, hjson⟩ := read_signatureLine
  have hstatus : exitStatus (runLine pragmaTools signatureLine signatureFiles).2 = 1 := by
    decide +kernel
  have hprinted : printed (runLine pragmaTools signatureLine signatureFiles).2 = "" := by
    decide +kernel
  have hread : Json.read? "" = none := by decide +kernel
  refine ⟨r, hr, htask, hjson, hstatus, fun h => ?_⟩
  obtain ⟨result, hgenerates, -⟩ :=
    Request.exists_generates (Request.complete_of_read hr) htask pragmaTools signatureFiles
  have hshown := (h _ _ hgenerates).1
  rw [hprinted, hread] at hshown
  cases hshown

end FpgaInterface
