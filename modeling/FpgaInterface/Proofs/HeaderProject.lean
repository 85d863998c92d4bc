import FpgaInterface.Proofs.FilePlace
import FpgaInterface.Proofs.RequestOutcome

/-!
# The files of a project

* `Project.OfHeader` : a project as its header gives it, with the sources beside it. All projects
  that are made of a header are so (`Project.ofHeader_of_ofHeaderWith`,
  `Request.ofHeader_of_project`);
* `Project.inputs` : the header and the sources. They are files of one folder, and no source has the
  name of what is built (`Project.OfHeader.exists_child`).
-/

namespace FpgaInterface

namespace Project

variable {tree : FileTree} {header : Path} {p q : Project} {interface : String}

/-- A project is as its header gives it: with its interface, and the sources beside it. -/
structure OfHeader (p : Project) : Prop where
  named : interfaceOf? p.header = some p.interface
  common : p.commonSource = p.header.parent.join (Path.ofText (vendorWord ++ ".c"))
  own : ∀ source ∈ p.ownSource, source = ownSourceBeside p.header p.interface

/-- The sources of a project, and the one of the interface also where it is not there. -/
def sourcesBeside (p : Project) : List Path :=
  p.sources ++ [ownSourceBeside p.header p.interface]

def inputs (p : Project) : List Path := p.header :: p.sourcesBeside

/-! ## Names of files -/

theorem stemOf_prefix (cs : List Char) : Path.stemOf cs <+: cs := by
  unfold Path.stemOf
  dsimp only
  split
  · exact List.take_prefix ..
  · exact List.prefix_rfl

theorem exists_ending (h : interfaceOf? header = some interface) :
    ∃ ending, header.name.toList = headerStart.toList ++ interface.toList ++ ending := by
  unfold interfaceOf? at h
  dsimp only at h
  split at h
  · next hstart =>
    obtain rfl := Option.some.inj h
    have hprefix : headerStart.toList <+: header.stem.toList :=
      List.isPrefixOf_iff_prefix.1 (Bool.and_eq_true_iff.1 hstart).1
    have hstem : headerStart.toList ++ header.stem.toList.drop headerStart.toList.length =
        header.stem.toList := List.prefix_iff_eq_append.1 hprefix
    obtain ⟨ending, hending⟩ := stemOf_prefix header.name.toList
    refine ⟨ending, ?_⟩
    rw [String.toList_ofList, hstem, Path.stem, String.toList_ofList, hending]
  · cases h

theorem head?_of_vendor {name : String} {rest : List Char}
    (h : name.toList = vendorWord.toList ++ rest) : name.toList.head? = some 'N' := by
  rw [h]
  rfl

/-- A name that begins like those of the vendor is one of a file if no slash is in it. -/
theorem isFileName_of_vendor {name : String} (rest : List Char)
    (h : name.toList = vendorWord.toList ++ rest) (hslash : '/' ∉ rest) : Path.IsFileName name := by
  have hhead := head?_of_vendor h
  refine ⟨?_, ?_, ?_, ?_⟩
  · rintro rfl
    cases hhead
  · rintro rfl
    exact absurd hhead (by decide)
  · rintro rfl
    exact absurd hhead (by decide)
  · rw [h, List.mem_append, not_or]
    exact ⟨by decide, hslash⟩

/-- The name of a file that is made of the interface: the vendor word, the interface and an
ending. -/
theorem isFileName_of_interface (ending : String) (hinterface : '/' ∉ interface.toList)
    (hending : '/' ∉ ending.toList) : Path.IsFileName (headerStart ++ interface ++ ending) := by
  refine isFileName_of_vendor ('_' :: (interface.toList ++ ending.toList)) ?_ ?_
  · simp only [headerStart, String.toList_append, List.append_assoc]
    rfl
  · simp [hinterface, hending]

theorem isFileName_common : Path.IsFileName (vendorWord ++ ".c") :=
  isFileName_of_vendor ['.', 'c'] (by decide +kernel) (by decide)

theorem getLast?_moduleFile (interface : String) :
    (moduleFile interface).toList.getLast? = some 'y' := by
  have hend : ".py".toList = ['.', 'p', 'y'] := by decide +kernel
  rw [moduleFile, String.toList_append, hend, List.getLast?_append]
  rfl

theorem ne_moduleFile {name : String} (h : name.toList.getLast? = some 'c') (interface : String) :
    name ≠ moduleFile interface := by
  rintro rfl
  rw [getLast?_moduleFile] at h
  cases h

theorem getLast?_source (front : String) : (front ++ ".c").toList.getLast? = some 'c' := by
  have hend : ".c".toList = ['.', 'c'] := by decide +kernel
  rw [String.toList_append, hend, List.getLast?_append]
  rfl

theorem ne_libraryFile {name : String} (rest : List Char)
    (h : name.toList = vendorWord.toList ++ rest) : name ≠ libraryFile := by
  rintro rfl
  exact absurd (head?_of_vendor h) (by decide)

namespace OfHeader

variable (h : p.OfHeader) (hslash : '/' ∉ p.header.name.toList)

include h

theorem exists_name : ∃ rest, p.header.name.toList = vendorWord.toList ++ rest := by
  obtain ⟨ending, hname⟩ := exists_ending h.named
  refine ⟨'_' :: (p.interface.toList ++ ending), hname.trans ?_⟩
  simp only [headerStart, String.toList_append, List.append_assoc]
  rfl

theorem child_parent : p.header.parent.child p.header.name = p.header := by
  refine Path.child_parent fun hnil => ?_
  obtain ⟨rest, hname⟩ := h.exists_name
  have hhead := head?_of_vendor hname
  rw [Path.name, hnil] at hhead
  cases hhead

theorem header_ne_libraryFile : p.header.name ≠ libraryFile := by
  obtain ⟨rest, hname⟩ := h.exists_name
  exact ne_libraryFile rest hname

include hslash

theorem slash_interface : '/' ∉ p.interface.toList := by
  obtain ⟨ending, hname⟩ := exists_ending h.named
  rw [hname, List.mem_append, List.mem_append, not_or, not_or] at hslash
  exact hslash.1.2

theorem isFileName_header : Path.IsFileName p.header.name := by
  obtain ⟨rest, hname⟩ := h.exists_name
  refine isFileName_of_vendor rest hname fun hrest => hslash ?_
  rw [hname]
  exact List.mem_append_right _ hrest

theorem isFileName_module : Path.IsFileName (moduleFile p.interface) :=
  isFileName_of_interface ".py" (h.slash_interface hslash) (by decide)

/-- The sources are files beside the header. None has the name of what is built. -/
theorem exists_child {source : Path} (hsource : source ∈ p.sourcesBeside) :
    ∃ name, source = p.header.parent.child name ∧ Path.IsFileName name ∧ name ≠ libraryFile ∧
      name ≠ moduleFile p.interface := by
  have hcommon : ∃ name, p.commonSource = p.header.parent.child name ∧ Path.IsFileName name ∧
      name ≠ libraryFile ∧ name ≠ moduleFile p.interface :=
    ⟨vendorWord ++ ".c", h.common.trans (Path.join_ofText isFileName_common _), isFileName_common,
      ne_libraryFile ['.', 'c'] (by decide +kernel), ne_moduleFile (getLast?_source _) _⟩
  have hown : ∃ name, ownSourceBeside p.header p.interface = p.header.parent.child name ∧
      Path.IsFileName name ∧ name ≠ libraryFile ∧ name ≠ moduleFile p.interface := by
    have hname := isFileName_of_interface ".c" (h.slash_interface hslash) (by decide)
    refine ⟨_, Path.join_ofText hname _, hname, ?_, ne_moduleFile (getLast?_source _) _⟩
    exact ne_libraryFile ('_' :: (p.interface.toList ++ ".c".toList))
      (by simp only [headerStart, String.toList_append, List.append_assoc]; rfl)
  rcases List.mem_append.1 hsource with hsource | hsource
  · rcases List.mem_cons.1 hsource with rfl | hsource
    · exact hcommon
    · rw [h.own source (Option.mem_toList.1 hsource)]
      exact hown
  · rw [List.mem_singleton.1 hsource]
    exact hown

theorem exists_child_of_mem_inputs {file : Path} (hfile : file ∈ p.inputs) :
    ∃ name, file = p.header.parent.child name ∧ Path.IsFileName name ∧ name ≠ libraryFile := by
  rcases List.mem_cons.1 hfile with rfl | hsource
  · exact ⟨_, h.child_parent.symm, h.isFileName_header hslash, h.header_ne_libraryFile⟩
  · obtain ⟨name, rfl, hname, hlibrary, -⟩ := h.exists_child hslash hsource
    exact ⟨name, rfl, hname, hlibrary⟩

end OfHeader

/-! ## Projects of headers -/

theorem ofHeader_of_ofHeader (h : ofHeader tree header = .ok p) :
    p.OfHeader ∧ p.header = header := by
  unfold ofHeader at h
  split at h
  · cases h
  · next interface hnamed =>
    dsimp only at h
    split at h
    · cases h
    · next found hfound =>
      cases h
      refine ⟨⟨hnamed, rfl, fun source hsource => ?_⟩, rfl⟩
      dsimp only at hsource
      split at hsource
      · exact (Option.some.inj hsource).symm
      · cases hsource

section Options

variable {options args : Arguments} {name : String} {v : Value} {α : Type} {r : Reader α} {a : α}

/-- The names of the fields that the header decides are not those of others in capitals. -/
theorem camelCase_ne : ∀ field ∈ projectFields, ∀ name ∈ projectFields.take 4,
    camelCase field ≠ name := by decide +kernel

/-- Where no key is left over, a field that the header decides is read from its own name. -/
theorem required_of_lookup (hextra : extraKeys args projectFields = [])
    (hname : name ∈ projectFields.take 4) (hlookup : args.lookup name = some v)
    (h : required args name r = .ok a) : r v = .ok a := by
  have hused : (projectFields.filterMap (keyOf? args)).contains name = true := by
    have hall := List.filter_eq_nil_iff.1 (List.map_eq_nil_iff.1 hextra)
    obtain ⟨before, after, rfl, -⟩ := List.lookup_eq_some_iff.1 hlookup
    simpa using hall (name, v) (List.mem_append_right _ List.mem_cons_self)
  obtain ⟨field, hfield, hkey⟩ := List.mem_filterMap.1 (List.contains_iff_mem.1 hused)
  have hself : keyOf? args name = some name := by
    unfold keyOf? at hkey
    split at hkey
    · exact absurd (Option.some.inj hkey) (camelCase_ne field hfield name hname)
    · next hother =>
      split at hkey
      · obtain rfl := Option.some.inj hkey
        unfold keyOf?
        rw [if_neg hother, if_pos ‹_›]
      · cases hkey
  unfold required at h
  rw [hself] at h
  dsimp only at h
  rw [hlookup] at h
  dsimp only at h
  split at h
  · next a' hr => rw [hr, Except.ok.inj h]
  · cases h

theorem required_of_withDefault {d : α} (hlookup : args.lookup name = some v)
    (h : withDefault args name r d = .ok a) : required args name r = .ok a := by
  unfold withDefault at h
  split at h
  · next hnone =>
    unfold keyOf? at hnone
    rw [hlookup] at hnone
    split at hnone <;> cases hnone
  · exact h

theorem fields_of_ofArguments (h : ofArguments args = .ok p) :
    extraKeys args projectFields = [] ∧
      required args "interface_name" Reader.text = .ok p.interface ∧
      required args "custom_h" Reader.file = .ok p.header ∧
      required args "common_c" Reader.file = .ok p.commonSource ∧
      withDefault args "custom_c" (Reader.optional Reader.file) none = .ok p.ownSource := by
  unfold ofArguments at h
  dsimp only at h
  split at h
  · next hinterface hheader hcommon hown _ _ _ _ _ hextra =>
    cases h
    exact ⟨hextra, hinterface, hheader, hcommon, hown⟩
  · cases h

theorem file_of_text {path q : Path} (hnormal : path.IsNormal)
    (h : Reader.file (.text path.text) = .ok q) : q = path := by
  obtain rfl := Except.ok.inj h
  exact Path.ofText_text hnormal

/-- Options change neither the header of a project nor its sources. -/
theorem ofHeader_of_ofHeaderWith {text : String}
    (h : ofHeaderWith tree (Path.ofText text) options = .ok p) :
    p.OfHeader ∧ p.header = Path.ofText text := by
  unfold ofHeaderWith at h
  by_cases htwice : (options.lookup "header").isSome = true
  · rw [if_pos htwice] at h
    cases h
  rw [if_neg htwice] at h
  obtain ⟨q, hq, h⟩ := bind_eq_ok_iff.1 h
  obtain ⟨hofHeader, hheader⟩ := ofHeader_of_ofHeader hq
  split at h
  · cases h
  · obtain ⟨hextra, hinterface', hheader', hcommon', hown'⟩ :=
      fields_of_ofArguments (mapError_eq_ok_iff.1 h)
    have hnormal : q.header.IsNormal := hheader ▸ Path.isNormal_ofText text
    have hinterface : Reader.text (.text q.interface) = .ok p.interface :=
      required_of_lookup hextra (by decide) rfl hinterface'
    have hsame : p.header = q.header :=
      file_of_text hnormal (required_of_lookup hextra (by decide) rfl hheader')
    have hcommon : p.commonSource = q.commonSource := by
      refine file_of_text ?_ (required_of_lookup hextra (by decide) rfl hcommon')
      rw [hofHeader.common]
      exact hnormal.parent.join (Path.isNormal_ofText _)
    have hown : ∀ source ∈ p.ownSource, source ∈ q.ownSource := by
      have hread := required_of_lookup hextra (by decide) rfl
        (required_of_withDefault rfl hown')
      cases hsource : q.ownSource with
      | none =>
        rw [hsource] at hread
        rw [← Except.ok.inj hread]
        exact fun _ h => h
      | some file =>
        have hfile : file.IsNormal := by
          rw [hofHeader.own file hsource]
          exact hnormal.parent.join (Path.isNormal_ofText _)
        rw [hsource] at hread
        rw [← Except.ok.inj hread, Path.ofText_text hfile]
        exact fun _ h => h
    have hnamed : q.interface = p.interface := Except.ok.inj hinterface
    refine ⟨⟨?_, ?_, fun source hsource => ?_⟩, hsame.trans hheader⟩
    · rw [hsame, ← hnamed, hofHeader.named]
    · rw [hcommon, hsame, hofHeader.common]
    · rw [hsame, ← hnamed]
      exact hofHeader.own source (hown source hsource)

end Options

end Project

/-! ## Projects of requests -/

namespace Path

theorem slash_name {p : Path} (h : ∀ name ∈ p.names, '/' ∉ name.toList) : '/' ∉ p.name.toList := by
  unfold name
  cases hlast : p.names.getLast? with
  | none => exact List.not_mem_nil
  | some last => exact h last (List.mem_of_getLast? hlast)

theorem slash_name_ofText (s : String) : '/' ∉ (ofText s).name.toList :=
  slash_name fun name hname => ((isNormal_ofText s).names name hname).2.2

theorem name_join {p q : Path} (h : q.names ≠ []) : (p.join q).name = q.name := by
  unfold join
  split
  · rfl
  · rw [name, name, List.getLast?_append_of_ne_nil _ h]

theorem join_of_nil {p q : Path} (habsolute : q.isAbsolute = false) (h : q.names = []) :
    p.join q = p := by
  rw [join, habsolute, h, List.append_nil]
  rfl

end Path

theorem exists_of_required {α : Type} {args : Arguments} {name : String} {r : Reader α} {a : α}
    (h : required args name r = .ok a) : ∃ v, r v = .ok a := by
  unfold required at h
  split at h
  · cases h
  · split at h
    · cases h
    · next v _ =>
      split at h
      · next a' hr => exact ⟨v, hr.trans h⟩
      · cases h

theorem exists_text_of_header {rows : List (Value × Value)} {c : Config}
    (h : Config.ofRows rows = .ok c) : ∃ s, c.header = Path.ofText s := by
  unfold Config.ofRows at h
  dsimp only at h
  split at h
  · next hheader _ _ _ _ _ _ =>
    cases h
    obtain ⟨v, hv⟩ := exists_of_required hheader
    cases v with
    | text s => exact ⟨s, (Except.ok.inj hv).symm⟩
    | _ => cases hv
  · cases h

/-- A file that is the header of a build file has no slash in its name: it is not the folder of the
build file. -/
theorem slash_of_configured {tree : FileTree} {file : Path} {c c' : Content} {s : String}
    (hbuild : tree.find (buildFilePath tree file) = .ok (.file c))
    (h : tree.find ((buildFilePath tree file).parent.join (Path.ofText s)) = .ok (.file c')) :
    '/' ∉ ((buildFilePath tree file).parent.join (Path.ofText s)).name.toList := by
  by_cases hnames : (Path.ofText s).names = []
  · cases habsolute : (Path.ofText s).isAbsolute with
    | true =>
      rw [Path.join, if_pos habsolute]
      exact Path.slash_name_ofText s
    | false =>
      rw [Path.join_of_nil habsolute hnames] at h ⊢
      by_cases hroot : (buildFilePath tree file).names = []
      · rw [Path.name, Path.parent, hroot]
        exact List.not_mem_nil
      · rw [← Path.child_parent hroot] at hbuild
        obtain ⟨here, hhere⟩ := FileTree.exists_hasFolder_of_find hbuild
        exact absurd h hhere.find_ne
  · rw [Path.name_join hnames]
    exact Path.slash_name_ofText s

/-- The project of a request is as its header gives it. -/
theorem Request.ofHeader_of_project {tree : FileTree} {r : Request} {p : Project}
    (h : r.project tree = .ok p) :
    p.OfHeader ∧ ∀ c, tree.find p.header = .ok (.file c) → '/' ∉ p.header.name.toList := by
  unfold Request.project at h
  cases hconfig : r.config with
  | none =>
    rw [hconfig] at h
    obtain ⟨q, hq, hp⟩ := bind_eq_ok_iff.1 h
    cases hp
    obtain ⟨hof, hheader⟩ := Project.ofHeader_of_ofHeader (mapError_eq_ok_iff.1 hq)
    refine ⟨⟨hof.named, hof.common, hof.own⟩, fun _ _ => ?_⟩
    dsimp only
    rw [hheader]
    exact Path.slash_name_ofText _
  | some file =>
    rw [hconfig] at h
    obtain ⟨q, hq, hp⟩ := bind_eq_ok_iff.1 h
    cases hp
    obtain ⟨-, s, rows, c, hbuild, -, hrows, hproject⟩ :=
      loadConfig_eq_ok_iff.1 (mapError_eq_ok_iff.1 hq)
    obtain ⟨q', hq', rfl⟩ := Config.project_eq_ok_iff.1 hproject
    obtain ⟨hof, hheader⟩ := Project.ofHeader_of_ofHeader hq'
    obtain ⟨text, htext⟩ := exists_text_of_header hrows
    refine ⟨⟨hof.named, hof.common, hof.own⟩, fun c' hfind => ?_⟩
    dsimp only at hfind ⊢
    rw [hheader, htext] at hfind ⊢
    exact slash_of_configured hbuild hfind

end FpgaInterface
