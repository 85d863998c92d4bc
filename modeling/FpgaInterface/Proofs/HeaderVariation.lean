import FpgaInterface.Binding.ModuleText
import FpgaInterface.Header.Parse
import FpgaInterface.Header.Preamble
import FpgaInterface.Proofs.Rearrangement
import FpgaInterface.Yaml.Listing

/-!
# Headers in another order, and with more in them

The description of an interface does not depend on the order of a header, nor on declarations that
do not bear on the interface.

* `Typedef.Foreign`, `Unrelated` : type definitions that name no element, and declarations that do
  not bear on an interface;
* `Variation` : another order of the declarations and of the enumerators, and more unrelated
  declarations;
* `Variation.content` : a variation keeps the texts of the signature and the effects of the
  enumerators up to their order;
* `describe_insert` : an unrelated declaration leaves everything as it is, faults included;
* `describe_of_variation` : the description, its listing and its module are those of all variations.
-/

namespace FpgaInterface

variable {interface : String} {tree tree' part : Node}

/-! ## Variations -/

/-- A type definition that names no element: of no enumeration with a body, of another name, or
named for no kind. -/
inductive Typedef.Foreign (interface : String) (t : Typedef) : Prop
  | noBody (h : t.enumItems? = none)
  | noStem (h : ∀ short, t.name ≠ interfaceStem interface ++ short)
  | noKind (short : String) (h : t.name = interfaceStem interface ++ short)
    (hkind : decodeTypeName? short = none)

/-- A declaration that does not bear on an interface: a type definition that names no element and
initialises nothing, or a declaration of something else than the signature that defines no type. -/
inductive Unrelated (interface : String) : Node → Prop
  | typedef (name : String) (type : Node) (hforeign : Typedef.Foreign interface ⟨name, type⟩)
    (hplain : ∀ d ∈ type.declarations, d.init = none) : Unrelated interface (.typedef name type)
  | decl (name : Option String) (quals : List String) (type : Node) (init bits : Option Node)
    (hname : name ≠ some (constantName interface signatureSuffix))
    (hdefines : (Node.decl name quals type init bits).typedefs = []) :
    Unrelated interface (.decl name quals type init bits)

/-- Another order of the declarations of a file and of enumerators, and more declarations that do
not bear on the interface. -/
inductive Variation (interface : String) : Node → Node → Prop
  | reorder {parts parts' : List Node} (pos : Option Position) : parts.Perm parts' →
    Variation interface (.branch .file parts pos) (.branch .file parts' pos)
  | rearrange {n n' : Node} : Rearranged n n' → Variation interface n n'
  | insert (before after : List Node) {part : Node} (pos : Option Position) :
    Unrelated interface part →
    Variation interface (.branch .file (before ++ after) pos)
      (.branch .file (before ++ part :: after) pos)
  | trans {n n' n'' : Node} : Variation interface n n' → Variation interface n' n'' →
    Variation interface n n''

/-! ## Unrelated declarations -/

theorem Typedef.Foreign.use_ne {t : Typedef} (h : t.Foreign interface) (kind : Kind)
    (datatype : String) (items : List EnumItem) :
    t.use interface ≠ .elements kind datatype items := by
  intro huse
  obtain ⟨hitems, hname⟩ := Typedef.items_of_use huse
  cases h with
  | noBody hbody => cases hbody.symm.trans hitems
  | noStem hstem => exact hstem _ hname
  | noKind short hshort hkind =>
    unfold Typedef.use at huse
    rw [hitems, hshort, afterStem?_append] at huse
    simp [hkind] at huse

theorem Typedef.Foreign.exists_skip {t : Typedef} (h : t.Foreign interface) {x : AddressStep}
    (hx : x ∈ t.steps interface) : ∃ note, x = .skip note := by
  unfold Typedef.steps at hx
  split at hx
  · cases hx
  · exact ⟨_, List.mem_singleton.1 hx⟩
  · exact ⟨_, List.mem_singleton.1 hx⟩
  · next kind datatype items huse => exact absurd huse (h.use_ne kind datatype items)

theorem Unrelated.exists_skip (h : Unrelated interface part) {x : AddressStep}
    (hx : x ∈ headerSteps interface part) : ∃ note, x = .skip note := by
  cases h with
  | typedef name type hforeign =>
    rw [headerSteps, Node.typedefs, List.flatMap_singleton] at hx
    exact hforeign.exists_skip hx
  | decl name quals type init bits hname hdefines =>
    rw [headerSteps, hdefines] at hx
    cases hx

theorem Unrelated.effects (h : Unrelated interface part) : part.effects interface = [] := by
  refine List.filterMap_eq_nil_iff.2 fun x hx => ?_
  obtain ⟨note, rfl⟩ := h.exists_skip hx
  rfl

theorem Unrelated.texts (h : Unrelated interface part) :
    part.texts (constantName interface signatureSuffix) = [] := by
  cases h with
  | typedef name type hforeign hplain =>
    rw [texts_typedef]
    refine List.filterMap_eq_nil_iff.2 fun d hd => ?_
    obtain ⟨declared, quals, init⟩ := d
    obtain rfl : init = none := hplain _ hd
    rw [textFor?_eq]
    rfl
  | decl name quals type init bits hname hdefines =>
    rw [texts_decl, textFor?_eq]
    cases init.bind Node.literal? <;> simp [hname]

/-! ## The content of a variation -/

theorem Variation.content (h : Variation interface tree tree') :
    (tree.texts (constantName interface signatureSuffix)).Perm
        (tree'.texts (constantName interface signatureSuffix)) ∧
      (tree.effects interface).Perm (tree'.effects interface) := by
  induction h with
  | reorder pos hperm =>
    rw [texts_branch, texts_branch, effects_branch, effects_branch]
    exact ⟨hperm.flatMap_right _, hperm.flatMap_right _⟩
  | rearrange h => exact ⟨h.alike.texts _, h.alike.effects _⟩
  | insert before after pos hpart =>
    simp only [texts_branch, effects_branch, List.flatMap_append, List.flatMap_cons, hpart.texts,
      hpart.effects, List.nil_append]
    exact ⟨.rfl, .rfl⟩
  | trans _ _ ih ih' => exact ⟨ih.1.trans ih'.1, ih.2.trans ih'.2⟩

/-- The signature is the first of its texts. -/
theorem signature?_eq_head? (interface : String) (tree : Node) : tree.signature? interface =
    (tree.texts (constantName interface signatureSuffix)).head? := by
  rw [Node.signature?, signatureOf, Node.texts, List.head?_filterMap]

/-! ## The description -/

theorem describe_eq_ok_iff {d : Description} : describe interface tree = .ok d ↔
    (addressProgress interface tree.typedefs).fault = none ∧
      (addressProgress interface tree.typedefs).state = d.registers ∧
      tree.signature? interface = some d.signature := by
  unfold describe Progress.result
  cases (addressProgress interface tree.typedefs).fault with
  | some e => simp [Except.mapError, bind, Except.bind]
  | none =>
    cases tree.signature? interface with
    | none => simp [Except.mapError, bind, Except.bind]
    | some signature =>
      obtain ⟨signature', registers⟩ := d
      simp [Except.mapError, bind, Except.bind, and_comm]

theorem headerSteps_file (interface : String) (parts : List Node) (pos : Option Position) :
    headerSteps interface (.branch .file parts pos) = parts.flatMap (headerSteps interface) := by
  rw [headerSteps, Node.typedefs, typedefsOf_eq_flatMap, List.flatMap_assoc]
  rfl

/-- **An unrelated declaration leaves the description and the faults as they are.** -/
theorem describe_insert (before after : List Node) (pos : Option Position)
    (h : Unrelated interface part) :
    describe interface (.branch .file (before ++ part :: after) pos) =
      describe interface (.branch .file (before ++ after) pos) := by
  have hresult : (addressProgress interface
        (Node.branch .file (before ++ part :: after) pos).typedefs).result =
      (addressProgress interface (Node.branch .file (before ++ after) pos).typedefs).result := by
    show (Progress.along _ _ _ (headerSteps interface _)).result =
      (Progress.along _ _ _ (headerSteps interface _)).result
    rw [Progress.result_along, Progress.result_along, headerSteps_file, headerSteps_file,
      List.flatMap_append, List.flatMap_append, List.flatMap_cons, List.foldlM_append,
      List.foldlM_append]
    congr 1
    funext s
    rw [List.foldlM_append, AddressSet.steps_of_skips s fun x hx => h.exists_skip hx, ok_bind]
  have hsignature : (Node.branch .file (before ++ part :: after) pos).signature? interface =
      (Node.branch .file (before ++ after) pos).signature? interface := by
    rw [signature?_eq_head?, signature?_eq_head?, texts_branch, texts_branch, List.flatMap_append,
      List.flatMap_append, List.flatMap_cons, h.texts, List.nil_append]
  rw [describe, describe, hresult, hsignature]

/-- A declaration of a type without enumerators and initialisers. -/
def Node.isPlainTypedef : Node → Bool
  | typedef name type =>
    (Typedef.enumItems? ⟨name, type⟩).isNone && type.declarations.all (·.init.isNone)
  | _ => false

theorem unrelated_of_isPlainTypedef (interface : String) (h : part.isPlainTypedef = true) :
    Unrelated interface part := by
  cases part with
  | typedef name type =>
    rw [Node.isPlainTypedef, Bool.and_eq_true, Option.isNone_iff_eq_none, List.all_eq_true] at h
    exact .typedef name type (.noBody h.1) fun d hd => Option.isNone_iff_eq_none.1 (h.2 d hd)
  | constant | ident | unary | initList | enum | decl | branch => cases h

/-- The declarations of a file that could be read. -/
def fileParts? : Except Header.SyntaxFault Node → Option (List Node)
  | .ok (.branch .file parts _) => some parts
  | _ => none

theorem exists_of_fileParts? {read : Except Header.SyntaxFault Node} {parts : List Node}
    (h : fileParts? read = some parts) : ∃ pos, read = .ok (.branch .file parts pos) := by
  unfold fileParts? at h
  split at h
  · cases h
    exact ⟨_, rfl⟩
  · cases h

theorem exists_preamble : ∃ declared pos,
    Header.parse "<preprocessed>" Header.preamble = .ok (.branch .file declared pos) ∧
      ∀ part ∈ declared, part.isPlainTypedef = true := by
  have hplain : (fileParts? (Header.parse "<preprocessed>" Header.preamble)).any
      (·.all Node.isPlainTypedef) = true := by
    -- The characters of the lines one by one are quicker to find than those of the whole text.
    have hchars : Header.preamble.toList = Header.preamble.toList := rfl
    conv_rhs at hchars => unfold Header.preamble
    simp only [String.toList_append] at hchars
    rw [Header.parse, Header.tokens, hchars]
    decide +kernel
  obtain ⟨declared, hdeclared, hall⟩ := (Option.any_eq_true _ _).1 hplain
  obtain ⟨pos, hread⟩ := exists_of_fileParts? hdeclared
  exact ⟨declared, pos, hread, List.all_eq_true.1 hall⟩

theorem describe_append_left {declared : List Node} (parts : List Node) (pos : Option Position)
    (h : ∀ part ∈ declared, Unrelated interface part) :
    describe interface (.branch .file (declared ++ parts) pos) =
      describe interface (.branch .file parts pos) := by
  induction declared with
  | nil => rfl
  | cons part rest ih =>
    have hinsert := describe_insert [] (rest ++ parts) pos (h part (List.mem_cons_self ..))
    rw [List.nil_append, List.nil_append] at hinsert
    rw [List.cons_append, hinsert]
    exact ih fun x hx => h x (List.mem_cons_of_mem _ hx)

/-! ## All variations -/

/-- A list of at most one entry has one order. -/
theorem eq_of_perm {α : Type} {xs ys : List α} (h : xs.Perm ys) (hlength : xs.length ≤ 1) :
    xs = ys := by
  match xs with
  | [] => exact h.nil_eq
  | [x] => exact List.singleton_perm.1 h
  | x :: y :: rest => simp at hlength

/-- The declarations that give a name a text. -/
def declaringText (name : String) (tree : Node) : List Declaration :=
  tree.declarations.filter fun d => d.name = some name && isText d.init

theorem length_texts (name : String) (tree : Node) :
    (tree.texts name).length = (declaringText name tree).length := by
  rw [Node.texts, List.length_filterMap_eq_countP, declaringText, ← List.countP_eq_length_filter]
  simp only [textFor?_isSome]

namespace Variation

variable (h : Variation interface tree tree')

include h

theorem signature?_eq
    (hsignature : (declaringText (constantName interface signatureSuffix) tree).length ≤ 1) :
    tree.signature? interface = tree'.signature? interface := by
  have htexts : tree.texts (constantName interface signatureSuffix) =
      tree'.texts (constantName interface signatureSuffix) :=
    eq_of_perm h.content.1 ((length_texts ..).trans_le hsignature)
  rw [signature?_eq_head?, signature?_eq_head?, htexts]

theorem fault_iff : (addressProgress interface tree.typedefs).fault = none ↔
    (addressProgress interface tree'.typedefs).fault = none := by
  simp only [fault_eq_none_iff, passes_iff_effects, h.content.2.mem_iff]

/-- Elements that are each declared once build the same set in any order. -/
theorem state_eq (hok : (addressProgress interface tree.typedefs).fault = none)
    (helements : ((readings interface tree.typedefs).map Reading.location).Nodup) :
    (addressProgress interface tree.typedefs).state =
      (addressProgress interface tree'.typedefs).state := by
  have helements' : ((readings interface tree'.typedefs).map Reading.location).Nodup := by
    rw [← filterMap_effects] at helements ⊢
    exact (h.content.2.filterMap _).nodup_iff.1 helements
  refine SortedMap.ext_get? fun l => Option.ext fun w => ?_
  rw [get?_iff_mem_effects hok helements, get?_iff_mem_effects (h.fault_iff.1 hok) helements',
    h.content.2.mem_iff]

theorem describe_iff
    (helements : ((readings interface tree.typedefs).map Reading.location).Nodup)
    (hsignature : (declaringText (constantName interface signatureSuffix) tree).length ≤ 1)
    (d : Description) : describe interface tree = .ok d ↔ describe interface tree' = .ok d := by
  rw [describe_eq_ok_iff, describe_eq_ok_iff, h.signature?_eq hsignature, ← h.fault_iff]
  refine and_congr_right fun hok => ?_
  rw [h.state_eq hok helements]

end Variation

/-- **A description does not depend on the order of a header**, nor on declarations that do not bear
on the interface, as those of the preamble: if no element and no signature is declared twice, all
variations of a header are described or none, and by the same description, with the same listing and
the same module or fault of it. -/
theorem describe_of_variation (hvariation : Variation interface tree tree')
    (helements : ((readings interface tree.typedefs).map Reading.location).Nodup)
    (hsignature : (declaringText (constantName interface signatureSuffix) tree).length ≤ 1) :
    (Succeeds (describe interface) tree ↔ Succeeds (describe interface) tree') ∧
      (∀ d d', describe interface tree = .ok d → describe interface tree' = .ok d' →
        d = d' ∧ (∀ name, d.listing name = d'.listing name) ∧
          ∀ name, moduleText d name = moduleText d' name) ∧
      ∃ declared pos,
        Header.parse "<preprocessed>" Header.preamble = .ok (.branch .file declared pos) ∧
          ∀ parts pos', describe interface (.branch .file (declared ++ parts) pos') =
            describe interface (.branch .file parts pos') := by
  have hdescribe : ∀ d, describe interface tree = .ok d ↔ describe interface tree' = .ok d :=
    hvariation.describe_iff helements hsignature
  refine ⟨exists_congr hdescribe, fun d d' hd hd' => ?_, ?_⟩
  · have heq : d = d' := Except.ok.inj (((hdescribe d).1 hd).symm.trans hd')
    subst heq
    exact ⟨rfl, fun name => rfl, fun name => rfl⟩
  · obtain ⟨declared, pos, hread, hplain⟩ := exists_preamble
    refine ⟨declared, pos, hread, fun parts pos' => describe_append_left parts pos' ?_⟩
    exact fun part hpart => unrelated_of_isPlainTypedef interface (hplain part hpart)

/-- A declaration of a text. -/
def textDecl (name text : String) : Node :=
  .decl (some name) ["const"] (.branch .type [] none) (some (.constant "string" text none)) none

/-- A header of two controls and an indicator. -/
def gainsHeader : Node :=
  .branch .file
    [textDecl "NiFpga_Main_Signature" "\"A0\"",
      gainEnum "NiFpga_Main_ControlU8" [("Gain", "1"), ("Offset", "0x2")],
      gainEnum "NiFpga_Main_IndicatorU8" [("Gain", "3")]] none

/-- The same header in another order, beside another interface and another text. -/
def variedGainsHeader : Node :=
  .branch .file
    [gainEnum "NiFpga_Main_IndicatorU8" [("Gain", "3")],
      textDecl "NiFpga_Main_Bitfile" "\"Main.lvbitx\"",
      gainEnum "NiFpga_Main_ControlU8" [("Offset", "0x2"), ("Gain", "1")],
      gainEnum "NiFpga_Other_ControlU8" [("Gain", "4")],
      textDecl "NiFpga_Main_Signature" "\"A0\""] none

theorem variation_gainsHeader : Variation "Main" gainsHeader variedGainsHeader := by
  have hitems : Variation "Main" gainsHeader (.branch .file
      [textDecl "NiFpga_Main_Signature" "\"A0\"",
        gainEnum "NiFpga_Main_ControlU8" [("Offset", "0x2"), ("Gain", "1")],
        gainEnum "NiFpga_Main_IndicatorU8" [("Gain", "3")]] none) :=
    .rearrange (.branch .file [_] [_] none (.typedef _ (.items none (List.Perm.swap ..))))
  have horder : ∀ a b c : Node,
      Variation "Main" (.branch .file [a, b, c] none) (.branch .file [c, b, a] none) :=
    fun a b c => .reorder none (List.reverse_perm [a, b, c]).symm
  have htext : Unrelated "Main" (textDecl "NiFpga_Main_Bitfile" "\"Main.lvbitx\"") :=
    .decl _ _ _ _ _ (by decide +kernel) rfl
  have hother : Unrelated "Main" (gainEnum "NiFpga_Other_ControlU8" [("Gain", "4")]) := by
    refine .typedef _ _ (.noStem fun short hname => ?_) fun d hd => absurd hd List.not_mem_nil
    have hnone : afterStem? (interfaceStem "Main") "NiFpga_Other_ControlU8" = none := by
      decide +kernel
    have hsome : afterStem? (interfaceStem "Main") (interfaceStem "Main" ++ short) = some short :=
      afterStem?_append ..
    rw [← hname, hnone] at hsome
    cases hsome
  exact hitems.trans ((horder _ _ _).trans ((Variation.insert [_] [_, _] none htext).trans
    (.insert [_, _, _] [_] none hother)))

theorem describe_of_variation_gainsHeader :
    Variation "Main" gainsHeader variedGainsHeader ∧
      ((readings "Main" gainsHeader.typedefs).map Reading.location).Nodup ∧
      (declaringText (constantName "Main" signatureSuffix) gainsHeader).length ≤ 1 ∧
      ∃ d, describe "Main" gainsHeader = .ok d ∧ d.registers.size = 3 ∧
        describe "Main" variedGainsHeader = .ok d := by
  have helements : ((readings "Main" gainsHeader.typedefs).map Reading.location).Nodup := by
    decide +kernel
  have hsignature : (declaringText (constantName "Main" signatureSuffix) gainsHeader).length ≤ 1 := by
    decide +kernel
  have hsize : (describe "Main" gainsHeader).toOption.any (·.registers.size = 3) = true := by
    decide +kernel
  obtain ⟨hiff, hsame, -⟩ := describe_of_variation variation_gainsHeader helements hsignature
  refine ⟨variation_gainsHeader, helements, hsignature, ?_⟩
  cases hdescribe : describe "Main" gainsHeader with
  | error e =>
    rw [hdescribe] at hsize
    cases hsize
  | ok d =>
    rw [hdescribe] at hsize
    obtain ⟨d', hd'⟩ := hiff.1 ⟨d, hdescribe⟩
    obtain ⟨rfl, -, -⟩ := hsame d d' hdescribe hd'
    exact ⟨d, rfl, of_decide_eq_true hsize, hd'⟩

end FpgaInterface
