import FpgaInterface.Extract.Interface
import FpgaInterface.Proofs.ConstantName
import FpgaInterface.Proofs.CustomTypeFields
import FpgaInterface.Proofs.ElementCount

/-!
# Interfaces are told apart by their names

An identifier belongs to an interface if it starts with the stem of the interface and the rest reads
as an element. The stem of one name may start that of another one.

* `StartsWithTag` : what is left of the name of a type definition that holds elements
  (`Typedef.isOf_iff`);
* `Declaration.IsConstantOf`, `Declaration.IsSignatureOf` : declarations that an interface reads;
* `GoesOnWithTag`, `GoesOnWithElement` : one name is the other one, an underscore and something that
  reads as the start of an element;
* `ElementsOf` : a tree in which everything that reads as an element of some interface is one of a
  given interface;
* `isolated_iff` : which interfaces are isolated from which.
-/

namespace FpgaInterface

variable {A B : String}

/-! ## Type definitions -/

theorem StartsWithTag.append {s : String} (h : StartsWithTag s) (rest : String) :
    StartsWithTag (s ++ rest) := by
  obtain ⟨k, hk⟩ := h
  refine ⟨k, ?_⟩
  rw [String.toList_append]
  exact hk.trans (List.prefix_append ..)

/-- A tag has no underscore, so it ends before one. -/
theorem StartsWithTag.of_append {s rest : String} (h : StartsWithTag (s ++ "_" ++ rest)) :
    StartsWithTag s := by
  obtain ⟨k, hk⟩ := h
  have htag : '_' ∉ k.tag.toList := by cases k <;> decide
  refine ⟨k, ?_⟩
  rw [String.toList_append, String.toList_append, List.append_assoc] at hk
  rcases List.prefix_or_prefix_of_prefix hk (List.prefix_append ..) with h | ⟨tail, htail⟩
  · exact h
  · rw [← htail, List.prefix_append_right_inj] at hk
    rw [← htail, List.mem_append, not_or] at htag
    cases tail with
    | nil =>
      rw [List.append_nil] at htail
      exact htail ▸ List.prefix_rfl
    | cons c tail =>
      obtain ⟨rfl, -⟩ := List.cons_prefix_cons.1 hk
      exact absurd (List.mem_cons_self ..) htag.2

/-- A type definition holds elements of an interface. -/
def Typedef.IsOf (interface : String) (t : Typedef) : Prop :=
  ∃ kind datatype items, t.use interface = .elements kind datatype items

theorem Typedef.isOf_iff {interface : String} {t : Typedef} :
    t.IsOf interface ↔ t.enumItems? ≠ none ∧
      ∃ short, StartsWithTag short ∧ t.name = interfaceStem interface ++ short := by
  constructor
  · rintro ⟨kind, datatype, items, huse⟩
    obtain ⟨hitems, hname⟩ := items_of_use huse
    refine ⟨by simp [hitems], typeName kind datatype, ⟨kind, ?_⟩, hname⟩
    rw [typeName_toList]
    exact List.prefix_append ..
  · rintro ⟨hitems, short, htag, hname⟩
    obtain ⟨items, hitems⟩ := Option.ne_none_iff_exists'.1 hitems
    obtain ⟨⟨kind, datatype⟩, hdecode⟩ :=
      Option.ne_none_iff_exists'.1 (decodeTypeName?_ne_none_iff.2 htag)
    exact ⟨kind, datatype, items, by simp only [use, hitems, hname, afterStem?_append, hdecode]⟩

/-! ## Constants -/

def Declaration.IsConstantOf (interface : String) (d : Declaration) : Prop :=
  d.customConstant? (interfaceStem interface) ≠ none

def Declaration.IsSignatureOf (interface : String) (d : Declaration) : Prop :=
  textFor? (constantName interface signatureSuffix) d ≠ none

theorem Declaration.isConstantOf_iff {interface : String} {d : Declaration} :
    d.IsConstantOf interface ↔ "const" ∈ d.quals ∧
      ∃ c : ConstantName, c.Separate ∧ d.name = some (c.text (interfaceStem interface)) := by
  rw [IsConstantOf, customConstant?, Ne, Option.map_eq_none_iff, constantName?]
  split
  · next hquals =>
    rw [List.contains_iff_mem] at hquals
    rw [← Ne, Option.ne_none_iff_exists']
    constructor
    · rintro ⟨p, h⟩
      obtain ⟨name, hname, h⟩ := Option.bind_eq_some_iff.1 h
      obtain ⟨c, hc, -⟩ := Option.bind_eq_some_iff.1 h
      obtain ⟨hseparate, rfl⟩ := ConstantName.ofText?_eq_some_iff.1 hc
      exact ⟨hquals, c, hseparate, hname⟩
    · rintro ⟨-, c, hseparate, hname⟩
      refine ⟨(c.text (interfaceStem interface), c), ?_⟩
      simp [hname, ConstantName.ofText?_eq_some_iff.2 ⟨hseparate, rfl⟩]
  · next hquals =>
    rw [List.contains_iff_mem] at hquals
    simp [hquals]

theorem Declaration.isSignatureOf_iff {interface : String} {d : Declaration} :
    d.IsSignatureOf interface ↔
      d.name = some (constantName interface signatureSuffix) ∧ isText d.init = true := by
  have htext : isText d.init = true → (textOf d.init).toOption ≠ none := by
    unfold isText textOf
    split
    · intro h
      simp [h, Except.toOption]
    · nofun
  unfold IsSignatureOf textFor?
  split
  · next h =>
    rw [Bool.and_eq_true, decide_eq_true_eq] at h
    exact iff_of_true (htext h.2) h
  · next h =>
    rw [Bool.and_eq_true, decide_eq_true_eq] at h
    exact iff_of_false (· rfl) h

/-! ## Names that share a declaration -/

/-- The name `B` is `A` and, behind an underscore, the start of the name of a type definition. -/
def GoesOnWithTag (A B : String) : Prop := ∃ rest, StartsWithTag rest ∧ B = A ++ "_" ++ rest

/-- The name `B` is `A` and, behind underscores, a class and an element. -/
def GoesOnWithElement (A B : String) : Prop :=
  ∃ c n, IsPart c ∧ IsPart n ∧ B = A ++ "_" ++ c ++ "_" ++ n

/-- The last part of a name stands behind its last underscore. -/
theorem eq_of_append_part {x y p q : String} (hp : '_' ∉ p.toList) (hq : '_' ∉ q.toList)
    (h : x ++ "_" ++ p = y ++ "_" ++ q) : x = y ∧ p = q := by
  have hpart : p = q := by
    rw [← elementName_append x hp, h, elementName_append y hq]
  subst hpart
  exact ⟨(String.append_left_inj _).1 ((String.append_left_inj _).1 h), rfl⟩

theorem eq_or_goesOn_of_append {as : List Char} {s s' : String} (hB : B.toList = A.toList ++ as)
    (hs : "_".toList ++ s.toList = as ++ ("_".toList ++ s'.toList)) :
    A = B ∨ ∃ rest, B = A ++ "_" ++ rest ∧ s = rest ++ "_" ++ s' := by
  cases as with
  | nil =>
    rw [List.append_nil] at hB
    exact .inl (String.toList_inj.1 hB.symm)
  | cons c rest =>
    obtain ⟨rfl, htail⟩ : '_' = c ∧ s.toList = rest ++ ("_".toList ++ s'.toList) := List.cons.inj hs
    refine .inr ⟨String.ofList rest, ?_, ?_⟩
    · rw [← String.toList_inj, hB]
      simp
    · rw [← String.toList_inj, htail]
      simp

/-- Of two starts of a text that end before an underscore, one goes on after the other. -/
theorem eq_or_goesOn {s s' : String} (h : A ++ "_" ++ s = B ++ "_" ++ s') :
    A = B ∨ (∃ rest, B = A ++ "_" ++ rest ∧ s = rest ++ "_" ++ s') ∨
      ∃ rest, A = B ++ "_" ++ rest ∧ s' = rest ++ "_" ++ s := by
  simp only [← String.toList_inj, String.toList_append, List.append_assoc] at h
  rcases List.append_eq_append_iff.1 h with ⟨as, hB, hs⟩ | ⟨bs, hA, hs⟩
  · exact (eq_or_goesOn_of_append hB hs).imp_right .inl
  · rcases eq_or_goesOn_of_append hA hs with heq | hrest
    · exact .inl heq.symm
    · exact .inr (.inr hrest)

theorem interfaceStem_append (interface s : String) :
    interfaceStem interface ++ s = vendorWord ++ "_" ++ (interface ++ "_" ++ s) := by
  simp only [interfaceStem, String.append_assoc]

theorem exists_shared_typeName_iff :
    (∃ s s', StartsWithTag s ∧ StartsWithTag s' ∧ interfaceStem A ++ s = interfaceStem B ++ s') ↔
      A = B ∨ GoesOnWithTag A B ∨ GoesOnWithTag B A := by
  constructor
  · rintro ⟨s, s', hs, hs', h⟩
    rw [interfaceStem_append, interfaceStem_append] at h
    rcases eq_or_goesOn ((String.append_right_inj _).1 h) with
      rfl | ⟨rest, hB, rfl⟩ | ⟨rest, hA, rfl⟩
    · exact .inl rfl
    · exact .inr (.inl ⟨rest, hs.of_append, hB⟩)
    · exact .inr (.inr ⟨rest, hs'.of_append, hA⟩)
  · have hcontrol : StartsWithTag "Control" := ⟨.control, List.prefix_rfl⟩
    rintro (rfl | ⟨rest, hrest, rfl⟩ | ⟨rest, hrest, rfl⟩)
    · exact ⟨_, _, hcontrol, hcontrol, rfl⟩
    · refine ⟨rest ++ ("_" ++ "Control"), "Control", hrest.append _, hcontrol, ?_⟩
      simp only [interfaceStem_append, String.append_assoc]
    · refine ⟨"Control", rest ++ ("_" ++ "Control"), hcontrol, hrest.append _, ?_⟩
      simp only [interfaceStem_append, String.append_assoc]

theorem text_interfaceStem (interface : String) (c : ConstantName) :
    c.text (interfaceStem interface) = vendorWord ++ "_" ++ interface ++ "_" ++
      c.elementClass ++ "_" ++ c.name ++ "_" ++ c.field := by
  simp only [ConstantName.text, interfaceStem]

theorem eq_of_text_eq {c c' : ConstantName} (hc : c.Separate) (hc' : c'.Separate)
    (h : c.text (interfaceStem A) = c'.text (interfaceStem B)) : A = B := by
  rw [text_interfaceStem, text_interfaceStem] at h
  -- three parts from the end; what is left is the interface
  obtain ⟨h, -⟩ := eq_of_append_part hc.field.2 hc'.field.2 h
  obtain ⟨h, -⟩ := eq_of_append_part hc.name.2 hc'.name.2 h
  obtain ⟨h, -⟩ := eq_of_append_part hc.elementClass.2 hc'.elementClass.2 h
  exact (String.append_right_inj _).1 h

theorem isPart_signatureSuffix : IsPart signatureSuffix := ⟨by decide, by decide⟩

theorem constantName_inj (h : constantName A signatureSuffix = constantName B signatureSuffix) :
    A = B := by
  simp only [constantName, interfaceStem, String.append_left_inj, String.append_right_inj] at h
  exact h

/-- The name of a signature is that of a constant of an interface whose name ends before a class and
an element. -/
theorem exists_text_eq_constantName_iff :
    (∃ c : ConstantName, c.Separate ∧
        c.text (interfaceStem A) = constantName B signatureSuffix) ↔ GoesOnWithElement A B := by
  constructor
  · rintro ⟨c, hc, h⟩
    rw [text_interfaceStem, constantName, interfaceStem] at h
    obtain ⟨h, -⟩ := eq_of_append_part hc.field.2 isPart_signatureSuffix.2 h
    refine ⟨c.elementClass, c.name, hc.elementClass, hc.name, ?_⟩
    simp only [String.append_assoc, String.append_right_inj] at h ⊢
    exact h.symm
  · rintro ⟨c, n, hc, hn, rfl⟩
    refine ⟨⟨c, n, signatureSuffix⟩, ⟨hc, hn, isPart_signatureSuffix⟩, ?_⟩
    simp only [ConstantName.text, constantName, interfaceStem, String.append_assoc]

/-! ## What is recorded -/

/-- Whatever reads as an element or the signature of some interface is one of this interface. -/
structure ElementsOf (interface : String) (tree : Node) : Prop where
  typedefs : ∀ t ∈ tree.typedefs, ∀ other, t.IsOf other → t.IsOf interface
  declarations : ∀ d ∈ tree.declarations, ∀ other,
    d.IsConstantOf other ∨ d.IsSignatureOf other →
      d.IsConstantOf interface ∨ d.IsSignatureOf interface

def RecordsNoAddress (interface : String) (tree : Node) : Prop :=
  let p := addressProgress interface tree.typedefs
  p.fault = none ∧ p.state = .empty

def RecordsNoCustomType (interface : String) (tree : Node) : Prop :=
  let p := customTypeProgress (interfaceStem interface) .empty tree.declarations
  p.fault = none ∧ p.state = .empty

section Records
variable {tree : Node}

theorem Typedef.steps_of_not_isOf {t : Typedef} (h : ¬ t.IsOf A) :
    ∀ x ∈ t.steps A, ∃ note, x = .skip note := by
  unfold steps
  split
  · nofun
  · simp
  · simp
  · next huse => exact absurd ⟨_, _, _, huse⟩ h

theorem recordsNoAddress (h : ∀ t ∈ tree.typedefs, ¬ t.IsOf A) : RecordsNoAddress A tree := by
  refine Progress.along_of_ok _ (AddressSet.steps_of_skips _ fun x hx => ?_)
  obtain ⟨t, ht, hx⟩ := List.mem_flatMap.1 hx
  exact t.steps_of_not_isOf (h t ht) x hx

theorem recordsNoCustomType (h : ∀ d ∈ tree.declarations, ¬ d.IsConstantOf A) :
    RecordsNoCustomType A tree := by
  unfold RecordsNoCustomType
  generalize tree.declarations = ds at h
  induction ds with
  | nil => exact ⟨rfl, rfl⟩
  | cons d ds ih =>
    have hread : CustomTypes.read (interfaceStem A) .empty d = (.empty, none) :=
      CustomTypes.read_of_none (not_not.1 (h d (List.mem_cons_self ..)))
    simp only [customTypeProgress, hread]
    exact ih fun e he => h e (List.mem_cons_of_mem _ he)

theorem signature?_eq_none_iff :
    tree.signature? A = none ↔ ∀ d ∈ tree.declarations, ¬ d.IsSignatureOf A := by
  unfold Node.signature? signatureOf Declaration.IsSignatureOf
  rw [List.findSome?_eq_none_iff]
  simp only [Ne, not_not]

end Records

/-! ## Declarations of two interfaces -/

section Shared
variable {d : Declaration} {t : Typedef}

theorem Typedef.eq_or_goesOn (hA : t.IsOf A) (hB : t.IsOf B) :
    A = B ∨ GoesOnWithTag A B ∨ GoesOnWithTag B A := by
  obtain ⟨-, s, hs, hname⟩ := isOf_iff.1 hA
  obtain ⟨-, s', hs', hname'⟩ := isOf_iff.1 hB
  exact exists_shared_typeName_iff.1 ⟨s, s', hs, hs', hname.symm.trans hname'⟩

theorem Declaration.eq_or_goesOn_of_constant (hA : d.IsConstantOf A)
    (hB : d.IsConstantOf B ∨ d.IsSignatureOf B) : A = B ∨ GoesOnWithElement A B := by
  obtain ⟨-, c, hc, hname⟩ := isConstantOf_iff.1 hA
  rcases hB with hB | hB
  · obtain ⟨-, c', hc', hname'⟩ := isConstantOf_iff.1 hB
    exact .inl (eq_of_text_eq hc hc' (Option.some.inj (hname.symm.trans hname')))
  · obtain ⟨hname', -⟩ := isSignatureOf_iff.1 hB
    exact .inr (exists_text_eq_constantName_iff.1
      ⟨c, hc, Option.some.inj (hname.symm.trans hname')⟩)

theorem Declaration.eq_or_goesOn_of_signature (hA : d.IsSignatureOf A)
    (hB : d.IsConstantOf B ∨ d.IsSignatureOf B) : A = B ∨ GoesOnWithElement B A := by
  rcases hB with hB | hB
  · exact (eq_or_goesOn_of_constant hB (.inr hA)).imp_left Eq.symm
  · obtain ⟨hname, -⟩ := isSignatureOf_iff.1 hA
    obtain ⟨hname', -⟩ := isSignatureOf_iff.1 hB
    exact .inl (constantName_inj (Option.some.inj (hname.symm.trans hname')))

def oneElement (name : String) : Node :=
  .typedef name (.enum none (some [.enumerator (.mk "K" (some (.constant "int" "1" none)) none)]))

def textConstant (name : String) : Node :=
  .decl (some name) ["const"] (.branch .type [] none) (some (.constant "string" "abc" none)) none

theorem elementsOf_oneElement {name : String} (h : ∀ t ∈ (oneElement name).typedefs, t.IsOf B) :
    ElementsOf B (oneElement name) := ⟨fun t ht _ _ => h t ht, nofun⟩

theorem elementsOf_textConstant {name : String}
    (h : ∀ d ∈ (textConstant name).declarations, d.IsConstantOf B ∨ d.IsSignatureOf B) :
    ElementsOf B (textConstant name) := ⟨nofun, fun d hd _ _ => h d hd⟩

theorem not_recordsNoAddress_oneElement {name : String}
    (h : ∀ t ∈ (oneElement name).typedefs, t.IsOf A) : ¬ RecordsNoAddress A (oneElement name) := by
  obtain ⟨kind, datatype, items, huse⟩ := h _ (List.mem_singleton_self _)
  obtain ⟨hitems, -⟩ := Typedef.items_of_use huse
  cases hitems
  rintro ⟨-, hstate⟩
  have hsteps : (oneElement name).typedefs.flatMap (Typedef.steps A) =
      [.read ⟨kind, datatype, .mk "K" (some (.constant "int" "1" none)) none⟩] := by
    rw [oneElement, Node.typedefs, List.flatMap_singleton, Typedef.steps, huse]
    rfl
  rw [addressProgress, hsteps] at hstate
  exact List.cons_ne_nil _ _ (congrArg SortedMap.entries hstate)

theorem not_recordsNoCustomType_textConstant {name : String}
    (h : ∀ d ∈ (textConstant name).declarations, d.IsConstantOf A) :
    ¬ RecordsNoCustomType A (textConstant name) := by
  obtain ⟨k, hk⟩ := Option.ne_none_iff_exists'.1 (h _ (List.mem_singleton_self _))
  rintro ⟨hfault, hstate⟩
  rw [textConstant, Node.declarations] at hfault hstate
  rcases CustomTypes.read_cases .empty hk with ⟨-, ts, e, hread⟩ | ⟨-, t, -, hread⟩
  · simp only [customTypeProgress, hread] at hfault
    cases hfault
  · simp only [customTypeProgress, hread] at hstate
    exact List.cons_ne_nil _ _ (congrArg SortedMap.entries hstate)

theorem exists_address_iff :
    (∃ tree, ElementsOf B tree ∧ ¬ RecordsNoAddress A tree) ↔
      A = B ∨ GoesOnWithTag A B ∨ GoesOnWithTag B A := by
  constructor
  · rintro ⟨tree, hB, hrecords⟩
    by_contra hapart
    exact hrecords (recordsNoAddress fun t ht hA =>
      hapart (t.eq_or_goesOn hA (hB.typedefs t ht A hA)))
  · intro h
    obtain ⟨s, s', hs, hs', hname⟩ := exists_shared_typeName_iff.2 h
    refine ⟨oneElement (interfaceStem A ++ s), elementsOf_oneElement fun t ht => ?_,
      not_recordsNoAddress_oneElement fun t ht => ?_⟩
    · obtain rfl := List.mem_singleton.1 ht
      exact Typedef.isOf_iff.2 ⟨nofun, s', hs', hname⟩
    · obtain rfl := List.mem_singleton.1 ht
      exact Typedef.isOf_iff.2 ⟨nofun, s, hs, rfl⟩

theorem isConstantOf_textConstant {c : ConstantName} (hc : c.Separate) (interface : String) :
    ∀ d ∈ (textConstant (c.text (interfaceStem interface))).declarations,
      d.IsConstantOf interface := by
  intro d hd
  obtain rfl := List.mem_singleton.1 hd
  exact Declaration.isConstantOf_iff.2 ⟨List.mem_singleton_self _, c, hc, rfl⟩

theorem isSignatureOf_textConstant (interface : String) :
    ∀ d ∈ (textConstant (constantName interface signatureSuffix)).declarations,
      d.IsSignatureOf interface := by
  intro d hd
  obtain rfl := List.mem_singleton.1 hd
  exact Declaration.isSignatureOf_iff.2 ⟨rfl, rfl⟩

theorem exists_customType_iff :
    (∃ tree, ElementsOf B tree ∧ ¬ RecordsNoCustomType A tree) ↔
      A = B ∨ GoesOnWithElement A B := by
  constructor
  · rintro ⟨tree, hB, hrecords⟩
    by_contra hapart
    exact hrecords (recordsNoCustomType fun d hd hA =>
      hapart (d.eq_or_goesOn_of_constant hA (hB.declarations d hd A (.inl hA))))
  · rintro (rfl | h)
    · have hsum : (⟨"Fxp", "Sum", "Rank"⟩ : ConstantName).Separate :=
        ⟨⟨by decide, by decide⟩, ⟨by decide, by decide⟩, by decide, by decide⟩
      have hconst := isConstantOf_textConstant hsum A
      exact ⟨_, elementsOf_textConstant fun d hd => .inl (hconst d hd),
        not_recordsNoCustomType_textConstant hconst⟩
    · obtain ⟨c, hc, htext⟩ := exists_text_eq_constantName_iff.2 h
      have hconst := isConstantOf_textConstant hc A
      have hsignature := isSignatureOf_textConstant B
      rw [htext] at hconst
      exact ⟨_, elementsOf_textConstant fun d hd => .inr (hsignature d hd),
        not_recordsNoCustomType_textConstant hconst⟩

theorem exists_signature_iff :
    (∃ tree, ElementsOf B tree ∧ tree.signature? A ≠ none) ↔ A = B ∨ GoesOnWithElement B A := by
  constructor
  · rintro ⟨tree, hB, hsignature⟩
    by_contra hapart
    exact hsignature (signature?_eq_none_iff.2 fun d hd hA =>
      hapart (d.eq_or_goesOn_of_signature hA (hB.declarations d hd A (.inr hA))))
  · intro h
    have hA := isSignatureOf_textConstant A
    have hgives : (textConstant (constantName A signatureSuffix)).signature? A ≠ none := by
      intro hnone
      exact signature?_eq_none_iff.1 hnone _ (List.mem_singleton_self _)
        (hA _ (List.mem_singleton_self _))
    refine ⟨_, elementsOf_textConstant fun d hd => ?_, hgives⟩
    rcases h with rfl | h
    · exact .inr (hA d hd)
    · obtain ⟨c, hc, htext⟩ := exists_text_eq_constantName_iff.2 h
      exact .inl (isConstantOf_textConstant hc B d (htext ▸ hd))

end Shared

/-- **Which interfaces are isolated from which.** A tree of elements of `B` gives `A` no address
unless one of the names goes on after the other with a tag, no custom type unless `B` goes on after
`A` with a class and an element, and no signature unless `A` goes on after `B` so. -/
theorem isolated_iff (A B : String) :
    ((∀ tree, ElementsOf B tree → RecordsNoAddress A tree) ↔
        A ≠ B ∧ ¬ GoesOnWithTag A B ∧ ¬ GoesOnWithTag B A) ∧
      ((∀ tree, ElementsOf B tree → RecordsNoCustomType A tree) ↔
        A ≠ B ∧ ¬ GoesOnWithElement A B) ∧
      ((∀ tree, ElementsOf B tree → tree.signature? A = none) ↔
        A ≠ B ∧ ¬ GoesOnWithElement B A) := by
  have haddress := not_congr (exists_address_iff (A := A) (B := B))
  have hcustom := not_congr (exists_customType_iff (A := A) (B := B))
  have hsignature := not_congr (exists_signature_iff (A := A) (B := B))
  simp only [not_exists, not_and, not_not, not_or] at haddress hcustom hsignature
  exact ⟨haddress, hcustom, hsignature⟩

/-- Names that go on after each other with a tag, or with a class and an element, and what one of
them records of the other one. -/
theorem not_isolated_main :
    let address := oneElement "NiFpga_Main_Control_ControlU8"
    let text := textConstant "NiFpga_Main_Fxp_Gain_Signature"
    ("Main" ≠ "Main_Control" ∧ ElementsOf "Main_Control" address ∧
        (addressProgress "Main" address.typedefs).state.size = 1) ∧
      "Main" ≠ "Main_Fxp_Gain" ∧
      (ElementsOf "Main_Fxp_Gain" text ∧
        (customTypeProgress (interfaceStem "Main") .empty text.declarations).state.size = 1) ∧
      (ElementsOf "Main" text ∧ text.signature? "Main_Fxp_Gain" = some "abc") := by
  intro address text
  have haddress : ElementsOf "Main_Control" address := by
    refine elementsOf_oneElement fun t ht => ?_
    obtain rfl := List.mem_singleton.1 ht
    exact Typedef.isOf_iff.2 ⟨nofun, "ControlU8", ⟨.control, by decide⟩, by decide⟩
  have hsignature : ElementsOf "Main_Fxp_Gain" text :=
    elementsOf_textConstant fun d hd =>
      .inr (isSignatureOf_textConstant "Main_Fxp_Gain" d hd)
  have hconstant : ElementsOf "Main" text := by
    have hparts : (⟨"Fxp", "Gain", "Signature"⟩ : ConstantName).Separate :=
      ⟨⟨by decide, by decide⟩, ⟨by decide, by decide⟩, by decide, by decide⟩
    exact elementsOf_textConstant fun d hd =>
      .inl (isConstantOf_textConstant hparts "Main" d hd)
  refine ⟨⟨by decide, haddress, ?_⟩, by decide, ⟨hsignature, ?_⟩, hconstant, ?_⟩
  all_goals decide +kernel

end FpgaInterface
