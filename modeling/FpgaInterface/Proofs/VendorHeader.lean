import FpgaInterface.Extract.Interface
import FpgaInterface.Proofs.IntegerLiteral
import FpgaInterface.Proofs.LastWins
import FpgaInterface.Proofs.TextContents
import FpgaInterface.Proofs.TypeName
import Mathlib.Data.List.Dedup

/-!
# A header gives back the interface that it was written for

The vendor writes a declaration of the signature and, for each kind and datatype, an enumeration of
the elements, all in any order.

* `DeclaresSignature`, `DefinesEnumeration`, `IsVendorTree` : what the vendor writes;
* `IsVendorTree.exists_enters`, `IsVendorTree.enters_of_mem` : the way through such a header reads
  each entry, and nothing else;
* `describe_of_vendorTree` : the signature and the elements come back as they were.
-/

namespace FpgaInterface

variable {interface signature : String} {s : AddressSet} {tree part : Node}

/-! ## What the vendor writes -/

def enumName (interface : String) (kind : Kind) (datatype : String) : String :=
  interfaceStem interface ++ typeName kind datatype

/-- The entries of a kind and a datatype, which share an enumeration. -/
def AddressSet.enumerated (s : AddressSet) (kind : Kind) (datatype : String) : List Entry :=
  s.entries.filter fun e => e.1.kind = kind ∧ e.1.datatype = datatype

def AddressSet.enumerations (s : AddressSet) : List (Kind × String) :=
  (s.entries.map fun e => (e.1.kind, e.1.datatype)).dedup

/-- An enumerator with the element of an entry behind the name of its enumeration, and with an
integer literal of the word. -/
def Enumerates (enumeration : String) (e : Entry) (item : EnumItem) : Prop :=
  ∃ type spelling literalPos pos,
    item = .enumerator (.mk (enumeration ++ "_" ++ e.1.name)
      (some (.constant type spelling literalPos)) pos) ∧
    type ∉ nonIntegerTypes ∧ IsLiteral e.2.toNat spelling.toList

/-- A type definition of an enumeration of the elements of a kind and a datatype. -/
def DefinesEnumeration (interface : String) (s : AddressSet) (g : Kind × String) (part : Node) :
    Prop :=
  ∃ tag items, part = .typedef (enumName interface g.1 g.2) (.enum tag (some items)) ∧
    InAnyOrder (Enumerates (enumName interface g.1 g.2)) (s.enumerated g.1 g.2) items

/-- A declaration of the signature with a literal of it, and with a type that defines no other. -/
def DeclaresSignature (interface signature : String) (part : Node) : Prop :=
  ∃ quals type pos, part = .decl (some (constantName interface signatureSuffix)) quals type
      (some (.constant "string" ("\"" ++ signature ++ "\"") pos)) none ∧
    type.typedefs = []

/-- The tree of a header of the vendor: a declaration of the signature and one enumeration for each
kind and datatype. -/
def IsVendorTree (interface signature : String) (s : AddressSet) (tree : Node) : Prop :=
  ∃ parts pos declaration definitions, tree = .branch .file parts pos ∧
    parts.Perm (declaration :: definitions) ∧ DeclaresSignature interface signature declaration ∧
    InAnyOrder (DefinesEnumeration interface s) s.enumerations definitions

theorem AddressSet.mem_enumerated {kind : Kind} {datatype : String} {e : Entry} :
    e ∈ s.enumerated kind datatype ↔ e ∈ s.entries ∧ e.1.kind = kind ∧ e.1.datatype = datatype := by
  simp [AddressSet.enumerated]

theorem AddressSet.mem_enumerations {e : Entry} (h : e ∈ s.entries) :
    (e.1.kind, e.1.datatype) ∈ s.enumerations :=
  List.mem_dedup.2 (List.mem_map.2 ⟨e, h, rfl⟩)

/-! ## The signature -/

/-- The quotes around a text are cut off, and no more if there are none at its ends. -/
theorem unquote_quoted (hhead : signature.toList.head? ≠ some '"')
    (hlast : signature.toList.getLast? ≠ some '"') :
    unquote ("\"" ++ signature ++ "\"") = signature := by
  have htext : ("\"" ++ signature ++ "\"").toList = ['"'] ++ (signature.toList ++ ['"']) := by
    rw [String.toList_append, String.toList_append, List.append_assoc]
    rfl
  rw [← String.toList_inj]
  exact unquote_append _ _ _ (by simp) (by simp) hhead hlast htext

/-! ## Type definitions and declarations of the parts -/

theorem declarationsOf_eq_flatMap (parts : List Node) :
    Node.declarationsOf parts = parts.flatMap Node.declarations := by
  induction parts with
  | nil => rfl
  | cons n rest ih => rw [Node.declarationsOf, List.flatMap_cons, ih]

theorem typedefsOf_eq_flatMap (parts : List Node) :
    Node.typedefsOf parts = parts.flatMap Node.typedefs := by
  induction parts with
  | nil => rfl
  | cons n rest ih => rw [Node.typedefsOf, List.flatMap_cons, ih]

/-- The values of enumerators of the vendor declare nothing. -/
theorem enumeratorDeclarations_of_enumerates {enumeration : String} {items : List EnumItem}
    (h : ∀ item ∈ items, ∃ e, Enumerates enumeration e item) :
    Node.enumeratorDeclarations items = [] := by
  induction items with
  | nil => rfl
  | cons item rest ih =>
    obtain ⟨e, type, spelling, literalPos, pos, rfl, -⟩ := h item (List.mem_cons_self ..)
    rw [Node.enumeratorDeclarations, Node.declarations, List.nil_append]
    exact ih fun x hx => h x (List.mem_cons_of_mem _ hx)

theorem DefinesEnumeration.declarations {g : Kind × String}
    (h : DefinesEnumeration interface s g part) : part.declarations = [] := by
  obtain ⟨tag, items, rfl, hitems⟩ := h
  have hall : ∀ item ∈ items, ∃ e, Enumerates (enumName interface g.1 g.2) e item := by
    intro item hitem
    obtain ⟨e, -, he⟩ := hitems.exists_left item hitem
    exact ⟨e, he⟩
  rw [Node.declarations, Node.declarations, enumeratorDeclarations_of_enumerates hall]

/-! ## Steps -/

/-- A step reads an entry: an enumerator of its element with its word. -/
def Enters (e : Entry) (x : AddressStep) : Prop :=
  ∃ r, x = .read r ∧ r.location = e.1 ∧ r.Spells e.2

theorem use_enumName {kind : Kind} {datatype : String} (h : kind.Canonical datatype)
    (tag : Option String) (items : List EnumItem) :
    Typedef.use interface ⟨enumName interface kind datatype, .enum tag (some items)⟩ =
      .elements kind datatype items := by
  simp only [Typedef.use, Typedef.enumItems?, enumName, afterStem?_append,
    decodeTypeName?_typeName h]

/-- An enumerator is read as the entry that it was written for. -/
theorem enters_of_enumerates {e : Entry} {item : EnumItem} (hname : '_' ∉ e.1.name.toList)
    (h : Enumerates (enumName interface e.1.kind e.1.datatype) e item) :
    Enters e (AddressStep.ofItem e.1.kind e.1.datatype item) := by
  obtain ⟨type, spelling, literalPos, pos, rfl, htype, hliteral⟩ := h
  refine ⟨_, rfl, ?_, type, spelling, literalPos, rfl, htype, ?_⟩
  · show Location.mk e.1.kind (elementName _) e.1.datatype = e.1
    rw [Enumerator.name, elementName_append _ hname]
  · have hempty : ∀ c ∈ ([] : List Char), Text.isBlank c = true := nofun
    exact integerLiteral?_of_isLiteral hempty hempty hliteral
      (by rw [List.nil_append, List.append_nil])

/-- The steps of an enumeration are those of its enumerators. -/
theorem DefinesEnumeration.steps {g : Kind × String} (h : DefinesEnumeration interface s g part)
    (hcanonical : g.1.Canonical g.2) :
    ∃ items, part.typedefs.flatMap (Typedef.steps interface) =
        items.map (AddressStep.ofItem g.1 g.2) ∧
      InAnyOrder (Enumerates (enumName interface g.1 g.2)) (s.enumerated g.1 g.2) items := by
  obtain ⟨tag, items, rfl, hitems⟩ := h
  refine ⟨items, ?_, hitems⟩
  rw [Node.typedefs, List.flatMap_singleton, Typedef.steps, use_enumName hcanonical]

theorem mem_headerSteps {parts : List Node} {pos : Option Position} {x : AddressStep} :
    x ∈ headerSteps interface (.branch .file parts pos) ↔
      ∃ part ∈ parts, x ∈ part.typedefs.flatMap (Typedef.steps interface) := by
  rw [headerSteps, Node.typedefs, typedefsOf_eq_flatMap, List.flatMap_assoc, List.mem_flatMap]

theorem DeclaresSignature.typedefs (h : DeclaresSignature interface signature part) :
    part.typedefs = [] := by
  obtain ⟨quals, type, pos, rfl, htype⟩ := h
  rw [Node.typedefs, htype]
  rfl

theorem exists_of_mem_enumerations {g : Kind × String} (h : g ∈ s.enumerations) :
    ∃ e ∈ s.entries, (e.1.kind, e.1.datatype) = g :=
  List.mem_map.1 (List.mem_dedup.1 h)

namespace IsVendorTree

variable (htree : IsVendorTree interface signature s tree)
  (hname : ∀ e ∈ s.entries, '_' ∉ e.1.name.toList)
  (hcanonical : ∀ e ∈ s.entries, e.1.kind.Canonical e.1.datatype)

include htree hname hcanonical

/-- Each step through a header of the vendor reads an entry. -/
theorem enters_of_mem {x : AddressStep} (hx : x ∈ headerSteps interface tree) :
    ∃ e ∈ s.entries, Enters e x := by
  obtain ⟨parts, pos, declaration, definitions, rfl, hperm, hdeclaration, hdefinitions⟩ := htree
  obtain ⟨part, hpart, hx⟩ := mem_headerSteps.1 hx
  rcases List.mem_cons.1 (hperm.mem_iff.1 hpart) with rfl | hpart
  · rw [hdeclaration.typedefs] at hx
    exact absurd hx List.not_mem_nil
  · obtain ⟨g, hg, hdefines⟩ := hdefinitions.exists_left part hpart
    obtain ⟨e₀, he₀, rfl⟩ := exists_of_mem_enumerations hg
    obtain ⟨items, hsteps, hitems⟩ := hdefines.steps (hcanonical e₀ he₀)
    rw [hsteps] at hx
    obtain ⟨item, hitem, rfl⟩ := List.mem_map.1 hx
    obtain ⟨e, he, henumerates⟩ := hitems.exists_left item hitem
    obtain ⟨he, hkind, hdatatype⟩ := AddressSet.mem_enumerated.1 he
    rw [← hkind, ← hdatatype] at henumerates ⊢
    exact ⟨e, he, enters_of_enumerates (hname e he) henumerates⟩

/-- Each entry is read on the way through a header of the vendor. -/
theorem exists_enters {e : Entry} (he : e ∈ s.entries) :
    ∃ x ∈ headerSteps interface tree, Enters e x := by
  obtain ⟨parts, pos, declaration, definitions, rfl, hperm, -, hdefinitions⟩ := htree
  obtain ⟨part, hpart, hdefines⟩ := hdefinitions.exists_right _ (AddressSet.mem_enumerations he)
  obtain ⟨items, hsteps, hitems⟩ := hdefines.steps (hcanonical e he)
  obtain ⟨item, hitem, henumerates⟩ :=
    hitems.exists_right e (AddressSet.mem_enumerated.2 ⟨he, rfl, rfl⟩)
  refine ⟨_, mem_headerSteps.2 ⟨part, ?_, ?_⟩, enters_of_enumerates (hname e he) henumerates⟩
  · exact hperm.mem_iff.2 (List.mem_cons_of_mem _ hpart)
  · rw [hsteps]
    exact List.mem_map_of_mem hitem

end IsVendorTree

/-- Enumerators that stand for the entries of a set build that set. -/
theorem LastWins.eq_of_enters {E : List Reading} {t : AddressSet} (h : LastWins E t)
    (hsound : ∀ r ∈ E, ∃ e ∈ s.entries, r.location = e.1 ∧ r.Spells e.2)
    (hcomplete : ∀ e ∈ s.entries, ∃ r ∈ E, r.location = e.1) : t = s := by
  have hsome : ∀ l w, t.get? l = some w → s.get? l = some w := by
    intro l w hw
    obtain ⟨before, r, after, rfl, hl, hr, -⟩ := h.last l w hw
    obtain ⟨e, he, hloc, hspells⟩ := hsound r (by simp)
    rw [SortedMap.get?_eq_some_iff, ← hl, hloc, hr.unique hspells]
    exact he
  refine SortedMap.ext_get? fun l => ?_
  cases ht : t.get? l with
  | some w => exact (hsome l w ht).symm
  | none =>
    cases hs : s.get? l with
    | none => rfl
    | some w =>
      obtain ⟨r, hr, hl⟩ := hcomplete (l, w) (SortedMap.get?_eq_some_iff.1 hs)
      obtain ⟨w', hw'⟩ := (h.keys l).2 ⟨r, hr, hl⟩
      cases ht.symm.trans hw'

/-! ## The header as a whole -/

/-- The only declaration outside the enumerations is that of the signature. -/
theorem IsVendorTree.signature? (htree : IsVendorTree interface signature s tree)
    (hhead : signature.toList.head? ≠ some '"') (hlast : signature.toList.getLast? ≠ some '"') :
    tree.signature? interface = some signature := by
  obtain ⟨parts, pos, declaration, definitions, rfl, hperm, hdeclaration, hdefinitions⟩ := htree
  obtain ⟨quals, type, literalPos, rfl, -⟩ := hdeclaration
  have hrest : definitions.flatMap Node.declarations = [] := by
    refine List.flatMap_eq_nil_iff.2 fun part hpart => ?_
    obtain ⟨g, -, hdefines⟩ := hdefinitions.exists_left part hpart
    exact hdefines.declarations
  have hall := hperm.flatMap_right Node.declarations
  rw [List.flatMap_cons, hrest, List.append_nil, Node.declarations, List.perm_singleton] at hall
  rw [Node.signature?, Node.declarations, declarationsOf_eq_flatMap, hall]
  simp [signatureOf, textFor?, isText, textOf, unquote_quoted hhead hlast, Except.toOption]

/-- The enumerators of a header of the vendor build the set that it was written for. -/
theorem IsVendorTree.progress (htree : IsVendorTree interface signature s tree)
    (hname : ∀ e ∈ s.entries, '_' ∉ e.1.name.toList)
    (hcanonical : ∀ e ∈ s.entries, e.1.kind.Canonical e.1.datatype) :
    (addressProgress interface tree.typedefs).fault = none ∧
      (addressProgress interface tree.typedefs).state = s := by
  have hpass : ∀ x ∈ headerSteps interface tree, x.Passes := by
    intro x hx
    obtain ⟨e, -, r, rfl, -, hspells⟩ := htree.enters_of_mem hname hcanonical hx
    exact ⟨e.2, hspells⟩
  obtain ⟨hfault, hlast⟩ := addressProgress_of_passes hpass
  rw [← filterMap_headerSteps] at hlast
  refine ⟨hfault, hlast.eq_of_enters ?_ ?_⟩
  · intro r hr
    obtain ⟨x, hx, hxr⟩ := List.mem_filterMap.1 hr
    obtain ⟨e, he, r', rfl, hloc, hspells⟩ := htree.enters_of_mem hname hcanonical hx
    cases hxr
    exact ⟨e, he, hloc, hspells⟩
  · intro e he
    obtain ⟨x, hx, r, rfl, hloc, -⟩ := htree.exists_enters hname hcanonical he
    exact ⟨r, List.mem_filterMap.2 ⟨_, hx, rfl⟩, hloc⟩

/-- **A header of the vendor gives back the interface that it was written for**, whatever the order
of its declarations and enumerators and the notations of its literals. -/
theorem describe_of_vendorTree (htree : IsVendorTree interface signature s tree)
    (hhead : signature.toList.head? ≠ some '"') (hlast : signature.toList.getLast? ≠ some '"')
    (hname : ∀ e ∈ s.entries, '_' ∉ e.1.name.toList)
    (hcanonical : ∀ e ∈ s.entries, e.1.kind.Canonical e.1.datatype) :
    describe interface tree = .ok ⟨signature, s⟩ := by
  obtain ⟨hfault, hstate⟩ := htree.progress hname hcanonical
  have hresult : (addressProgress interface tree.typedefs).result = .ok s := by
    rw [Progress.result, hfault, hstate]
  rw [describe, hresult, htree.signature? hhead hlast]
  rfl

/-- Two flags, and an array beside its size. -/
def flagsAndTaps : AddressSet where
  entries :=
    [(⟨.indicator, "Flag", "Bool"⟩, 0), (⟨.indicator, "Ready", "Bool"⟩, 0x1800e),
      (⟨.controlArray, "Taps", "U8"⟩, 0x18014), (⟨.controlArraySize, "Taps", "U8"⟩, 8)]
  sorted := by decide +kernel

/-- An enumeration of the interface `Main` with the elements and the spellings of their words. -/
def mainEnum (kind : Kind) (datatype : String) (elements : List (String × String)) : Node :=
  .typedef (enumName "Main" kind datatype) (.enum none (some (elements.map fun e =>
    .enumerator (.mk (enumName "Main" kind datatype ++ "_" ++ e.1)
      (some (.constant "int" e.2 none)) none))))

/-- A header of that interface in an order of its own. -/
def flagsAndTapsHeader : Node :=
  .branch .file
    [mainEnum .controlArraySize "U8" [("Taps", "010UL")],
      .decl (some "NiFpga_Main_Signature") [] (.branch .type [] none)
        (some (.constant "string" "\"A\\\"B\"" none)) none,
      mainEnum .indicator "Bool" [("Ready", "0X1800e"), ("Flag", "0u")],
      mainEnum .controlArray "U8" [("Taps", "98324")]]
    none

theorem flagsAndTapsHeader_isVendorTree :
    IsVendorTree "Main" "A\\\"B" flagsAndTaps flagsAndTapsHeader := by
  have hsize : IsLiteral 8 "010UL".toList :=
    ⟨"010".toList, ['U', 'L'], rfl, .octal ⟨[1, 0], by simp [Text.IsDigit]; decide, by decide⟩,
      by simp⟩
  have hready : IsLiteral 0x1800e "0X1800e".toList :=
    ⟨"0X1800e".toList, [], rfl, .hexadecimal (by decide)
      ⟨[1, 8, 0, 0, 14], by simp [Text.IsDigit]; decide, by decide⟩ (by decide), nofun⟩
  have hflag : IsLiteral 0 "0u".toList :=
    ⟨"0".toList, ['u'], rfl, .octal ⟨[], .nil, by decide⟩, by simp⟩
  have htaps : IsLiteral 0x18014 "98324".toList :=
    ⟨"98324".toList, [], rfl, .decimal ⟨[9, 8, 3, 2, 4], by simp [Text.IsDigit]; decide, by decide⟩
      (by decide) (by decide) (by decide), nofun⟩
  refine ⟨_, _, _, _, rfl, .swap .., ⟨[], _, none, rfl, rfl⟩,
    [(.controlArraySize, "U8"), (.indicator, "Bool"), (.controlArray, "U8")], by decide +kernel,
    .cons ⟨none, _, rfl, [(⟨.controlArraySize, "Taps", "U8"⟩, 8)], by decide +kernel, ?_⟩
      (.cons ⟨none, _, rfl, [(⟨.indicator, "Ready", "Bool"⟩, 0x1800e),
          (⟨.indicator, "Flag", "Bool"⟩, 0)], by decide +kernel, ?_⟩
        (.cons ⟨none, _, rfl, [(⟨.controlArray, "Taps", "U8"⟩, 0x18014)], by decide +kernel, ?_⟩
          .nil))⟩
  · exact .cons ⟨"int", _, none, none, rfl, by decide, hsize⟩ .nil
  · exact .cons ⟨"int", _, none, none, rfl, by decide, hready⟩
      (.cons ⟨"int", _, none, none, rfl, by decide, hflag⟩ .nil)
  · exact .cons ⟨"int", _, none, none, rfl, by decide, htaps⟩ .nil

theorem describe_of_vendorTree_flagsAndTaps :
    IsVendorTree "Main" "A\\\"B" flagsAndTaps flagsAndTapsHeader ∧
      describe "Main" flagsAndTapsHeader = .ok ⟨"A\\\"B", flagsAndTaps⟩ :=
  ⟨flagsAndTapsHeader_isVendorTree, describe_of_vendorTree flagsAndTapsHeader_isVendorTree
    (by decide) (by decide) (by decide) (by decide)⟩

end FpgaInterface
