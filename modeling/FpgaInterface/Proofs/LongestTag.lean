import FpgaInterface.Proofs.TypeName

/-!
# The longest tag decides

The tags of the array kinds start with those of the scalar kinds, and the size kinds share the tags
of their arrays. Each type name still stands for one kind and one datatype.

* `IsLongestTag` : no longer tag than that of the kind starts the type name;
* `matchKind?_eq_some_iff` : the kind of the longest tag is matched;
* `exists_canonical` : each type name is that of a canonical datatype;
* `decodeTypeName?_exact` : reading type names undoes writing them, for canonical datatypes and no
  others.
-/

namespace FpgaInterface

variable {kind kind' : Kind} {datatype datatype' s : String}

/-! ## The longest tag -/

/-- The tag of a kind starts a type name, and no longer tag does. -/
structure IsLongestTag (s : String) (kind : Kind) : Prop where
  starts : kind.tag.toList <+: s.toList
  longest : ∀ other : Kind, other.tag.toList <+: s.toList →
    other.tag.toList.length ≤ kind.tag.toList.length

/-- What is found stands before all else that would do. -/
theorem eq_or_of_find? {α : Type} {R : α → α → Prop} {p : α → Bool} {as : List α} {a b : α}
    (h : as.Pairwise R) (ha : as.find? p = some a) (hb : b ∈ as) (hp : p b = true) :
    b = a ∨ R a b := by
  obtain ⟨-, before, after, rfl, hbefore⟩ := List.find?_eq_some_iff_append.1 ha
  rcases List.mem_append.1 hb with hb | hb
  · have hnot := hbefore b hb
    rw [hp] at hnot
    cases hnot
  · obtain ⟨-, hlater, -⟩ := List.pairwise_append.1 h
    exact (List.mem_cons.1 hb).imp_right ((List.pairwise_cons.1 hlater).1 b)

/-- Of two tags, one of which starts the other, the longer one is tried first. -/
theorem matchOrder_pairwise : Kind.matchOrder.Pairwise fun a b =>
    a.tag.toList <+: b.tag.toList → b.tag.toList.length ≤ a.tag.toList.length := by
  decide

theorem isLongestTag_of_matchKind? (h : matchKind? s = some kind) : IsLongestTag s kind := by
  have hstarts := List.find?_some (p := fun k : Kind => k.tag.toList.isPrefixOf s.toList) h
  rw [List.isPrefixOf_iff_prefix] at hstarts
  refine ⟨hstarts, fun other hother => ?_⟩
  rw [← other.tag_withoutSize] at hother ⊢
  rcases eq_or_of_find? matchOrder_pairwise h other.withoutSize_mem_matchOrder
    (List.isPrefixOf_iff_prefix.2 hother) with heq | hle
  · exact Nat.le_of_eq (by rw [heq])
  · -- A longer tag goes on with the one that is matched, and so was tried before it.
    rcases Nat.le_total kind.tag.toList.length other.withoutSize.tag.toList.length with h | h
    · exact hle (List.prefix_of_prefix_length_le hstarts hother h)
    · exact h

/-- Apart from the sizes, no two kinds have the same tag. -/
theorem IsLongestTag.unique (h : IsLongestTag s kind) (h' : IsLongestTag s kind')
    (hsize : kind.isSize = false) (hsize' : kind'.isSize = false) : kind = kind' := by
  have hlength := Nat.le_antisymm (h'.longest kind h.starts) (h.longest kind' h'.starts)
  have htag : kind.tag.toList = kind'.tag.toList :=
    (List.prefix_of_prefix_length_le h.starts h'.starts (Nat.le_of_eq hlength)).eq_of_length hlength
  revert hsize hsize' htag
  cases kind <;> cases kind' <;> decide

/-- **The kind of the longest tag is matched**, and never a size. -/
theorem matchKind?_eq_some_iff :
    matchKind? s = some kind ↔ kind.isSize = false ∧ IsLongestTag s kind := by
  constructor
  · intro h
    exact ⟨(exists_of_matchKind? h).1, isLongestTag_of_matchKind? h⟩
  · rintro ⟨hsize, h⟩
    obtain ⟨found, hfound⟩ := Option.ne_none_iff_exists'.1 (matchKind?_ne_none_iff.2 ⟨kind, h.starts⟩)
    have hlongest := isLongestTag_of_matchKind? hfound
    rw [hfound, hlongest.unique h (exists_of_matchKind? hfound).1 hsize]

/-! ## Canonical datatypes -/

/-- The array kind of a scalar kind; any other kind is its own. -/
def Kind.withArray : Kind → Kind
  | control => controlArray
  | indicator => indicatorArray
  | k => k

theorem typeName_array_append (h : kind = .control ∨ kind = .indicator) (rest : List Char) :
    typeName kind (String.ofList ("Array".toList ++ rest)) =
      typeName kind.withArray (String.ofList rest) := by
  rw [← String.toList_inj, typeName_toList, typeName_toList]
  rcases h with rfl | rfl <;> simp [Kind.tag, Kind.name, Kind.mark, Kind.isSize, Kind.withArray]

theorem typeName_append_sizeMark (h : kind = .controlArray ∨ kind = .indicatorArray)
    (front : List Char) :
    typeName kind (String.ofList (front ++ sizeMark.toList)) =
      typeName kind.withSize (String.ofList front) := by
  rw [← String.toList_inj, typeName_toList, typeName_toList]
  rcases h with rfl | rfl <;> simp [Kind.tag, Kind.name, Kind.mark, Kind.isSize, Kind.withSize]

theorem exists_canonical_of_array (h : kind = .controlArray ∨ kind = .indicatorArray)
    (datatype : String) : ∃ kind' datatype', kind'.Canonical datatype' ∧
      typeName kind datatype = typeName kind' datatype' := by
  by_cases hsize : sizeMark.toList <:+ datatype.toList
  · obtain ⟨front, hfront⟩ := hsize
    refine ⟨kind.withSize, String.ofList front, ?_, ?_⟩
    · rcases h with rfl | rfl <;> trivial
    · rw [← typeName_append_sizeMark h, hfront, String.ofList_toList]
  · refine ⟨kind, datatype, ?_, rfl⟩
    rcases h with rfl | rfl <;> exact hsize

theorem exists_canonical_of_scalar (h : kind = .control ∨ kind = .indicator) (datatype : String) :
    ∃ kind' datatype', kind'.Canonical datatype' ∧
      typeName kind datatype = typeName kind' datatype' := by
  by_cases harray : "Array".toList <+: datatype.toList
  · obtain ⟨rest, hrest⟩ := harray
    have hkind : kind.withArray = .controlArray ∨ kind.withArray = .indicatorArray := by
      rcases h with rfl | rfl <;> simp [Kind.withArray]
    rw [← String.ofList_toList (s := datatype), ← hrest, typeName_array_append h]
    exact exists_canonical_of_array hkind _
  · refine ⟨kind, datatype, ?_, rfl⟩
    rcases h with rfl | rfl <;> exact harray

/-- Each type name is that of a canonical datatype. -/
theorem exists_canonical (kind : Kind) (datatype : String) :
    ∃ kind' datatype', kind'.Canonical datatype' ∧
      typeName kind datatype = typeName kind' datatype' := by
  cases kind with
  | control => exact exists_canonical_of_scalar (.inl rfl) datatype
  | indicator => exact exists_canonical_of_scalar (.inr rfl) datatype
  | controlArray => exact exists_canonical_of_array (.inl rfl) datatype
  | indicatorArray => exact exists_canonical_of_array (.inr rfl) datatype
  | controlArraySize => exact ⟨.controlArraySize, datatype, trivial, rfl⟩
  | indicatorArraySize => exact ⟨.indicatorArraySize, datatype, trivial, rfl⟩
  | targetToHostFifo => exact ⟨.targetToHostFifo, datatype, trivial, rfl⟩
  | hostToTargetFifo => exact ⟨.hostToTargetFifo, datatype, trivial, rfl⟩

/-- What a type name stands for is canonical. -/
theorem canonical_of_decodeTypeName? (h : decodeTypeName? s = some (kind, datatype)) :
    kind.Canonical datatype := by
  obtain ⟨kind', datatype', hcanonical, hname⟩ := exists_canonical kind datatype
  rw [eq_typeName_of_decodeTypeName? h, hname, decodeTypeName?_typeName hcanonical] at h
  cases h
  exact hcanonical

theorem decodeTypeName?_eq_some_iff : decodeTypeName? s = some (kind, datatype) ↔
    s = typeName kind datatype ∧ kind.Canonical datatype := by
  constructor
  · intro h
    exact ⟨eq_typeName_of_decodeTypeName? h, canonical_of_decodeTypeName? h⟩
  · rintro ⟨rfl, h⟩
    exact decodeTypeName?_typeName h

theorem decodeTypeName?_eq_none_iff :
    decodeTypeName? s = none ↔ ∀ kind : Kind, ¬ kind.tag.toList <+: s.toList := by
  rw [← not_exists, ← StartsWithTag, ← decodeTypeName?_ne_none_iff, Ne, Decidable.not_not]

/-- **Reading a type name undoes writing it**, for canonical datatypes and no others. A text stands
for nothing exactly if it starts with no tag; else the longest tag decides. No two canonical pairs
share a type name. -/
theorem decodeTypeName?_exact (s : String) :
    (∀ kind datatype, decodeTypeName? s = some (kind, datatype) ↔
      s = typeName kind datatype ∧ kind.Canonical datatype) ∧
    (decodeTypeName? s = none ↔ ∀ kind : Kind, ¬ kind.tag.toList <+: s.toList) ∧
    (∀ kind, matchKind? s = some kind ↔ kind.isSize = false ∧ IsLongestTag s kind) ∧
    ∀ kind datatype kind' datatype', kind.Canonical datatype → kind'.Canonical datatype' →
      s = typeName kind datatype → s = typeName kind' datatype' →
        kind = kind' ∧ datatype = datatype' := by
  refine ⟨fun kind datatype => decodeTypeName?_eq_some_iff, decodeTypeName?_eq_none_iff,
    fun kind => matchKind?_eq_some_iff, ?_⟩
  intro kind datatype kind' datatype' h h' hs hs'
  have hread := decodeTypeName?_eq_some_iff.2 ⟨hs, h⟩
  rw [decodeTypeName?_eq_some_iff.2 ⟨hs', h'⟩] at hread
  cases hread
  exact ⟨rfl, rfl⟩

/-- The mark of a size belongs to the arrays alone. -/
example : decodeTypeName? "ControlArraySize" = some (.controlArraySize, "") ∧
    decodeTypeName? "ControlFooSize" = some (.control, "FooSize") := by
  decide +kernel

end FpgaInterface
