import FpgaInterface.Element.TypeName

/-!
# Names are read as they are written

* `Kind.Canonical` : the datatypes that a kind can be told apart with;
* `decodeTypeName?_typeName` : the type name of a kind and a canonical datatype stands for them;
* `eq_typeName_of_decodeTypeName?` : a type name that stands for a kind and a datatype is theirs, so
  that no two do;
* `StartsWithTag` : the texts that stand for some kind (`decodeTypeName?_ne_none_iff`);
* `elementName_append` : an identifier stands for what follows its last underscore;
* `afterStem?_append`, `eq_append_of_afterStem?` : what follows a stem.
-/

namespace FpgaInterface

variable {kind : Kind} {datatype : String}

/-! ## Stems and elements -/

theorem afterStem?_append (stem rest : String) : afterStem? stem (stem ++ rest) = some rest := by
  unfold afterStem?
  rw [String.toList_append, if_pos (List.isPrefixOf_iff_prefix.2 (List.prefix_append ..)),
    List.drop_left, String.ofList_toList]

theorem eq_append_of_afterStem? {stem s rest : String} (h : afterStem? stem s = some rest) :
    s = stem ++ rest := by
  unfold afterStem? at h
  split at h
  · next hstem =>
    obtain ⟨tail, htail⟩ := List.isPrefixOf_iff_prefix.1 hstem
    cases h
    rw [← String.toList_inj, String.toList_append, String.toList_ofList, ← htail, List.drop_left]
  · cases h

/-- A name without underscores is read back after any stem and an underscore. -/
theorem elementName_append (stem : String) {name : String} (h : '_' ∉ name.toList) :
    elementName (stem ++ "_" ++ name) = name := by
  have hname : ∀ c ∈ name.toList.reverse, decide (c ≠ '_') = true := by
    intro c hc
    rw [decide_eq_true_eq]
    rintro rfl
    exact h (List.mem_reverse.1 hc)
  have hlist : (stem ++ "_" ++ name).toList.reverse =
      name.toList.reverse ++ '_' :: stem.toList.reverse := by
    rw [String.toList_append, String.toList_append, List.reverse_append, List.reverse_append]
    rfl
  unfold elementName
  rw [hlist, List.takeWhile_append_of_pos hname, List.takeWhile_cons_of_neg (by simp),
    List.append_nil, List.reverse_reverse, String.ofList_toList]

/-! ## Type names -/

/-- A datatype that does not make the type name of a kind that of another one: that of a scalar does
not start like an array, and that of an array does not end like a size. -/
def Kind.Canonical (kind : Kind) (datatype : String) : Prop :=
  match kind with
  | control | indicator => ¬ "Array".toList <+: datatype.toList
  | controlArray | indicatorArray => ¬ sizeMark.toList <:+ datatype.toList
  | controlArraySize | indicatorArraySize | targetToHostFifo | hostToTargetFifo => True

instance (kind : Kind) (datatype : String) : Decidable (kind.Canonical datatype) :=
  match kind with
  | .control | .indicator => inferInstanceAs (Decidable (¬ "Array".toList <+: datatype.toList))
  | .controlArray | .indicatorArray =>
    inferInstanceAs (Decidable (¬ sizeMark.toList <:+ datatype.toList))
  | .controlArraySize | .indicatorArraySize | .targetToHostFifo | .hostToTargetFifo =>
    inferInstanceAs (Decidable True)

/-- The array kind whose sizes a size kind holds; any other kind is its own. -/
def Kind.withoutSize : Kind → Kind
  | controlArraySize => controlArray
  | indicatorArraySize => indicatorArray
  | k => k

theorem Kind.tag_withoutSize (kind : Kind) : kind.withoutSize.tag = kind.tag := by
  cases kind <;> rfl

theorem Kind.withoutSize_mem_matchOrder (kind : Kind) : kind.withoutSize ∈ matchOrder := by
  cases kind <;> decide

def Kind.mark (kind : Kind) : List Char := if kind.isSize then sizeMark.toList else []

theorem typeName_toList (kind : Kind) (datatype : String) :
    (typeName kind datatype).toList = kind.tag.toList ++ (datatype.toList ++ kind.mark) := by
  unfold typeName Kind.mark
  rw [String.toList_append, String.toList_append, List.append_assoc]
  cases kind.isSize <;> rfl

theorem isPrefixOf_eq_false {l₁ l₂ : List Char} (h : ¬ l₁ <+: l₂) : l₁.isPrefixOf l₂ = false := by
  rwa [← Bool.not_eq_true, List.isPrefixOf_iff_prefix]

/-- The tag of an array kind starts that of a scalar kind only if the datatype goes on with it. -/
theorem matchKind?_typeName (h : kind.Canonical datatype) :
    matchKind? (typeName kind datatype) = some kind.withoutSize := by
  unfold matchKind?
  rw [typeName_toList]
  cases kind with
  | control =>
    have hd : "Array".toList.isPrefixOf datatype.toList = false := isPrefixOf_eq_false h
    rw [show Kind.control.mark = [] from rfl, List.append_nil]
    show (match "Array".toList.isPrefixOf datatype.toList with
      | true => some Kind.controlArray
      | false => some Kind.control) = _
    rw [hd]
    rfl
  | indicator =>
    have hd : "Array".toList.isPrefixOf datatype.toList = false := isPrefixOf_eq_false h
    rw [show Kind.indicator.mark = [] from rfl, List.append_nil]
    show (match "Array".toList.isPrefixOf datatype.toList with
      | true => some Kind.indicatorArray
      | false => some Kind.indicator) = _
    rw [hd]
    rfl
  | controlArray | indicatorArray | controlArraySize | indicatorArraySize | targetToHostFifo
    | hostToTargetFifo => rfl

/-- A suffix that does not hold a character stands behind it. -/
theorem suffix_of_suffix_append_cons {l a b : List Char} {c : Char} (h : l <:+ a ++ c :: b)
    (hc : c ∉ l) : l <:+ b := by
  rcases List.suffix_or_suffix_of_suffix h (List.suffix_append a (c :: b)) with h | h
  · rcases List.suffix_cons_iff.1 h with rfl | h
    · exact absurd (List.mem_cons_self ..) hc
    · exact h
  · exact absurd (h.subset (List.mem_cons_self ..)) hc

/-- The tags of arrays end in a letter that the size mark does not have. -/
theorem sizeMark_suffix_typeName (h : kind.isArray = true) :
    sizeMark.toList.isSuffixOf (typeName kind datatype).toList = true ↔
      sizeMark.toList <:+ datatype.toList ++ kind.mark := by
  rw [List.isSuffixOf_iff_suffix, typeName_toList]
  have hy : ∃ front, kind.tag.toList = front ++ ['y'] := by
    cases kind with
    | controlArray | controlArraySize => exact ⟨"ControlArra".toList, rfl⟩
    | indicatorArray | indicatorArraySize => exact ⟨"IndicatorArra".toList, rfl⟩
    | control | indicator | targetToHostFifo | hostToTargetFifo => cases h
  obtain ⟨front, hfront⟩ := hy
  rw [hfront, List.append_assoc, List.singleton_append]
  constructor
  · intro hs
    exact suffix_of_suffix_append_cons hs (by decide)
  · intro hs
    exact hs.trans ((List.suffix_cons ..).trans (List.suffix_append ..))

theorem sizeMark_not_suffix_typeName (ha : kind.isArray = true) (hmark : kind.mark = [])
    (h : ¬ sizeMark.toList <:+ datatype.toList) :
    sizeMark.toList.isSuffixOf (typeName kind datatype).toList = false := by
  rw [← Bool.not_eq_true, sizeMark_suffix_typeName ha, hmark, List.append_nil]
  exact h

theorem dropLast_append (l m : List Char) : dropLast m.length (l ++ m) = l := by
  unfold dropLast
  rw [List.length_append, Nat.add_sub_cancel, List.take_left]

/-- **A type name stands for its kind and its datatype**, if the datatype is canonical. -/
theorem decodeTypeName?_typeName (h : kind.Canonical datatype) :
    decodeTypeName? (typeName kind datatype) = some (kind, datatype) := by
  have hdrop : (typeName kind datatype).toList.drop kind.tag.toList.length =
      datatype.toList ++ kind.mark := by
    rw [typeName_toList, List.drop_left]
  unfold decodeTypeName?
  rw [matchKind?_typeName h]
  simp only [Option.bind_eq_bind, Option.bind_some, Kind.tag_withoutSize, hdrop]
  cases kind with
  | controlArraySize | indicatorArraySize =>
    rw [(sizeMark_suffix_typeName rfl).2 (List.suffix_append ..)]
    show some (_, String.ofList (dropLast _ (datatype.toList ++ sizeMark.toList))) = _
    rw [dropLast_append, String.ofList_toList]
    rfl
  | controlArray | indicatorArray =>
    rw [sizeMark_not_suffix_typeName rfl rfl h]
    show some (_, String.ofList (datatype.toList ++ [])) = _
    rw [List.append_nil, String.ofList_toList]
    rfl
  | control | indicator | targetToHostFifo | hostToTargetFifo =>
    show some (_, String.ofList (datatype.toList ++ [])) = _
    rw [List.append_nil, String.ofList_toList]
    rfl

/-! ## No two type names stand for the same -/

/-- The kind that is matched is none of the sizes, and its tag starts the type name. -/
theorem exists_of_matchKind? {s : String} (h : matchKind? s = some kind) :
    kind.isSize = false ∧ ∃ rest, s = typeName kind rest := by
  have hsize : kind.isSize = false := by
    have hall : ∀ k ∈ Kind.matchOrder, k.isSize = false := by decide
    exact hall kind (List.mem_of_find?_eq_some h)
  have htag := List.find?_some (p := fun k : Kind => k.tag.toList.isPrefixOf s.toList) h
  obtain ⟨rest, hrest⟩ := List.isPrefixOf_iff_prefix.1 htag
  refine ⟨hsize, String.ofList rest, ?_⟩
  rw [← String.toList_inj, typeName_toList, Kind.mark, hsize, String.toList_ofList, ← hrest]
  simp

theorem dropLast_append_suffix {l m : List Char} (h : m <:+ l) : dropLast m.length l ++ m = l := by
  obtain ⟨front, rfl⟩ := h
  rw [dropLast_append]

/-- **A type name that stands for a kind and a datatype is theirs.** -/
theorem eq_typeName_of_decodeTypeName? {s : String} (h : decodeTypeName? s = some (kind, datatype)) :
    s = typeName kind datatype := by
  unfold decodeTypeName? at h
  obtain ⟨matched, hmatched, h⟩ := Option.bind_eq_some_iff.1 h
  obtain ⟨hsize, rest, rfl⟩ := exists_of_matchKind? hmatched
  have hmark : matched.mark = [] := by rw [Kind.mark, hsize]; rfl
  have hdrop : (typeName matched rest).toList.drop matched.tag.toList.length = rest.toList := by
    rw [typeName_toList, List.drop_left, hmark, List.append_nil]
  simp only [hdrop] at h
  split at h
  · next harray =>
    rw [Bool.and_eq_true] at harray
    have hsuffix := (sizeMark_suffix_typeName harray.1).1 harray.2
    rw [hmark, List.append_nil] at hsuffix
    cases h
    have htag : matched.withSize.tag = matched.tag := by cases matched <;> rfl
    have hwith : matched.withSize.mark = sizeMark.toList := by
      have := harray.1
      cases matched <;> first | rfl | cases this
    rw [← String.toList_inj, typeName_toList, typeName_toList, htag, hwith, hmark, List.append_nil,
      String.toList_ofList, dropLast_append_suffix hsuffix]
  · cases h
    rw [String.ofList_toList]

/-! ## Texts that start with a tag -/

/-- A text that starts with the tag of a kind. -/
def StartsWithTag (s : String) : Prop := ∃ k : Kind, k.tag.toList <+: s.toList

theorem matchKind?_ne_none_iff {s : String} : matchKind? s ≠ none ↔ StartsWithTag s := by
  rw [matchKind?, Option.ne_none_iff_isSome, List.find?_isSome]
  constructor
  · rintro ⟨k, -, hk⟩
    exact ⟨k, List.isPrefixOf_iff_prefix.1 hk⟩
  · rintro ⟨k, hk⟩
    refine ⟨k.withoutSize, k.withoutSize_mem_matchOrder, ?_⟩
    rw [k.tag_withoutSize]
    exact List.isPrefixOf_iff_prefix.2 hk

theorem decodeTypeName?_ne_none_iff {s : String} : decodeTypeName? s ≠ none ↔ StartsWithTag s := by
  rw [← matchKind?_ne_none_iff, decodeTypeName?]
  cases matchKind? s with
  | none => simp
  | some k =>
    dsimp only [Option.bind_eq_bind, Option.bind_some]
    split <;> simp

end FpgaInterface
