import FpgaInterface.CustomType.ConstantName
import FpgaInterface.Proofs.TypeName

/-!
# Names of constants are read as they are written

* `IsPart` : a text that can be a part of the name of a constant;
* `ConstantName.Separate` : three such parts;
* `ConstantName.ofText?_eq_some_iff` : a name is read as the parts that it is written with;
* `ConstantName.ofText?_exact` : it is read as these alone, and every other name not at all.
-/

namespace FpgaInterface

/-- A part of the name of a constant. -/
def IsPart (s : String) : Prop := s ≠ "" ∧ '_' ∉ s.toList

theorem isPart_ofList {cs : List Char} (hne : cs ≠ []) (hsep : '_' ∉ cs) :
    IsPart (String.ofList cs) := by
  refine ⟨?_, by rwa [String.toList_ofList]⟩
  rw [Ne, ← String.toList_inj, String.toList_ofList]
  exact hne

/-- Parts that a name can be read in. -/
structure ConstantName.Separate (c : ConstantName) : Prop where
  elementClass : IsPart c.elementClass
  name : IsPart c.name
  field : IsPart c.field

theorem ConstantName.toList_text (stem : String) (c : ConstantName) :
    ∃ rest, c.text stem = stem ++ rest ∧
      rest.toList = c.elementClass.toList ++ '_' :: (c.name.toList ++ '_' :: c.field.toList) := by
  refine ⟨c.elementClass ++ "_" ++ c.name ++ "_" ++ c.field, ?_, ?_⟩
  · simp only [text, String.append_assoc]
  · simp [String.toList_append]

/-- A name is read as the parts that it is written with. -/
theorem ConstantName.ofText?_eq_some_iff {stem s : String} {c : ConstantName} :
    ofText? stem s = some c ↔ c.Separate ∧ s = c.text stem := by
  constructor
  · intro h
    obtain ⟨rest, hrest, hread⟩ := Option.bind_eq_some_iff.1 h
    obtain rfl := eq_append_of_afterStem? hrest
    have hjoin := Text.joinWith_partsAt '_' rest.toList
    split at hread
    · next k n f hparts =>
      split at hread
      · cases hread
      · next hempty =>
        have hsep : ∀ part ∈ [k, n, f], '_' ∉ part := by
          rw [← hparts]
          exact fun _ => Text.not_mem_of_mem_partsAt
        simp only [Bool.or_eq_true, List.isEmpty_iff, not_or] at hempty
        obtain ⟨⟨hk, hn⟩, hf⟩ := hempty
        cases hread
        refine ⟨⟨isPart_ofList hk (hsep k (by simp)), isPart_ofList hn (hsep n (by simp)),
          isPart_ofList hf (hsep f (by simp))⟩, ?_⟩
        obtain ⟨rest', htext, hrest'⟩ :=
          toList_text stem ⟨String.ofList k, String.ofList n, String.ofList f⟩
        rw [htext, ← String.toList_inj, String.toList_append, String.toList_append, hrest', ← hjoin,
          hparts]
        simp [Text.joinWith]
    · cases hread
  · rintro ⟨⟨⟨hclass, hclass'⟩, ⟨hname, hname'⟩, hfield, hfield'⟩, rfl⟩
    obtain ⟨rest, htext, hrest⟩ := c.toList_text stem
    have hparts : Text.partsAt '_' rest.toList =
        [c.elementClass.toList, c.name.toList, c.field.toList] := by
      rw [hrest, Text.partsAt_append_sep hclass', Text.partsAt_append_sep hname',
        Text.partsAt_of_not_mem hfield']
    rw [ofText?, htext, afterStem?_append]
    simp [hparts, hclass, hname, hfield]

/-- **Names of constants are read exactly.** Class, element and field are read of a name if it is the
stem followed by the three, joined by single underscores, and none of them is empty or holds an
underscore. Of every other name nothing is read. -/
theorem ConstantName.ofText?_exact (stem s : String) :
    (∀ elementClass name field, ofText? stem s = some ⟨elementClass, name, field⟩ ↔
      s = stem ++ (elementClass ++ "_" ++ name ++ "_" ++ field) ∧
        IsPart elementClass ∧ IsPart name ∧ IsPart field) ∧
      (ofText? stem s = none ↔ ¬ ∃ c : ConstantName, c.Separate ∧ s = c.text stem) := by
  refine ⟨fun elementClass name field => ?_, ?_⟩
  · rw [ofText?_eq_some_iff]
    simp only [text, String.append_assoc]
    constructor
    · rintro ⟨⟨hclass, hname, hfield⟩, hs⟩
      exact ⟨hs, hclass, hname, hfield⟩
    · rintro ⟨hs, hclass, hname, hfield⟩
      exact ⟨⟨hclass, hname, hfield⟩, hs⟩
  · rw [Option.eq_none_iff_forall_ne_some, not_exists]
    exact forall_congr' fun c => not_congr ofText?_eq_some_iff

-- The stem may come again among the parts.
example : ConstantName.ofText? "A_" "A_A_A_A" = some ⟨"A", "A", "A"⟩ := by decide +kernel

end FpgaInterface
