import FpgaInterface.Proofs.Canonicity

/-!
# Locations are sorted in one way

* `Location.sortKey` : the numbers that a location is sorted by;
* `Location.lt_iff_sortKey` : a location is smaller if the first of these that differs is;
* `Sorts r ls` : `r` has the locations of `ls`, none of them before a smaller one
  (`sorts_mergeSort`, `Sorts.unique`);
* `Location.order_sortsOnce` : the order is strict and total, agrees with equality, and leaves every
  list one way to be sorted, that of the entries of an address set.
-/

namespace FpgaInterface

variable {a b : Location} {r r' ls ls' : List Location}

/-! ## Keys -/

def codePoints (s : String) : List Nat := s.toList.map Char.toNat

theorem codePoints_injective {s t : String} (h : codePoints s = codePoints t) : s = t := by
  rw [← String.toList_inj]
  exact List.map_injective_iff.2 (fun _ _ h => Char.toNat_inj.1 h) h

theorem codePoints_lt {s t : String} (h : s < t) : List.Lex (· < ·) (codePoints s) (codePoints t) :=
  List.map_lt (fun _ _ hlt => hlt) (String.lt_iff.1 h)

/-- Texts are ordered as their code points are. -/
theorem lt_iff_codePoints {s t : String} :
    s < t ↔ List.Lex (· < ·) (codePoints s) (codePoints t) := by
  refine ⟨codePoints_lt, fun h => ?_⟩
  rcases text_trichotomy s t with hlt | rfl | hgt
  · exact hlt
  · exact absurd h (List.lt_irrefl (codePoints s))
  · exact absurd (codePoints_lt hgt) (List.lt_asymm h)

theorem Kind.idxOf_all (k : Kind) : Kind.all.idxOf k = k.order := by cases k <;> decide

namespace Location

/-- What a location is sorted by: the position of its kind, and the code points of its name and of
its datatype. -/
def sortKey (l : Location) : Nat × List Nat × List Nat :=
  (Kind.all.idxOf l.kind, codePoints l.name, codePoints l.datatype)

/-- The first part that differs decides the order. -/
theorem lt_iff_sortKey : a < b ↔ Prod.Lex (· < ·) (Prod.Lex (List.Lex (· < ·)) (List.Lex (· < ·)))
    a.sortKey b.sortKey := by
  have hkind : a.kind = b.kind ↔ a.kind.order = b.kind.order := ⟨congrArg _, Kind.order_inj⟩
  have hname : a.name = b.name ↔ codePoints a.name = codePoints b.name :=
    ⟨congrArg _, codePoints_injective⟩
  rw [Prod.lex_def, Prod.lex_def, lt_def, hkind, hname, lt_iff_codePoints, lt_iff_codePoints]
  simp only [sortKey, Kind.idxOf_all]

end Location

/-! ## Sorting -/

/-- A list rearranged so that no location stands before a smaller one. -/
structure Sorts (r ls : List Location) : Prop where
  perm : r.Perm ls
  sorted : r.Pairwise fun a b => ¬ b < a

theorem Sorts.unique (h : Sorts r ls) (h' : Sorts r' ls') (hperm : ls.Perm ls') : r' = r :=
  List.Perm.eq_of_pairwise (fun _ _ _ _ hab hba => Location.eq_of_not_lt hab hba) h'.sorted h.sorted
    (h'.perm.trans (hperm.symm.trans h.perm.symm))

theorem sorts_mergeSort (ls : List Location) :
    Sorts (ls.mergeSort fun a b => !decide (b < a)) ls where
  perm := ls.mergeSort_perm _
  sorted := by
    have htrans : ∀ a b c : Location, !decide (b < a) → !decide (c < b) → !decide (c < a) :=
      fun a b c hab hbc => by
        simpa using Location.not_lt_trans (by simpa using hab) (by simpa using hbc)
    have htotal : ∀ a b : Location, !decide (b < a) || !decide (a < b) := fun a b => by
      simpa [← not_and_or] using fun h => Location.lt_asymm h
    exact (List.pairwise_mergeSort htrans htotal ls).imp fun h => by simpa using h

/-- Different locations are sorted to strictly larger ones. -/
theorem Sorts.increasing (h : Sorts r ls) (hdistinct : ls.Nodup) : r.Pairwise (· < ·) := by
  have hne : r.Pairwise (· ≠ ·) := h.perm.nodup_iff.2 hdistinct
  refine h.sorted.imp₂ (fun a b hle hne => ?_) hne
  by_contra hlt
  exact hne (Location.eq_of_not_lt hle hlt)

/-- The entries of an address set are sorted, in whatever order its keys are given. -/
theorem AddressSet.sorts_keys {s : AddressSet} (hdistinct : ls.Nodup)
    (hkeys : ∀ l, l ∈ ls ↔ ∃ w, s.get? l = some w) : Sorts (s.entries.map (·.1)) ls where
  perm := by
    refine (List.perm_ext_iff_of_nodup s.keys_nodup hdistinct).2 fun l => ?_
    simp only [hkeys, SortedMap.get?_eq_some_iff, List.mem_map, Prod.exists, exists_and_right,
      exists_eq_right]
  sorted := List.pairwise_map.2 (s.sorted.imp Location.lt_asymm)

/-! ## The order -/

/-- One of three statements holds, and no two of them do. -/
def ExactlyOne (p q r : Prop) : Prop := (p ∧ ¬ q ∧ ¬ r) ∨ (¬ p ∧ q ∧ ¬ r) ∨ (¬ p ∧ ¬ q ∧ r)

theorem Location.exactlyOne (a b : Location) : ExactlyOne (a < b) (a = b) (b < a) := by
  rcases Location.lt_trichotomy a b with h | rfl | h
  · exact .inl ⟨h, fun e => lt_irrefl b (e ▸ h), lt_asymm h⟩
  · exact .inr (.inl ⟨lt_irrefl a, rfl, lt_irrefl a⟩)
  · exact .inr (.inr ⟨lt_asymm h, fun e => lt_irrefl b (e ▸ h), h⟩)

/-- **Locations are sorted in one way.** Of two locations one is smaller, or they are equal, which
they are if kind, name and datatype are. The order is transitive: the first of position of the kind,
code points of the name and code points of the datatype that differs decides. A list of locations,
in whatever order, is sorted to one list alone, without repetition to an increasing one. That of the
keys of an address set is the order of its entries. -/
theorem Location.order_sortsOnce :
    (∀ a b : Location, ExactlyOne (a < b) ((a == b) = true) (b < a)) ∧
      (∀ a b c : Location, a < b → b < c → a < c) ∧
      (∀ a b : Location, (a == b) = true ↔
        a.kind = b.kind ∧ a.name = b.name ∧ a.datatype = b.datatype) ∧
      (∀ a b : Location, a < b ↔
        Prod.Lex (· < ·) (Prod.Lex (List.Lex (· < ·)) (List.Lex (· < ·))) a.sortKey b.sortKey) ∧
      ∀ ls : List Location, ∃ r,
        (∀ ls', ls.Perm ls' → ∀ r', Sorts r' ls' ↔ r' = r) ∧
          (ls.Nodup → r.Pairwise (· < ·) ∧ ∀ s : AddressSet,
            (∀ l, l ∈ ls ↔ ∃ w, s.get? l = some w) → s.entries.map (·.1) = r) := by
  refine ⟨fun a b => ?_, fun a b c => lt_trans, fun a b => ?_, fun a b => lt_iff_sortKey,
    fun ls => ?_⟩
  · rw [beq_iff_eq]
    exact exactlyOne a b
  · obtain ⟨kind, name, datatype⟩ := a
    obtain ⟨kind', name', datatype'⟩ := b
    rw [beq_iff_eq, mk.injEq]
  · have hsorts := sorts_mergeSort ls
    refine ⟨_, fun ls' hperm r' => ⟨fun h => hsorts.unique h hperm, ?_⟩, fun hdistinct =>
      ⟨hsorts.increasing hdistinct, fun s hkeys => ?_⟩⟩
    · rintro rfl
      exact ⟨hsorts.perm.trans hperm, hsorts.sorted⟩
    · exact hsorts.unique (AddressSet.sorts_keys hdistinct hkeys) (.refl ls)

/-- Four locations, from the largest to the smallest: by kind, by name and by datatype. -/
def fallingLocations : List Location :=
  [⟨.indicator, "A", "U8"⟩, ⟨.control, "B", "U8"⟩, ⟨.control, "A", "U16"⟩, ⟨.control, "A", "I8"⟩]

/-- An address set with these locations for its keys, the largest one stored first. -/
def fallingAddresses : AddressSet :=
  fallingLocations.foldl (fun s l => s.insert l 0) SortedMap.empty

theorem mem_fallingLocations_iff (l : Location) :
    l ∈ fallingLocations ↔ ∃ w, fallingAddresses.get? l = some w := by
  simp only [fallingAddresses, fallingLocations, List.foldl_cons, List.foldl_nil,
    SortedMap.get?_insert, SortedMap.get?_empty, List.mem_cons, List.not_mem_nil, or_false]
  split_ifs <;> simp_all

theorem Location.order_sortsOnce_falling :
    (∀ r, Sorts r fallingLocations ↔ r = fallingLocations.reverse) ∧
      fallingLocations.reverse.Pairwise (· < ·) ∧
      fallingAddresses.entries.map (·.1) = fallingLocations.reverse ∧
      (⟨.control, "A", "I8"⟩ : Location) < ⟨.indicator, "A", "U8"⟩ := by
  obtain ⟨-, htrans, -, -, hsorts⟩ := order_sortsOnce
  obtain ⟨r, hr, hincreasing⟩ := hsorts fallingLocations
  have hreverse : Sorts fallingLocations.reverse fallingLocations :=
    ⟨List.reverse_perm _, by decide +kernel⟩
  obtain rfl := (hr _ (.refl _) _).1 hreverse
  obtain ⟨hless, hkeys⟩ := hincreasing (by decide)
  exact ⟨hr _ (.refl _), hless, hkeys fallingAddresses mem_fallingLocations_iff,
    htrans _ ⟨.control, "B", "U8"⟩ _ (by decide +kernel) (by decide +kernel)⟩

end FpgaInterface
