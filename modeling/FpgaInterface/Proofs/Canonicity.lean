import FpgaInterface.Binding.ModuleText
import FpgaInterface.Proofs.ChangeHistory
import FpgaInterface.Yaml.Listing

/-!
# Address sets keep no history

An address set, and all that is written of it, depends on what it holds and not on how it came to
hold it.

* `contents_injective` : sets with the same contents are equal;
* `Tabulates table m` : the rows of a map, in any order; sorted, they are the entries of the set
  (`mergeSort_of_tabulates`);
* `lastValue rows` : each key with the value of its last row; a set built from rows holds these
  (`ofRows_eq_ok_iff`), whatever the order of rows with different keys (`lastValue_of_perm`);
* `run_eq_iff_of_history` : changes that end in the same contents end in the same set, with the same
  listing, text and module, and only those.
-/

namespace FpgaInterface

/-! ## Tables in any order -/

/-- Rows with different keys that are those of a map. -/
structure Tabulates (table : List Entry) (m : Contents) : Prop where
  keys_nodup : (table.map (·.1)).Nodup
  rows : ∀ l (w : UInt32), (l, w) ∈ table ↔ m l = some (w.toNat : Int)

/-- The order of rows: by their keys. -/
def precedes (a b : Entry) : Bool := !decide (b.1 < a.1)

theorem precedes_iff {a b : Entry} : precedes a b = true ↔ ¬ b.1 < a.1 := by simp [precedes]

theorem precedes_trans (a b c : Entry) (hab : precedes a b = true) (hbc : precedes b c = true) :
    precedes a c = true := by
  rw [precedes_iff] at *
  exact Location.not_lt_trans hab hbc

theorem precedes_total (a b : Entry) : (precedes a b || precedes b a) = true := by
  rw [Bool.or_eq_true, precedes_iff, precedes_iff, ← not_and_or]
  exact fun h => Location.lt_asymm h.1 h.2

theorem lt_of_precedes {a b : Entry} (h : precedes a b = true) (hne : a.1 ≠ b.1) : a.1 < b.1 := by
  by_contra hlt
  exact hne (Location.eq_of_not_lt (precedes_iff.1 h) hlt)

namespace AddressSet

variable {s t : AddressSet} {rows rows' : List (Location × Int)} {l : Location} {i : Int}

theorem contents_injective (h : s.contents = t.contents) : s = t := by
  refine SortedMap.ext_get? fun l => Option.ext fun w => ?_
  rw [SortedMap.get?_eq_some_iff, SortedMap.get?_eq_some_iff, mem_entries_iff, mem_entries_iff, h]

/-- The rows of a set, in whatever order they are kept, are sorted to its entries. -/
theorem mergeSort_of_tabulates {table : List Entry} (h : Tabulates table s.contents) :
    table.mergeSort precedes = s.entries := by
  have hperm := table.mergeSort_perm precedes
  have hkeys : (table.mergeSort precedes).Pairwise fun a b => a.1 ≠ b.1 :=
    List.pairwise_map.1 ((hperm.map Prod.fst).nodup_iff.2 h.keys_nodup)
  have hsorted : (table.mergeSort precedes).Pairwise fun a b => a.1 < b.1 :=
    (List.pairwise_mergeSort precedes_trans precedes_total table).imp₂
      (fun _ _ hle hne => lt_of_precedes hle hne) hkeys
  refine SortedMap.entries_ext hsorted s.sorted fun e => ?_
  rw [hperm.mem_iff, ← Prod.eta e, h.rows, mem_entries_iff]

/-! ## Sets built from rows -/

/-- The value of the last row of a key. -/
def lastValue (rows : List (Location × Int)) : Contents := fun l => rows.reverse.lookup l

theorem lastValue_cons (l₀ : Location) (i₀ : Int) (rows : List (Location × Int)) (l : Location) :
    lastValue ((l₀, i₀) :: rows) l = (lastValue rows l).or (if l = l₀ then some i₀ else none) := by
  rw [lastValue, List.reverse_cons, List.lookup_append, SortedMap.lookup_cons_entry]
  rfl

/-- The row counts that no other row of its key follows. -/
theorem lastValue_eq_some_iff : lastValue rows l = some i ↔
    ∃ before after, rows = before ++ (l, i) :: after ∧ ∀ r ∈ after, r.1 ≠ l := by
  rw [lastValue, List.lookup_eq_some_iff]
  constructor
  · rintro ⟨after, before, hrows, hafter⟩
    refine ⟨before.reverse, after.reverse, ?_, fun r hr => ?_⟩
    · rw [← List.reverse_inj, hrows]
      simp
    · exact (bne_iff_ne.1 (hafter r (List.mem_reverse.1 hr))).symm
  · rintro ⟨before, after, rfl, hafter⟩
    refine ⟨after.reverse, before.reverse, by simp, fun r hr => ?_⟩
    exact bne_iff_ne.2 (hafter r (List.mem_reverse.1 hr)).symm

theorem lastValue_eq_some_iff_of_nodup (h : (rows.map (·.1)).Nodup) :
    lastValue rows l = some i ↔ (l, i) ∈ rows := by
  rw [lastValue_eq_some_iff]
  constructor
  · rintro ⟨before, after, rfl, -⟩
    simp
  · intro hmem
    obtain ⟨before, after, rfl⟩ := List.append_of_mem hmem
    refine ⟨before, after, rfl, fun r hr heq => ?_⟩
    rw [List.map_append, List.map_cons] at h
    exact (List.nodup_cons.1 (List.nodup_append.1 h).2.1).1 (List.mem_map.2 ⟨r, hr, heq⟩)

/-- The order of rows with different keys does not matter. -/
theorem lastValue_of_perm (hperm : rows.Perm rows') (h : (rows.map (·.1)).Nodup) :
    lastValue rows = lastValue rows' := by
  funext l
  refine Option.ext fun i => ?_
  rw [lastValue_eq_some_iff_of_nodup h,
    lastValue_eq_some_iff_of_nodup ((hperm.map _).nodup_iff.1 h), hperm.mem_iff]

theorem foldlM_set_of_fits (s : AddressSet) (h : ∀ r ∈ rows, 0 ≤ r.2 ∧ r.2 < 2 ^ 32) :
    ∃ t, rows.foldlM (fun s r => set s r.1 r.2) s = .ok t ∧
      ∀ l, contents t l = (lastValue rows l).or (s.contents l) := by
  induction rows generalizing s with
  | nil => exact ⟨s, rfl, fun l => rfl⟩
  | cons r rest ih =>
    obtain ⟨l₀, i₀⟩ := r
    obtain ⟨w, rfl⟩ := exists_word (h _ (List.mem_cons_self ..))
    obtain ⟨t, ht, hcontents⟩ :=
      ih (s.insert l₀ w) fun r hr => h r (List.mem_cons_of_mem _ hr)
    refine ⟨t, ?_, fun l => ?_⟩
    · rw [List.foldlM_cons, set_toNat, ok_bind, ht]
    · rw [hcontents, contents_insert, Contents.store, lastValue_cons, Option.or_assoc]
      by_cases hl : l = l₀ <;> simp [hl]

theorem fits_of_foldlM_set (h : rows.foldlM (fun s r => set s r.1 r.2) s = .ok t) :
    ∀ r ∈ rows, 0 ≤ r.2 ∧ r.2 < 2 ^ 32 := by
  induction rows generalizing s with
  | nil => exact nofun
  | cons r rest ih =>
    rw [List.foldlM_cons] at h
    obtain ⟨u, hu, hrest⟩ := bind_eq_ok_iff.1 h
    intro x hx
    rcases List.mem_cons.1 hx with rfl | hx
    · by_contra hwide
      cases (set_of_not_fits hwide).symm.trans hu
    · exact ih hrest x hx

/-- A set is built from rows that all fit, and holds the last row of each key. -/
theorem ofRows_eq_ok_iff : ofRows rows = .ok s ↔
    (∀ r ∈ rows, 0 ≤ r.2 ∧ r.2 < 2 ^ 32) ∧ s.contents = lastValue rows := by
  have hbuilt (h : ∀ r ∈ rows, 0 ≤ r.2 ∧ r.2 < 2 ^ 32) :
      ∃ t, ofRows rows = .ok t ∧ contents t = lastValue rows := by
    obtain ⟨t, ht, hcontents⟩ := foldlM_set_of_fits SortedMap.empty h
    refine ⟨t, ht, funext fun l => ?_⟩
    rw [hcontents, contents_empty]
    exact Option.or_none
  constructor
  · intro h
    have hfits := fits_of_foldlM_set h
    obtain ⟨t, ht, hcontents⟩ := hbuilt hfits
    cases h.symm.trans ht
    exact ⟨hfits, hcontents⟩
  · rintro ⟨hfits, hcontents⟩
    obtain ⟨t, ht, hcontents'⟩ := hbuilt hfits
    rw [ht, contents_injective (hcontents.trans hcontents'.symm)]

/-! ## Histories -/

variable {cs cs' : List Change} {as as' : List (Except ChangeError Answer)} {m m' : Contents}

theorem contents_run_of_history (h : History Contents.empty cs as m) :
    contents (run cs) = m := by
  rw [← contents_empty] at h
  exact (eq_of_history h).2

/-- **An address set keeps no history.** Changes that end in the same contents, and no others, end
in the same set, with the same entries, text, listing, and module or fault of it. The entries are
the rows of the contents sorted, in whatever order they are kept. A set built from rows holds the
last of each key, and the order of rows with different keys does not matter. -/
theorem run_eq_iff_of_history (h : History Contents.empty cs as m)
    (h' : History Contents.empty cs' as' m') :
    (run cs = run cs' ↔ m = m') ∧
      (m = m' → (run cs).entries = (run cs').entries ∧ (run cs).text = (run cs').text ∧
        ∀ signature interface,
          moduleText ⟨signature, run cs⟩ interface = moduleText ⟨signature, run cs'⟩ interface ∧
          moduleFiles ⟨signature, run cs⟩ interface = moduleFiles ⟨signature, run cs'⟩ interface ∧
          ∀ shown, Description.listing ⟨signature, run cs⟩ shown =
            Description.listing ⟨signature, run cs'⟩ shown) ∧
      (∀ table, Tabulates table m → table.mergeSort precedes = (run cs).entries) ∧
      ∀ rows, (Succeeds ofRows rows ↔ ∀ r ∈ rows, 0 ≤ r.2 ∧ r.2 < 2 ^ 32) ∧
        (∀ s, ofRows rows = .ok s → s.contents = lastValue rows) ∧
        ∀ rows', (rows.map (·.1)).Nodup → rows.Perm rows' →
          ∀ s, ofRows rows = .ok s ↔ ofRows rows' = .ok s := by
  obtain rfl := contents_run_of_history h
  obtain rfl := contents_run_of_history h'
  refine ⟨⟨congrArg contents, contents_injective⟩, fun hsame => ?_,
    fun table htable => mergeSort_of_tabulates htable, fun rows => ⟨⟨?_, ?_⟩, ?_, ?_⟩⟩
  · rw [contents_injective hsame]
    exact ⟨rfl, rfl, fun signature interface => ⟨rfl, rfl, fun shown => rfl⟩⟩
  · rintro ⟨s, hs⟩
    exact (ofRows_eq_ok_iff.1 hs).1
  · intro hfits
    obtain ⟨t, ht, -⟩ := foldlM_set_of_fits SortedMap.empty hfits
    exact ⟨t, ht⟩
  · exact fun s hs => (ofRows_eq_ok_iff.1 hs).2
  · intro rows' hkeys hperm s
    rw [ofRows_eq_ok_iff, ofRows_eq_ok_iff, lastValue_of_perm hperm hkeys]
    simp only [hperm.mem_iff]

/-- A control of type `U8`. -/
def controlU8 (name : String) : Location := ⟨.control, name, "U8"⟩

/-- Two controls, the second of which is refused, deleted and stored again. -/
def storedAgain : List Change :=
  [.set (.location (controlU8 "B")) (.int 1), .set (.location (controlU8 "A")) (.int 2),
    .set (.location (controlU8 "B")) (.int (2 ^ 32)), .delete (.location (controlU8 "B")),
    .pop (.location (controlU8 "B")), .set (.location (controlU8 "B")) (.int 3)]

/-- The same two controls in one update, the first of them twice. -/
def storedTogether : List Change :=
  [.update [(.location (controlU8 "B"), .int 7), (.location (controlU8 "A"), .int 2),
    (.location (controlU8 "B"), .int 3)]]

theorem run_eq_iff_of_history_storedAgain :
    ∃ as m as' m', History Contents.empty storedAgain as m ∧
      History Contents.empty storedTogether as' m' ∧ m = m' ∧
      run storedAgain = run storedTogether ∧
      Tabulates [(controlU8 "B", 3), (controlU8 "A", 2)] m ∧
      [(controlU8 "B", 3), (controlU8 "A", 2)].mergeSort precedes = (run storedTogether).entries ∧
      (∃ text, moduleText ⟨"A0", run storedAgain⟩ "Main" = .ok text ∧
        moduleText ⟨"A0", run storedTogether⟩ "Main" = .ok text) ∧
      ∃ s, ofRows [(controlU8 "B", 3), (controlU8 "A", 2)] = .ok s ∧
        ofRows [(controlU8 "A", 2), (controlU8 "B", 3)] = .ok s := by
  have hagain : History Contents.empty storedAgain _
      ((((Contents.empty.store (controlU8 "B") 1).store (controlU8 "A") 2).drop
        (controlU8 "B")).store (controlU8 "B") 3) :=
    .cons (.set (.intro _ 1 (by decide))) <| .cons (.set (.intro _ 2 (by decide))) <|
      .cons (.setRefused (.tooWide _ _ (by decide))) <| .cons (.delete (i := 1) rfl) <|
      .cons (.popAbsent rfl) <| .cons (.set (.intro _ 3 (by decide))) (.nil _)
  have htogether : History Contents.empty storedTogether _
      (((Contents.empty.store (controlU8 "B") 7).store (controlU8 "A") 2).store
        (controlU8 "B") 3) :=
    .cons (.update <| .cons (.intro _ 7 (by decide)) <| .cons (.intro _ 2 (by decide)) <|
      .cons (.intro _ 3 (by decide)) (.nil _)) (.nil _)
  have hsame : (((Contents.empty.store (controlU8 "B") 1).store (controlU8 "A") 2).drop
      (controlU8 "B")).store (controlU8 "B") 3 = ((Contents.empty.store (controlU8 "B") 7).store
        (controlU8 "A") 2).store (controlU8 "B") 3 := by
    funext l
    by_cases hl : l = controlU8 "B" <;> simp [Contents.store, Contents.drop, hl]
  have hentries : (run storedAgain).entries = [(controlU8 "A", 2), (controlU8 "B", 3)] := by
    decide +kernel
  have htable : Tabulates [(controlU8 "B", 3), (controlU8 "A", 2)] (contents (run storedAgain)) := by
    refine ⟨by decide +kernel, fun l w => ?_⟩
    rw [← mem_entries_iff, hentries]
    exact (List.Perm.swap ..).mem_iff
  rw [contents_run_of_history hagain] at htable
  obtain ⟨hiff, hwritten, hsorted, hrows⟩ := run_eq_iff_of_history hagain htogether
  have hset := hiff.2 hsame
  obtain ⟨text, htext⟩ := exists_of_toBool
    (show (moduleText ⟨"A0", run storedAgain⟩ "Main").toBool = true by decide +kernel)
  obtain ⟨hfits, hlast, hperm⟩ := hrows [(controlU8 "B", 3), (controlU8 "A", 2)]
  obtain ⟨s, hs⟩ := hfits.2 (by decide)
  exact ⟨_, _, _, _, hagain, htogether, hsame, hset, htable, hset ▸ hsorted _ htable,
    ⟨text, htext, ((hwritten hsame).2.2 "A0" "Main").1 ▸ htext⟩,
    s, hs, (hperm _ (by decide) (List.Perm.swap ..) s).1 hs⟩

end AddressSet

end FpgaInterface
