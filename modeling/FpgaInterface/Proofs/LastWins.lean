import FpgaInterface.Extract.Addresses
import FpgaInterface.Proofs.Traversal

/-!
# The address set of a header

The enumerators of an interface build a map in which the last one of an element counts.

* `Reading.Spells`, `Reading.HasWord` : the word that an enumerator gives its element;
* `LastWins E s` : `s` holds the elements of the enumerators `E`, each with the word of its last
  enumerator (`LastWins.snoc` : one more enumerator keeps this);
* `AddressStep.Passes`, `AddressStep.CutsShort` : which steps succeed, and which fail without a
  refusal of the constant (`AddressSet.step_of_passes`, `AddressSet.step_of_not_passes`);
* `addressProgress_lastWins` : the set of a header, wherever the way through it ends.
-/

namespace FpgaInterface

variable {s t : AddressSet} {r : Reading} {w : UInt32} {E : List Reading}

/-! ## The word of an enumerator -/

/-- The explicit value of an enumerator is an integer literal of the word. -/
def Reading.Spells (r : Reading) (w : UInt32) : Prop :=
  ∃ type spelling pos, r.enumerator.value? = some (.constant type spelling pos) ∧
    type ∉ nonIntegerTypes ∧ integerLiteral? spelling = some (w.toNat : Int)

/-- The explicit value of an enumerator is an integer literal from zero to `2 ^ 32 - 1`. -/
def Reading.HasWord (r : Reading) : Prop := ∃ w, r.Spells w

/-- The place that the refusal of an enumerator without a word names: that of the enumerator, or
that of a value that is no integer. A malformed literal is refused without a place. -/
def Reading.refusalPlace? (r : Reading) : Option Position :=
  match r.enumerator.value? with
  | none => r.enumerator.pos?
  | some (.constant type spelling pos) =>
    if type ∈ nonIntegerTypes then pos
    else if (integerLiteral? spelling).isSome then r.enumerator.pos?
    else none
  | some n => n.pos?

theorem Reading.Spells.unique {w' : UInt32} (h : r.Spells w) (h' : r.Spells w') : w = w' := by
  obtain ⟨type, spelling, pos, hv, -, hw⟩ := h
  obtain ⟨type', spelling', pos', hv', -, hw'⟩ := h'
  cases hv.symm.trans hv'
  have := Option.some.inj (hw.symm.trans hw')
  exact UInt32.toNat_inj.1 (by omega)

theorem AddressSet.set_of_fits {l : Location} {v : Int} (h : 0 ≤ v ∧ v < 0x100000000) :
    s.set l v = .ok (s.insert l (UInt32.ofNat v.toNat)) := by
  rw [AddressSet.set, if_pos h]

theorem AddressSet.set_of_not_fits {l : Location} {v : Int} (h : ¬ (0 ≤ v ∧ v < 0x100000000)) :
    s.set l v = .error ⟨v, l⟩ := by
  rw [AddressSet.set, if_neg h]

/-- Every word fits. -/
theorem AddressSet.set_toNat (s : AddressSet) (l : Location) (w : UInt32) :
    s.set l w.toNat = .ok (s.insert l w) := by
  have hlt := w.toNat_lt
  rw [AddressSet.set_of_fits (by omega), Int.toNat_natCast, UInt32.ofNat_toNat]

/-- An integer that fits is a word. -/
theorem exists_word {v : Int} (h : 0 ≤ v ∧ v < 0x100000000) : ∃ w : UInt32, v = w.toNat := by
  have hlt : v.toNat < 2 ^ 32 := by omega
  refine ⟨UInt32.ofNat v.toNat, ?_⟩
  rw [UInt32.toNat_ofNat_of_lt' hlt, Int.toNat_of_nonneg h.1]

/-- An enumerator with a word is stored. -/
theorem AddressSet.read_of_spells (s : AddressSet) (h : r.Spells w) :
    s.read r = .ok (s.insert r.location w) := by
  obtain ⟨type, spelling, pos, hv, ht, hw⟩ := h
  have hvalue : r.value = .ok (w.toNat : Int) := by
    simp [Reading.value, hv, integerOf, ht, parseInteger, hw]
  rw [AddressSet.read, hvalue, ok_bind, AddressSet.set_toNat]
  rfl

/-- An enumerator without a word is refused. -/
theorem AddressSet.read_of_not_hasWord (s : AddressSet) (h : ¬ r.HasWord) :
    ∃ e, s.read r = .error e ∧ e ≠ .pragma ∧ e.pos? = r.refusalPlace? := by
  unfold AddressSet.read Reading.value Reading.refusalPlace?
  cases hv : r.enumerator.value? with
  | none => exact ⟨_, rfl, nofun, rfl⟩
  | some n =>
    cases n with
    | constant type spelling pos =>
      by_cases ht : type ∈ nonIntegerTypes
      · refine ⟨.notInteger (.constant type spelling pos), ?_, nofun, ?_⟩
        · simp [integerOf, ht, bind, Except.bind]
        · simp [ht, ConstantError.pos?, Found.pos?]
      · cases hi : integerLiteral? spelling with
        | none =>
          refine ⟨.invalidLiteral spelling, ?_, nofun, ?_⟩
          · simp [integerOf, ht, parseInteger, hi, bind, Except.bind]
          · simp [ht, hi, ConstantError.pos?]
        | some v =>
          have hrange : ¬ (0 ≤ v ∧ v < 0x100000000) := by
            intro hv'
            obtain ⟨w, rfl⟩ := exists_word hv'
            exact h ⟨w, type, spelling, pos, hv, ht, hi⟩
          refine ⟨.tooWide ⟨v, r.location⟩ r.enumerator.pos?, ?_, nofun, ?_⟩
          · simp [integerOf, ht, parseInteger, hi, bind, Except.bind,
              AddressSet.set_of_not_fits hrange, Except.mapError]
          · simp [ht, hi, ConstantError.pos?]
    | ident | unary | initList | enum | decl | typedef | branch =>
      exact ⟨_, rfl, nofun, rfl⟩

/-! ## The last enumerator counts -/

/-- The set `s` holds exactly the elements of the enumerators `E`, each with the word of the last
one that names it. -/
structure LastWins (E : List Reading) (s : AddressSet) : Prop where
  keys : ∀ l, (∃ w, s.get? l = some w) ↔ ∃ r ∈ E, r.location = l
  last : ∀ l w, s.get? l = some w → ∃ before r after, E = before ++ r :: after ∧
    r.location = l ∧ r.Spells w ∧ ∀ x ∈ after, x.location ≠ l

theorem LastWins.nil : LastWins [] SortedMap.empty := by
  refine ⟨fun l => by simp, fun l w h => ?_⟩
  simp at h

/-- One more enumerator keeps that the last one counts. -/
theorem LastWins.snoc (h : LastWins E s) (hr : r.Spells w) :
    LastWins (E ++ [r]) (s.insert r.location w) := by
  constructor
  · intro l
    rw [SortedMap.get?_insert]
    by_cases hl : l = r.location
    · rw [if_pos hl]
      exact ⟨fun _ => ⟨r, by simp, hl.symm⟩, fun _ => ⟨w, rfl⟩⟩
    · rw [if_neg hl, h.keys l]
      constructor
      · rintro ⟨x, hx, hxl⟩
        exact ⟨x, List.mem_append_left _ hx, hxl⟩
      · rintro ⟨x, hx, hxl⟩
        rcases List.mem_append.1 hx with hx | hx
        · exact ⟨x, hx, hxl⟩
        · rw [List.mem_singleton.1 hx] at hxl
          exact absurd hxl.symm hl
  · intro l w' hw'
    rw [SortedMap.get?_insert] at hw'
    by_cases hl : l = r.location
    · rw [if_pos hl] at hw'
      cases hw'
      exact ⟨E, r, [], rfl, hl.symm, hr, nofun⟩
    · rw [if_neg hl] at hw'
      obtain ⟨before, x, after, rfl, hxl, hx, hafter⟩ := h.last l w' hw'
      refine ⟨before, x, after ++ [r], by simp, hxl, hx, fun y hy => ?_⟩
      rcases List.mem_append.1 hy with hy | hy
      · exact hafter y hy
      · rw [List.mem_singleton.1 hy]
        exact fun e => hl e.symm

/-- Seen from the end, the last enumerator of an element is the first one. -/
theorem first_reverse (before : List Reading) {after : List Reading} {l : Location}
    (hl : r.location = l) (h : ∀ x ∈ after, x.location ≠ l) :
    FirstWithout (·.location ≠ l) (before ++ r :: after).reverse after.reverse r :=
  ⟨⟨before.reverse, by simp⟩, fun x hx => h x (List.mem_reverse.1 hx), fun hn => hn hl⟩

/-- The enumerators determine the set. -/
theorem LastWins.unique (h : LastWins E s) (h' : LastWins E t) : s = t := by
  refine SortedMap.ext_get? fun l => ?_
  cases hs : s.get? l with
  | none =>
    cases ht : t.get? l with
    | none => rfl
    | some w =>
      obtain ⟨w', hw'⟩ := (h.keys l).2 ((h'.keys l).1 ⟨w, ht⟩)
      cases hs.symm.trans hw'
  | some w =>
    obtain ⟨w', hw'⟩ := (h'.keys l).2 ((h.keys l).1 ⟨w, hs⟩)
    obtain ⟨before, x, after, hE, hxl, hx, hafter⟩ := h.last l w hs
    obtain ⟨before', y, after', rfl, hyl, hy, hafter'⟩ := h'.last l w' hw'
    have hfirst := first_reverse before hxl hafter
    rw [← hE] at hfirst
    obtain ⟨-, rfl⟩ := hfirst.unique (first_reverse before' hyl hafter')
    rw [hw', hx.unique hy]

/-! ## Steps -/

/-- A step of the way through a header succeeds. -/
def AddressStep.Passes : AddressStep → Prop
  | skip _ => True
  | read r => r.HasWord
  | pragma => False

/-- A step fails with something else than the refusal of a constant: a pragma stands for an
enumerator, or the place of the refusal cannot be shown. -/
def AddressStep.CutsShort : AddressStep → Prop
  | skip _ => False
  | read r => ¬ r.HasWord ∧ ∃ pos, r.refusalPlace? = some pos ∧ pos.isShowable = false
  | pragma => True

def AddressStep.reading? : AddressStep → Option Reading
  | read r => some r
  | _ => none

/-- The refusal of a constant: no pragma, and no place that cannot be shown. -/
def ConstantError.IsRefusal (e : ConstantError) : Prop := e ≠ .pragma ∧ e.isShowable = true

/-- One step keeps that the last enumerator counts. -/
theorem AddressSet.step_of_passes {x : AddressStep} (h : LastWins E s) (hx : x.Passes) :
    ∃ t, s.step x = .ok t ∧ LastWins (E ++ x.reading?.toList) t := by
  cases x with
  | skip note => exact ⟨s, rfl, by simpa [AddressStep.reading?] using h⟩
  | read r =>
    obtain ⟨w, hw⟩ := hx
    exact ⟨s.insert r.location w, s.read_of_spells hw, h.snoc hw⟩
  | pragma => exact absurd hx id

/-- A step that does not succeed refuses a constant unless it cuts the way short. -/
theorem AddressSet.step_of_not_passes {x : AddressStep} (s : AddressSet) (hx : ¬ x.Passes) :
    ∃ e, s.step x = .error e ∧ (e.IsRefusal ↔ ¬ x.CutsShort) := by
  cases x with
  | skip note => exact absurd trivial hx
  | read r =>
    obtain ⟨e, he, hne, hpos⟩ := s.read_of_not_hasWord hx
    refine ⟨e, he, ?_⟩
    have hr : ¬ r.HasWord := hx
    simp only [ConstantError.IsRefusal, AddressStep.CutsShort, ConstantError.isShowable, hpos]
    cases r.refusalPlace? <;> simp [hne, hr]
  | pragma => exact ⟨.pragma, rfl, by simp [ConstantError.IsRefusal, AddressStep.CutsShort]⟩

/-- Steps that all succeed keep that the last enumerator counts. -/
theorem AddressSet.steps_of_passes {xs : List AddressStep} (h : LastWins E s)
    (hx : ∀ x ∈ xs, x.Passes) :
    ∃ t, xs.foldlM AddressSet.step s = .ok t ∧ LastWins (E ++ xs.filterMap (·.reading?)) t := by
  induction xs generalizing E s with
  | nil => exact ⟨s, rfl, by simpa using h⟩
  | cons x xs ih =>
    obtain ⟨u, hu, hlast⟩ := AddressSet.step_of_passes h (hx x (List.mem_cons_self ..))
    obtain ⟨t, ht, hlast⟩ := ih hlast fun y hy => hx y (List.mem_cons_of_mem _ hy)
    refine ⟨t, ?_, ?_⟩
    · rw [List.foldlM_cons, hu, ok_bind, ht]
    · rw [List.append_assoc] at hlast
      cases hread : x.reading? <;> simpa [hread] using hlast

/-- Enumerators that are skipped leave the set. -/
theorem AddressSet.steps_of_skips {xs : List AddressStep} (s : AddressSet)
    (h : ∀ x ∈ xs, ∃ note, x = .skip note) : xs.foldlM AddressSet.step s = .ok s := by
  induction xs with
  | nil => rfl
  | cons x xs ih =>
    obtain ⟨note, rfl⟩ := h x (List.mem_cons_self ..)
    rw [List.foldlM_cons, AddressSet.step, ok_bind]
    exact ih fun y hy => h y (List.mem_cons_of_mem _ hy)

/-! ## The whole way -/

def headerSteps (interface : String) (tree : Node) : List AddressStep :=
  tree.typedefs.flatMap (Typedef.steps interface)

theorem filterMap_steps (interface : String) (d : Typedef) :
    (d.steps interface).filterMap (·.reading?) = d.readings interface := by
  unfold Typedef.steps Typedef.readings
  cases d.use interface with
  | elements kind datatype items =>
    rw [List.filterMap_map]
    congr 1
    funext item
    cases item <;> rfl
  | none | foreign | unknown => rfl

/-- The steps read the enumerators of the interface in order. -/
theorem filterMap_headerSteps (interface : String) (tree : Node) :
    (headerSteps interface tree).filterMap (·.reading?) = readings interface tree.typedefs := by
  rw [headerSteps, readings, List.filterMap_flatMap]
  congr 1
  funext d
  exact filterMap_steps interface d

/-- If all steps succeed, the set is that of all enumerators. -/
theorem addressProgress_of_passes {interface : String} {tree : Node}
    (h : ∀ x ∈ headerSteps interface tree, x.Passes) :
    (addressProgress interface tree.typedefs).fault = none ∧
      LastWins (readings interface tree.typedefs) (addressProgress interface tree.typedefs).state := by
  obtain ⟨t, ht, hlast⟩ := AddressSet.steps_of_passes LastWins.nil h
  obtain ⟨hfault, hstate⟩ := Progress.along_of_ok (fun _ => AddressStep.notes) ht
  rw [filterMap_headerSteps, List.nil_append, ← hstate] at hlast
  exact ⟨hfault, hlast⟩

/-- The first step that does not succeed leaves the set of the enumerators before it. -/
theorem addressProgress_of_first {interface : String} {tree : Node} {before : List AddressStep}
    {x : AddressStep} (h : FirstWithout AddressStep.Passes (headerSteps interface tree) before x) :
    (∃ e, (addressProgress interface tree.typedefs).fault = some e ∧
        (e.IsRefusal ↔ ¬ x.CutsShort)) ∧
      LastWins (before.filterMap (·.reading?)) (addressProgress interface tree.typedefs).state := by
  obtain ⟨t, ht, hlast⟩ := AddressSet.steps_of_passes LastWins.nil h.before
  obtain ⟨e, he, hrefusal⟩ := AddressSet.step_of_not_passes t h.here
  obtain ⟨hfault, hstate⟩ :=
    Progress.along_of_error (fun _ => AddressStep.notes) ht he h.starts
  rw [List.nil_append, ← hstate] at hlast
  exact ⟨⟨e, hfault, hrefusal⟩, hlast⟩

/-- The set of a header is that of all its enumerators if each has a word. Otherwise the first
without a word is refused, and the set is that of the enumerators before it. -/
def LastWinsToRefusal (interface : String) (tree : Node) : Prop :=
  ((∀ r ∈ readings interface tree.typedefs, r.HasWord) →
      (addressProgress interface tree.typedefs).fault = none ∧
        LastWins (readings interface tree.typedefs)
          (addressProgress interface tree.typedefs).state) ∧
    ∀ before r, FirstWithout Reading.HasWord (readings interface tree.typedefs) before r →
      (∃ e, (addressProgress interface tree.typedefs).fault = some e ∧ e.IsRefusal) ∧
        LastWins before (addressProgress interface tree.typedefs).state

/-- The first step through a header that does not succeed cuts the way short. -/
def IsCutShort (interface : String) (tree : Node) : Prop :=
  ∃ before x, FirstWithout AddressStep.Passes (headerSteps interface tree) before x ∧ x.CutsShort

/-- A refused enumerator is the first without a word. -/
theorem first_reading {xs before : List AddressStep}
    (h : FirstWithout AddressStep.Passes xs before (.read r)) :
    FirstWithout Reading.HasWord (xs.filterMap (·.reading?)) (before.filterMap (·.reading?)) r := by
  refine ⟨?_, fun x hx => ?_, h.here⟩
  · simpa [AddressStep.reading?] using h.starts.filterMap (·.reading?)
  · obtain ⟨y, hy, hyx⟩ := List.mem_filterMap.1 hx
    cases y with
    | read r' =>
      cases hyx
      exact h.before _ hy
    | skip | pragma => cases hyx

theorem hasWord_of_passes {xs : List AddressStep} (h : ∀ x ∈ xs, x.Passes) :
    ∀ r ∈ xs.filterMap (·.reading?), r.HasWord := by
  intro r hr
  obtain ⟨x, hx, hxr⟩ := List.mem_filterMap.1 hr
  cases x with
  | read r' =>
    cases hxr
    exact h _ hx
  | skip | pragma => cases hxr

theorem not_lastWinsToRefusal {interface : String} {tree : Node} (h : IsCutShort interface tree) :
    ¬ LastWinsToRefusal interface tree := by
  rintro ⟨hall, hrefused⟩
  obtain ⟨steps, x, hfirst, hcut⟩ := h
  obtain ⟨⟨e, he, hrefusal⟩, -⟩ := addressProgress_of_first hfirst
  rcases all_or_first Reading.HasWord (readings interface tree.typedefs) with h | ⟨before, r, h⟩
  · cases he.symm.trans (hall h).1
  · obtain ⟨⟨e', he', hrefusal'⟩, -⟩ := hrefused before r h
    cases he.symm.trans he'
    exact hrefusal.1 hrefusal' hcut

theorem lastWinsToRefusal_of_not_cutShort {interface : String} {tree : Node}
    (h : ¬ IsCutShort interface tree) : LastWinsToRefusal interface tree := by
  rcases all_or_first AddressStep.Passes (headerSteps interface tree) with
    hpass | ⟨before, x, hfirst⟩
  · have hword := hasWord_of_passes hpass
    rw [filterMap_headerSteps] at hword
    exact ⟨fun _ => addressProgress_of_passes hpass, fun before r hr =>
      absurd (hword r hr.mem) hr.here⟩
  · obtain ⟨⟨e, he, hrefusal⟩, hlast⟩ := addressProgress_of_first hfirst
    have hcut : ¬ x.CutsShort := fun hcut => h ⟨before, x, hfirst, hcut⟩
    cases x with
    | skip note => exact absurd trivial hfirst.here
    | pragma => exact absurd trivial hcut
    | read r =>
      have hr := first_reading hfirst
      rw [filterMap_headerSteps] at hr
      refine ⟨fun hall => absurd (hall r hr.mem) hr.here, fun before' r' hr' => ?_⟩
      obtain ⟨rfl, rfl⟩ := hr'.unique hr
      exact ⟨⟨e, he, hrefusal.2 hcut⟩, hlast⟩

/-- **The address set of a header.** The last enumerator of an element counts, up to the first one
without a word, which is refused, exactly if no pragma among the enumerators and no place that
cannot be shown cuts the way short. Wherever the way ends, the set is that of the enumerators
before. -/
theorem addressProgress_lastWins (interface : String) (tree : Node) :
    (LastWinsToRefusal interface tree ↔ ¬ IsCutShort interface tree) ∧
      ∀ before x, FirstWithout AddressStep.Passes (headerSteps interface tree) before x →
        (∃ e, (addressProgress interface tree.typedefs).fault = some e ∧
            (e.IsRefusal ↔ ¬ x.CutsShort)) ∧
          LastWins (before.filterMap (·.reading?))
            (addressProgress interface tree.typedefs).state :=
  ⟨⟨fun h hcut => not_lastWinsToRefusal hcut h, lastWinsToRefusal_of_not_cutShort⟩,
    fun _ _ => addressProgress_of_first⟩

/-- The name of an enumeration of the interface `Main`. -/
def controlI8 : String := "NiFpga_Main_ControlI8"

/-- An enumerator of that enumeration. -/
def inControlI8 (name spelling : String) : Enumerator :=
  .mk (controlI8 ++ "_" ++ name) (some (.constant "int" spelling none)) none

/-- Two enumerators with their words and a pragma between them. -/
def pragmaBetween : Node :=
  .branch .file
    [.typedef controlI8 (.enum none (some
      [.enumerator (inControlI8 "K" "1"), .pragma, .enumerator (inControlI8 "J" "2")]))]
    none

/-- A pragma ends the way although each enumerator has a word. -/
theorem not_lastWinsToRefusal_pragmaBetween : ¬ LastWinsToRefusal "Main" pragmaBetween := by
  have hsteps : headerSteps "Main" pragmaBetween =
      [.read ⟨.control, "I8", inControlI8 "K" "1"⟩, .pragma,
        .read ⟨.control, "I8", inControlI8 "J" "2"⟩] := by cbv
  have hword : (Reading.mk .control "I8" (inControlI8 "K" "1")).HasWord :=
    ⟨1, "int", "1", none, rfl, by decide, by decide +kernel⟩
  refine not_lastWinsToRefusal ⟨[.read ⟨.control, "I8", inControlI8 "K" "1"⟩], .pragma, ?_, trivial⟩
  rw [hsteps]
  exact (FirstWithout.head id).cons hword

end FpgaInterface
