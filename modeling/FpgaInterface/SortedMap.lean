/-!
# Sorted maps

A finite map whose entries are held in strictly increasing order of their keys.

* `TotalOrder`: the keys have a strict total order;
* `SortedMap`: the entries; `get?`, `insert`, `erase`, `first?`: look-up and change;
* `keys_nodup`: each key has one entry;
* `get?_insert`, `get?_erase`: what a change does to every key;
* `get?_eq_some_iff`: a look-up finds exactly the entries;
* `ext_get?`: a map is determined by its look-ups, whatever its history.
-/

namespace FpgaInterface

/-- A strict total order. -/
class TotalOrder (κ : Type) [LT κ] : Prop where
  irrefl (a : κ) : ¬ a < a
  trans {a b c : κ} : a < b → b < c → a < c
  trichotomy (a b : κ) : a < b ∨ a = b ∨ b < a

theorem text_trichotomy (s t : String) : s < t ∨ s = t ∨ t < s := by
  rcases Decidable.em (s < t) with h | h
  · exact .inl h
  · rcases Decidable.em (t < s) with h' | h'
    · exact .inr (.inr h')
    · exact .inr (.inl (String.le_antisymm h' h))

instance : TotalOrder String := ⟨String.lt_irrefl, String.lt_trans, text_trichotomy⟩

/-- A map from keys to values, in the order of the keys. -/
structure SortedMap (κ ν : Type) [LT κ] where
  entries : List (κ × ν)
  sorted : entries.Pairwise (fun a b => a.1 < b.1)
  deriving DecidableEq

namespace SortedMap

variable {κ ν : Type} [LT κ] [DecidableLT κ] [DecidableEq κ] [TotalOrder κ]

/-! ## Changes of a sorted list -/

/-- Puts an entry in its place, over an entry of the same location. -/
def insertEntry (l : κ) (w : ν) : List (κ × ν) → List (κ × ν)
  | [] => [(l, w)]
  | e :: rest =>
    if l < e.1 then (l, w) :: e :: rest
    else if l = e.1 then (l, w) :: rest
    else e :: insertEntry l w rest

omit [TotalOrder κ] in
theorem mem_insertEntry {l : κ} {w : ν} {es : List (κ × ν)} {x : κ × ν}
    (h : x ∈ insertEntry l w es) : x = (l, w) ∨ x ∈ es := by
  induction es with
  | nil => simpa [insertEntry] using h
  | cons e rest ih =>
    simp only [insertEntry] at h
    split at h
    · simpa using h
    · split at h
      · rcases List.mem_cons.1 h with h | h
        · exact .inl h
        · exact .inr (List.mem_cons_of_mem _ h)
      · rcases List.mem_cons.1 h with rfl | h
        · exact .inr (List.mem_cons_self ..)
        · exact (ih h).imp_right (List.mem_cons_of_mem _)

theorem sorted_insertEntry {l : κ} {w : ν} {es : List (κ × ν)}
    (h : es.Pairwise (fun a b => a.1 < b.1)) :
    (insertEntry l w es).Pairwise (fun a b => a.1 < b.1) := by
  induction es with
  | nil => simp [insertEntry]
  | cons e rest ih =>
    obtain ⟨he, hr⟩ := List.pairwise_cons.1 h
    simp only [insertEntry]
    split
    · rename_i hl
      refine List.pairwise_cons.2 ⟨fun x hx => ?_, h⟩
      rcases List.mem_cons.1 hx with rfl | hx
      · exact hl
      · exact TotalOrder.trans hl (he x hx)
    · split
      · rename_i _ hl
        subst hl
        exact List.pairwise_cons.2 ⟨fun x hx => he x hx, hr⟩
      · rename_i hn hne
        refine List.pairwise_cons.2 ⟨fun x hx => ?_, ih hr⟩
        rcases mem_insertEntry hx with rfl | hx
        · rcases TotalOrder.trichotomy l e.1 with h' | h' | h'
          · exact absurd h' hn
          · exact absurd h' hne
          · exact h'
        · exact he x hx

/-! ## Operations -/

def empty {κ ν : Type} [LT κ] : SortedMap κ ν := ⟨[], .nil⟩

instance {κ ν : Type} [LT κ] : Inhabited (SortedMap κ ν) := ⟨empty⟩

def get? (s : SortedMap κ ν) (k : κ) : Option ν := s.entries.lookup k

def contains (s : SortedMap κ ν) (k : κ) : Bool := (s.get? k).isSome

def size (s : SortedMap κ ν) : Nat := s.entries.length

/-- The map in which the key has that value. -/
def insert (s : SortedMap κ ν) (k : κ) (v : ν) : SortedMap κ ν :=
  ⟨insertEntry k v s.entries, sorted_insertEntry s.sorted⟩

/-- The map in which the key has no value. -/
def erase (s : SortedMap κ ν) (k : κ) : SortedMap κ ν :=
  ⟨s.entries.filter (·.1 ≠ k), s.sorted.filter _⟩

/-- The entry of the smallest key. -/
def first? (s : SortedMap κ ν) : Option (κ × ν) := s.entries.head?

omit [DecidableLT κ] [DecidableEq κ] in
/-- Each key has one entry. -/
theorem keys_nodup (s : SortedMap κ ν) : (s.entries.map (·.1)).Nodup :=
  List.pairwise_map.2 (s.sorted.imp fun {a b} h (e : a.1 = b.1) =>
    TotalOrder.irrefl b.1 (e ▸ h))

/-! ## Look-up -/

omit [LT κ] [DecidableLT κ] [TotalOrder κ] in
theorem lookup_cons_entry (m : κ) (e : κ × ν) (rest : List (κ × ν)) :
    (e :: rest).lookup m = if m = e.1 then some e.2 else rest.lookup m := by
  obtain ⟨k, v⟩ := e
  rw [List.lookup_cons]
  by_cases h : m = k
  · simp [h]
  · simp [h, beq_false_of_ne h]

omit [TotalOrder κ] in
theorem lookup_insertEntry (l m : κ) (w : ν) (es : List (κ × ν)) :
    (insertEntry l w es).lookup m = if m = l then some w else es.lookup m := by
  induction es with
  | nil => simp [insertEntry, lookup_cons_entry]
  | cons e rest ih =>
    simp only [insertEntry]
    split
    · simp [lookup_cons_entry]
    · split
      · rename_i hl
        subst hl
        by_cases hm : m = e.1 <;> simp [lookup_cons_entry, hm]
      · rename_i hne
        by_cases hm : m = l
        · subst hm
          simp [lookup_cons_entry, ih, hne]
        · simp [lookup_cons_entry, ih, hm]

omit [DecidableLT κ] [TotalOrder κ] in
@[simp] theorem get?_empty (m : κ) : (empty : SortedMap κ ν).get? m = none := rfl

theorem get?_insert (s : SortedMap κ ν) (l m : κ) (w : ν) :
    (s.insert l w).get? m = if m = l then some w else s.get? m := lookup_insertEntry ..

omit [DecidableLT κ] [TotalOrder κ] in
theorem get?_erase (s : SortedMap κ ν) (l m : κ) :
    (s.erase l).get? m = if m = l then none else s.get? m := by
  simp only [get?, erase]
  induction s.entries with
  | nil => simp
  | cons e rest ih =>
    rw [List.filter_cons]
    by_cases he : e.1 = l
    · simp only [he, ne_eq, not_true_eq_false, decide_false, Bool.false_eq_true, if_false, ih,
        lookup_cons_entry]
      by_cases hm : m = l <;> simp [hm]
    · simp only [he, ne_eq, not_false_eq_true, decide_true, if_true, lookup_cons_entry, ih]
      by_cases hm : m = l
      · subst hm
        simp [Ne.symm he]
      · simp [hm]

omit [DecidableLT κ] in
theorem get?_eq_some_iff {s : SortedMap κ ν} {l : κ} {w : ν} :
    s.get? l = some w ↔ (l, w) ∈ s.entries := by
  obtain ⟨es, hs⟩ := s
  simp only [get?]
  induction es with
  | nil => simp
  | cons e rest ih =>
    obtain ⟨he, hr⟩ := List.pairwise_cons.1 hs
    rw [lookup_cons_entry, List.mem_cons]
    split
    · rename_i hl
      subst hl
      constructor
      · intro h
        cases h
        exact .inl rfl
      · rintro (h | h)
        · rw [← h]
        · exact absurd (he _ h) (TotalOrder.irrefl _)
    · rename_i hl
      rw [ih hr]
      constructor
      · exact .inr
      · rintro (h | h)
        · exact absurd (congrArg Prod.fst h) hl
        · exact h

omit [DecidableLT κ] [DecidableEq κ] in
/-- Sorted lists with the same entries are equal. -/
theorem entries_ext {xs ys : List (κ × ν)} (hx : xs.Pairwise (fun a b => a.1 < b.1))
    (hy : ys.Pairwise (fun a b => a.1 < b.1)) (h : ∀ e, e ∈ xs ↔ e ∈ ys) : xs = ys := by
  induction xs generalizing ys with
  | nil =>
    cases ys with
    | nil => rfl
    | cons y ys => exact absurd ((h y).2 (List.mem_cons_self ..)) (by simp)
  | cons x xs ih =>
    cases ys with
    | nil => exact absurd ((h x).1 (List.mem_cons_self ..)) (by simp)
    | cons y ys =>
      obtain ⟨hx₁, hx₂⟩ := List.pairwise_cons.1 hx
      obtain ⟨hy₁, hy₂⟩ := List.pairwise_cons.1 hy
      have hxy : x = y := by
        rcases List.mem_cons.1 ((h x).1 (List.mem_cons_self ..)) with e | hxm
        · exact e
        · rcases List.mem_cons.1 ((h y).2 (List.mem_cons_self ..)) with e | hym
          · exact e.symm
          · exact absurd (TotalOrder.trans (hy₁ x hxm) (hx₁ y hym)) (TotalOrder.irrefl _)
      subst hxy
      refine congrArg (x :: ·) (ih hx₂ hy₂ fun e => ?_)
      constructor
      · intro he
        rcases List.mem_cons.1 ((h e).1 (List.mem_cons_of_mem _ he)) with rfl | h'
        · exact absurd (hx₁ e he) (TotalOrder.irrefl _)
        · exact h'
      · intro he
        rcases List.mem_cons.1 ((h e).2 (List.mem_cons_of_mem _ he)) with rfl | h'
        · exact absurd (hy₁ e he) (TotalOrder.irrefl _)
        · exact h'

omit [DecidableLT κ] in
theorem ext_get? {s t : SortedMap κ ν} (h : ∀ l, s.get? l = t.get? l) : s = t := by
  have he : s.entries = t.entries := entries_ext s.sorted t.sorted fun e => by
    rw [← get?_eq_some_iff, ← get?_eq_some_iff, h]
  cases s; cases t; cases he; rfl

end SortedMap

end FpgaInterface
