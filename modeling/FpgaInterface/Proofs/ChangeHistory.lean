import FpgaInterface.Element.Change
import FpgaInterface.Proofs.LastWins
import Mathlib.Data.Set.Card

/-!
# Address sets are finite maps

Whatever is done to an address set, it answers as a map from locations to integers does.

* `Contents` : such a map, with `store`, `drop` and its smallest key `First`;
* `Storable`, `Unstorable`, `Stores` : the values that may be stored under a key, why the others may
  not, and rows that are stored one by one;
* `Seeks` : the key that a change looks up;
* `Outcome`, `History` : what a change, and a sequence of changes, do to a map and answer;
* `AddressSet.contents` : the map of an address set;
* `AddressSet.apply_of_outcome`, `exists_outcome` : a change has one outcome, that of the set;
* `AddressSet.Agrees` : the look-ups, the order and the size of a set are those of a map;
* `AddressSet.run_refines` : after any changes from the empty set on, the answers and the set are
  those of the map.
-/

namespace FpgaInterface

/-! ## Maps from locations to integers -/

abbrev Contents := Location → Option Int

namespace Contents

def empty : Contents := fun _ => none

/-- The map in which a key has that integer. -/
def store (m : Contents) (l : Location) (i : Int) : Contents :=
  fun l' => if l' = l then some i else m l'

/-- The map in which a key has no integer. -/
def drop (m : Contents) (l : Location) : Contents := fun l' => if l' = l then none else m l'

/-- What is under a key: an integer or none. A key of another type has none. What cannot be a key is
refused, with the type that may change. -/
def under (m : Contents) : Key → Except String (Option Int)
  | .location l => .ok (m l)
  | .foreign v => match v.unhashable? with
    | none => .ok none
    | some type => .error type

def domain (m : Contents) : Set Location := fun l => (m l).isSome

/-- The smallest key has that integer. -/
structure First (m : Contents) (l : Location) (i : Int) : Prop where
  here : m l = some i
  least : ∀ l' ∈ m.domain, l' = l ∨ l < l'

end Contents

/-- A value that may be stored: an integer from zero to `2 ^ 32 - 1` under a location. -/
inductive Storable : Key → Value → Location → Int → Prop
  | intro (l : Location) (i : Int) (h : 0 ≤ i ∧ i < 2 ^ 32) : Storable (.location l) (.int i) l i

/-- Why a value may not be stored: its key is no location, it is no integer, or too wide. -/
inductive Unstorable : Key → Value → ChangeError → Prop
  | foreignKey (key v : Value) : Unstorable (.foreign key) v (.foreignKey key.typeName)
  | notInteger (l : Location) (v : Value) (h : ∀ i, v ≠ .int i) :
    Unstorable (.location l) v (.notInteger l)
  | tooWide (l : Location) (i : Int) (h : ¬ (0 ≤ i ∧ i < 2 ^ 32)) :
    Unstorable (.location l) (.int i) (.tooWide ⟨i, l⟩)

/-- Rows that may all be stored take a map to another. -/
inductive Stores : Contents → List (Key × Value) → Contents → Prop
  | nil (m : Contents) : Stores m [] m
  | cons {m m' : Contents} {k : Key} {v : Value} {l : Location} {i : Int}
    {rest : List (Key × Value)} (hrow : Storable k v l i) (hrest : Stores (m.store l i) rest m') :
    Stores m ((k, v) :: rest) m'

/-! ## Changes of a map -/

/-- A change looks up a key before it changes anything. -/
inductive Seeks : Change → Key → Prop
  | delete (k : Key) : Seeks (.delete k) k
  | pop (k : Key) : Seeks (.pop k) k
  | popOr (k : Key) (v : Value) : Seeks (.popOr k v) k
  | setDefault (k : Key) (v : Value) : Seeks (.setDefault k v) k

/-- What a change makes of a map, and what it answers. -/
inductive Outcome (m : Contents) : Change → Contents → Except ChangeError Answer → Prop
  | set {k : Key} {v : Value} {l : Location} {i : Int} (h : Storable k v l i) :
    Outcome m (.set k v) (m.store l i) (.ok .nothing)
  | setRefused {k : Key} {v : Value} {e : ChangeError} (h : Unstorable k v e) :
    Outcome m (.set k v) m (.error e)
  | delete {l : Location} {i : Int} (h : m l = some i) :
    Outcome m (.delete (.location l)) (m.drop l) (.ok .nothing)
  | deleteAbsent {k : Key} (h : m.under k = .ok none) : Outcome m (.delete k) m (.error .absent)
  | pop {l : Location} {i : Int} (h : m l = some i) :
    Outcome m (.pop (.location l)) (m.drop l) (.ok (.value (.int i)))
  | popAbsent {k : Key} (h : m.under k = .ok none) : Outcome m (.pop k) m (.error .absent)
  | popOr {l : Location} {i : Int} {v : Value} (h : m l = some i) :
    Outcome m (.popOr (.location l) v) (m.drop l) (.ok (.value (.int i)))
  | popOrAbsent {k : Key} {v : Value} (h : m.under k = .ok none) :
    Outcome m (.popOr k v) m (.ok (.value v))
  | popFirst {l : Location} {w : UInt32} (h : m.First l w.toNat) :
    Outcome m .popFirst (m.drop l) (.ok (.entry (l, w)))
  | popFirstEmpty (h : m = Contents.empty) : Outcome m .popFirst m (.error .absent)
  | setDefaultKept {l : Location} {i : Int} {v : Value} (h : m l = some i) :
    Outcome m (.setDefault (.location l) v) m (.ok (.value (.int i)))
  | setDefaultStored {k : Key} {v : Value} {l : Location} {i : Int} (h : m.under k = .ok none)
    (hv : Storable k v l i) : Outcome m (.setDefault k v) (m.store l i) (.ok (.value v))
  | setDefaultRefused {k : Key} {v : Value} {e : ChangeError} (h : m.under k = .ok none)
    (hv : Unstorable k v e) : Outcome m (.setDefault k v) m (.error e)
  | update {rows : List (Key × Value)} {m' : Contents} (h : Stores m rows m') :
    Outcome m (.update rows) m' (.ok .nothing)
  /-- The rows before the one that is refused stay stored. -/
  | updateRefused {before after : List (Key × Value)} {k : Key} {v : Value} {e : ChangeError}
    {m' : Contents} (h : Stores m before m') (hv : Unstorable k v e) :
    Outcome m (.update (before ++ (k, v) :: after)) m' (.error e)
  | clear : Outcome m .clear Contents.empty (.ok .nothing)
  /-- What cannot be a key cannot be looked up. -/
  | unhashable {c : Change} {k : Key} {type : String} (hc : Seeks c k)
    (h : m.under k = .error type) : Outcome m c m (.error (.unhashable type))

/-- Changes one after the other, failed ones included, with their answers. -/
inductive History : Contents → List Change → List (Except ChangeError Answer) → Contents → Prop
  | nil (m : Contents) : History m [] [] m
  | cons {m m' m'' : Contents} {c : Change} {cs : List Change} {a : Except ChangeError Answer}
    {as : List (Except ChangeError Answer)} (hfirst : Outcome m c m' a)
    (hrest : History m' cs as m'') : History m (c :: cs) (a :: as) m''

namespace AddressSet

variable {s t : AddressSet} {k : Key} {v : Value} {l : Location} {i : Int} {w : UInt32}
  {e : ChangeError} {c : Change} {m : Contents} {a : Except ChangeError Answer}
  {rows : List (Key × Value)}

/-! ## The map of a set -/

def contents (s : AddressSet) : Contents := fun l => (s.get? l).map fun w => (w.toNat : Int)

theorem contents_eq_some : s.contents l = some i ↔ ∃ w, s.get? l = some w ∧ i = w.toNat := by
  rw [contents, Option.map_eq_some_iff]
  exact exists_congr fun w => and_congr_right fun _ => eq_comm

theorem contents_empty : contents SortedMap.empty = Contents.empty := rfl

theorem contents_insert (s : AddressSet) (l : Location) (w : UInt32) :
    contents (s.insert l w) = s.contents.store l w.toNat := by
  funext l'
  unfold contents Contents.store
  rw [SortedMap.get?_insert]
  split <;> rfl

theorem contents_erase (s : AddressSet) (l : Location) :
    contents (s.erase l) = s.contents.drop l := by
  funext l'
  unfold contents Contents.drop
  rw [SortedMap.get?_erase]
  split <;> rfl

theorem find_of_contents (h : s.contents l = some i) :
    ∃ w, s.find (.location l) = .ok w ∧ valueOf w = .int i := by
  obtain ⟨w, hw, rfl⟩ := contents_eq_some.1 h
  exact ⟨w, by rw [find, hw], rfl⟩

/-- A key is looked up in a set as in its map. -/
theorem find_cases (s : AddressSet) (k : Key) :
    (s.contents.under k = .ok none ∧ s.find k = .error .absent) ∨
      (∃ type, s.contents.under k = .error type ∧ s.find k = .error (.unhashable type)) ∨
      ∃ l i w, k = .location l ∧ s.contents l = some i ∧ s.find k = .ok w ∧
        valueOf w = .int i := by
  cases k with
  | foreign v =>
    cases hv : v.unhashable? with
    | none => exact .inl ⟨by rw [Contents.under, hv], by rw [find, hv]⟩
    | some type => exact .inr (.inl ⟨type, by rw [Contents.under, hv], by rw [find, hv]⟩)
  | location l =>
    cases hw : s.get? l with
    | none =>
      have hnone : s.contents l = none := by rw [contents, hw, Option.map_none]
      exact .inl ⟨by rw [Contents.under, hnone], by rw [find, hw]⟩
    | some w =>
      have hsome : s.contents l = some (w.toNat : Int) := contents_eq_some.2 ⟨w, hw, rfl⟩
      exact .inr (.inr ⟨l, _, w, rfl, hsome, by rw [find, hw], rfl⟩)

theorem find_of_under (h : s.contents.under k = .ok none) : s.find k = .error .absent := by
  rcases s.find_cases k with ⟨-, hfind⟩ | ⟨type, hunder, -⟩ | ⟨l, i, w, rfl, hi, -⟩
  · exact hfind
  · cases h.symm.trans hunder
  · rw [Contents.under, hi] at h
    cases h

theorem find_of_unhashable {type : String} (h : s.contents.under k = .error type) :
    s.find k = .error (.unhashable type) := by
  rcases s.find_cases k with ⟨hunder, -⟩ | ⟨type', hunder, hfind⟩ | ⟨l, i, w, rfl, hi, -⟩
  · cases h.symm.trans hunder
  · cases h.symm.trans hunder
    exact hfind
  · cases h

theorem mem_domain : l ∈ s.contents.domain ↔ ∃ w, (l, w) ∈ s.entries := by
  show (s.contents l).isSome ↔ _
  rw [contents, Option.isSome_map, Option.isSome_iff_exists]
  exact exists_congr fun w => SortedMap.get?_eq_some_iff

theorem first?_of_first (h : s.contents.First l w.toNat) : s.first? = some (l, w) := by
  obtain ⟨w', hw', hword⟩ := contents_eq_some.1 h.here
  obtain rfl : w = w' := UInt32.toNat_inj.1 (by omega)
  have hmem : (l, w) ∈ s.entries := SortedMap.get?_eq_some_iff.1 hw'
  unfold SortedMap.first?
  cases hentries : s.entries with
  | nil => rw [hentries] at hmem; cases hmem
  | cons head rest =>
    have hsorted := s.sorted
    rw [hentries] at hmem hsorted
    rcases List.mem_cons.1 hmem with rfl | hrest
    · rfl
    · have hhead : head.1 < l := (List.pairwise_cons.1 hsorted).1 _ hrest
      have hdomain : head.1 ∈ s.contents.domain :=
        mem_domain.2 ⟨head.2, hentries ▸ List.mem_cons_self ..⟩
      rcases h.least _ hdomain with heq | hlt
      · exact absurd (heq ▸ hhead) (Location.lt_irrefl l)
      · exact absurd (Location.lt_trans hlt hhead) (Location.lt_irrefl l)

/-- A set has a smallest key unless it is empty. -/
theorem exists_first (s : AddressSet) :
    (∃ l w, s.contents.First l (w : UInt32).toNat) ∨ s.contents = Contents.empty := by
  cases hentries : s.entries with
  | nil =>
    right
    funext l
    rw [contents, SortedMap.get?, hentries]
    rfl
  | cons head rest =>
    left
    have hmem : (head.1, head.2) ∈ s.entries := hentries ▸ List.mem_cons_self ..
    refine ⟨head.1, head.2, contents_eq_some.2 ⟨_, SortedMap.get?_eq_some_iff.2 hmem, rfl⟩, ?_⟩
    intro l hl
    obtain ⟨w, hw⟩ := mem_domain.1 hl
    have hsorted := s.sorted
    rw [hentries] at hw hsorted
    rcases List.mem_cons.1 hw with rfl | hrest
    · exact .inl rfl
    · exact .inr ((List.pairwise_cons.1 hsorted).1 _ hrest)

theorem first?_of_empty (h : s.contents = Contents.empty) : s.first? = none := by
  unfold SortedMap.first?
  cases hentries : s.entries with
  | nil => rfl
  | cons head rest =>
    have hdomain : head.1 ∈ s.contents.domain :=
      mem_domain.2 ⟨head.2, hentries ▸ List.mem_cons_self ..⟩
    rw [h] at hdomain
    cases hdomain

/-! ## Storing -/

theorem storable_or_unstorable (k : Key) (v : Value) :
    (∃ l i, Storable k v l i) ∨ ∃ e, Unstorable k v e := by
  cases k with
  | foreign key => exact .inr ⟨_, .foreignKey key v⟩
  | location l =>
    by_cases hint : ∃ i, v = .int i
    · obtain ⟨i, rfl⟩ := hint
      by_cases hrange : 0 ≤ i ∧ i < 2 ^ 32
      · exact .inl ⟨l, i, .intro l i hrange⟩
      · exact .inr ⟨_, .tooWide l i hrange⟩
    · exact .inr ⟨_, .notInteger l v fun i hi => hint ⟨i, hi⟩⟩

theorem put_of_storable (s : AddressSet) (h : Storable k v l i) :
    ∃ t, s.put k v = .ok t ∧ contents t = s.contents.store l i := by
  obtain ⟨l, i, hrange⟩ := h
  obtain ⟨w, rfl⟩ := exists_word hrange
  refine ⟨s.insert l w, ?_, contents_insert s l w⟩
  show (s.set l w.toNat).mapError ChangeError.tooWide = _
  rw [set_toNat]
  rfl

theorem put_of_unstorable (s : AddressSet) (h : Unstorable k v e) : s.put k v = .error e := by
  cases h with
  | foreignKey => rfl
  | notInteger l v hv =>
    cases v with
    | int i => exact absurd rfl (hv i)
    | null | bool | real | text | bytes | list | set | table | series | other => rfl
  | tooWide l i hrange =>
    show (s.set l i).mapError ChangeError.tooWide = _
    rw [set_of_not_fits hrange]
    rfl

/-- Rows that may all be stored are stored, whatever rows follow. -/
theorem putRows_of_stores (h : Stores s.contents rows m) :
    ∃ t, contents t = m ∧ ∀ rest, s.putRows (rows ++ rest) = t.putRows rest := by
  -- On the rows, for any set that has the map before them.
  generalize hm : s.contents = m₀ at h
  induction h generalizing s with
  | nil => exact ⟨s, hm, fun rest => rfl⟩
  | cons hrow hrest ih =>
    subst hm
    obtain ⟨u, hu, hcontents⟩ := put_of_storable s hrow
    obtain ⟨t, ht, hrows⟩ := ih hcontents
    refine ⟨t, ht, fun rest => ?_⟩
    rw [List.cons_append, putRows, hu]
    exact hrows rest

/-- Rows may all be stored, or there is a first that may not. -/
theorem stores_or_refused (m : Contents) (rows : List (Key × Value)) :
    (∃ m', Stores m rows m') ∨ ∃ before k v after e m', rows = before ++ (k, v) :: after ∧
      Stores m before m' ∧ Unstorable k v e := by
  induction rows generalizing m with
  | nil => exact .inl ⟨m, .nil m⟩
  | cons row rest ih =>
    obtain ⟨k, v⟩ := row
    rcases storable_or_unstorable k v with ⟨l, i, hrow⟩ | ⟨e, hrow⟩
    · rcases ih (m.store l i) with ⟨m', hrest⟩ | ⟨before, k', v', after, e, m', rfl, hbefore, he⟩
      · exact .inl ⟨m', .cons hrow hrest⟩
      · exact .inr ⟨(k, v) :: before, k', v', after, e, m', rfl, .cons hrow hbefore, he⟩
    · exact .inr ⟨[], k, v, rest, e, m, rfl, .nil m, hrow⟩

/-! ## One change -/

/-- **A set changes and answers as its map does.** -/
theorem apply_of_outcome (h : Outcome s.contents c m a) :
    contents (s.apply c).1 = m ∧ (s.apply c).2 = a := by
  cases h with
  | set hv =>
    obtain ⟨t, ht, hcontents⟩ := put_of_storable s hv
    simp only [apply, ht, hcontents, and_self]
  | setRefused hv => simp only [apply, put_of_unstorable s hv, and_self]
  | delete hi =>
    obtain ⟨w, hw, -⟩ := find_of_contents hi
    simp only [apply, hw, remove, contents_erase, and_self]
  | deleteAbsent hk => simp only [apply, find_of_under hk, and_self]
  | pop hi =>
    obtain ⟨w, hw, hvalue⟩ := find_of_contents hi
    simp only [apply, hw, hvalue, remove, contents_erase, and_self]
  | popAbsent hk => simp only [apply, find_of_under hk, and_self]
  | popOr hi =>
    obtain ⟨w, hw, hvalue⟩ := find_of_contents hi
    simp only [apply, hw, hvalue, remove, contents_erase, and_self]
  | popOrAbsent hk => simp only [apply, find_of_under hk, and_self]
  | popFirst hfirst => simp only [apply, first?_of_first hfirst, contents_erase, and_self]
  | popFirstEmpty hempty => simp only [apply, first?_of_empty hempty, and_self]
  | setDefaultKept hi =>
    obtain ⟨w, hw, hvalue⟩ := find_of_contents hi
    simp only [apply, hw, hvalue, and_self]
  | setDefaultStored hk hv =>
    obtain ⟨t, ht, hcontents⟩ := put_of_storable s hv
    simp only [apply, find_of_under hk, ht, hcontents, and_self]
  | setDefaultRefused hk hv =>
    simp only [apply, find_of_under hk, put_of_unstorable s hv, and_self]
  | update hrows =>
    obtain ⟨t, ht, hput⟩ := putRows_of_stores hrows
    have hall := hput []
    rw [List.append_nil, putRows] at hall
    simp only [apply, hall, ht, and_self]
  | @updateRefused before after k v e _ hrows hv =>
    obtain ⟨t, ht, hput⟩ := putRows_of_stores hrows
    have hstop := hput ((k, v) :: after)
    rw [putRows, put_of_unstorable t hv] at hstop
    simp only [apply, hstop, ht, and_self]
  | clear => exact ⟨rfl, rfl⟩
  | unhashable hc hk =>
    have hfind := find_of_unhashable hk
    cases hc <;> simp only [apply, hfind, and_self]

theorem exists_outcome (s : AddressSet) (c : Change) : ∃ m a, Outcome s.contents c m a := by
  cases c with
  | set k v =>
    rcases storable_or_unstorable k v with ⟨l, i, hv⟩ | ⟨e, hv⟩
    · exact ⟨_, _, .set hv⟩
    · exact ⟨_, _, .setRefused hv⟩
  -- a change that looks up a key tells apart keys that are there, that are not and that cannot be
  | delete k =>
    rcases s.find_cases k with ⟨hk, -⟩ | ⟨type, hk, -⟩ | ⟨l, i, -, rfl, hi, -⟩
    · exact ⟨_, _, .deleteAbsent hk⟩
    · exact ⟨_, _, .unhashable (.delete k) hk⟩
    · exact ⟨_, _, .delete hi⟩
  | pop k =>
    rcases s.find_cases k with ⟨hk, -⟩ | ⟨type, hk, -⟩ | ⟨l, i, -, rfl, hi, -⟩
    · exact ⟨_, _, .popAbsent hk⟩
    · exact ⟨_, _, .unhashable (.pop k) hk⟩
    · exact ⟨_, _, .pop hi⟩
  | popOr k v =>
    rcases s.find_cases k with ⟨hk, -⟩ | ⟨type, hk, -⟩ | ⟨l, i, -, rfl, hi, -⟩
    · exact ⟨_, _, .popOrAbsent hk⟩
    · exact ⟨_, _, .unhashable (.popOr k v) hk⟩
    · exact ⟨_, _, .popOr hi⟩
  | popFirst =>
    rcases exists_first s with ⟨l, w, hfirst⟩ | hempty
    · exact ⟨_, _, .popFirst hfirst⟩
    · exact ⟨_, _, .popFirstEmpty hempty⟩
  | setDefault k v =>
    rcases s.find_cases k with ⟨hk, -⟩ | ⟨type, hk, -⟩ | ⟨l, i, -, rfl, hi, -⟩
    · rcases storable_or_unstorable k v with ⟨l, i, hv⟩ | ⟨e, hv⟩
      · exact ⟨_, _, .setDefaultStored hk hv⟩
      · exact ⟨_, _, .setDefaultRefused hk hv⟩
    · exact ⟨_, _, .unhashable (.setDefault k v) hk⟩
    · exact ⟨_, _, .setDefaultKept hi⟩
  | update rows =>
    rcases stores_or_refused s.contents rows with
      ⟨m, hrows⟩ | ⟨before, k, v, after, e, m, rfl, hrows, hv⟩
    · exact ⟨_, _, .update hrows⟩
    · exact ⟨_, _, .updateRefused hrows hv⟩
  | clear => exact ⟨_, _, .clear⟩

/-! ## All changes -/

def answers (s : AddressSet) : List Change → List (Except ChangeError Answer)
  | [] => []
  | c :: cs => (s.apply c).2 :: (s.apply c).1.answers cs

theorem exists_history (s : AddressSet) (cs : List Change) :
    ∃ as m, History s.contents cs as m := by
  induction cs generalizing s with
  | nil => exact ⟨[], s.contents, .nil _⟩
  | cons c cs ih =>
    obtain ⟨m, a, hfirst⟩ := exists_outcome s c
    obtain ⟨as, m', hrest⟩ := ih (s.apply c).1
    rw [(apply_of_outcome hfirst).1] at hrest
    exact ⟨a :: as, m', .cons hfirst hrest⟩

/-- The answers and the set are those of the map. -/
theorem eq_of_history {cs : List Change} {as : List (Except ChangeError Answer)}
    (h : History s.contents cs as m) :
    as = s.answers cs ∧ contents (cs.foldl (fun s c => (s.apply c).1) s) = m := by
  -- On the history: the next set has the next map, so that the rest is a history of it.
  generalize hm : s.contents = m₀ at h
  induction h generalizing s with
  | nil => exact ⟨rfl, hm⟩
  | cons hfirst hrest ih =>
    subst hm
    obtain ⟨hcontents, hanswer⟩ := apply_of_outcome hfirst
    obtain ⟨has, hset⟩ := ih hcontents
    exact ⟨by rw [answers, hanswer, has], hset⟩

/-! ## What a set answers -/

/-- A set is the map: its values are words, it lists each key once and in order with its integer, it
has as many entries as the map has keys, and every look-up answers from the map. -/
structure Agrees (s : AddressSet) (m : Contents) : Prop where
  range : ∀ l i, m l = some i → 0 ≤ i ∧ i < 2 ^ 32
  order : (s.entries.map (·.1)).Pairwise (· < ·)
  items : ∀ l (w : UInt32), (l, w) ∈ s.entries ↔ m l = some (w.toNat : Int)
  size : s.size = (s.entries.map (·.1)).length ∧ m.domain.Finite ∧ s.size = m.domain.ncard
  get : ∀ k, s.get k = match m.under k with
    | .ok i => i.elim (.error .absent) fun i => .ok (.int i)
    | .error type => .error (.unhashable type)
  getOr : ∀ k v, s.getOr k v = match m.under k with
    | .ok i => .ok (i.elim v .int)
    | .error type => .error (.unhashable type)
  has : ∀ k, s.has k = match m.under k with
    | .ok i => .ok i.isSome
    | .error type => .error (.unhashable type)
  ofKinds : ∀ ks, (s.ofKinds ks).Sublist s.entries ∧
    ∀ l (w : UInt32), (l, w) ∈ s.ofKinds ks ↔ m l = some (w.toNat : Int) ∧ l.kind ∈ ks
  sizeOf : ∀ l, (s.sizeOf? l).map (fun w => (w.toNat : Int)) = m l.sizeLocation

theorem mem_entries_iff : (l, w) ∈ s.entries ↔ s.contents l = some (w.toNat : Int) := by
  rw [← SortedMap.get?_eq_some_iff, contents_eq_some]
  constructor
  · intro hw
    exact ⟨w, hw, rfl⟩
  · rintro ⟨w', hw', hword⟩
    obtain rfl : w = w' := UInt32.toNat_inj.1 (by omega)
    exact hw'

/-- The keys of the map are as many as the entries, of which each has a key of its own. -/
theorem ncard_domain (s : AddressSet) :
    s.contents.domain.Finite ∧ s.size = s.contents.domain.ncard := by
  have hdomain : s.contents.domain = ((s.entries.map (·.1)).toFinset : Set Location) := by
    ext l
    rw [mem_domain, List.coe_toFinset, Set.mem_ofPred_eq, List.mem_map]
    constructor
    · rintro ⟨w, hw⟩
      exact ⟨(l, w), hw, rfl⟩
    · rintro ⟨e, he, rfl⟩
      exact ⟨e.2, he⟩
  refine ⟨hdomain ▸ Finset.finite_toSet _, ?_⟩
  rw [hdomain, Set.ncard_coe_finset, List.toFinset_card_of_nodup s.keys_nodup, List.length_map]
  rfl

theorem agrees_contents (s : AddressSet) : s.Agrees s.contents where
  range l i h := by
    obtain ⟨w, -, rfl⟩ := contents_eq_some.1 h
    have hlt := w.toNat_lt
    omega
  order := List.pairwise_map.2 s.sorted
  items l w := mem_entries_iff
  size := ⟨(List.length_map ..).symm, ncard_domain s⟩
  get k := by
    rcases s.find_cases k with ⟨hk, hfind⟩ | ⟨type, hk, hfind⟩ | ⟨l, i, w, rfl, hi, hfind, hvalue⟩
    · simp only [AddressSet.get, hfind, hk, Except.map, Option.elim_none]
    · simp only [AddressSet.get, hfind, hk, Except.map]
    · simp only [AddressSet.get, hfind, Contents.under, hi, Except.map, hvalue, Option.elim_some]
  getOr k v := by
    rcases s.find_cases k with ⟨hk, hfind⟩ | ⟨type, hk, hfind⟩ | ⟨l, i, w, rfl, hi, hfind, hvalue⟩
    · simp only [AddressSet.getOr, hfind, hk, Option.elim_none]
    · simp only [AddressSet.getOr, hfind, hk]
    · simp only [AddressSet.getOr, hfind, Contents.under, hi, hvalue, Option.elim_some]
  has k := by
    rcases s.find_cases k with ⟨hk, hfind⟩ | ⟨type, hk, hfind⟩ | ⟨l, i, w, rfl, hi, hfind, -⟩
    · simp only [AddressSet.has, hfind, hk, Option.isSome_none]
    · simp only [AddressSet.has, hfind, hk]
    · simp only [AddressSet.has, hfind, Contents.under, hi, Option.isSome_some]
  ofKinds ks := by
    refine ⟨List.filter_sublist, fun l w => ?_⟩
    rw [ofKinds, List.mem_filter, mem_entries_iff, List.contains_iff_mem]
  sizeOf l := rfl

/-- **An address set is a finite map over every run.** Any changes from the empty set on have one
history of maps; the answers on the way and the set at the end are those of the map. -/
theorem run_refines (changes : List Change) :
    (∃ as m, History Contents.empty changes as m) ∧
      ∀ as m, History Contents.empty changes as m →
        as = answers SortedMap.empty changes ∧ (run changes).Agrees m := by
  rw [← contents_empty]
  refine ⟨exists_history SortedMap.empty changes, fun as m h => ?_⟩
  obtain ⟨has, hset⟩ := eq_of_history (s := SortedMap.empty) h
  refine ⟨has, ?_⟩
  rw [← hset]
  exact agrees_contents _

end AddressSet

end FpgaInterface
