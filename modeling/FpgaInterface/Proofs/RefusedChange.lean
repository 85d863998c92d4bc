import FpgaInterface.Proofs.ChangeHistory

/-!
# Refused changes

A change that is refused leaves an address set as it was. An update that is refused has set the
rows before the first one that may not be set.

* `AddressSet.Refused` : why a set refuses a change of one entry, and with which error;
* `AddressSet.apply_of_refused`, `refused_of_apply` : such a change fails for these reasons alone,
  and leaves the set;
* `AddressSet.SetsAll` : rows that are set one after the other, none of them refused;
* `AddressSet.apply_update_eq_ok_iff`, `apply_update_eq_error_iff` : an update sets its rows, up to
  the first that is refused;
* `AddressSet.refusal_keeps_contents` : the two together, and what they mean for a run of changes.
-/

namespace FpgaInterface

namespace AddressSet

variable {s t u : AddressSet} {k : Key} {v : Value} {e : ChangeError} {c : Change}
  {rows : List (Key × Value)}

/-! ## Changes of one entry -/

/-- A set refuses a change. The value under a key that is there is not looked at. -/
inductive Refused (s : AddressSet) : Change → ChangeError → Prop
  | set {k : Key} {v : Value} {e : ChangeError} (hv : Unstorable k v e) : Refused s (.set k v) e
  | setDefault {k : Key} {v : Value} {e : ChangeError} (hk : s.has k = .ok false)
    (hv : Unstorable k v e) : Refused s (.setDefault k v) e
  | delete {k : Key} (hk : s.has k = .ok false) : Refused s (.delete k) .absent
  | pop {k : Key} (hk : s.has k = .ok false) : Refused s (.pop k) .absent
  | popFirst (hs : s.size = 0) : Refused s .popFirst .absent
  /-- What cannot be a key is refused by every change that looks it up. -/
  | unhashable {c : Change} {v : Value} {type : String} (hc : Seeks c (.foreign v))
    (hv : v.unhashable? = some type) : Refused s c (.unhashable type)

theorem has_eq_false_iff : s.has k = .ok false ↔ s.find k = .error .absent := by
  unfold has
  rcases s.find_cases k with ⟨-, hfind⟩ | ⟨type, -, hfind⟩ | ⟨_, _, _, -, -, hfind, -⟩ <;>
    simp [hfind]

theorem first?_eq_none_iff : s.first? = none ↔ s.size = 0 := by
  unfold SortedMap.first? SortedMap.size
  rw [List.head?_eq_none_iff, List.length_eq_zero_iff]

/-- **A change that is refused fails with its error and leaves the set.** -/
theorem apply_of_refused (h : Refused s c e) : s.apply c = (s, .error e) := by
  cases h with
  | set hv => simp only [apply, put_of_unstorable s hv]
  | setDefault hk hv =>
    simp only [apply, has_eq_false_iff.1 hk, put_of_unstorable s hv]
  | delete hk | pop hk => simp only [apply, has_eq_false_iff.1 hk]
  | popFirst hs => simp only [apply, first?_eq_none_iff.2 hs]
  | unhashable hc hv => cases hc <;> simp only [apply, find, hv]

/-- A change of one entry fails for no other reason. -/
theorem refused_of_apply (hc : ∀ rows, c ≠ .update rows) (h : (s.apply c).2 = .error e) :
    Refused s c e := by
  obtain ⟨m, a, houtcome⟩ := exists_outcome s c
  rw [(apply_of_outcome houtcome).2] at h
  cases houtcome with
  | set | delete | pop | popOr | popOrAbsent | popFirst | setDefaultKept | setDefaultStored | update
  | clear => cases h
  | setRefused hv =>
    cases h
    exact .set hv
  | deleteAbsent hk =>
    cases h
    exact .delete (has_eq_false_iff.2 (find_of_under hk))
  | popAbsent hk =>
    cases h
    exact .pop (has_eq_false_iff.2 (find_of_under hk))
  | popFirstEmpty hempty =>
    cases h
    exact .popFirst (first?_eq_none_iff.1 (first?_of_empty hempty))
  | setDefaultRefused hk hv =>
    cases h
    exact .setDefault (has_eq_false_iff.2 (find_of_under hk)) hv
  | updateRefused => exact absurd rfl (hc _)
  | @unhashable c k type hseeks hk =>
    cases h
    cases k with
    | location l => cases hk
    | foreign v =>
      refine .unhashable hseeks ?_
      simp only [Contents.under] at hk
      split at hk <;> cases hk
      assumption

/-! ## Updates -/

/-- Rows that are set one after the other, none of them refused, take a set to another. -/
inductive SetsAll : AddressSet → List (Key × Value) → AddressSet → Prop
  | nil (s : AddressSet) : SetsAll s [] s
  | cons {s t u : AddressSet} {k : Key} {v : Value} {rest : List (Key × Value)}
    (hrow : s.apply (.set k v) = (t, .ok .nothing)) (hrest : SetsAll t rest u) :
    SetsAll s ((k, v) :: rest) u

theorem apply_set_eq_ok_iff : s.apply (.set k v) = (t, .ok .nothing) ↔ s.put k v = .ok t := by
  simp only [apply]
  cases s.put k v <;> simp

theorem apply_set_eq_error_iff : (s.apply (.set k v)).2 = .error e ↔ s.put k v = .error e := by
  simp only [apply]
  cases s.put k v <;> simp

/-- What follows rows that are all set starts from the set that they lead to. -/
theorem putRows_append (h : SetsAll s rows t) (rest : List (Key × Value)) :
    s.putRows (rows ++ rest) = t.putRows rest := by
  induction h with
  | nil => rfl
  | cons hrow _ ih =>
    rw [List.cons_append, putRows, apply_set_eq_ok_iff.1 hrow]
    exact ih

/-- All rows are set, or there is a first that is refused. -/
theorem setsAll_or_refused (s : AddressSet) (rows : List (Key × Value)) :
    (∃ t, SetsAll s rows t) ∨ ∃ before k v after t e, rows = before ++ (k, v) :: after ∧
      SetsAll s before t ∧ (t.apply (.set k v)).2 = .error e := by
  induction rows generalizing s with
  | nil => exact .inl ⟨s, .nil s⟩
  | cons row rest ih =>
    obtain ⟨k, v⟩ := row
    cases hput : s.put k v with
    | error e =>
      exact .inr ⟨[], k, v, rest, s, e, rfl, .nil s, apply_set_eq_error_iff.2 hput⟩
    | ok t =>
      have hrow := apply_set_eq_ok_iff.2 hput
      rcases ih t with ⟨u, hall⟩ | ⟨before, k', v', after, u, e, rfl, hall, he⟩
      · exact .inl ⟨u, .cons hrow hall⟩
      · exact .inr ⟨(k, v) :: before, k', v', after, u, e, rfl, .cons hrow hall, he⟩

theorem apply_update_of_setsAll (h : SetsAll s rows t) :
    s.apply (.update rows) = (t, .ok .nothing) := by
  have hrows := putRows_append h []
  rw [List.append_nil, putRows] at hrows
  simp only [apply, hrows]

theorem apply_update_of_refused (h : SetsAll s rows t) (he : (t.apply (.set k v)).2 = .error e)
    (after : List (Key × Value)) :
    s.apply (.update (rows ++ (k, v) :: after)) = (t, .error e) := by
  have hrows := putRows_append h ((k, v) :: after)
  rw [putRows, apply_set_eq_error_iff.1 he] at hrows
  simp only [apply, hrows]

/-- An update that succeeds has set all of its rows. -/
theorem apply_update_eq_ok_iff :
    s.apply (.update rows) = (t, .ok .nothing) ↔ SetsAll s rows t := by
  refine ⟨fun h => ?_, apply_update_of_setsAll⟩
  rcases setsAll_or_refused s rows with ⟨u, hall⟩ | ⟨before, k, v, after, u, e, rfl, hall, he⟩
  · cases h.symm.trans (apply_update_of_setsAll hall)
    exact hall
  · cases h.symm.trans (apply_update_of_refused hall he after)

/-- An update that fails has set the rows before the first that is refused. -/
theorem apply_update_eq_error_iff :
    s.apply (.update rows) = (t, .error e) ↔ ∃ before k v after,
      rows = before ++ (k, v) :: after ∧ SetsAll s before t ∧
        (t.apply (.set k v)).2 = .error e := by
  constructor
  · intro h
    rcases setsAll_or_refused s rows with ⟨u, hall⟩ | ⟨before, k, v, after, u, e', rfl, hall, he⟩
    · cases h.symm.trans (apply_update_of_setsAll hall)
    · cases h.symm.trans (apply_update_of_refused hall he after)
      exact ⟨before, k, v, after, rfl, hall, he⟩
  · rintro ⟨before, k, v, after, rfl, hall, he⟩
    exact apply_update_of_refused hall he after

/-! ## Runs -/

theorem run_append_cons (before : List Change) (c : Change) (after : List Change) :
    run (before ++ c :: after) =
      after.foldl (fun s c => (s.apply c).1) ((run before).apply c).1 := by
  unfold run
  rw [List.foldl_append, List.foldl_cons]

/-- A change that leaves the set can be left out of a run. -/
theorem run_eq_of_apply_eq {before : List Change} (h : ((run before).apply c).1 = run before)
    (after : List Change) : run (before ++ c :: after) = run (before ++ after) := by
  rw [run_append_cons, h]
  unfold run
  rw [List.foldl_append]

/-- **Refused changes change nothing.** Any change but an update fails exactly for the reasons of
`Refused`, leaves the set, and can be left out of a run. An update sets its rows one by one: it
succeeds if none is refused, and else it has set the rows before the first one that is, and fails
with the error of that row. -/
theorem refusal_keeps_contents (s : AddressSet) :
    (∀ c e, (∀ rows, c ≠ .update rows) →
      ((s.apply c).2 = .error e ↔ Refused s c e) ∧ (Refused s c e → (s.apply c).1 = s) ∧
        ∀ before after, s = run before → Refused s c e →
          run (before ++ c :: after) = run (before ++ after)) ∧
      (∀ rows t, s.apply (.update rows) = (t, .ok .nothing) ↔ SetsAll s rows t) ∧
      ∀ rows t e, s.apply (.update rows) = (t, .error e) ↔ ∃ before k v after,
        rows = before ++ (k, v) :: after ∧ SetsAll s before t ∧
          (t.apply (.set k v)).2 = .error e := by
  refine ⟨fun c e hc => ⟨⟨refused_of_apply hc, fun h => ?_⟩, fun h => ?_, ?_⟩,
    fun rows t => apply_update_eq_ok_iff, fun rows t e => apply_update_eq_error_iff⟩
  · rw [apply_of_refused h]
  · rw [apply_of_refused h]
  · rintro before after rfl h
    refine run_eq_of_apply_eq ?_ after
    rw [apply_of_refused h]

/-- The location of the one control that is set below. -/
def gain : Location := ⟨.control, "Gain", "U8"⟩

/-- A boolean is refused as an address: alone it changes nothing, and as a row of an update it keeps
the row after it from being set. -/
theorem refusal_keeps_contents_boolean :
    run [.set (.location gain) (.int 1), .set (.location gain) (.bool true), .popFirst] =
        run [.set (.location gain) (.int 1), .popFirst] ∧
      ∃ t, (run []).apply (.update [(.location gain, .int 1), (.location gain, .bool true),
          (.location gain, .int 2)]) = (t, .error (.notInteger gain)) ∧ t.get? gain = some 1 := by
  have hboolean : Unstorable (.location gain) (.bool true) (.notInteger gain) :=
    .notInteger gain _ (by simp)
  obtain ⟨honce, -, -⟩ := refusal_keeps_contents (run [.set (.location gain) (.int 1)])
  obtain ⟨-, -, hupdate⟩ := refusal_keeps_contents (run [])
  refine ⟨?_, ((run []).apply (.set (.location gain) (.int 1))).1, ?_, by decide +kernel⟩
  · exact (honce _ _ (by simp)).2.2 [.set (.location gain) (.int 1)] [.popFirst] rfl (.set hboolean)
  · refine (hupdate _ _ _).2 ⟨[(.location gain, .int 1)], _, _, _, rfl, .cons rfl (.nil _), ?_⟩
    rw [apply_of_refused (.set hboolean)]

end AddressSet

end FpgaInterface
