import FpgaInterface.Binding.ModuleText
import FpgaInterface.Proofs.BindingList
import Mathlib.Data.List.Nodup

/-!
# When there is no module

A module is generated unless an element has no binding or a name stands twice in a namespace.

* `repeatedName?_eq_some_iff` : the first name that has occurred before;
* `Namespace.Writable`, `Namespace.Fault` : when a namespace can be written, and why it cannot
  (`Namespace.bindings_eq_error_iff`);
* `Generable`, `ModuleFault` : the same for a module;
* `moduleText_outcome` : a module is generated exactly for the sets that are `Generable`, and any
  other set fails with its `ModuleFault`.

The registers are looked at before the FIFOs, and in each namespace all elements before the names.
-/

namespace FpgaInterface

variable {s : AddressSet} {space : Namespace} {f : BindingError}

/-! ## Repeated names -/

theorem repeatedName?_cons_of_mem {seen ns : List String} {m : String} (h : m ∈ seen) :
    repeatedName? seen (m :: ns) = some m := by
  simp [repeatedName?, h]

theorem repeatedName?_cons_of_not_mem {seen ns : List String} {m : String} (h : m ∉ seen) :
    repeatedName? seen (m :: ns) = repeatedName? (m :: seen) ns := by
  simp [repeatedName?, h]

theorem repeatedName?_eq_none_iff {seen ns : List String} (hseen : seen.Nodup) :
    repeatedName? seen ns = none ↔ (ns.reverse ++ seen).Nodup := by
  induction ns generalizing seen with
  | nil => simpa [repeatedName?] using hseen
  | cons m ns ih =>
    rw [List.reverse_cons, List.append_assoc, List.singleton_append]
    by_cases hm : m ∈ seen
    · rw [repeatedName?_cons_of_mem hm]
      refine iff_of_false nofun fun h => ?_
      exact (List.nodup_cons.1 (List.nodup_append.1 h).2.1).1 hm
    · rw [repeatedName?_cons_of_not_mem hm]
      exact ih (List.nodup_cons.2 ⟨hm, hseen⟩)

/-- The name found is the first one that was seen or stands before. -/
theorem repeatedName?_eq_some_iff {seen ns : List String} {n : String} (hseen : seen.Nodup) :
    repeatedName? seen ns = some n ↔ ∃ before, before ++ [n] <+: ns ∧
      (before.reverse ++ seen).Nodup ∧ n ∈ before.reverse ++ seen := by
  induction ns generalizing seen with
  | nil => simp [repeatedName?]
  | cons m ns ih =>
    by_cases hm : m ∈ seen
    · rw [repeatedName?_cons_of_mem hm]
      constructor
      · intro h
        cases h
        exact ⟨[], ⟨ns, rfl⟩, hseen, hm⟩
      · rintro ⟨before, hs, hd, -⟩
        cases before with
        | nil => rw [(List.cons_prefix_cons.1 hs).1]
        | cons x xs =>
          obtain ⟨rfl, -⟩ := List.cons_prefix_cons.1 hs
          rw [List.reverse_cons, List.append_assoc, List.singleton_append] at hd
          exact absurd hm (List.nodup_cons.1 (List.nodup_append.1 hd).2.1).1
    · rw [repeatedName?_cons_of_not_mem hm, ih (List.nodup_cons.2 ⟨hm, hseen⟩)]
      constructor
      · rintro ⟨before, hs, hd, hn⟩
        exact ⟨m :: before, List.cons_prefix_cons.2 ⟨rfl, hs⟩, by simpa using hd, by simpa using hn⟩
      · rintro ⟨before, hs, hd, hn⟩
        cases before with
        | nil =>
          obtain ⟨rfl, -⟩ := List.cons_prefix_cons.1 hs
          exact absurd hn hm
        | cons x xs =>
          obtain ⟨rfl, hxs⟩ := List.cons_prefix_cons.1 hs
          exact ⟨xs, hxs, by simpa using hd, by simpa using hn⟩

theorem repeatedName?_nil_eq_none_iff {ns : List String} :
    repeatedName? [] ns = none ↔ ns.Nodup := by
  rw [repeatedName?_eq_none_iff .nil, List.append_nil, List.nodup_reverse]

theorem repeatedName?_nil_eq_some_iff {ns : List String} {n : String} :
    repeatedName? [] ns = some n ↔ ∃ before, before ++ [n] <+: ns ∧ before.Nodup ∧ n ∈ before := by
  rw [repeatedName?_eq_some_iff .nil]
  simp only [List.append_nil, List.nodup_reverse, List.mem_reverse]

/-! ## One namespace -/

/-- A namespace that can be written: each element has a binding, and no two share a name. -/
structure Namespace.Writable (space : Namespace) (s : AddressSet) : Prop where
  bindable : ∀ e ∈ space.entries s, Bindable s e.1
  distinct : ((space.entries s).map (·.1.name)).Nodup

/-- Why a namespace cannot be written: the first element without a binding or, where each has one,
the first whose name stands before it. -/
inductive Namespace.Fault (space : Namespace) (s : AddressSet) : BindingError → Prop
  | entry {before : List Entry} {e : Entry} {f : BindingError}
      (first : FirstWithout (fun e => Bindable s e.1) (space.entries s) before e)
      (h : LocationFault s e.1 f) : Namespace.Fault space s f
  | again {before : List Entry} {e : Entry} (bindable : ∀ e ∈ space.entries s, Bindable s e.1)
      (starts : before ++ [e] <+: space.entries s) (distinct : (before.map (·.1.name)).Nodup)
      (h : e.1.name ∈ before.map (·.1.name)) : Namespace.Fault space s (.declaredTwice e.1.name space)

namespace Namespace

/-- The traversal of a namespace fails with the fault of its first element without a binding. -/
theorem mapM_eq_error_of_first {before : List Entry} {e : Entry}
    (first : FirstWithout (fun e => Bindable s e.1) (space.entries s) before e)
    (h : LocationFault s e.1 f) : (space.entries s).mapM (bindEntry s) = .error f := by
  have hz := isSize_of_mem_entries first.mem
  refine mapM_eq_error_iff.2 ⟨before, e, ⟨first.starts, fun x hx => ?_, fun hs => ?_⟩, ?_⟩
  · have hmem : x ∈ space.entries s := first.starts.subset (List.mem_append_left _ hx)
    exact (succeeds_bindEntry_iff (isSize_of_mem_entries hmem)).2 (first.before x hx)
  · exact first.here ((succeeds_bindEntry_iff hz).1 hs)
  · exact bindEntry_of_fault hz h

/-- Bindings for all elements carry their names. -/
theorem mapM_eq_ok_of_bindable (h : ∀ e ∈ space.entries s, Bindable s e.1) :
    ∃ bs, (space.entries s).mapM (bindEntry s) = .ok bs ∧
      bs.map (·.name) = (space.entries s).map (·.1.name) := by
  cases hm : (space.entries s).mapM (bindEntry s) with
  | error f =>
    obtain ⟨before, e, first, -⟩ := mapM_eq_error_iff.1 hm
    exact absurd ((succeeds_bindEntry_iff (isSize_of_mem_entries first.mem)).2 (h e first.mem))
      first.here
  | ok bs => exact ⟨bs, rfl, names_of_declares (declares_of_mapM hm)⟩

theorem bindings_of_writable (h : space.Writable s) : ∃ bs, space.bindings s = .ok bs := by
  obtain ⟨bs, hm, hnames⟩ := mapM_eq_ok_of_bindable h.bindable
  refine ⟨bs, bindings_eq_ok_iff.2 ⟨hm, ?_⟩⟩
  rw [hnames]
  exact repeatedName?_nil_eq_none_iff.2 h.distinct

theorem bindings_of_fault (h : space.Fault s f) : space.bindings s = .error f := by
  cases h with
  | entry first h =>
    rw [bindings, bindingsOf, ← entries, mapM_eq_error_of_first first h]
    rfl
  | @again before e bindable starts distinct h =>
    obtain ⟨bs, hm, hnames⟩ := mapM_eq_ok_of_bindable bindable
    have hagain : repeatedName? [] (bs.map (·.name)) = some e.1.name := by
      rw [hnames]
      refine repeatedName?_nil_eq_some_iff.2 ⟨before.map (·.1.name), ?_, distinct, h⟩
      simpa using starts.map (·.1.name)
    rw [bindings, bindingsOf, ← entries, hm]
    simp only [bind, Except.bind, hagain]

theorem writable_or_fault (space : Namespace) (s : AddressSet) :
    space.Writable s ∨ ∃ f, space.Fault s f := by
  rcases all_or_first (fun e : Entry => Bindable s e.1) (space.entries s) with
    h | ⟨before, e, first⟩
  · cases hr : repeatedName? [] ((space.entries s).map (·.1.name)) with
    | none => exact .inl ⟨h, repeatedName?_nil_eq_none_iff.1 hr⟩
    | some n =>
      obtain ⟨names, hs, hd, hn⟩ := repeatedName?_nil_eq_some_iff.1 hr
      obtain ⟨part, hpart, hnames⟩ := List.prefix_map_iff.1 hs
      obtain ⟨before, last, rfl, rfl, hlast⟩ := List.map_eq_append_iff.1 hnames.symm
      obtain ⟨e, rfl, rfl⟩ := List.map_eq_singleton_iff.1 hlast
      exact .inr ⟨_, .again h hpart hd hn⟩
  · obtain ⟨f, hf⟩ := (bindable_or_fault s e.1).resolve_left first.here
    exact .inr ⟨f, .entry first hf⟩

theorem bindings_eq_error_iff : space.bindings s = .error f ↔ space.Fault s f := by
  refine ⟨fun h => ?_, bindings_of_fault⟩
  rcases writable_or_fault space s with hw | ⟨f', hf⟩
  · obtain ⟨bs, hbs⟩ := bindings_of_writable hw
    cases h.symm.trans hbs
  · cases h.symm.trans (bindings_of_fault hf)
    exact hf

theorem succeeds_bindings_iff : (∃ bs, space.bindings s = .ok bs) ↔ space.Writable s := by
  refine ⟨fun ⟨bs, hbs⟩ => ?_, bindings_of_writable⟩
  rcases writable_or_fault space s with hw | ⟨f, hf⟩
  · exact hw
  · cases hbs.symm.trans (bindings_of_fault hf)

end Namespace

/-! ## The module -/

/-- A set for which a module can be generated. -/
structure Generable (s : AddressSet) : Prop where
  sized : ∀ e ∈ s.entries, Sized s e.1
  named : ∀ e ∈ s.entries, e.1.kind.isSize = false → IsWord e.1.name ∧ e.1.name ∉ reservedNames
  typed : ∀ e ∈ s.entries, e.1.kind.isSize = false →
    ∃ ctype, elementTypes.lookup e.1.datatype = some ctype
  distinct : ∀ space : Namespace, ∀ a ∈ s.entries, ∀ b ∈ s.entries,
    a.1.kind ∈ space.kinds → b.1.kind ∈ space.kinds → a.1.name = b.1.name → a = b

/-- Why there is no module: the fault of the registers, or else that of the FIFOs. -/
inductive ModuleFault (s : AddressSet) : BindingError → Prop
  | registers {f : BindingError} (h : Namespace.registers.Fault s f) : ModuleFault s f
  | fifos {f : BindingError} (hr : Namespace.registers.Writable s)
      (h : Namespace.fifos.Fault s f) : ModuleFault s f

theorem isSize_or_mem_kinds (k : Kind) : k.isSize = true ∨ ∃ space : Namespace, k ∈ space.kinds := by
  cases k
  case controlArraySize => exact .inl rfl
  case indicatorArraySize => exact .inl rfl
  case targetToHostFifo => exact .inr ⟨.fifos, by decide⟩
  case hostToTargetFifo => exact .inr ⟨.fifos, by decide⟩
  all_goals exact .inr ⟨.registers, by decide⟩

theorem sized_of_isSize {l : Location} (h : l.kind.isSize = true) : Sized s l := by
  intro k hk
  obtain ⟨kind, name, datatype⟩ := l
  cases hk <;> cases h

theorem entries_nodup (s : AddressSet) : s.entries.Nodup :=
  s.sorted.imp fun {a b} h (e : a = b) => Location.lt_irrefl b.1 (e ▸ h)

theorem distinct_iff : ((space.entries s).map (·.1.name)).Nodup ↔
    ∀ a ∈ s.entries, ∀ b ∈ s.entries, a.1.kind ∈ space.kinds → b.1.kind ∈ space.kinds →
      a.1.name = b.1.name → a = b := by
  have hd : (space.entries s).Nodup := (entries_nodup s).filter _
  rw [List.nodup_map_iff_inj_on hd]
  simp only [Namespace.mem_entries]
  constructor
  · intro h a ha b hb hka hkb
    exact h a ⟨ha, hka⟩ b ⟨hb, hkb⟩
  · rintro h a ⟨ha, hka⟩ b ⟨hb, hkb⟩
    exact h a ha b hb hka hkb

theorem generable_iff : Generable s ↔ ∀ space : Namespace, space.Writable s := by
  constructor
  · refine fun h space => ⟨fun e he => ?_, distinct_iff.2 (h.distinct space)⟩
    obtain ⟨hmem, hk⟩ := Namespace.mem_entries.1 he
    have hz := Namespace.isSize_of_mem hk
    exact ⟨h.sized e hmem, (h.named e hmem hz).1, (h.named e hmem hz).2, h.typed e hmem hz⟩
  · intro h
    have bindable {e : Entry} (he : e ∈ s.entries) (hz : e.1.kind.isSize = false) :
        Bindable s e.1 := by
      rcases isSize_or_mem_kinds e.1.kind with hs | ⟨space, hk⟩
      · cases hz.symm.trans hs
      · exact (h space).bindable e (Namespace.mem_entries.2 ⟨he, hk⟩)
    refine ⟨fun e he => ?_, fun e he hz => ?_, fun e he hz => ?_, fun space => ?_⟩
    · cases hz : e.1.kind.isSize with
      | true => exact sized_of_isSize hz
      | false => exact (bindable he hz).sized
    · exact ⟨(bindable he hz).word, (bindable he hz).free⟩
    · exact (bindable he hz).typed
    · exact distinct_iff.1 (h space).distinct

theorem moduleText_eq_error_iff {d : Description} {interface : String} :
    moduleText d interface = .error f ↔ ModuleFault d.registers f := by
  have hbind : moduleText d interface = .error f ↔
      Namespace.registers.bindings d.registers = .error f ∨
        (∃ rs, Namespace.registers.bindings d.registers = .ok rs) ∧
          Namespace.fifos.bindings d.registers = .error f := by
    rw [moduleText, registerBindings_eq, fifoBindings_eq, bind_eq_error_iff]
    simp only [bind_eq_error_iff, pure, Except.pure, reduceCtorEq, and_false, exists_false, or_false,
      exists_and_right]
  rw [hbind, Namespace.bindings_eq_error_iff, Namespace.bindings_eq_error_iff,
    Namespace.succeeds_bindings_iff]
  constructor
  · rintro (h | ⟨hr, h⟩)
    · exact .registers h
    · exact .fifos hr h
  · rintro (h | ⟨hr, h⟩)
    · exact .inl h
    · exact .inr ⟨hr, h⟩

theorem succeeds_moduleText_iff {d : Description} {interface : String} :
    (∃ text, moduleText d interface = .ok text) ↔ Generable d.registers := by
  have hbind : (∃ text, moduleText d interface = .ok text) ↔
      (∃ rs, Namespace.registers.bindings d.registers = .ok rs) ∧
        ∃ fs, Namespace.fifos.bindings d.registers = .ok fs := by
    rw [moduleText, registerBindings_eq, fifoBindings_eq]
    simp only [bind_eq_ok_iff]
    constructor
    · rintro ⟨text, rs, hr, fs, hf, -⟩
      exact ⟨⟨rs, hr⟩, fs, hf⟩
    · rintro ⟨⟨rs, hr⟩, fs, hf⟩
      exact ⟨_, rs, hr, fs, hf, rfl⟩
  rw [hbind, Namespace.succeeds_bindings_iff, Namespace.succeeds_bindings_iff, generable_iff]
  constructor
  · rintro ⟨hr, hf⟩ (_ | _)
    · exact hr
    · exact hf
  · exact fun h => ⟨h .registers, h .fifos⟩

theorem ModuleFault.ne_noAccessor (h : ModuleFault s f) (kind : Kind) : f ≠ .noAccessor kind := by
  rintro rfl
  rcases h with h | ⟨-, h⟩
  all_goals
    cases h with
    | entry _ h => cases h

/-- **A module is generated exactly for the generable sets.** Any other set fails with the fault of
its first element without a binding or of its first repeated name, and no element is ever refused
for want of an accessor class. -/
theorem moduleText_outcome (d : Description) (interface : String) :
    ((∃ text, moduleText d interface = .ok text) ↔ Generable d.registers) ∧
      (∀ f, moduleText d interface = .error f ↔ ModuleFault d.registers f) ∧
      ∀ kind, moduleText d interface ≠ .error (.noAccessor kind) :=
  ⟨succeeds_moduleText_iff, fun _ => moduleText_eq_error_iff,
    fun kind h => (moduleText_eq_error_iff.1 h).ne_noAccessor kind rfl⟩

end FpgaInterface
