import FpgaInterface.CustomType.Basic
import FpgaInterface.Proofs.Traversal
import Mathlib.Data.List.Nodup

/-!
# The fields that constants give

What is collected from a list of declarations depends on the constants among them, not on their
order.

* `Field.read`, `CustomType.value?`, `CustomType.store` : one field of an element; all fields are
  collected in the same way (`withField_eq_ok_iff`);
* `CustomConstant`, `customConstants` : the constants of custom types among declarations;
* `Consistent` : the constants can be read, give no field twice and no element two classes;
* `Collected` : the fields collected so far are those that the constants give. One declaration
  keeps this or is refused (`read_cases`, `Collected.append`, `Collected.consistent_append_iff`);
* `collected_of_progress` : so does a list of declarations;
* `registers_of_perm` : the same declarations in another order give the same registers.
-/

namespace FpgaInterface

/-! ## One field of an element -/

def Field.Value : Field → Type
  | .resource | .packedSize | .size => Int
  | .typeInfo => FxpLayout
  | .type => String

/-- The value of a field that an initialiser stands for. -/
def Field.read : (f : Field) → Option Node → Except CustomTypeError f.Value
  | .resource, init | .packedSize, init | .size, init => (integerOf init).mapError .constant
  | .typeInfo, init => readLayout init
  | .type, init => (typeNameOf init).mapError .constant

namespace CustomType

def value? (t : CustomType) : (f : Field) → Option f.Value
  | .resource => t.address
  | .typeInfo => t.layout
  | .type => t.clusterType
  | .packedSize => t.packedSize
  | .size => t.arraySize

def store (t : CustomType) : (f : Field) → f.Value → CustomType
  | .resource, v => { t with address := some v }
  | .typeInfo, v => { t with layout := some v }
  | .type, v => { t with clusterType := some v }
  | .packedSize, v => { t with packedSize := some v }
  | .size, v => { t with arraySize := some v }

variable {t t' : CustomType} {f g : Field} {v : f.Value}

@[simp] theorem elementClass_store : (t.store f v).elementClass = t.elementClass := by
  cases f <;> rfl

@[simp] theorem value?_store_self : (t.store f v).value? f = some v := by cases f <;> rfl

theorem value?_store_of_ne (h : g ≠ f) : (t.store f v).value? g = t.value? g := by
  cases f <;> cases g <;> first | rfl | exact absurd rfl h

theorem value?_fresh (c : String) (f : Field) :
    ({ elementClass := c } : CustomType).value? f = none := by cases f <;> rfl

theorem ext_value? (hc : t.elementClass = t'.elementClass) (h : ∀ f, t.value? f = t'.value? f) :
    t = t' := by
  obtain ⟨c, a, l, ct, ps, sz⟩ := t
  obtain ⟨c', a', l', ct', ps', sz'⟩ := t'
  obtain rfl : c = c' := hc
  obtain rfl : a = a' := h .resource
  obtain rfl : l = l' := h .typeInfo
  obtain rfl : ct = ct' := h .type
  obtain rfl : ps = ps' := h .packedSize
  obtain rfl : sz = sz' := h .size
  rfl

theorem once_bind_eq_ok_iff {α : Type} {constant : String} {old : Option α}
    {new : Except CustomTypeError α} {set : Option α → CustomType} :
    (once constant old new >>= fun a => pure (set a)) = .ok t' ↔
      old = none ∧ ∃ a, new = .ok a ∧ t' = set (some a) := by
  cases new <;> cases old <;>
    simp [once, bind, Except.bind, pure, Except.pure, eq_comm]

/-- Every field is set once, to what its reader makes of the initialiser. -/
theorem withField_eq_ok_iff {constant : String} {init : Option Node} :
    t.withField constant init f = .ok t' ↔
      t.value? f = none ∧ ∃ v, f.read init = .ok v ∧ t' = t.store f v := by
  cases f <;> exact once_bind_eq_ok_iff

end CustomType

/-! ## Constants -/

/-- A constant of a custom type. -/
structure CustomConstant where
  parts : ConstantName
  /-- Its initialiser. -/
  init : Option Node

def Declaration.customConstant? (stem : String) (d : Declaration) : Option CustomConstant :=
  (d.constantName? stem).map fun p => ⟨p.2, d.init⟩

def customConstants (stem : String) (ds : List Declaration) : List CustomConstant :=
  ds.filterMap (Declaration.customConstant? stem)

namespace CustomConstant

def field? (k : CustomConstant) : Option Field := Field.ofText? k.parts.field

/-- The element and the field that a constant gives. -/
def slot? (k : CustomConstant) : Option (String × Field) := k.field?.map (k.parts.name, ·)

/-- A constant has an initialiser, which its field can be read from. -/
def Readable (k : CustomConstant) : Prop :=
  k.init ≠ none ∧ ∀ f, k.field? = some f → Succeeds f.read k.init

theorem slot?_eq_some_iff {k : CustomConstant} {n : String} {f : Field} :
    k.slot? = some (n, f) ↔ k.parts.name = n ∧ k.field? = some f := by
  simp [slot?, and_comm]

end CustomConstant

namespace CustomTypes

def slots (ks : List CustomConstant) : List (String × Field) :=
  ks.filterMap CustomConstant.slot?

/-- A constant gives an element its class. -/
def GivenClass (ks : List CustomConstant) (n c : String) : Prop :=
  ∃ k ∈ ks, k.parts.name = n ∧ k.parts.elementClass = c

/-- A constant gives a field of an element its value. -/
def Given (ks : List CustomConstant) (n : String) (f : Field) (v : f.Value) : Prop :=
  ∃ k ∈ ks, k.slot? = some (n, f) ∧ f.read k.init = .ok v

/-- Constants that fit together. -/
structure Consistent (ks : List CustomConstant) : Prop where
  readable : ∀ k ∈ ks, k.Readable
  slots_nodup : (slots ks).Nodup
  one_class : ∀ k ∈ ks, ∀ l ∈ ks,
    k.parts.name = l.parts.name → k.parts.elementClass = l.parts.elementClass

section Constants
variable {ks ls : List CustomConstant} {k : CustomConstant} {n c : String} {f : Field} {v : f.Value}

theorem mem_slots_iff : (n, f) ∈ slots ks ↔ ∃ k ∈ ks, k.slot? = some (n, f) := List.mem_filterMap

theorem slots_append : slots (ks ++ ls) = slots ks ++ slots ls := List.filterMap_append

theorem givenClass_append :
    GivenClass (ks ++ ls) n c ↔ GivenClass ks n c ∨ GivenClass ls n c := by
  simp only [GivenClass, List.mem_append, or_and_right, exists_or]

theorem given_append : Given (ks ++ ls) n f v ↔ Given ks n f v ∨ Given ls n f v := by
  simp only [Given, List.mem_append, or_and_right, exists_or]

theorem Consistent.sublist (h : Consistent ls) (hs : ks.Sublist ls) : Consistent ks where
  readable k hk := h.readable k (hs.subset hk)
  slots_nodup := h.slots_nodup.sublist (hs.filterMap _)
  one_class k hk l hl := h.one_class k (hs.subset hk) l (hs.subset hl)

theorem Consistent.perm (h : Consistent ks) (hp : ks.Perm ls) : Consistent ls where
  readable k hk := h.readable k (hp.mem_iff.2 hk)
  slots_nodup := (hp.filterMap _).nodup_iff.1 h.slots_nodup
  one_class k hk l hl := h.one_class k (hp.mem_iff.2 hk) l (hp.mem_iff.2 hl)

/-- A field of constants that can be read has a value. -/
theorem mem_slots_iff_given (h : ∀ k ∈ ks, k.Readable) :
    (n, f) ∈ slots ks ↔ ∃ v, Given ks n f v := by
  rw [mem_slots_iff]
  constructor
  · rintro ⟨k, hk, hslot⟩
    obtain ⟨v, hv⟩ := (h k hk).2 f (CustomConstant.slot?_eq_some_iff.1 hslot).2
    exact ⟨v, k, hk, hslot, hv⟩
  · rintro ⟨v, k, hk, hslot, -⟩
    exact ⟨k, hk, hslot⟩

end Constants

/-! ## What is collected -/

def class? (ts : CustomTypes) (n : String) : Option String :=
  (ts.get? n).map CustomType.elementClass

def value? (ts : CustomTypes) (n : String) (f : Field) : Option f.Value :=
  (ts.get? n).bind fun t => t.value? f

section Steps
variable {ts ts' : CustomTypes} {k : CustomConstant} {c : ConstantName}

theorem class?_insert (n m : String) (t : CustomType) :
    class? (ts.insert n t) m = if m = n then some t.elementClass else ts.class? m := by
  unfold class?
  rw [SortedMap.get?_insert]
  split <;> rfl

theorem value?_insert (n m : String) (t : CustomType) (f : Field) :
    value? (ts.insert n t) m f = if m = n then t.value? f else ts.value? m f := by
  unfold value?
  rw [SortedMap.get?_insert]
  split <;> rfl

theorem ext_value? (hc : ∀ n, ts.class? n = ts'.class? n)
    (hv : ∀ n f, ts.value? n f = ts'.value? n f) : ts = ts' := by
  refine SortedMap.ext_get? fun n => ?_
  have hcn := hc n
  have hvn := hv n
  unfold class? at hcn
  unfold value? at hvn
  cases ht : ts.get? n with
  | none => cases ht' : ts'.get? n <;> simp_all
  | some t =>
    cases ht' : ts'.get? n with
    | none => simp_all
    | some t' =>
      simp only [ht, ht', Option.map_some, Option.some.injEq, Option.bind_some] at hcn hvn
      rw [CustomType.ext_value? hcn hvn]

theorem value?_fieldsFor (f : Field) : (ts.fieldsFor c).value? f = ts.value? c.name f := by
  unfold fieldsFor value?
  cases ts.get? c.name with
  | none => exact CustomType.value?_fresh ..
  | some t => rfl

theorem elementClass_fieldsFor :
    (ts.fieldsFor c).elementClass = c.elementClass ↔
      ∀ c', ts.class? c.name = some c' → c' = c.elementClass := by
  unfold fieldsFor class?
  cases ts.get? c.name <;> simp

/-- A constant that fits what is collected. -/
structure Accepts (ts : CustomTypes) (k : CustomConstant) : Prop where
  init : k.init ≠ none
  same_class : ∀ c, ts.class? k.parts.name = some c → c = k.parts.elementClass
  new_value : ∀ f, k.field? = some f →
    ts.value? k.parts.name f = none ∧ Succeeds f.read k.init

/-- What a constant that fits makes of the fields of its element. -/
structure Extends (ts : CustomTypes) (k : CustomConstant) (t : CustomType) : Prop where
  elementClass : t.elementClass = k.parts.elementClass
  value_iff : ∀ f v, t.value? f = some v ↔
    ts.value? k.parts.name f = some v ∨ k.field? = some f ∧ f.read k.init = .ok v

theorem extends_fieldsFor (hclass : (ts.fieldsFor k.parts).elementClass = k.parts.elementClass)
    (hfield : k.field? = none) : ts.Extends k (ts.fieldsFor k.parts) where
  elementClass := hclass
  value_iff f v := by simp [hfield, value?_fieldsFor]

theorem extends_store {f : Field} {v : f.Value}
    (hclass : (ts.fieldsFor k.parts).elementClass = k.parts.elementClass)
    (hfield : k.field? = some f) (hnone : (ts.fieldsFor k.parts).value? f = none)
    (hv : f.read k.init = .ok v) : ts.Extends k ((ts.fieldsFor k.parts).store f v) where
  elementClass := by rw [CustomType.elementClass_store, hclass]
  value_iff g w := by
    by_cases hg : g = f
    · subst hg
      simp [hfield, ← value?_fieldsFor, hnone, hv]
    · rw [CustomType.value?_store_of_ne hg, value?_fieldsFor]
      simp [hfield, Ne.symm hg]

theorem read_of_none {stem : String} {d : Declaration} (h : d.customConstant? stem = none) :
    ts.read stem d = (ts, none) := by
  simp only [read, Option.map_eq_none_iff.1 h]

/-- A constant is refused, or it fits and its element gets its field. -/
theorem read_cases (ts : CustomTypes) {stem : String} {d : Declaration} (h : d.customConstant? stem = some k) :
    (¬ ts.Accepts k ∧ ∃ ts' e, ts.read stem d = (ts', some e)) ∨
      ts.Accepts k ∧ ∃ t, ts.Extends k t ∧ ts.read stem d = (ts.insert k.parts.name t, none) := by
  obtain ⟨⟨text, c⟩, hname, rfl⟩ := Option.map_eq_some_iff.1 h
  simp only [read, hname]
  -- the three checks in turn: an initialiser, the class, a field not given before
  by_cases hinit : d.init = none
  · exact .inl ⟨fun ha => ha.init hinit, _, _, if_pos (by simp [hinit])⟩
  rw [if_neg (by simpa using hinit)]
  by_cases hclass : (ts.fieldsFor c).elementClass = c.elementClass
  swap
  · exact .inl ⟨fun ha => hclass (elementClass_fieldsFor.2 ha.same_class), _, _, if_pos hclass⟩
  rw [if_neg (not_not.2 hclass)]
  have hsame := elementClass_fieldsFor.1 hclass
  cases hfield : Field.ofText? c.field with
  | none =>
    refine .inr ⟨⟨hinit, hsame, fun f hf => ?_⟩, _, extends_fieldsFor hclass hfield, rfl⟩
    exact absurd (hfield.symm.trans hf) nofun
  | some f =>
    cases hwith : (ts.fieldsFor c).withField text d.init f with
    | error e =>
      refine .inl ⟨fun ha => ?_, ts.insert c.name (ts.fieldsFor c), e, by simp only [hwith]⟩
      obtain ⟨hnone, v, hv⟩ := ha.new_value f hfield
      have hok : (ts.fieldsFor c).withField text d.init f = .ok ((ts.fieldsFor c).store f v) :=
        CustomType.withField_eq_ok_iff.2 ⟨(value?_fieldsFor f).trans hnone, v, hv, rfl⟩
      exact absurd (hwith.symm.trans hok) nofun
    | ok t =>
      obtain ⟨hnone, v, hv, rfl⟩ := CustomType.withField_eq_ok_iff.1 hwith
      refine .inr ⟨⟨hinit, hsame, fun g hg => ?_⟩, _, extends_store hclass hfield hnone hv,
        by simp only [hwith]⟩
      obtain rfl : f = g := Option.some.inj (hfield.symm.trans hg)
      exact ⟨(value?_fieldsFor f).symm.trans hnone, v, hv⟩

end Steps

/-- The fields collected are those that the constants give. -/
structure Collected (ks : List CustomConstant) (ts : CustomTypes) : Prop where
  class_iff : ∀ n c, ts.class? n = some c ↔ GivenClass ks n c
  value_iff : ∀ n f v, ts.value? n f = some v ↔ Given ks n f v

namespace Collected

variable {ks ls : List CustomConstant} {ts ts' : CustomTypes} {k : CustomConstant} {t : CustomType}

theorem empty : Collected [] SortedMap.empty where
  class_iff n c := by simp [class?, GivenClass]
  value_iff n f v := by simp [value?, Given]

theorem perm (h : Collected ks ts) (hp : ks.Perm ls) : Collected ls ts where
  class_iff n c := by
    rw [h.class_iff]
    simp only [GivenClass, hp.mem_iff]
  value_iff n f v := by
    rw [h.value_iff]
    simp only [Given, hp.mem_iff]

/-- The constants determine what is collected. -/
theorem unique (h : Collected ks ts) (h' : Collected ks ts') : ts = ts' :=
  ext_value?
    (fun n => Option.ext fun c => (h.class_iff n c).trans (h'.class_iff n c).symm)
    (fun n f => Option.ext fun v => (h.value_iff n f v).trans (h'.value_iff n f v).symm)

/-- A constant that fits is collected. -/
theorem append (h : Collected ks ts) (ha : ts.Accepts k) (ht : ts.Extends k t) :
    Collected (ks ++ [k]) (ts.insert k.parts.name t) where
  class_iff n c := by
    rw [class?_insert, givenClass_append, ← h.class_iff]
    by_cases hn : n = k.parts.name
    · subst hn
      have hclass := ha.same_class c
      simp only [if_pos, ht.elementClass, Option.some.injEq, GivenClass, List.mem_singleton,
        exists_eq_left, true_and]
      exact ⟨.inr, fun hc => hc.elim (fun h => (hclass h).symm) id⟩
    · simp [hn, GivenClass, Ne.symm hn]
  value_iff n f v := by
    rw [value?_insert, given_append, ← h.value_iff]
    by_cases hn : n = k.parts.name
    · subst hn
      simp [ht.value_iff, Given, CustomConstant.slot?_eq_some_iff]
    · simp [hn, Given, CustomConstant.slot?_eq_some_iff, Ne.symm hn]

/-- A constant fits what is collected if it fits the constants before it. -/
theorem consistent_append_iff (h : Collected ks ts) (hk : Consistent ks) :
    Consistent (ks ++ [k]) ↔ ts.Accepts k := by
  constructor
  · intro hc
    have hmem : k ∈ ks ++ [k] := by simp
    obtain ⟨hinit, hread⟩ := hc.readable k hmem
    refine ⟨hinit, fun c hclass => ?_, fun f hf => ⟨?_, hread f hf⟩⟩
    · obtain ⟨l, hl, hname, rfl⟩ := (h.class_iff _ c).1 hclass
      exact hc.one_class l (List.mem_append_left _ hl) k hmem hname
    · -- a value there already comes from a constant of the same slot
      refine Option.eq_none_iff_forall_ne_some.2 fun v hv => ?_
      obtain ⟨l, hl, hslot, -⟩ := (h.value_iff _ f v).1 hv
      have hks : (k.parts.name, f) ∈ slots ks := mem_slots_iff.2 ⟨l, hl, hslot⟩
      have hk' : (k.parts.name, f) ∈ slots [k] :=
        mem_slots_iff.2 ⟨k, by simp, CustomConstant.slot?_eq_some_iff.2 ⟨rfl, hf⟩⟩
      have hnodup := hc.slots_nodup
      rw [slots_append] at hnodup
      exact List.disjoint_of_nodup_append hnodup hks hk'
  · intro ha
    refine ⟨fun l hl => ?_, ?_, fun l hl m hm hname => ?_⟩
    · rcases List.mem_append.1 hl with hl | hl
      · exact hk.readable l hl
      · obtain rfl := List.mem_singleton.1 hl
        exact ⟨ha.init, fun f hf => (ha.new_value f hf).2⟩
    · rw [slots_append, List.nodup_append']
      refine ⟨hk.slots_nodup, ?_, fun s hs hs' => ?_⟩
      · unfold slots
        cases hslot : k.slot? <;> simp [hslot]
      · obtain ⟨l, hl, hslot⟩ := mem_slots_iff.1 hs'
        obtain rfl := List.mem_singleton.1 hl
        obtain ⟨hname, hf⟩ := CustomConstant.slot?_eq_some_iff.1 hslot
        obtain ⟨v, hv⟩ := (mem_slots_iff_given hk.readable).1 hs
        have hnone := (ha.new_value _ hf).1
        rw [hname, (h.value_iff _ _ v).2 hv] at hnone
        cases hnone
    · have hold : ∀ l ∈ ks, l.parts.name = k.parts.name →
          l.parts.elementClass = k.parts.elementClass := fun l hl hlk =>
        ha.same_class _ ((h.class_iff _ _).2 ⟨l, hl, hlk, rfl⟩)
      rw [List.mem_append, List.mem_singleton] at hl hm
      rcases hl with hl | rfl <;> rcases hm with hm | rfl
      · exact hk.one_class l hl m hm hname
      · exact hold l hl hname
      · exact (hold m hm hname.symm).symm
      · rfl

end Collected

/-! ## Lists of declarations -/

section Progress
variable {stem : String} {ts : CustomTypes} {d : Declaration} {ds ds' : List Declaration}

theorem customConstants_cons :
    customConstants stem (d :: ds) =
      (d.customConstant? stem).toList ++ customConstants stem ds := by
  unfold customConstants
  rw [List.filterMap_cons]
  cases d.customConstant? stem <;> rfl

/-- The declarations are all accepted exactly if their constants fit together with those before, and
then they are collected with them. -/
theorem collected_of_progress {ks : List CustomConstant} (h : Collected ks ts)
    (hk : Consistent ks) :
    ((customTypeProgress stem ts ds).fault = none ↔
        Consistent (ks ++ customConstants stem ds)) ∧
      ((customTypeProgress stem ts ds).fault = none →
        Collected (ks ++ customConstants stem ds) (customTypeProgress stem ts ds).state) := by
  induction ds generalizing ts ks with
  | nil =>
    have hnil : ks ++ customConstants stem [] = ks := List.append_nil ks
    rw [hnil]
    exact ⟨⟨fun _ => hk, fun _ => rfl⟩, fun _ => h⟩
  | cons d ds ih =>
    rw [customConstants_cons, ← List.append_assoc]
    cases hd : d.customConstant? stem with
    | none =>
      simp only [customTypeProgress, read_of_none hd, Option.toList_none,
        List.append_nil]
      exact ih h hk
    | some k =>
      rw [Option.toList_some]
      rcases read_cases ts hd with ⟨hrefused, ts', e, hread⟩ | ⟨ha, t, ht, hread⟩
      · -- a constant that does not fit here fits in no longer list either
        have hnot : ¬ Consistent (ks ++ [k] ++ customConstants stem ds) := fun hc =>
          hrefused ((h.consistent_append_iff hk).1 (hc.sublist (List.sublist_append_left ..)))
        simp only [customTypeProgress, hread]
        exact ⟨⟨nofun, fun hc => absurd hc hnot⟩, nofun⟩
      · simp only [customTypeProgress, hread]
        exact ih (h.append ha ht) ((h.consistent_append_iff hk).2 ha)

theorem consistent_nil : Consistent [] := ⟨nofun, .nil, nofun⟩

theorem progress_fault_eq_none_iff :
    (customTypeProgress stem .empty ds).fault = none ↔ Consistent (customConstants stem ds) :=
  (collected_of_progress .empty consistent_nil).1

theorem collected_of_fault_eq_none (h : (customTypeProgress stem .empty ds).fault = none) :
    Collected (customConstants stem ds) (customTypeProgress stem .empty ds).state :=
  (collected_of_progress .empty consistent_nil).2 h

end Progress

/-- The same declarations in another order are accepted as well, and then give the same registers or
the same error. -/
theorem registers_of_perm (interface : String) {ds ds' : List Declaration} (h : ds.Perm ds') :
    let p := customTypeProgress (interfaceStem interface) .empty ds
    let p' := customTypeProgress (interfaceStem interface) .empty ds'
    (p.fault = none ↔ p'.fault = none) ∧
      (p.fault = none → p.state.registers = p'.state.registers) := by
  have hconst : (customConstants (interfaceStem interface) ds).Perm
      (customConstants (interfaceStem interface) ds') := h.filterMap _
  have hfault : (customTypeProgress (interfaceStem interface) .empty ds).fault = none ↔
      (customTypeProgress (interfaceStem interface) .empty ds').fault = none := by
    rw [progress_fault_eq_none_iff, progress_fault_eq_none_iff]
    exact ⟨fun hc => hc.perm hconst, fun hc => hc.perm hconst.symm⟩
  refine ⟨hfault, fun hok => ?_⟩
  have hstate := collected_of_fault_eq_none hok
  have hstate' := collected_of_fault_eq_none (hfault.1 hok)
  exact congrArg registers ((hstate.perm hconst).unique hstate')

/-- The constants of a fixed-point number `Sum`, one of a field that is not read among them. -/
def sumConstants : List Declaration :=
  [⟨some "NiFpga_M_Fxp_Sum_TypeInfo", ["const"], some (.initList
      [.constant "int" "1" none, .constant "int" "33" none, .constant "int" "17" none] none)⟩,
    ⟨some "NiFpga_M_Fxp_Sum_Rank", ["const"], some (.ident "first" none)⟩,
    ⟨some "NiFpga_M_Fxp_Sum_Resource", ["const"], some (.constant "int" "0x18000" none)⟩]

theorem registers_of_perm_sumReversed :
    sumConstants.Perm sumConstants.reverse ∧
      (customTypeProgress (interfaceStem "M") .empty sumConstants).fault = none ∧
      (customTypeProgress (interfaceStem "M") .empty sumConstants.reverse).fault = none ∧
      (customTypeProgress (interfaceStem "M") .empty sumConstants).state.registers =
        (customTypeProgress (interfaceStem "M") .empty sumConstants.reverse).state.registers := by
  have hperm : sumConstants.Perm sumConstants.reverse := (List.reverse_perm _).symm
  have hok : (customTypeProgress (interfaceStem "M") .empty sumConstants).fault = none := by
    decide +kernel
  have hsame := registers_of_perm "M" hperm
  exact ⟨hperm, hok, hsame.1.1 hok, hsame.2 hok⟩

end CustomTypes

end FpgaInterface
