import FpgaInterface.Binding.Basic
import FpgaInterface.Proofs.Traversal

/-!
# The bindings of an address set

Which accessor belongs to an entry, said without the way it is found.

* `AccessedBy`, `SizedBy`, `HasSize` : the class and the size of an accessor;
* `Declares s e b` : the binding `b` declares the entry `e`; there is at most one
  (`Declares.unique`);
* `Bindable`, `LocationFault` : when an entry has a binding, and why it has none
  (`bindEntry_eq_ok_iff`, `bindEntry_of_fault`);
* `bindings_eq_declarations` : the bindings of a set declare its entries in order, the sizes left
  out.
-/

namespace FpgaInterface

variable {s : AddressSet} {l : Location} {e : Entry} {b b' : Binding} {f : BindingError}

/-! ## Accessors -/

/-- The class that accesses the elements of a kind. -/
inductive AccessedBy : Kind → AccessorClass → Prop
  | control : AccessedBy .control .register
  | indicator : AccessedBy .indicator .register
  | controlArray : AccessedBy .controlArray .arrayRegister
  | indicatorArray : AccessedBy .indicatorArray .arrayRegister
  | targetToHostFifo : AccessedBy .targetToHostFifo .readFifo
  | hostToTargetFifo : AccessedBy .hostToTargetFifo .writeFifo

theorem accessedBy_iff {k : Kind} {c : AccessorClass} : AccessedBy k c ↔ k.accessor? = some c := by
  constructor
  · intro h
    cases h <;> rfl
  · intro h
    cases k <;> cases h <;> constructor

theorem accessor?_isSome {k : Kind} (h : k.isSize = false) : ∃ c, k.accessor? = some c := by
  cases k <;> first | exact ⟨_, rfl⟩ | cases h

/-- The kind under which the sizes of an array kind stand. -/
inductive SizedBy : Kind → Kind → Prop
  | control : SizedBy .controlArray .controlArraySize
  | indicator : SizedBy .indicatorArray .indicatorArraySize

/-- An array has a size of the same name and datatype; nothing is asked of any other element. -/
def Sized (s : AddressSet) (l : Location) : Prop :=
  ∀ k, SizedBy l.kind k → ∃ w, s.get? ⟨k, l.name, l.datatype⟩ = some w

/-- The size of an accessor: that of an array stands under its size kind with the same name and
datatype, and all others have none. -/
structure HasSize (s : AddressSet) (l : Location) (size : Option Int) : Prop where
  array : ∀ k, SizedBy l.kind k →
    ∃ w, s.get? ⟨k, l.name, l.datatype⟩ = some w ∧ size = some (w.toNat : Int)
  single : (∀ k, ¬ SizedBy l.kind k) → size = none

theorem HasSize.unique {size size' : Option Int} (h : HasSize s l size) (h' : HasSize s l size') :
    size = size' := by
  by_cases hk : ∃ k, SizedBy l.kind k
  · obtain ⟨k, hk⟩ := hk
    obtain ⟨w, hw, rfl⟩ := h.array k hk
    obtain ⟨w', hw', rfl⟩ := h'.array k hk
    rw [Option.some.inj (hw.symm.trans hw')]
  · rw [h.single (fun k hk' => hk ⟨k, hk'⟩), h'.single (fun k hk' => hk ⟨k, hk'⟩)]

/-- The binding `b` declares the entry `e` of the set `s`. -/
structure Declares (s : AddressSet) (e : Entry) (b : Binding) : Prop where
  name : b.name = e.1.name
  address : b.address = (e.2.toNat : Int)
  accessor : AccessedBy e.1.kind b.accessor
  ctype : elementTypes.lookup e.1.datatype = some b.ctype
  size : HasSize s e.1 b.size

theorem Declares.unique (h : Declares s e b) (h' : Declares s e b') : b = b' := by
  have hacc := (accessedBy_iff.1 h.accessor).symm.trans (accessedBy_iff.1 h'.accessor)
  have hctype := h.ctype.symm.trans h'.ctype
  have hsize := h.size.unique h'.size
  have hname := h.name.trans h'.name.symm
  have haddress := h.address.trans h'.address.symm
  cases b; cases b'
  simp_all

/-! ## One entry -/

/-- An identifier that is no keyword. -/
def IsWord (name : String) : Prop := Text.isIdentifier name.toList = true ∧ name ∉ Text.keywords

theorem isName_iff {name : String} : Text.isName name = true ↔ IsWord name := by
  simp [Text.isName, IsWord]

/-- A location whose element can have a binding. -/
structure Bindable (s : AddressSet) (l : Location) : Prop where
  sized : Sized s l
  word : IsWord l.name
  free : l.name ∉ reservedNames
  typed : ∃ ctype, elementTypes.lookup l.datatype = some ctype

/-- Why the element of a location has no binding: of four reasons the first that applies. -/
inductive LocationFault (s : AddressSet) (l : Location) : BindingError → Prop
  | sizeMissing (h : ¬ Sized s l) : LocationFault s l (.sizeMissing l.name l.datatype)
  | invalidName (hs : Sized s l) (h : ¬ IsWord l.name) : LocationFault s l (.invalidName l.name)
  | reservedName (hs : Sized s l) (hw : IsWord l.name) (h : l.name ∈ reservedNames) :
      LocationFault s l (.reservedName l.name)
  | unknownType (hs : Sized s l) (hw : IsWord l.name) (hf : l.name ∉ reservedNames)
      (h : ¬ ∃ ctype, elementTypes.lookup l.datatype = some ctype) :
      LocationFault s l (.unknownType l.datatype)

theorem bindable_or_fault (s : AddressSet) (l : Location) :
    Bindable s l ∨ ∃ f, LocationFault s l f := by
  by_cases hs : Sized s l
  · by_cases hw : IsWord l.name
    · by_cases hf : l.name ∈ reservedNames
      · exact .inr ⟨_, .reservedName hs hw hf⟩
      · by_cases ht : ∃ ctype, elementTypes.lookup l.datatype = some ctype
        · exact .inl ⟨hs, hw, hf, ht⟩
        · exact .inr ⟨_, .unknownType hs hw hf ht⟩
    · exact .inr ⟨_, .invalidName hs hw⟩
  · exact .inr ⟨_, .sizeMissing hs⟩

theorem bindEntry_of_not_sized (h : ¬ Sized s e.1) :
    bindEntry s e = .error (.sizeMissing e.1.name e.1.datatype) := by
  obtain ⟨⟨kind, name, datatype⟩, w⟩ := e
  have hk : ∃ k, SizedBy kind k ∧ s.get? ⟨k, name, datatype⟩ = none := by
    simpa [Sized, Option.eq_none_iff_forall_ne_some] using h
  obtain ⟨k, hk, hnone⟩ := hk
  cases hk <;> simp [bindEntry, Kind.isArray, AddressSet.sizeOf?, Location.sizeLocation,
    Location.withKind, Kind.withSize, hnone]

theorem bindEntry_of_sized (hz : e.1.kind.isSize = false) (h : Sized s e.1) :
    ∃ size, HasSize s e.1 size ∧ bindEntry s e = makeBinding e.1 e.2.toNat size := by
  obtain ⟨⟨kind, name, datatype⟩, w⟩ := e
  by_cases hk : ∃ k, SizedBy kind k
  · obtain ⟨k, hk⟩ := hk
    obtain ⟨n, hn⟩ := h k hk
    refine ⟨some (n.toNat : Int), ⟨fun k' hk' => ?_, fun hno => absurd hk (hno k)⟩, ?_⟩
    · cases hk <;> cases hk' <;> exact ⟨n, hn, rfl⟩
    · cases hk <;> simp [bindEntry, Kind.isArray, AddressSet.sizeOf?, Location.sizeLocation,
        Location.withKind, Kind.withSize, hn]
  · refine ⟨none, ⟨fun k hk' => absurd ⟨k, hk'⟩ hk, fun _ => rfl⟩, ?_⟩
    cases kind with
    | controlArray => exact absurd ⟨_, .control⟩ hk
    | indicatorArray => exact absurd ⟨_, .indicator⟩ hk
    | controlArraySize | indicatorArraySize => cases hz
    | control | indicator | targetToHostFifo | hostToTargetFifo => rfl

theorem isName_eq_false_iff {name : String} : Text.isName name = false ↔ ¬ IsWord name := by
  rw [← isName_iff, Bool.not_eq_true]

theorem bindEntry_of_bindable (hz : e.1.kind.isSize = false) (h : Bindable s e.1) :
    ∃ b, bindEntry s e = .ok b ∧ Declares s e b := by
  obtain ⟨size, hsize, hmake⟩ := bindEntry_of_sized hz h.sized
  obtain ⟨c, hc⟩ := accessor?_isSome hz
  obtain ⟨ctype, hctype⟩ := h.typed
  refine ⟨⟨e.1.name, c, ctype, e.2.toNat, size⟩, ?_, ⟨rfl, rfl, accessedBy_iff.2 hc, hctype, hsize⟩⟩
  rw [hmake]
  simp [makeBinding, hc, isName_iff.2 h.word, h.free, elementType, hctype, Except.map]

theorem bindEntry_of_fault (hz : e.1.kind.isSize = false) (h : LocationFault s e.1 f) :
    bindEntry s e = .error f := by
  obtain ⟨c, hc⟩ := accessor?_isSome hz
  cases h with
  | sizeMissing h => exact bindEntry_of_not_sized h
  | invalidName hs h =>
    obtain ⟨size, -, hmake⟩ := bindEntry_of_sized hz hs
    rw [hmake]
    simp [makeBinding, hc, isName_eq_false_iff.2 h]
  | reservedName hs hw h =>
    obtain ⟨size, -, hmake⟩ := bindEntry_of_sized hz hs
    rw [hmake]
    simp [makeBinding, hc, isName_iff.2 hw, h]
  | unknownType hs hw hf h =>
    obtain ⟨size, -, hmake⟩ := bindEntry_of_sized hz hs
    have hnone : elementTypes.lookup e.1.datatype = none := by
      simpa [Option.eq_none_iff_forall_ne_some] using h
    rw [hmake]
    simp [makeBinding, hc, isName_iff.2 hw, hf, elementType, hnone, Except.map]

theorem bindEntry_eq_ok_iff (hz : e.1.kind.isSize = false) :
    bindEntry s e = .ok b ↔ Bindable s e.1 ∧ Declares s e b := by
  constructor
  · intro h
    rcases bindable_or_fault s e.1 with hb | ⟨f, hf⟩
    · obtain ⟨b', hb', hd⟩ := bindEntry_of_bindable hz hb
      cases h.symm.trans hb'
      exact ⟨hb, hd⟩
    · cases h.symm.trans (bindEntry_of_fault hz hf)
  · rintro ⟨hb, hd⟩
    obtain ⟨b', hb', hd'⟩ := bindEntry_of_bindable hz hb
    rw [hb', hd.unique hd']

theorem succeeds_bindEntry_iff (hz : e.1.kind.isSize = false) :
    Succeeds (bindEntry s) e ↔ Bindable s e.1 := by
  refine ⟨fun ⟨b, h⟩ => ((bindEntry_eq_ok_iff hz).1 h).1, fun h => ?_⟩
  obtain ⟨b, hb, -⟩ := bindEntry_of_bindable hz h
  exact ⟨b, hb⟩

/-! ## One namespace -/

/-- The kinds whose elements stand in a namespace. -/
def Namespace.kinds : Namespace → List Kind
  | registers => [.control, .indicator, .controlArray, .indicatorArray]
  | fifos => [.targetToHostFifo, .hostToTargetFifo]

/-- The entries of a namespace, in order. -/
def Namespace.entries (space : Namespace) (s : AddressSet) : List Entry := s.ofKinds space.kinds

def Namespace.bindings (space : Namespace) (s : AddressSet) : Except BindingError (List Binding) :=
  bindingsOf s space.kinds space

theorem registerBindings_eq (s : AddressSet) : registerBindings s = Namespace.registers.bindings s :=
  rfl

theorem fifoBindings_eq (s : AddressSet) : fifoBindings s = Namespace.fifos.bindings s := rfl

theorem Namespace.mem_entries {space : Namespace} :
    e ∈ space.entries s ↔ e ∈ s.entries ∧ e.1.kind ∈ space.kinds := by
  simp [Namespace.entries, AddressSet.ofKinds]

theorem Namespace.isSize_of_mem {space : Namespace} {k : Kind} (h : k ∈ space.kinds) :
    k.isSize = false := by
  cases space <;> cases k <;> first | rfl | simp [Namespace.kinds] at h

theorem Namespace.bindings_eq_ok_iff {space : Namespace} {bs : List Binding} :
    space.bindings s = .ok bs ↔ (space.entries s).mapM (bindEntry s) = .ok bs ∧
      repeatedName? [] (bs.map (·.name)) = none := by
  simp only [Namespace.bindings, bindingsOf, bind_eq_ok_iff, Namespace.entries]
  constructor
  · rintro ⟨bs', hbs, h⟩
    split at h
    · cases h
    · next hn =>
      cases h
      exact ⟨hbs, hn⟩
  · rintro ⟨hbs, hn⟩
    exact ⟨bs, hbs, by rw [hn]⟩

theorem Namespace.isSize_of_mem_entries {space : Namespace} (h : e ∈ space.entries s) :
    e.1.kind.isSize = false :=
  Namespace.isSize_of_mem (Namespace.mem_entries.1 h).2

theorem Namespace.declares_of_mapM {space : Namespace} {bs : List Binding}
    (h : (space.entries s).mapM (bindEntry s) = .ok bs) :
    List.Forall₂ (Declares s) (space.entries s) bs := by
  have hz : ∀ e ∈ space.entries s, e.1.kind.isSize = false := fun e =>
    Namespace.isSize_of_mem_entries
  refine ((List.forall₂_and_left _ _).2 ⟨hz, mapM_eq_ok_iff.1 h⟩).imp ?_
  rintro e b ⟨he, hb⟩
  exact ((bindEntry_eq_ok_iff he).1 hb).2

theorem names_of_declares {es : List Entry} {bs : List Binding}
    (h : List.Forall₂ (Declares s) es bs) : bs.map (·.name) = es.map (·.1.name) := by
  induction h with
  | nil => rfl
  | cons hb _ ih => rw [List.map_cons, List.map_cons, hb.name, ih]

/-! ## Both namespaces -/

/-- The entries of two sorts, where none of the first sort stands after one of the second: those of
the first come before those of the second. -/
theorem filter_append_filter {α : Type} {p q : α → Bool} {as : List α}
    (hpq : ∀ a, q a = true → p a = false)
    (h : as.Pairwise fun a b => q a = true → p b = false) :
    as.filter p ++ as.filter q = as.filter fun a => p a || q a := by
  induction as with
  | nil => rfl
  | cons a as ih =>
    obtain ⟨ha, has⟩ := List.pairwise_cons.1 h
    have ih := ih has
    by_cases hq : q a = true
    · have hnil : as.filter p = [] := List.filter_eq_nil_iff.2 fun b hb => by simp [ha b hb hq]
      rw [hnil, List.nil_append] at ih
      simp [hq, hpq a hq, hnil, ih]
    · by_cases hp : p a = true <;> simp [hp, hq, ih]

/-- The kinds of the entries of a set come in declaration order. -/
theorem order_le_of_entries (s : AddressSet) :
    s.entries.Pairwise fun a b => a.1.kind.order ≤ b.1.kind.order := by
  refine s.sorted.imp fun {a b} h => ?_
  rcases Location.lt_def.1 h with h | ⟨h, -⟩
  · exact Nat.le_of_lt h
  · exact Nat.le_of_eq (congrArg Kind.order h)

/-- Registers come before FIFOs, and together they are all entries but the sizes. -/
theorem entries_append_entries (s : AddressSet) :
    Namespace.registers.entries s ++ Namespace.fifos.entries s =
      s.entries.filter fun e => !e.1.kind.isSize := by
  simp only [Namespace.entries, AddressSet.ofKinds]
  rw [filter_append_filter]
  · congr 1
    funext e
    cases e.1.kind <;> rfl
  · intro e
    cases e.1.kind <;> decide
  · refine (order_le_of_entries s).imp fun {a b} => ?_
    cases a.1.kind <;> cases b.1.kind <;> decide

/-- The bindings of both namespaces declare the entries of a set in order, each entry but the sizes
once: no other list of bindings does. -/
theorem bindings_eq_declarations {rs fs : List Binding} (hr : registerBindings s = .ok rs)
    (hf : fifoBindings s = .ok fs) (bs : List Binding) :
    List.Forall₂ (Declares s) (s.entries.filter fun e => !e.1.kind.isSize) bs ↔ bs = rs ++ fs := by
  have hall : List.Forall₂ (Declares s) (s.entries.filter fun e => !e.1.kind.isSize) (rs ++ fs) := by
    rw [← entries_append_entries]
    rw [registerBindings_eq] at hr
    rw [fifoBindings_eq] at hf
    exact List.rel_append (Namespace.declares_of_mapM (Namespace.bindings_eq_ok_iff.1 hr).1)
      (Namespace.declares_of_mapM (Namespace.bindings_eq_ok_iff.1 hf).1)
  constructor
  · intro h
    exact List.right_unique_forall₂' (fun _ _ _ h h' => h.unique h') h hall
  · rintro rfl
    exact hall

/-- An array beside the sizes of two namesakes, and a FIFO with the name of a register. -/
def sameNames : AddressSet where
  entries :=
    [(⟨.indicator, "Gain", "U8"⟩, 3), (⟨.controlArray, "Taps", "U8"⟩, 0x18014),
      (⟨.controlArraySize, "Taps", "U16"⟩, 9), (⟨.controlArraySize, "Taps", "U8"⟩, 4),
      (⟨.indicatorArraySize, "Taps", "U8"⟩, 7), (⟨.hostToTargetFifo, "Gain", "U8"⟩, 0)]
  sorted := by decide +kernel

theorem bindings_eq_declarations_sameNames :
    ∃ rs fs, registerBindings sameNames = .ok rs ∧ fifoBindings sameNames = .ok fs ∧
      rs ++ fs = [⟨"Gain", .register, "c_uint8", 3, none⟩,
        ⟨"Taps", .arrayRegister, "c_uint8", 0x18014, some 4⟩,
        ⟨"Gain", .writeFifo, "c_uint8", 0, none⟩] ∧
      List.Forall₂ (Declares sameNames) (sameNames.entries.filter fun e => !e.1.kind.isSize)
        (rs ++ fs) := by
  have hr : registerBindings sameNames = .ok [⟨"Gain", .register, "c_uint8", 3, none⟩,
      ⟨"Taps", .arrayRegister, "c_uint8", 0x18014, some 4⟩] := by decide +kernel
  have hf : fifoBindings sameNames = .ok [⟨"Gain", .writeFifo, "c_uint8", 0, none⟩] := by
    decide +kernel
  exact ⟨_, _, hr, hf, rfl, (bindings_eq_declarations hr hf _).2 rfl⟩

end FpgaInterface
