import FpgaInterface.Access.Accessor
import FpgaInterface.Proofs.BindingList

/-!
# Which bindings can be constructed

A generated module makes an accessor of each of its bindings. Only an array without elements is
refused, although it has a binding.

* `Binding.Constructs b a` : the accessor `a` has all that the binding `b` declares;
* `Declares.ofBinding` : the accessor of a binding, or the refusal of an empty array;
* `IsEmptyArray s l` : the size of an array is zero;
* `constructible_iff` : the bindings of a set can all be constructed exactly if it has no empty
  array.
-/

namespace FpgaInterface

variable {s : AddressSet} {e : Entry} {b : Binding}

/-! ## Sizes -/

theorem Value.isAtMostZero?_int {n : Int} :
    (Value.int n).isAtMostZero? = some false ↔ 0 < n := by
  simp [Value.isAtMostZero?_of_integer? (rfl : (Value.int n).integer? = some n)]

theorem Accessor.ofSize_of_pos {ctype : String} {address size : Int} (h : 0 < size) :
    Accessor.ofSize ctype (.int address) (.int size) =
      .ok (.arrayRegister ⟨ctype, .int address, .int size, Value.isAtMostZero?_int.2 h⟩) :=
  dif_pos (Value.isAtMostZero?_int.2 h)

theorem Accessor.ofSize_of_not_pos {ctype : String} {address size : Int} (h : ¬ 0 < size) :
    Accessor.ofSize ctype (.int address) (.int size) = .error (.noElements address) :=
  dif_neg fun hpos => h (Value.isAtMostZero?_int.1 hpos)

/-! ## One binding -/

/-- The accessor `a` is of the class of the binding `b` and has its element type, its address and
its size. -/
structure Binding.Constructs (b : Binding) (a : Accessor) : Prop where
  accessorClass : a.accessorClass = b.accessor
  ctype : a.ctype = b.ctype
  fields : a.fields =
    ("address", .int b.address) :: (b.size.map fun n => ("size", Value.int n)).toList

/-- The element types of bindings are known by their own names. -/
theorem elementTypeNamed_of_lookup {datatype ctype : String}
    (h : elementTypes.lookup datatype = some ctype) : elementTypeNamed ctype = .ok ctype := by
  have hmem : ctype ∈ elementTypes.map (·.2) := by
    obtain ⟨before, after, heq, -⟩ := List.lookup_eq_some_iff.1 h
    exact List.mem_map.2 ⟨(datatype, ctype), by rw [heq]; simp, rfl⟩
  have hall : ∀ ctype ∈ elementTypes.map (·.2),
      (elementTypeNamed ctype).toOption = some ctype := by decide +kernel
  have hnamed := hall ctype hmem
  cases hc : elementTypeNamed ctype with
  | error f => rw [hc] at hnamed; cases hnamed
  | ok type => rw [hc] at hnamed; rw [Option.some.inj hnamed]

/-- An array has no element. -/
def IsEmptyArray (s : AddressSet) (l : Location) : Prop :=
  ∃ k, SizedBy l.kind k ∧ s.get? ⟨k, l.name, l.datatype⟩ = some 0

theorem SizedBy.unique {kind k k' : Kind} (h : SizedBy kind k) (h' : SizedBy kind k') : k = k' := by
  cases h <;> cases h' <;> rfl

theorem SizedBy.accessor {kind k : Kind} {c : AccessorClass} (h : SizedBy kind k)
    (hc : AccessedBy kind c) : c = .arrayRegister := by
  cases h <;> cases hc <;> rfl

/-- The accessor of an element without a size is always made. -/
theorem Declares.ofBinding_of_single (h : Declares s e b) (hk : ∀ k, ¬ SizedBy e.1.kind k) :
    ∃ a, Accessor.ofBinding b = .ok a ∧ b.Constructs a := by
  obtain ⟨name, accessor, ctype, address, size⟩ := b
  obtain rfl : size = none := h.size.single hk
  have hclass : AccessedBy e.1.kind accessor := h.accessor
  generalize e.1.kind = kind at hclass hk
  cases hclass with
  | control | indicator | targetToHostFifo | hostToTargetFifo => exact ⟨_, rfl, rfl, rfl, rfl⟩
  | controlArray => exact absurd .control (hk _)
  | indicatorArray => exact absurd .indicator (hk _)

/-- The accessor of an array is made with its size. -/
theorem Declares.ofBinding_of_sized (h : Declares s e b) {k : Kind} (hk : SizedBy e.1.kind k) :
    ∃ w, s.get? ⟨k, e.1.name, e.1.datatype⟩ = some w ∧ b.accessor = .arrayRegister ∧
      b.size = some (w.toNat : Int) ∧
      Accessor.ofBinding b = Accessor.ofSize b.ctype (.int b.address) (.int w.toNat) := by
  obtain ⟨w, hw, hsize⟩ := h.size.array k hk
  have hclass := hk.accessor h.accessor
  refine ⟨w, hw, hclass, hsize, ?_⟩
  rw [Accessor.ofBinding, hclass, hsize]
  rfl

/-- The accessor of a binding has what the binding declares, unless the binding is that of an empty
array, which is refused. -/
theorem Declares.ofBinding (h : Declares s e b) :
    (¬ IsEmptyArray s e.1 ∧ ∃ a, Accessor.ofBinding b = .ok a ∧ b.Constructs a) ∨
      IsEmptyArray s e.1 ∧ b.accessor = .arrayRegister ∧ b.size = some 0 ∧
        Accessor.ofBinding b = .error (.noElements b.address) := by
  by_cases hk : ∃ k, SizedBy e.1.kind k
  · obtain ⟨k, hk⟩ := hk
    obtain ⟨w, hw, hclass, hsize, hmake⟩ := h.ofBinding_of_sized hk
    rw [hmake]
    by_cases hpos : 0 < (w.toNat : Int)
    · rw [Accessor.ofSize_of_pos hpos]
      refine .inl ⟨?_, _, rfl, hclass.symm, rfl, by rw [hsize]; rfl⟩
      rintro ⟨k', hk', hzero⟩
      rw [hk'.unique hk, hw] at hzero
      cases hzero
      exact absurd hpos (by decide)
    · obtain rfl : w = 0 := UInt32.toNat_inj.1 (by simpa using hpos)
      rw [Accessor.ofSize_of_not_pos hpos]
      exact .inr ⟨⟨k, hk, hw⟩, hclass, hsize, rfl⟩
  · have hsingle : ∀ k, ¬ SizedBy e.1.kind k := fun k hk' => hk ⟨k, hk'⟩
    exact .inl ⟨fun ⟨k, hk', _⟩ => hsingle k hk', h.ofBinding_of_single hsingle⟩

/-! ## All bindings -/

section Namespace
variable {space : Namespace} {bs : List Binding}

theorem Namespace.exists_entry (h : space.bindings s = .ok bs) (hb : b ∈ bs) :
    ∃ e ∈ s.entries, Declares s e b := by
  obtain ⟨e, he, hd⟩ :=
    forall₂_exists_left (declares_of_mapM (bindings_eq_ok_iff.1 h).1) b hb
  exact ⟨e, (mem_entries.1 he).1, hd⟩

theorem Namespace.exists_binding (h : space.bindings s = .ok bs) (he : e ∈ s.entries)
    (hk : e.1.kind ∈ space.kinds) : ∃ b ∈ bs, Declares s e b :=
  forall₂_exists_right (declares_of_mapM (bindings_eq_ok_iff.1 h).1) e (mem_entries.2 ⟨he, hk⟩)

end Namespace

/-- All bindings that are generated for a set can be constructed. -/
def Constructible (s : AddressSet) : Prop :=
  ∀ rs fs, registerBindings s = .ok rs → fifoBindings s = .ok fs →
    ∀ b ∈ rs ++ fs, ∃ a, Accessor.ofBinding b = .ok a

section Generated
variable {rs fs : List Binding} (hr : registerBindings s = .ok rs) (hf : fifoBindings s = .ok fs)

include hr hf

/-- Each binding that is generated declares an entry of the set. -/
theorem exists_declares (hb : b ∈ rs ++ fs) : ∃ e ∈ s.entries, Declares s e b := by
  rw [registerBindings_eq] at hr
  rw [fifoBindings_eq] at hf
  rcases List.mem_append.1 hb with hb | hb
  · exact Namespace.exists_entry hr hb
  · exact Namespace.exists_entry hf hb

omit hf in
theorem exists_binding_of_isEmptyArray (he : e ∈ s.entries) (hempty : IsEmptyArray s e.1) :
    ∃ b ∈ rs, Declares s e b := by
  obtain ⟨k, hk, -⟩ := hempty
  have hkind : e.1.kind ∈ Namespace.registers.kinds := by
    generalize e.1.kind = kind at hk
    cases hk <;> decide
  rw [registerBindings_eq] at hr
  exact Namespace.exists_binding hr he hkind

/-- **The bindings of a set can all be constructed exactly if it has no empty array.** Each binding
is of a known element type, and gives an accessor with all that it declares unless it is the binding
of an empty array, which is refused. -/
theorem constructible_iff :
    (Constructible s ↔ ∀ e ∈ s.entries, ¬ IsEmptyArray s e.1) ∧
      ∀ b ∈ rs ++ fs, elementTypeNamed b.ctype = .ok b.ctype ∧
        ((∃ a, Accessor.ofBinding b = .ok a ∧ b.Constructs a) ∨
          b.accessor = .arrayRegister ∧ b.size = some 0 ∧
            Accessor.ofBinding b = .error (.noElements b.address)) := by
  refine ⟨⟨fun h e he hempty => ?_, fun h rs' fs' hr' hf' b hb => ?_⟩, fun b hb => ?_⟩
  · obtain ⟨b, hb, hd⟩ := exists_binding_of_isEmptyArray hr he hempty
    obtain ⟨a, ha⟩ := h rs fs hr hf b (List.mem_append_left _ hb)
    rcases hd.ofBinding with ⟨hne, -⟩ | ⟨-, -, -, hrefused⟩
    · exact hne hempty
    · cases ha.symm.trans hrefused
  · obtain ⟨e, he, hd⟩ := exists_declares hr' hf' hb
    rcases hd.ofBinding with ⟨-, a, ha, -⟩ | ⟨hempty, -⟩
    · exact ⟨a, ha⟩
    · exact absurd hempty (h e he)
  · obtain ⟨e, -, hd⟩ := exists_declares hr hf hb
    exact ⟨elementTypeNamed_of_lookup hd.ctype, hd.ofBinding.imp And.right And.right⟩

end Generated

/-- An array of four elements and one without any. -/
def fullAndEmpty : AddressSet where
  entries :=
    [(⟨.controlArray, "Taps", "U8"⟩, 0x18014), (⟨.indicatorArray, "Peaks", "Sgl"⟩, 0x18018),
      (⟨.controlArraySize, "Taps", "U8"⟩, 4), (⟨.indicatorArraySize, "Peaks", "Sgl"⟩, 0)]
  sorted := by decide +kernel

theorem registerBindings_fullAndEmpty : registerBindings fullAndEmpty =
    .ok [⟨"Taps", .arrayRegister, "c_uint8", 0x18014, some 4⟩,
      ⟨"Peaks", .arrayRegister, "c_float", 0x18018, some 0⟩] := by decide +kernel

theorem fifoBindings_fullAndEmpty : fifoBindings fullAndEmpty = .ok [] := by decide +kernel

theorem constructible_iff_fullAndEmpty :
    registerBindings fullAndEmpty = .ok [⟨"Taps", .arrayRegister, "c_uint8", 0x18014, some 4⟩,
        ⟨"Peaks", .arrayRegister, "c_float", 0x18018, some 0⟩] ∧
      fifoBindings fullAndEmpty = .ok [] ∧
      (Constructible fullAndEmpty ↔
        ∀ e ∈ fullAndEmpty.entries, ¬ IsEmptyArray fullAndEmpty e.1) :=
  ⟨registerBindings_fullAndEmpty, fifoBindings_fullAndEmpty,
    (constructible_iff registerBindings_fullAndEmpty fifoBindings_fullAndEmpty).1⟩

/-- The array without elements has a binding, of which no accessor can be made. -/
theorem not_constructible_fullAndEmpty : ¬ Constructible fullAndEmpty := by
  intro h
  obtain ⟨a, ha⟩ := h _ _ registerBindings_fullAndEmpty fifoBindings_fullAndEmpty
    ⟨"Peaks", .arrayRegister, "c_float", 0x18018, some 0⟩ (by decide)
  have hrefused : Accessor.ofBinding ⟨"Peaks", .arrayRegister, "c_float", 0x18018, some 0⟩ =
      .error (.noElements 0x18018) := rfl
  cases ha.symm.trans hrefused

end FpgaInterface
