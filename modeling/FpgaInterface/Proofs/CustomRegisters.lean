import FpgaInterface.Proofs.CustomTypeFields

/-!
# The registers that constants make up

* `Field.Sufficient`, `Field.Lacks` : which fields make up a register, and what is missing otherwise;
* `CustomType.Outcome`, `register_outcome` : what the fields of one element come to;
* `registers_eq_ok_iff`, `registers_eq_error_iff` : all elements in order of names, the first that
  makes up nothing decides;
* `RegistersGiven` : registers that hold what the constants give and nothing else;
* `registers_exact` : which declarations are accepted, and which registers they make up.
-/

namespace FpgaInterface

/-! ## One element -/

namespace Field

/-- Fields that make up a register. -/
def Sufficient (has : Field → Prop) : Prop :=
  has .resource ∧ (has .typeInfo ∨ has .type ∧ has .packedSize)

/-- What an element with those fields alone lacks for a register. -/
inductive Lacks (has : Field → Prop) (n : String) : CustomTypeError → Prop
  | address (ha : ¬ has .resource) : Lacks has n (.noAddress n)
  | typeInformation (ha : has .resource) (hl : ¬ has .typeInfo) (ht : ¬ has .type) :
    Lacks has n (.noTypeInformation n)
  | packedSize (ha : has .resource) (hl : ¬ has .typeInfo) (ht : has .type)
    (hp : ¬ has .packedSize) : Lacks has n (.noPackedSize n)

variable {has : Field → Prop} {n : String} {e e' : CustomTypeError}

theorem Lacks.unique (h : Lacks has n e) (h' : Lacks has n e') : e = e' := by
  cases h <;> cases h' <;> first | rfl | contradiction

theorem sufficient_iff : Sufficient has ↔ ∀ e, ¬ Lacks has n e := by
  constructor
  · rintro ⟨ha, hdata⟩ e he
    cases he with
    | address h => exact h ha
    | typeInformation _ hl ht => exact hdata.elim hl fun h => ht h.1
    | packedSize _ hl _ hp => exact hdata.elim hl fun h => hp h.2
  · intro h
    have ha : has .resource := by_contra fun ha => h _ (.address ha)
    refine ⟨ha, or_iff_not_imp_left.2 fun hl => ?_⟩
    have ht : has .type := by_contra fun ht => h _ (.typeInformation ha hl ht)
    exact ⟨ht, by_contra fun hp => h _ (.packedSize ha hl ht hp)⟩

end Field

namespace CustomRegister

def name : CustomRegister → String
  | fxp r => r.name
  | cluster r => r.name

theorem fxp?_eq_some_iff {c : CustomRegister} {r : FxpRegister} :
    c.fxp? = some r ↔ c = fxp r := by cases c <;> simp [fxp?]

theorem cluster?_eq_some_iff {c : CustomRegister} {r : ClusterRegister} :
    c.cluster? = some r ↔ c = cluster r := by cases c <;> simp [cluster?]

end CustomRegister

namespace CustomType

def Has (t : CustomType) (f : Field) : Prop := t.value? f ≠ none

/-- What the fields of an element come to. -/
inductive Outcome (t : CustomType) (n : String) : Except CustomTypeError CustomRegister → Prop
  | fxp {a : Int} {l : FxpLayout} (ha : t.address = some a) (h : 0 ≤ a) (hl : t.layout = some l) :
    Outcome t n (.ok (.fxp ⟨n, t.elementClass, l, a, t.arraySize⟩))
  | cluster {a s : Int} {c : String} (ha : t.address = some a) (h : 0 ≤ a) (hl : t.layout = none)
    (hc : t.clusterType = some c) (hs : t.packedSize = some s) :
    Outcome t n (.ok (.cluster ⟨n, t.elementClass, c, a, s, t.arraySize⟩))
  | lacks {e : CustomTypeError} (h : Field.Lacks t.Has n e) : Outcome t n (.error e)
  | below {a : Int} (ha : t.address = some a) (h : ¬ 0 ≤ a) :
    Outcome t n (.error (.invalidRegister [⟨[.key "address"], .below 0⟩]))

/-- No address of the element is below zero. -/
def AddressValid (t : CustomType) : Prop := ∀ a, t.address = some a → 0 ≤ a

variable {t : CustomType} {n : String}

theorem has_iff {f : Field} : t.Has f ↔ ∃ v, t.value? f = some v := Option.ne_none_iff_exists'

theorem register_outcome (t : CustomType) (n : String) : t.Outcome n (t.register n) := by
  unfold register
  cases ha : t.address with
  | none => exact .lacks (.address (not_not.2 ha))
  | some a =>
    have hres : t.Has .resource := has_iff.2 ⟨a, ha⟩
    cases hl : t.layout with
    | some l =>
      by_cases h : 0 ≤ a
      · simp only [checkedAddress, if_pos h]
        exact .fxp ha h hl
      · simp only [checkedAddress, if_neg h]
        exact .below ha h
    | none =>
      have hno : ¬ t.Has .typeInfo := not_not.2 hl
      cases hc : t.clusterType with
      | none => exact .lacks (.typeInformation hres hno (not_not.2 hc))
      | some c =>
        cases hs : t.packedSize with
        | none => exact .lacks (.packedSize hres hno (has_iff.2 ⟨c, hc⟩) (not_not.2 hs))
        | some s =>
          by_cases h : 0 ≤ a
          · simp only [checkedAddress, if_pos h]
            exact .cluster ha h hl hc hs
          · simp only [checkedAddress, if_neg h]
            exact .below ha h

theorem name_of_register {r : CustomRegister} (h : t.register n = .ok r) : r.name = n := by
  have ho := register_outcome t n
  rw [h] at ho
  cases ho <;> rfl

theorem register_eq_fxp_iff (hv : t.AddressValid) {r : FxpRegister} :
    t.register n = .ok (.fxp r) ↔ r.name = n ∧ t.elementClass = r.elementClass ∧
      t.address = some r.address ∧ t.layout = some r.layout ∧ t.arraySize = r.arraySize := by
  constructor
  · intro hr
    have ho := register_outcome t n
    rw [hr] at ho
    cases ho with
    | fxp ha _ hl => exact ⟨rfl, rfl, ha, hl, rfl⟩
  · rintro ⟨rfl, hclass, ha, hl, hsize⟩
    simp only [register, ha, hl, checkedAddress, if_pos (hv _ ha), hclass, hsize]
    rfl

theorem register_eq_cluster_iff (hv : t.AddressValid) {r : ClusterRegister} :
    t.register n = .ok (.cluster r) ↔ r.name = n ∧ t.elementClass = r.elementClass ∧
      t.address = some r.address ∧ t.layout = none ∧ t.clusterType = some r.clusterType ∧
      t.packedSize = some r.packedSize ∧ t.arraySize = r.arraySize := by
  constructor
  · intro hr
    have ho := register_outcome t n
    rw [hr] at ho
    cases ho with
    | cluster ha _ hl hc hs => exact ⟨rfl, rfl, ha, hl, hc, hs, rfl⟩
  · rintro ⟨rfl, hclass, ha, hl, hc, hs, hsize⟩
    simp only [register, ha, hl, hc, hs, checkedAddress, if_pos (hv _ ha), hclass, hsize]
    rfl

theorem lacks_of_register (hv : t.AddressValid) {e : CustomTypeError}
    (h : t.register n = .error e) : Field.Lacks t.Has n e := by
  have ho := register_outcome t n
  rw [h] at ho
  cases ho with
  | lacks h => exact h
  | below ha hneg => exact absurd (hv _ ha) hneg

theorem sufficient_of_register {r : CustomRegister} (h : t.register n = .ok r) :
    Field.Sufficient t.Has := by
  have ho := register_outcome t n
  rw [h] at ho
  cases ho with
  | fxp ha _ hl => exact ⟨has_iff.2 ⟨_, ha⟩, .inl (has_iff.2 ⟨_, hl⟩)⟩
  | cluster ha _ _ hc hs =>
    exact ⟨has_iff.2 ⟨_, ha⟩, .inr ⟨has_iff.2 ⟨_, hc⟩, has_iff.2 ⟨_, hs⟩⟩⟩

theorem succeeds_register_iff (hv : t.AddressValid) :
    Succeeds (fun e : String × CustomType => e.2.register e.1) (n, t) ↔ Field.Sufficient t.Has := by
  refine ⟨fun ⟨r, hr⟩ => sufficient_of_register hr, fun hs => ?_⟩
  by_contra hfails
  obtain ⟨e, he⟩ := not_succeeds_iff.1 hfails
  exact Field.sufficient_iff.1 hs e (lacks_of_register hv he)

end CustomType

/-! ## All elements -/

namespace CustomTypes

section Registers
variable {ts : CustomTypes} {rs : List CustomRegister}

/-- The registers of the elements, each in the place of its element. -/
abbrev MadeUp (ts : CustomTypes) (rs : List CustomRegister) : Prop :=
  List.Forall₂ (fun e r => e.2.register e.1 = .ok r) ts.entries rs

theorem registers_eq_ok_iff {p : List FxpRegister × List ClusterRegister} :
    ts.registers = .ok p ↔ ∃ rs, ts.MadeUp rs ∧
      p = (rs.filterMap CustomRegister.fxp?, rs.filterMap CustomRegister.cluster?) := by
  unfold registers
  rw [bind_eq_ok_iff]
  refine exists_congr fun rs => and_congr mapM_eq_ok_iff ?_
  exact ⟨fun h => (Except.ok.inj h).symm, fun h => congrArg Except.ok h.symm⟩

/-- The element of the smallest name that makes up no register decides the error. -/
theorem registers_eq_error_iff {e : CustomTypeError} :
    ts.registers = .error e ↔ ∃ before a,
      FirstWithout (Succeeds fun e => e.2.register e.1) ts.entries before a ∧
        a.2.register a.1 = .error e := by
  unfold registers
  rw [bind_eq_error_iff, mapM_eq_error_iff]
  refine ⟨fun h => h.resolve_right ?_, .inl⟩
  rintro ⟨rs, -, h⟩
  cases h

theorem exists_of_madeUp (h : ts.MadeUp rs) {n : String} {t : CustomType}
    (ht : ts.get? n = some t) : ∃ r ∈ rs, t.register n = .ok r :=
  forall₂_exists_right h _ (SortedMap.get?_eq_some_iff.1 ht)

theorem mem_of_madeUp (h : ts.MadeUp rs) {r : CustomRegister} :
    r ∈ rs ↔ ∃ t, ts.get? r.name = some t ∧ t.register r.name = .ok r := by
  constructor
  · intro hr
    obtain ⟨⟨n, t⟩, he, hreg⟩ := forall₂_exists_left h r hr
    obtain rfl := CustomType.name_of_register hreg
    exact ⟨t, SortedMap.get?_eq_some_iff.2 he, hreg⟩
  · rintro ⟨t, ht, hreg⟩
    obtain ⟨r', hr', hreg'⟩ := exists_of_madeUp h ht
    obtain rfl : r = r' := Except.ok.inj (hreg.symm.trans hreg')
    exact hr'

theorem names_of_madeUp (h : ts.MadeUp rs) : rs.map CustomRegister.name = ts.entries.map (·.1) := by
  unfold MadeUp at h
  generalize ts.entries = es at h ⊢
  induction h with
  | nil => rfl
  | cons hreg _ ih => rw [List.map_cons, List.map_cons, CustomType.name_of_register hreg, ih]

theorem sorted_of_madeUp (h : ts.MadeUp rs) : rs.Pairwise (·.name < ·.name) := by
  have hnames := names_of_madeUp h ▸ List.pairwise_map.2 ts.sorted
  exact List.pairwise_map.1 hnames

/-- No address is below zero. -/
def AddressesValid (ts : CustomTypes) : Prop := ∀ n t, ts.get? n = some t → t.AddressValid

theorem mem_fxp_iff (hv : ts.AddressesValid) (h : ts.MadeUp rs) {r : FxpRegister} :
    r ∈ rs.filterMap CustomRegister.fxp? ↔ ∃ t, ts.get? r.name = some t ∧
      t.elementClass = r.elementClass ∧ t.address = some r.address ∧ t.layout = some r.layout ∧
        t.arraySize = r.arraySize := by
  simp only [List.mem_filterMap, CustomRegister.fxp?_eq_some_iff, exists_eq_right,
    mem_of_madeUp h, CustomRegister.name]
  refine exists_congr fun t => and_congr_right fun ht => ?_
  rw [CustomType.register_eq_fxp_iff (hv _ t ht)]
  exact and_iff_right rfl

theorem mem_cluster_iff (hv : ts.AddressesValid) (h : ts.MadeUp rs) {r : ClusterRegister} :
    r ∈ rs.filterMap CustomRegister.cluster? ↔ ∃ t, ts.get? r.name = some t ∧
      t.elementClass = r.elementClass ∧ t.address = some r.address ∧ t.layout = none ∧
        t.clusterType = some r.clusterType ∧ t.packedSize = some r.packedSize ∧
          t.arraySize = r.arraySize := by
  simp only [List.mem_filterMap, CustomRegister.cluster?_eq_some_iff, exists_eq_right,
    mem_of_madeUp h, CustomRegister.name]
  refine exists_congr fun t => and_congr_right fun ht => ?_
  rw [CustomType.register_eq_cluster_iff (hv _ t ht)]
  exact and_iff_right rfl

theorem name_mem_fxp_iff (hv : ts.AddressesValid) (h : ts.MadeUp rs) {n : String} :
    n ∈ (rs.filterMap CustomRegister.fxp?).map (·.name) ↔
      ∃ t, ts.get? n = some t ∧ t.layout ≠ none := by
  constructor
  · intro hn
    obtain ⟨r, hr, rfl⟩ := List.mem_map.1 hn
    obtain ⟨t, ht, -, -, hl, -⟩ := (mem_fxp_iff hv h).1 hr
    exact ⟨t, ht, by simp [hl]⟩
  · rintro ⟨t, ht, hl⟩
    obtain ⟨r, hr, hreg⟩ := exists_of_madeUp h ht
    cases r with
    | fxp r =>
      have hname := CustomType.name_of_register hreg
      exact List.mem_map.2 ⟨r, List.mem_filterMap.2 ⟨_, hr, rfl⟩, hname⟩
    | cluster r =>
      obtain ⟨-, -, -, hnone, -⟩ := (CustomType.register_eq_cluster_iff (hv n t ht)).1 hreg
      exact absurd hnone hl

theorem name_mem_cluster_iff (hv : ts.AddressesValid) (h : ts.MadeUp rs) {n : String} :
    n ∈ (rs.filterMap CustomRegister.cluster?).map (·.name) ↔
      ∃ t, ts.get? n = some t ∧ t.layout = none := by
  constructor
  · intro hn
    obtain ⟨r, hr, rfl⟩ := List.mem_map.1 hn
    obtain ⟨t, ht, -, -, hl, -⟩ := (mem_cluster_iff hv h).1 hr
    exact ⟨t, ht, hl⟩
  · rintro ⟨t, ht, hl⟩
    obtain ⟨r, hr, hreg⟩ := exists_of_madeUp h ht
    cases r with
    | fxp r =>
      obtain ⟨-, -, -, hsome, -⟩ := (CustomType.register_eq_fxp_iff (hv n t ht)).1 hreg
      exact absurd (hl.symm.trans hsome) nofun
    | cluster r =>
      have hname := CustomType.name_of_register hreg
      exact List.mem_map.2 ⟨r, List.mem_filterMap.2 ⟨_, hr, rfl⟩, hname⟩

/-- Before the first element that makes up no register stand all those of smaller names. -/
theorem succeeds_of_lt {before : List (String × CustomType)} {a e : String × CustomType}
    {p : String × CustomType → Prop} (h : FirstWithout p ts.entries before a)
    (he : e ∈ ts.entries) (hlt : e.1 < a.1) : p e := by
  obtain ⟨after, hes⟩ := h.starts
  have hsorted := ts.sorted
  rw [← hes] at he hsorted
  rw [List.append_assoc, List.singleton_append] at he hsorted
  obtain ⟨-, hafter, -⟩ := List.pairwise_append.1 hsorted
  rcases List.mem_append.1 he with he | he
  · exact h.before e he
  · rcases List.mem_cons.1 he with rfl | he
    · exact absurd hlt (TotalOrder.irrefl _)
    · have hgt := (List.pairwise_cons.1 hafter).1 e he
      exact absurd (TotalOrder.trans hlt hgt) (TotalOrder.irrefl _)

theorem sorted_filterMap {ρ : Type} {kept : CustomRegister → Option ρ} {bears : ρ → String}
    (h : ts.MadeUp rs) (hkept : ∀ c r, kept c = some r → c.name = bears r) :
    (rs.filterMap kept).Pairwise (bears · < bears ·) := by
  refine (sorted_of_madeUp h).filterMap _ fun c d hlt r hr r' hr' => ?_
  rw [← hkept c r hr, ← hkept d r' hr']
  exact hlt

end Registers

/-! ## The constants alone -/

def Named (ks : List CustomConstant) (n : String) : Prop := ∃ k ∈ ks, k.parts.name = n

/-- A constant gives an element a field. -/
def HasField (ks : List CustomConstant) (n : String) (f : Field) : Prop := (n, f) ∈ slots ks

theorem GivenClass.named {ks : List CustomConstant} {n c : String} (h : GivenClass ks n c) :
    Named ks n := by
  obtain ⟨k, hk, hname, -⟩ := h
  exact ⟨k, hk, hname⟩

/-- The constants give a fixed-point register all that it holds. -/
structure FxpGiven (ks : List CustomConstant) (r : FxpRegister) : Prop where
  elementClass : GivenClass ks r.name r.elementClass
  address : Given ks r.name .resource r.address
  layout : Given ks r.name .typeInfo r.layout
  arraySize : ∀ v : Int, r.arraySize = some v ↔ Given ks r.name .size v

/-- The constants give a cluster all that it holds, and no layout. -/
structure ClusterGiven (ks : List CustomConstant) (r : ClusterRegister) : Prop where
  elementClass : GivenClass ks r.name r.elementClass
  address : Given ks r.name .resource r.address
  noLayout : ¬ HasField ks r.name .typeInfo
  clusterType : Given ks r.name .type r.clusterType
  packedSize : Given ks r.name .packedSize r.packedSize
  arraySize : ∀ v : Int, r.arraySize = some v ↔ Given ks r.name .size v

/-- The registers that the constants make up, both lists in order of names. -/
structure RegistersGiven (ks : List CustomConstant)
    (p : List FxpRegister × List ClusterRegister) : Prop where
  fxp_sorted : p.1.Pairwise (·.name < ·.name)
  cluster_sorted : p.2.Pairwise (·.name < ·.name)
  mem_fxp : ∀ r, r ∈ p.1 ↔ FxpGiven ks r
  mem_cluster : ∀ r, r ∈ p.2 ↔ ClusterGiven ks r
  name_fxp : ∀ n, n ∈ p.1.map (·.name) ↔ Named ks n ∧ HasField ks n .typeInfo
  name_cluster : ∀ n, n ∈ p.2.map (·.name) ↔ Named ks n ∧ ¬ HasField ks n .typeInfo

/-! ## Registers of what is collected -/

namespace Collected

variable {ks : List CustomConstant} {ts : CustomTypes} {t : CustomType} {n : String}

theorem named_iff (h : Collected ks ts) : Named ks n ↔ ∃ t, ts.get? n = some t := by
  constructor
  · rintro ⟨k, hk, hname⟩
    have hclass := (h.class_iff n k.parts.elementClass).2 ⟨k, hk, hname, rfl⟩
    obtain ⟨t, ht, -⟩ := Option.map_eq_some_iff.1 hclass
    exact ⟨t, ht⟩
  · rintro ⟨t, ht⟩
    have hclass : ts.class? n = some t.elementClass := congrArg (Option.map _) ht
    obtain ⟨k, hk, hname, -⟩ := (h.class_iff n _).1 hclass
    exact ⟨k, hk, hname⟩

theorem elementClass_iff (h : Collected ks ts) (ht : ts.get? n = some t) {c : String} :
    t.elementClass = c ↔ GivenClass ks n c := by
  rw [← h.class_iff, class?, ht]
  simp

theorem field_iff (h : Collected ks ts) (ht : ts.get? n = some t) {f : Field} {v : f.Value} :
    t.value? f = some v ↔ Given ks n f v := by
  rw [← h.value_iff, value?, ht]
  simp

theorem has_eq (h : Collected ks ts) (hk : Consistent ks) (ht : ts.get? n = some t) :
    t.Has = HasField ks n := by
  funext f
  have hgiven : t.Has f ↔ ∃ v, Given ks n f v :=
    Option.ne_none_iff_exists'.trans (exists_congr fun v => h.field_iff ht)
  exact propext (hgiven.trans (mem_slots_iff_given hk.readable).symm)

theorem addressesValid (h : Collected ks ts)
    (ha : ∀ n a, Given ks n .resource a → (0 : Int) ≤ a) : ts.AddressesValid :=
  fun n _ ht a hat => ha n a ((h.field_iff ht (f := .resource)).1 hat)

theorem arraySize_iff (h : Collected ks ts) (ht : ts.get? n = some t) {size : Option Int} :
    t.arraySize = size ↔ ∀ v : Int, size = some v ↔ Given ks n .size v := by
  have hgiven : ∀ v : Int, t.arraySize = some v ↔ Given ks n .size v := fun v =>
    h.field_iff ht (f := .size)
  constructor
  · rintro rfl
    exact hgiven
  · exact fun hsize => Option.ext fun v => (hgiven v).trans (hsize v).symm

theorem fxpGiven_iff (h : Collected ks ts) {r : FxpRegister} :
    FxpGiven ks r ↔ ∃ t, ts.get? r.name = some t ∧ t.elementClass = r.elementClass ∧
      t.address = some r.address ∧ t.layout = some r.layout ∧ t.arraySize = r.arraySize := by
  constructor
  · rintro ⟨hclass, ha, hl, hsize⟩
    obtain ⟨t, ht⟩ := h.named_iff.1 hclass.named
    exact ⟨t, ht, (h.elementClass_iff ht).2 hclass, (h.field_iff ht).2 ha, (h.field_iff ht).2 hl,
      (h.arraySize_iff ht).2 hsize⟩
  · rintro ⟨t, ht, hclass, ha, hl, hsize⟩
    exact ⟨(h.elementClass_iff ht).1 hclass, (h.field_iff ht (f := .resource)).1 ha,
      (h.field_iff ht (f := .typeInfo)).1 hl, (h.arraySize_iff ht).1 hsize⟩

theorem clusterGiven_iff (h : Collected ks ts) (hk : Consistent ks) {r : ClusterRegister} :
    ClusterGiven ks r ↔ ∃ t, ts.get? r.name = some t ∧ t.elementClass = r.elementClass ∧
      t.address = some r.address ∧ t.layout = none ∧ t.clusterType = some r.clusterType ∧
        t.packedSize = some r.packedSize ∧ t.arraySize = r.arraySize := by
  constructor
  · rintro ⟨hclass, ha, hl, hc, hp, hsize⟩
    obtain ⟨t, ht⟩ := h.named_iff.1 hclass.named
    rw [← h.has_eq hk ht] at hl
    exact ⟨t, ht, (h.elementClass_iff ht).2 hclass, (h.field_iff ht).2 ha, not_not.1 hl,
      (h.field_iff ht).2 hc, (h.field_iff ht).2 hp, (h.arraySize_iff ht).2 hsize⟩
  · rintro ⟨t, ht, hclass, ha, hl, hc, hp, hsize⟩
    have hno : ¬ HasField ks r.name .typeInfo := by
      rw [← h.has_eq hk ht]
      exact not_not.2 hl
    exact ⟨(h.elementClass_iff ht).1 hclass, (h.field_iff ht (f := .resource)).1 ha, hno,
      (h.field_iff ht (f := .type)).1 hc, (h.field_iff ht (f := .packedSize)).1 hp,
      (h.arraySize_iff ht).1 hsize⟩

theorem registersGiven (h : Collected ks ts) (hk : Consistent ks) (hv : ts.AddressesValid)
    {p : List FxpRegister × List ClusterRegister} (hp : ts.registers = .ok p) :
    RegistersGiven ks p := by
  obtain ⟨rs, hrs, rfl⟩ := registers_eq_ok_iff.1 hp
  refine ⟨sorted_filterMap hrs fun c r hr => ?_,
    sorted_filterMap hrs fun c r hr => ?_, fun r => ?_, fun r => ?_, fun n => ?_,
    fun n => ?_⟩
  · rw [CustomRegister.fxp?_eq_some_iff.1 hr, CustomRegister.name]
  · rw [CustomRegister.cluster?_eq_some_iff.1 hr, CustomRegister.name]
  · rw [mem_fxp_iff hv hrs, h.fxpGiven_iff]
  · rw [mem_cluster_iff hv hrs, h.clusterGiven_iff hk]
  · rw [name_mem_fxp_iff hv hrs, h.named_iff, ← exists_and_right]
    refine exists_congr fun t => and_congr_right fun ht => ?_
    rw [← h.has_eq hk ht]
    rfl
  · rw [name_mem_cluster_iff hv hrs, h.named_iff, ← exists_and_right]
    refine exists_congr fun t => and_congr_right fun ht => ?_
    rw [← h.has_eq hk ht]
    exact not_not.symm

theorem succeeds_iff (h : Collected ks ts) (hk : Consistent ks) (hv : ts.AddressesValid)
    (he : (n, t) ∈ ts.entries) :
    Succeeds (fun e : String × CustomType => e.2.register e.1) (n, t) ↔
      Field.Sufficient (HasField ks n) := by
  have ht := SortedMap.get?_eq_some_iff.2 he
  rw [CustomType.succeeds_register_iff (hv n t ht), h.has_eq hk ht]

theorem registers_ok_iff (h : Collected ks ts) (hk : Consistent ks) (hv : ts.AddressesValid) :
    (∃ p, ts.registers = .ok p) ↔ ∀ n, Named ks n → Field.Sufficient (HasField ks n) := by
  constructor
  · rintro ⟨p, hp⟩ n hn
    obtain ⟨rs, hrs, -⟩ := registers_eq_ok_iff.1 hp
    obtain ⟨t, ht⟩ := h.named_iff.1 hn
    obtain ⟨r, -, hreg⟩ := exists_of_madeUp hrs ht
    rw [← h.has_eq hk ht]
    exact CustomType.sufficient_of_register hreg
  · intro hall
    cases hp : ts.registers with
    | ok p => exact ⟨p, rfl⟩
    | error e =>
      obtain ⟨before, ⟨n, t⟩, hfirst, -⟩ := registers_eq_error_iff.1 hp
      have hn := h.named_iff.2 ⟨t, SortedMap.get?_eq_some_iff.2 hfirst.mem⟩
      exact absurd ((h.succeeds_iff hk hv hfirst.mem).2 (hall n hn)) hfirst.here

theorem smallest_of_error (h : Collected ks ts) (hk : Consistent ks) (hv : ts.AddressesValid)
    {e : CustomTypeError} (he : ts.registers = .error e) :
    ∃ n, Named ks n ∧ Field.Lacks (HasField ks n) n e ∧
      ∀ m, m < n → Named ks m → Field.Sufficient (HasField ks m) := by
  obtain ⟨before, ⟨n, t⟩, hfirst, hreg⟩ := registers_eq_error_iff.1 he
  have ht := SortedMap.get?_eq_some_iff.2 hfirst.mem
  refine ⟨n, h.named_iff.2 ⟨t, ht⟩, ?_, fun m hlt hm => ?_⟩
  · rw [← h.has_eq hk ht]
    exact CustomType.lacks_of_register (hv n t ht) hreg
  · obtain ⟨t', ht'⟩ := h.named_iff.1 hm
    have hmem := SortedMap.get?_eq_some_iff.1 ht'
    exact (h.succeeds_iff hk hv hmem).1 (succeeds_of_lt hfirst hmem hlt)

/-- The smallest name that makes up no register decides the error. -/
theorem registers_error_iff (h : Collected ks ts) (hk : Consistent ks) (hv : ts.AddressesValid)
    {e : CustomTypeError} :
    ts.registers = .error e ↔ ∃ n, Named ks n ∧ Field.Lacks (HasField ks n) n e ∧
      ∀ m, m < n → Named ks m → Field.Sufficient (HasField ks m) := by
  refine ⟨h.smallest_of_error hk hv, ?_⟩
  rintro ⟨n, hn, hlacks, hsmaller⟩
  have hnot : ¬ Field.Sufficient (HasField ks n) := fun hs => Field.sufficient_iff.1 hs e hlacks
  cases hp : ts.registers with
  | ok p => exact absurd ((h.registers_ok_iff hk hv).1 ⟨p, hp⟩ n hn) hnot
  | error e' =>
    obtain ⟨n', hn', hlacks', hsmaller'⟩ := h.smallest_of_error hk hv hp
    have hnot' : ¬ Field.Sufficient (HasField ks n') := fun hs => Field.sufficient_iff.1 hs e' hlacks'
    -- of two smallest names the smaller one would be complete
    obtain rfl : n = n' := by
      rcases TotalOrder.trichotomy n n' with hlt | heq | hlt
      · exact absurd (hsmaller' n hlt hn) hnot
      · exact heq
      · exact absurd (hsmaller n' hlt hn') hnot'
    rw [hlacks.unique hlacks']

end Collected

/-- Declarations are accepted exactly if their constants fit together. The registers that they make
up are then given by the constants, unless the constants of an element lack something. -/
theorem registers_exact (interface : String) (ds : List Declaration) :
    let ks := customConstants (interfaceStem interface) ds
    let p := customTypeProgress (interfaceStem interface) .empty ds
    (p.fault = none ↔ Consistent ks) ∧
      (p.fault = none → (∀ (n : String) (a : Int), Given ks n .resource a → 0 ≤ a) →
        ((∃ rs, p.state.registers = .ok rs) ↔ ∀ n, Named ks n → Field.Sufficient (HasField ks n)) ∧
        (∀ rs, p.state.registers = .ok rs → RegistersGiven ks rs) ∧
        ∀ e, p.state.registers = .error e ↔ ∃ n, Named ks n ∧ Field.Lacks (HasField ks n) n e ∧
          ∀ m, m < n → Named ks m → Field.Sufficient (HasField ks m)) := by
  refine ⟨progress_fault_eq_none_iff, fun hok ha => ?_⟩
  have hk := progress_fault_eq_none_iff.1 hok
  have h := collected_of_fault_eq_none hok
  have hv := h.addressesValid ha
  exact ⟨h.registers_ok_iff hk hv, fun _ => h.registersGiven hk hv,
    fun _ => h.registers_error_iff hk hv⟩

theorem registers_exact_sum :
    let ks := customConstants (interfaceStem "M") sumConstants
    let p := customTypeProgress (interfaceStem "M") .empty sumConstants
    p.fault = none ∧ Consistent ks ∧ (∀ (n : String) (a : Int), Given ks n .resource a → 0 ≤ a) ∧
      (∀ n, Named ks n → Field.Sufficient (HasField ks n)) ∧
      ∃ rs, p.state.registers = .ok rs ∧ RegistersGiven ks rs ∧
        rs.1.map (·.name) = ["Sum"] ∧ rs.2 = [] := by
  have hchecked : (customTypeProgress (interfaceStem "M") .empty sumConstants).fault = none ∧
      (customTypeProgress (interfaceStem "M") .empty sumConstants).state.registers.toOption.any
        (fun rs => rs.1.map (·.name) = ["Sum"] ∧ rs.2 = []) = true := by
    decide +kernel
  have hvalue : ∀ k ∈ customConstants (interfaceStem "M") sumConstants,
      (integerOf k.init).toOption.all (0 ≤ ·) = true := by
    decide +kernel
  have haddress : ∀ (n : String) (a : Int),
      Given (customConstants (interfaceStem "M") sumConstants) n .resource a → 0 ≤ a := by
    rintro n a ⟨k, hk, -, hread⟩
    have hint := hvalue k hk
    rw [mapError_eq_ok_iff.1 hread] at hint
    exact of_decide_eq_true hint
  have hexact := registers_exact "M" sumConstants
  obtain ⟨hok, hnames⟩ := hchecked
  obtain ⟨hiff, hgiven, -⟩ := hexact.2 hok haddress
  cases hrs : (customTypeProgress (interfaceStem "M") .empty sumConstants).state.registers with
  | error e =>
    rw [hrs] at hnames
    cases hnames
  | ok rs =>
    rw [hrs] at hnames
    obtain ⟨hfxp, hcluster⟩ := of_decide_eq_true hnames
    exact ⟨hok, hexact.1.1 hok, haddress, hiff.1 ⟨rs, hrs⟩, rs, hrs, hgiven rs hrs, hfxp, hcluster⟩

end CustomTypes

end FpgaInterface
