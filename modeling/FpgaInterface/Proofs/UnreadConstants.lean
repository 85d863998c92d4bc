import FpgaInterface.Proofs.CustomRegisters

/-!
# Constants of fields that are not read

A constant of a field that is not read is reported as ignored. It makes its element known all the
same, under a class.

* `IsUnread` : a constant with an initialiser, of a field that is not read;
* `IsPassedOver` : a declaration among others changes neither whether they are accepted nor the
  registers that they make up;
* `registers_eq_error_iff_smallest` : the smallest name that makes up no register decides the error;
* `registers_insert_eq_iff` : an element without fields changes the registers unless one before it
  makes up none;
* `IsUnread.fault_eq_none_iff`, `IsUnread.state_eq` : what one constant more does;
* `sameOutcome_append` : what stands before a difference hides it only by a refusal;
* `passedOver_iff` : which constants of fields that are not read are passed over.
-/

namespace FpgaInterface

namespace CustomTypes

/-- A declaration of a constant that has an initialiser and a field that is not read. -/
structure IsUnread (stem : String) (d : Declaration) (k : CustomConstant) : Prop where
  constant : d.customConstant? stem = some k
  init : d.init ≠ none
  field : k.field? = none

/-- The declaration `d` between others changes neither whether they are accepted nor the registers
that they make up. -/
def IsPassedOver (stem : String) (before : List Declaration) (d : Declaration)
    (after : List Declaration) : Prop :=
  let p := customTypeProgress stem .empty (before ++ after)
  let p' := customTypeProgress stem .empty (before ++ d :: after)
  (p.fault = none ↔ p'.fault = none) ∧
    (p.fault = none → p.state.registers = p'.state.registers)

/-! ## The registers with one more element -/

section Registers
variable {ts : CustomTypes} {n : String} {t : CustomType} {e e' : CustomTypeError}

/-- The element `n` is the one of the smallest name that makes up no register. -/
structure SmallestFailing (ts : CustomTypes) (n : String) (t : CustomType) (e : CustomTypeError) :
    Prop where
  known : ts.get? n = some t
  fails : t.register n = .error e
  smallest : ∀ m u, ts.get? m = some u → m < n → ∃ r, u.register m = .ok r

theorem SmallestFailing.unique {m : String} {u : CustomType} (h : ts.SmallestFailing n t e)
    (h' : ts.SmallestFailing m u e') : n = m ∧ e = e' := by
  have hle : ¬ n < m := by
    intro hlt
    obtain ⟨r, hr⟩ := h'.smallest n t h.known hlt
    cases h.fails.symm.trans hr
  have hge : ¬ m < n := by
    intro hlt
    obtain ⟨r, hr⟩ := h.smallest m u h'.known hlt
    cases h'.fails.symm.trans hr
  obtain rfl : n = m := by
    rcases TotalOrder.trichotomy n m with hlt | heq | hlt
    · exact absurd hlt hle
    · exact heq
    · exact absurd hlt hge
  obtain rfl : t = u := Option.some.inj (h.known.symm.trans h'.known)
  exact ⟨rfl, Except.error.inj (h.fails.symm.trans h'.fails)⟩

/-- The smallest name that makes up no register decides the error. -/
theorem registers_eq_error_iff_smallest :
    ts.registers = .error e ↔ ∃ n t, ts.SmallestFailing n t e := by
  have hfirst : ∀ {e}, ts.registers = .error e → ∃ n t, ts.SmallestFailing n t e := by
    intro e h
    obtain ⟨before, ⟨n, t⟩, hbefore, hfails⟩ := registers_eq_error_iff.1 h
    refine ⟨n, t, SortedMap.get?_eq_some_iff.2 hbefore.mem, hfails, fun m u hu hlt => ?_⟩
    exact succeeds_of_lt hbefore (SortedMap.get?_eq_some_iff.1 hu) hlt
  refine ⟨hfirst, ?_⟩
  rintro ⟨n, t, h⟩
  cases hr : ts.registers with
  | ok p =>
    obtain ⟨rs, hrs, -⟩ := registers_eq_ok_iff.1 hr
    obtain ⟨r, -, hreg⟩ := exists_of_madeUp hrs h.known
    cases h.fails.symm.trans hreg
  | error e' =>
    obtain ⟨m, u, h'⟩ := hfirst hr
    rw [(h.unique h').2]

theorem exists_smallestFailing (ht : ts.get? n = some t) (he : t.register n = .error e) :
    ∃ e', ts.registers = .error e' := by
  cases hr : ts.registers with
  | ok p =>
    obtain ⟨rs, hrs, -⟩ := registers_eq_ok_iff.1 hr
    obtain ⟨r, -, hreg⟩ := exists_of_madeUp hrs ht
    cases he.symm.trans hreg
  | error e' => exact ⟨e', rfl⟩

theorem eq_of_noAddress {m : String} (h : t.register m = .error (.noAddress n)) :
    m = n := by
  have ho := t.register_outcome m
  rw [h] at ho
  cases ho with
  | lacks hl =>
    cases hl
    rfl

/-- A smaller element of the map fails. -/
def FailsBelow (ts : CustomTypes) (n : String) : Prop :=
  ∃ m u e, m < n ∧ ts.get? m = some u ∧ u.register m = .error e

/-- A new element without an address decides the error unless one before it fails. -/
theorem registers_insert_of_not_failsBelow (ht : t.register n = .error (.noAddress n))
    (hbelow : ¬ ts.FailsBelow n) : registers (ts.insert n t) = .error (.noAddress n) := by
  refine registers_eq_error_iff_smallest.2 ⟨n, t, ?_, ht, fun m u hu hlt => ?_⟩
  · rw [SortedMap.get?_insert, if_pos rfl]
  · have hne : m ≠ n := by
      rintro rfl
      exact TotalOrder.irrefl _ hlt
    rw [SortedMap.get?_insert, if_neg hne] at hu
    cases hreg : u.register m with
    | ok r => exact ⟨r, rfl⟩
    | error e => exact absurd ⟨m, u, e, hlt, hu, hreg⟩ hbelow

theorem registers_insert_eq_iff (hn : ts.get? n = none)
    (ht : t.register n = .error (.noAddress n)) :
    registers (ts.insert n t) = ts.registers ↔ ts.FailsBelow n := by
  constructor
  · intro heq
    by_contra hbelow
    rw [registers_insert_of_not_failsBelow ht hbelow] at heq
    obtain ⟨m, u, h⟩ := registers_eq_error_iff_smallest.1 heq.symm
    obtain rfl := eq_of_noAddress h.fails
    cases hn.symm.trans h.known
  · rintro ⟨m₀, u₀, e₀, hlt₀, hu₀, he₀⟩
    obtain ⟨e, he⟩ := exists_smallestFailing hu₀ he₀
    obtain ⟨m, u, h⟩ := registers_eq_error_iff_smallest.1 he
    have hlt : m < n := by
      rcases TotalOrder.trichotomy m₀ m with hlt | rfl | hlt
      · obtain ⟨r, hr⟩ := h.smallest m₀ u₀ hu₀ hlt
        cases he₀.symm.trans hr
      · exact hlt₀
      · exact TotalOrder.trans hlt hlt₀
    -- below the new element nothing is new, so the same element is the smallest that fails
    have hold : ∀ m', m' < n → (ts.insert n t).get? m' = ts.get? m' := by
      intro m' hlt'
      rw [SortedMap.get?_insert, if_neg]
      rintro rfl
      exact TotalOrder.irrefl _ hlt'
    have h' : SmallestFailing (ts.insert n t) m u e := by
      refine ⟨(hold m hlt).trans h.known, h.fails, fun m' u' hu' hlt' => ?_⟩
      rw [hold m' (TotalOrder.trans hlt' hlt)] at hu'
      exact h.smallest m' u' hu' hlt'
    rw [he]
    exact registers_eq_error_iff_smallest.2 ⟨m, u, h'⟩

end Registers

/-! ## One constant more -/

section Constants
variable {stem : String} {d : Declaration} {k : CustomConstant} {before after : List Declaration}
  {ts : CustomTypes}

theorem IsUnread.init_eq (h : IsUnread stem d k) : k.init = d.init := by
  obtain ⟨p, -, rfl⟩ := Option.map_eq_some_iff.1 h.constant
  rfl

theorem customConstants_append (ds es : List Declaration) :
    customConstants stem (ds ++ es) = customConstants stem ds ++ customConstants stem es :=
  List.filterMap_append

theorem customConstants_insert (h : d.customConstant? stem = some k)
    (before after : List Declaration) :
    (customConstants stem (before ++ d :: after)).Perm
      (customConstants stem (before ++ after) ++ [k]) := by
  rw [customConstants_append, customConstants_cons, h, customConstants_append, Option.toList_some]
  rw [List.append_assoc]
  exact List.perm_append_comm.append_left _

/-- A constant of a field that is not read fits if its element has no other class. -/
theorem IsUnread.accepts_iff (h : IsUnread stem d k) :
    ts.Accepts k ↔ ∀ c, ts.class? k.parts.name = some c → c = k.parts.elementClass := by
  constructor
  · exact fun ha => ha.same_class
  · intro hclass
    refine ⟨h.init_eq ▸ h.init, hclass, fun f hf => ?_⟩
    rw [h.field] at hf
    cases hf

theorem insert_of_get? {n : String} {t : CustomType} (h : ts.get? n = some t) :
    ts.insert n t = ts := by
  refine SortedMap.ext_get? fun m => ?_
  rw [SortedMap.get?_insert]
  split
  · next hm => rw [hm, h]
  · rfl

/-- Making an element known changes the registers unless it is known already or one before it makes
up none. -/
theorem registers_insert_fieldsFor_iff (ts : CustomTypes) (c : ConstantName) :
    registers (SortedMap.insert ts c.name (ts.fieldsFor c)) = ts.registers ↔
      (∃ t, ts.get? c.name = some t) ∨ ts.FailsBelow c.name := by
  unfold fieldsFor
  cases ht : ts.get? c.name with
  | some t =>
    rw [Option.getD_some, insert_of_get? ht]
    exact iff_of_true rfl (.inl ⟨t, rfl⟩)
  | none =>
    rw [Option.getD_none, registers_insert_eq_iff ht rfl]
    refine ⟨.inr, ?_⟩
    rintro (⟨t, h⟩ | h)
    · cases h
    · exact h

/-- With the constant between them the declarations are accepted if they are without it, and if its
element has no other class. -/
theorem IsUnread.fault_eq_none_iff (h : IsUnread stem d k) (before after : List Declaration) :
    (customTypeProgress stem .empty (before ++ d :: after)).fault = none ↔
      (customTypeProgress stem .empty (before ++ after)).fault = none ∧
        ∀ c, GivenClass (customConstants stem (before ++ after)) k.parts.name c →
          c = k.parts.elementClass := by
  have hperm := customConstants_insert h.constant before after
  rw [progress_fault_eq_none_iff, progress_fault_eq_none_iff]
  constructor
  · intro hc
    have hall := hc.perm hperm
    refine ⟨hall.sublist (List.sublist_append_left ..), ?_⟩
    rintro _ ⟨l, hl, hname, rfl⟩
    exact hall.one_class l (List.mem_append_left _ hl) k (by simp) hname
  · rintro ⟨hc, hclass⟩
    have hcollected := collected_of_fault_eq_none (progress_fault_eq_none_iff.2 hc)
    have ha := h.accepts_iff.2 fun c hk => hclass c ((hcollected.class_iff _ c).1 hk)
    exact ((hcollected.consistent_append_iff hc).2 ha).perm hperm.symm

/-- An element that is known already stays as it is. An unknown one becomes known. -/
theorem IsUnread.state_eq (h : IsUnread stem d k)
    (hok' : (customTypeProgress stem .empty (before ++ d :: after)).fault = none) :
    (customTypeProgress stem .empty (before ++ d :: after)).state =
      (let ts := (customTypeProgress stem .empty (before ++ after)).state
       ts.insert k.parts.name (ts.fieldsFor k.parts)) := by
  have hperm := customConstants_insert h.constant before after
  obtain ⟨hok, hclass⟩ := (h.fault_eq_none_iff before after).1 hok'
  have hcollected := collected_of_fault_eq_none hok
  -- what is collected does not depend on the order, so the constant may as well come last
  have ha := h.accepts_iff.2 fun c hk => hclass c ((hcollected.class_iff _ c).1 hk)
  have hextends := extends_fieldsFor (elementClass_fieldsFor.2 ha.same_class) h.field
  have hnew := hcollected.append ha hextends
  exact ((collected_of_fault_eq_none hok').perm hperm).unique hnew

theorem IsUnread.isPassedOver_iff (h : IsUnread stem d k) :
    IsPassedOver stem before d after ↔
      ((customTypeProgress stem .empty (before ++ after)).fault = none →
        (∀ c, GivenClass (customConstants stem (before ++ after)) k.parts.name c →
            c = k.parts.elementClass) ∧
          (Named (customConstants stem (before ++ after)) k.parts.name ∨
            FailsBelow (customTypeProgress stem .empty (before ++ after)).state k.parts.name)) := by
  have hfault := h.fault_eq_none_iff before after
  by_cases hok : (customTypeProgress stem .empty (before ++ after)).fault = none
  swap
  · have hrefused : ¬ (customTypeProgress stem .empty (before ++ d :: after)).fault = none :=
      fun hok' => hok (hfault.1 hok').1
    exact iff_of_true ⟨iff_of_false hok hrefused, fun h' => absurd h' hok⟩
      fun h' => absurd h' hok
  by_cases hclass : ∀ c, GivenClass (customConstants stem (before ++ after)) k.parts.name c →
      c = k.parts.elementClass
  swap
  · refine iff_of_false (fun hpass => ?_) fun hcond => hclass (hcond hok).1
    exact hclass (hfault.1 (hpass.1.1 hok)).2
  have hok' := hfault.2 ⟨hok, hclass⟩
  have hregisters := registers_insert_fieldsFor_iff
    (customTypeProgress stem .empty (before ++ after)).state k.parts
  rw [← h.state_eq hok', ← (collected_of_fault_eq_none hok).named_iff] at hregisters
  constructor
  · intro hpass _
    exact ⟨hclass, hregisters.1 (hpass.2 hok).symm⟩
  · intro hcond
    exact ⟨iff_of_true hok hok', fun _ => (hregisters.2 (hcond hok).2).symm⟩

/-- A constant of an element that is not known otherwise takes the place of its missing address. -/
theorem IsUnread.registers_of_new (h : IsUnread stem d k)
    (hok' : (customTypeProgress stem .empty (before ++ d :: after)).fault = none)
    (hnew : ¬ Named (customConstants stem (before ++ after)) k.parts.name)
    (hbelow : ¬ FailsBelow (customTypeProgress stem .empty (before ++ after)).state k.parts.name) :
    (customTypeProgress stem .empty (before ++ d :: after)).state.registers =
      .error (.noAddress k.parts.name) := by
  have hcollected := collected_of_fault_eq_none ((h.fault_eq_none_iff before after).1 hok').1
  have hnone :
      (customTypeProgress stem .empty (before ++ after)).state.get? k.parts.name = none := by
    rw [Option.eq_none_iff_forall_ne_some]
    exact fun t ht => hnew (hcollected.named_iff.2 ⟨t, ht⟩)
  rw [h.state_eq hok']
  refine registers_insert_of_not_failsBelow ?_ hbelow
  rw [fieldsFor, hnone]
  rfl

end Constants

/-! ## An element that is known before -/

section Known
variable {stem : String} {d : Declaration} {k : CustomConstant} {ts : CustomTypes}
  {before after es es' : List Declaration}

/-- The same is collected, and the same is refused. -/
def SameOutcome (p p' : Progress CustomTypes CustomTypeError) : Prop :=
  p.state = p'.state ∧ p.fault = p'.fault

/-- What differs after some declarations makes no difference if one of those is refused. -/
theorem sameOutcome_append
    (h : (customTypeProgress stem ts before).fault = none →
      SameOutcome (customTypeProgress stem (customTypeProgress stem ts before).state es)
        (customTypeProgress stem (customTypeProgress stem ts before).state es')) :
    SameOutcome (customTypeProgress stem ts (before ++ es))
      (customTypeProgress stem ts (before ++ es')) := by
  induction before generalizing ts with
  | nil => exact h rfl
  | cons b before ih =>
    simp only [List.cons_append, customTypeProgress] at h ⊢
    generalize ts.read stem b = r at h ⊢
    obtain ⟨ts', fault⟩ := r
    cases fault with
    | none => exact ih h
    | some e => exact ⟨rfl, rfl⟩

theorem IsUnread.read_of_known (h : IsUnread stem d k) {t : CustomType}
    (ht : ts.get? k.parts.name = some t) (hclass : t.elementClass = k.parts.elementClass) :
    ts.read stem d = (ts, none) := by
  obtain ⟨⟨text, c⟩, hname, rfl⟩ := Option.map_eq_some_iff.1 h.constant
  have hinit : ¬ d.init.isNone := by simpa using h.init
  have hfields : ts.fieldsFor c = t := by rw [fieldsFor, ht, Option.getD_some]
  have hfield : Field.ofText? c.field = none := h.field
  simp only [read, hname, if_neg hinit, hfields]
  rw [if_neg (not_not.2 hclass), hfield, insert_of_get? ht]

/-- A constant of an element that is known before it, under its class, changes nothing. -/
theorem IsUnread.sameOutcome (h : IsUnread stem d k)
    (hnamed : Named (customConstants stem before) k.parts.name)
    (hclass : ∀ c, GivenClass (customConstants stem before) k.parts.name c →
      c = k.parts.elementClass) :
    SameOutcome (customTypeProgress stem .empty (before ++ after))
      (customTypeProgress stem .empty (before ++ d :: after)) := by
  refine sameOutcome_append fun hok => ?_
  have hcollected := collected_of_fault_eq_none hok
  obtain ⟨t, ht⟩ := hcollected.named_iff.1 hnamed
  have hread := h.read_of_known ht (hclass _ ((hcollected.elementClass_iff ht).1 rfl))
  simp only [customTypeProgress, hread]
  exact ⟨rfl, rfl⟩

end Known

/-- **Which constants of fields that are not read are passed over.** The visit of accepted
declarations stays accepted if the element has no other class. The registers stay as they are if
the element is known otherwise, or if a smaller one makes up none. A constant of an element that is
known before it changes nothing that is collected or refused at all. -/
theorem passedOver_iff (interface : String) {d : Declaration} {k : CustomConstant}
    (h : IsUnread (interfaceStem interface) d k) (before after : List Declaration) :
    let stem := interfaceStem interface
    let ks := customConstants stem (before ++ after)
    let p := customTypeProgress stem .empty (before ++ after)
    let p' := customTypeProgress stem .empty (before ++ d :: after)
    let OneClass := fun ls => ∀ c, GivenClass ls k.parts.name c → c = k.parts.elementClass
    (IsPassedOver stem before d after ↔
        (p.fault = none →
          OneClass ks ∧ (Named ks k.parts.name ∨ p.state.FailsBelow k.parts.name))) ∧
      (p'.fault = none ↔ p.fault = none ∧ OneClass ks) ∧
      (p'.fault = none → ¬ Named ks k.parts.name → ¬ p.state.FailsBelow k.parts.name →
        p'.state.registers = .error (.noAddress k.parts.name)) ∧
      (Named (customConstants stem before) k.parts.name → OneClass (customConstants stem before) →
        SameOutcome p p') :=
  ⟨h.isPassedOver_iff, h.fault_eq_none_iff before after, h.registers_of_new, h.sameOutcome⟩

def rankConstant : Declaration :=
  ⟨some "NiFpga_M_Fxp_Sum_Rank", ["const"], some (.ident "first" none)⟩

theorem isUnread_rankConstant :
    IsUnread (interfaceStem "M") rankConstant ⟨⟨"Fxp", "Sum", "Rank"⟩, rankConstant.init⟩ where
  constant := rfl
  init := nofun
  field := rfl

theorem passedOver_iff_sumConstants :
    IsUnread (interfaceStem "M") rankConstant ⟨⟨"Fxp", "Sum", "Rank"⟩, rankConstant.init⟩ ∧
      Named (customConstants (interfaceStem "M") sumConstants) "Sum" ∧
      IsPassedOver (interfaceStem "M") sumConstants rankConstant [] ∧
      SameOutcome (customTypeProgress (interfaceStem "M") .empty (sumConstants ++ []))
        (customTypeProgress (interfaceStem "M") .empty (sumConstants ++ [rankConstant])) := by
  have hall : ∀ k ∈ customConstants (interfaceStem "M") sumConstants,
      k.parts.name = "Sum" ∧ k.parts.elementClass = "Fxp" := by
    decide +kernel
  have hnamed : Named (customConstants (interfaceStem "M") sumConstants) "Sum" := by
    have hsome : customConstants (interfaceStem "M") sumConstants ≠ [] := by
      rw [← List.length_pos_iff]
      decide +kernel
    obtain ⟨k, hk⟩ := List.exists_mem_of_ne_nil _ hsome
    exact ⟨k, hk, (hall k hk).1⟩
  have hclass : ∀ c, GivenClass (customConstants (interfaceStem "M") sumConstants) "Sum" c →
      c = "Fxp" := by
    rintro c ⟨k, hk, -, rfl⟩
    exact (hall k hk).2
  have hpass := passedOver_iff "M" isUnread_rankConstant sumConstants []
  rw [List.append_nil] at hpass
  obtain ⟨hiff, -, -, hsame⟩ := hpass
  exact ⟨isUnread_rankConstant, hnamed, hiff.2 fun _ => ⟨hclass, .inl hnamed⟩, hsame hnamed hclass⟩

def clusterRank : Declaration := { rankConstant with name := some "NiFpga_M_Cluster_Sum_Rank" }

/-- A constant of an element that nothing else makes known is not passed over, and neither is one
that gives a known element another class. -/
theorem not_isPassedOver_rank :
    (IsUnread (interfaceStem "M") rankConstant ⟨⟨"Fxp", "Sum", "Rank"⟩, rankConstant.init⟩ ∧
        ¬ IsPassedOver (interfaceStem "M") [] rankConstant []) ∧
      IsUnread (interfaceStem "M") clusterRank ⟨⟨"Cluster", "Sum", "Rank"⟩, clusterRank.init⟩ ∧
        ¬ IsPassedOver (interfaceStem "M") sumConstants clusterRank [] := by
  refine ⟨⟨isUnread_rankConstant, fun h => ?_⟩, ⟨rfl, nofun, rfl⟩, fun h => ?_⟩
  · have hsame := congrArg Except.isOk (h.2 rfl)
    revert hsame
    decide +kernel
  · have hok :
        (customTypeProgress (interfaceStem "M") .empty (sumConstants ++ [])).fault = none := by
      decide +kernel
    have hok' := h.1.1 hok
    revert hok'
    decide +kernel

end CustomTypes

end FpgaInterface
