import FpgaInterface.Proofs.ElementCount
import FpgaInterface.Proofs.VendorHeader

/-!
# What a syntax tree says of an interface

The texts of its declarations, and the effects of its enumerators on the address set.

* `Node.texts`, `Node.effects` : the texts that a tree gives a name, and what each enumerator of an
  interface does to the address set; their equations, one for each kind of node;
* `mem_effects_iff`, `passes_iff_effects` : what is stored, and whether all is;
* `get?_iff_mem_effects` : if no element is declared twice, the effects determine the set.
-/

namespace FpgaInterface

variable {interface : String} {tree : Node} {l : Location} {w : UInt32} {r : Reading}

/-! ## Literals -/

def Node.literal? : Node → Option (String × String)
  | constant type spelling _ => some (type, spelling)
  | _ => none

theorem toOption_integerOf (n : Node) :
    (integerOf (some n)).toOption = n.literal?.bind fun c =>
      if nonIntegerTypes.contains c.1 then none else integerLiteral? c.2 := by
  cases n with
  | constant type spelling pos =>
    simp only [integerOf, Node.literal?, Option.bind_some]
    split
    · rfl
    · unfold parseInteger
      cases integerLiteral? spelling <;> rfl
  | ident | unary | initList | enum | decl | typedef | branch => rfl

theorem textFor?_eq (name : String) (declared : Option String) (quals : List String)
    (init : Option Node) : textFor? name ⟨declared, quals, init⟩ =
      (init.bind Node.literal?).bind fun c =>
        if declared = some name ∧ c.1 = "string" then some (unquote c.2) else none := by
  unfold textFor?
  rcases init with - | n
  · simp [isText]
  · cases n with
    | constant type spelling pos =>
      by_cases hname : declared = some name <;> by_cases htype : type = "string" <;>
        simp [isText, textOf, Node.literal?, hname, htype, Except.toOption]
    | ident | unary | initList | enum | decl | typedef | branch => simp [isText, Node.literal?]

theorem textFor?_isSome (name : String) (d : Declaration) :
    (textFor? name d).isSome = (d.name = some name && isText d.init) := by
  obtain ⟨declared, quals, init⟩ := d
  rw [textFor?_eq]
  rcases init with - | n
  · simp [isText]
  · cases n with
    | constant type spelling pos =>
      by_cases hname : declared = some name <;> by_cases htype : type = "string" <;>
        simp [isText, Node.literal?, hname, htype]
    | ident | unary | initList | enum | decl | typedef | branch => simp [isText, Node.literal?]

/-! ## Effects -/

/-- What a step does to an address set. -/
inductive Effect where
  /-- Stores a word. -/
  | store (l : Location) (w : UInt32)
  /-- Fails for want of a word. -/
  | refuse (l : Location)
  /-- Fails at a pragma. -/
  | cut

/-- The word that an enumerator spells. -/
def Reading.word? (r : Reading) : Option UInt32 :=
  r.value.toOption.bind fun v =>
    if 0 ≤ v ∧ v < 0x100000000 then some (UInt32.ofNat v.toNat) else none

def Reading.effect (r : Reading) : Effect :=
  match r.word? with
  | some w => .store r.location w
  | none => .refuse r.location

def AddressStep.effect? : AddressStep → Option Effect
  | skip _ => none
  | read r => some r.effect
  | pragma => some .cut

def Node.texts (name : String) (n : Node) : List String := n.declarations.filterMap (textFor? name)

def Node.effects (interface : String) (n : Node) : List Effect :=
  (headerSteps interface n).filterMap (·.effect?)

def EnumItem.value? : EnumItem → Option Node
  | enumerator e => e.value?
  | pragma => none

def Node.items : Node → List EnumItem
  | enum _ (some items) => items
  | _ => []

/-- The effects of a body under a kind and a datatype. -/
def Node.itemEffects (kind : Kind) (datatype : String) (n : Node) : List Effect :=
  n.items.filterMap fun item => (AddressStep.ofItem kind datatype item).effect?

section Equations
variable (interface name : String)

theorem texts_branch (shape : Shape) (parts : List Node) (pos : Option Position) :
    (Node.branch shape parts pos).texts name = parts.flatMap (Node.texts name) := by
  rw [Node.texts, Node.declarations, declarationsOf_eq_flatMap, List.filterMap_flatMap]
  rfl

theorem effects_branch (shape : Shape) (parts : List Node) (pos : Option Position) :
    (Node.branch shape parts pos).effects interface = parts.flatMap (Node.effects interface) := by
  rw [Node.effects, headerSteps, Node.typedefs, typedefsOf_eq_flatMap, List.flatMap_assoc,
    List.filterMap_flatMap]
  rfl

theorem texts_initList (items : List Node) (pos : Option Position) :
    (Node.initList items pos).texts name = items.flatMap (Node.texts name) :=
  texts_branch name .file items pos

theorem effects_initList (items : List Node) (pos : Option Position) :
    (Node.initList items pos).effects interface = items.flatMap (Node.effects interface) :=
  effects_branch interface .file items pos

theorem texts_unary (op : String) (arg : Node) (pos : Option Position) :
    (Node.unary op arg pos).texts name = arg.texts name := rfl

theorem effects_unary (op : String) (arg : Node) (pos : Option Position) :
    (Node.unary op arg pos).effects interface = arg.effects interface := rfl

theorem enumeratorDeclarations_eq_flatMap (items : List EnumItem) :
    Node.enumeratorDeclarations items =
      items.flatMap fun item => item.value?.elim [] Node.declarations := by
  induction items with
  | nil => rfl
  | cons item rest ih =>
    rw [List.flatMap_cons, ← ih]
    rcases item with ⟨name, - | value, pos⟩ | - <;> rfl

theorem enumeratorTypedefs_eq_flatMap (items : List EnumItem) :
    Node.enumeratorTypedefs items = items.flatMap fun item => item.value?.elim [] Node.typedefs := by
  induction items with
  | nil => rfl
  | cons item rest ih =>
    rw [List.flatMap_cons, ← ih]
    rcases item with ⟨name, - | value, pos⟩ | - <;> rfl

theorem texts_enum (tag : Option String) (items : List EnumItem) :
    (Node.enum tag (some items)).texts name =
      items.flatMap fun item => item.value?.elim [] (Node.texts name) := by
  rw [Node.texts, Node.declarations, enumeratorDeclarations_eq_flatMap, List.filterMap_flatMap]
  congr 1
  funext item
  cases item.value? <;> rfl

theorem effects_enum (tag : Option String) (items : List EnumItem) :
    (Node.enum tag (some items)).effects interface =
      items.flatMap fun item => item.value?.elim [] (Node.effects interface) := by
  rw [Node.effects, headerSteps, Node.typedefs, enumeratorTypedefs_eq_flatMap, List.flatMap_assoc,
    List.filterMap_flatMap]
  congr 1
  funext item
  cases item.value? <;> rfl

theorem texts_typedef (defined : String) (type : Node) :
    (Node.typedef defined type).texts name = type.texts name := rfl

theorem items_eq_enumItems? (t : Typedef) : t.type.items = t.enumItems?.getD [] := by
  obtain ⟨defined, type⟩ := t
  cases type with
  | enum tag body => cases body <;> rfl
  | constant | ident | unary | initList | decl | typedef | branch => rfl

/-- The effects of a type definition are those of its body under the kind and the datatype that its
name stands for. -/
theorem effects_typedef (defined : String) (type : Node) :
    (Node.typedef defined type).effects interface =
      ((afterStem? (interfaceStem interface) defined).bind decodeTypeName?).elim []
        fun g => type.itemEffects g.1 g.2 := by
  have hitems : type.items = (Typedef.enumItems? ⟨defined, type⟩).getD [] :=
    items_eq_enumItems? ⟨defined, type⟩
  rw [Node.effects, headerSteps, Node.typedefs, List.flatMap_singleton]
  unfold Typedef.steps Typedef.use Node.itemEffects
  rw [hitems]
  cases Typedef.enumItems? ⟨defined, type⟩ with
  | none => cases (afterStem? (interfaceStem interface) defined).bind decodeTypeName? <;> rfl
  | some items => cases afterStem? (interfaceStem interface) defined with
    | none => rfl
    | some short => cases hdecode : decodeTypeName? short with
      | none => simp [hdecode, AddressStep.effect?]
      | some g => simp [hdecode, List.filterMap_map]

theorem texts_decl (declared : Option String) (quals : List String) (type : Node)
    (init bits : Option Node) : (Node.decl declared quals type init bits).texts name =
      (textFor? name ⟨declared, quals, init⟩).toList := by
  rw [Node.texts, Node.declarations, List.filterMap_cons, List.filterMap_nil]
  cases textFor? name ⟨declared, quals, init⟩ <;> rfl

theorem effects_decl (declared : Option String) (quals : List String) (type : Node)
    (init bits : Option Node) : (Node.decl declared quals type init bits).effects interface =
      type.effects interface ++ init.elim [] (Node.effects interface) ++
        bits.elim [] (Node.effects interface) := by
  rw [Node.effects, headerSteps, Node.typedefs, List.flatMap_append, List.flatMap_append,
    List.filterMap_append, List.filterMap_append]
  cases init <;> cases bits <;> rfl

end Equations

/-! ## Effects and the set -/

theorem Reading.word?_eq_some_iff : r.word? = some w ↔ r.Spells w := by
  have hword : ∀ v : Int, (if 0 ≤ v ∧ v < 0x100000000 then some (UInt32.ofNat v.toNat) else none) =
      some w ↔ v = w.toNat := by
    intro v
    have hlt := w.toNat_lt
    split
    · next hrange =>
      obtain ⟨w', rfl⟩ := exists_word hrange
      rw [Int.toNat_natCast, UInt32.ofNat_toNat, Option.some.injEq, Nat.cast_inj, UInt32.toNat_inj]
    · next hrange =>
      constructor
      · rintro ⟨⟩
      · rintro rfl
        exact absurd ⟨by omega, by omega⟩ hrange
  unfold Reading.word? Reading.value Reading.Spells
  cases r.enumerator.value? with
  | none => simp [Except.toOption]
  | some n =>
    simp only [toOption_integerOf]
    cases n with
    | constant type spelling pos =>
      by_cases htype : type ∈ nonIntegerTypes <;>
        simp [Node.literal?, htype, Option.bind_eq_some_iff, hword]
    | ident | unary | initList | enum | decl | typedef | branch => simp [Node.literal?]

/-- The element that an effect is about. -/
def Effect.location? : Effect → Option Location
  | store l _ => some l
  | refuse l => some l
  | cut => none

/-- An effect is that of an enumerator with a word. -/
def Effect.IsStore (f : Effect) : Prop := ∃ l w, f = store l w

theorem Reading.effect_eq_store_iff :
    r.effect = .store l w ↔ r.location = l ∧ r.Spells w := by
  rw [← Reading.word?_eq_some_iff]
  unfold Reading.effect
  cases r.word? <;> simp

theorem mem_effects_iff : Effect.store l w ∈ tree.effects interface ↔
    ∃ r ∈ readings interface tree.typedefs, r.location = l ∧ r.Spells w := by
  rw [← filterMap_headerSteps, Node.effects, List.mem_filterMap]
  constructor
  · rintro ⟨x, hx, heffect⟩
    cases x with
    | read r =>
      exact ⟨r, List.mem_filterMap.2 ⟨_, hx, rfl⟩,
        Reading.effect_eq_store_iff.1 (Option.some.inj heffect)⟩
    | skip | pragma => cases heffect
  · rintro ⟨r, hr, hstore⟩
    obtain ⟨x, hx, hread⟩ := List.mem_filterMap.1 hr
    cases x with
    | read r' =>
      cases hread
      exact ⟨_, hx, congrArg some (Reading.effect_eq_store_iff.2 hstore)⟩
    | skip | pragma => cases hread

theorem passes_iff_effects : (∀ x ∈ headerSteps interface tree, x.Passes) ↔
    ∀ f ∈ tree.effects interface, f.IsStore := by
  have hstep : ∀ x : AddressStep, x.Passes ↔ ∀ f, x.effect? = some f → f.IsStore := by
    intro x
    cases x with
    | skip note => exact ⟨nofun, fun _ => trivial⟩
    | read r =>
      constructor
      · rintro ⟨w, hw⟩ f ⟨⟩
        exact ⟨r.location, w, Reading.effect_eq_store_iff.2 ⟨rfl, hw⟩⟩
      · intro h
        obtain ⟨l, w, hw⟩ := h _ rfl
        exact ⟨w, (Reading.effect_eq_store_iff.1 hw).2⟩
    | pragma =>
      refine ⟨False.elim, fun h => ?_⟩
      obtain ⟨l, w, hw⟩ := h _ rfl
      cases hw
  simp only [hstep, Node.effects, List.mem_filterMap]
  constructor
  · rintro h f ⟨x, hx, hf⟩
    exact h x hx f hf
  · intro h x hx f hf
    exact h f ⟨x, hx, hf⟩

theorem filterMap_effects (interface : String) (tree : Node) :
    (tree.effects interface).filterMap Effect.location? =
      (readings interface tree.typedefs).map Reading.location := by
  rw [← filterMap_headerSteps, Node.effects, List.filterMap_filterMap, List.map_filterMap]
  congr 1
  funext x
  cases x with
  | read r =>
    show r.effect.location? = some r.location
    unfold Reading.effect
    cases r.word? <;> rfl
  | skip | pragma => rfl

/-- If no element is declared twice, the set holds what is stored. -/
theorem get?_iff_mem_effects (hok : (addressProgress interface tree.typedefs).fault = none)
    (hnodup : ((readings interface tree.typedefs).map Reading.location).Nodup) :
    (addressProgress interface tree.typedefs).state.get? l = some w ↔
      Effect.store l w ∈ tree.effects interface := by
  have hlast := lastWins_of_fault_eq_none hok
  rw [mem_effects_iff]
  constructor
  · intro hw
    obtain ⟨before, r, after, heq, hl, hspells, -⟩ := hlast.last l w hw
    exact ⟨r, by rw [heq]; simp, hl, hspells⟩
  · rintro ⟨r, hr, rfl, hspells⟩
    obtain ⟨w', hw', hspells'⟩ := hlast.get?_of_nodup hnodup hr
    rw [hw', hspells.unique hspells']

end FpgaInterface
