import FpgaInterface.Proofs.Effect

/-!
# Enumerators in another order

Another order of the enumerators in their bodies keeps what a syntax tree says of an interface, up to
the order.

* `Rearranged` : enumerators stand in another order in some bodies, at any depth;
* `Alike` : the texts and effects of two trees are the same up to their order, also where the trees
  stand as a value or as the type of a definition;
* `Rearranged.alike` : rearranged trees are alike.
-/

namespace FpgaInterface

/-! ## Another order -/

/-- The enumerators of some bodies stand in another order, at any depth. -/
inductive Rearranged : Node → Node → Prop
  | refl (n : Node) : Rearranged n n
  | trans {n n' n'' : Node} : Rearranged n n' → Rearranged n' n'' → Rearranged n n''
  | items (tag : Option String) {items items' : List EnumItem} :
    items.Perm items' → Rearranged (.enum tag (some items)) (.enum tag (some items'))
  | value (tag : Option String) (before after : List EnumItem) (name : String)
    (pos : Option Position) {v v' : Node} : Rearranged v v' →
    Rearranged (.enum tag (some (before ++ .enumerator (.mk name (some v) pos) :: after)))
      (.enum tag (some (before ++ .enumerator (.mk name (some v') pos) :: after)))
  | unary (op : String) (pos : Option Position) {n n' : Node} :
    Rearranged n n' → Rearranged (.unary op n pos) (.unary op n' pos)
  | initList (before after : List Node) (pos : Option Position) {n n' : Node} : Rearranged n n' →
    Rearranged (.initList (before ++ n :: after) pos) (.initList (before ++ n' :: after) pos)
  | declType (name : Option String) (quals : List String) (init bits : Option Node)
    {n n' : Node} : Rearranged n n' →
    Rearranged (.decl name quals n init bits) (.decl name quals n' init bits)
  | declInit (name : Option String) (quals : List String) (type : Node) (bits : Option Node)
    {n n' : Node} : Rearranged n n' →
    Rearranged (.decl name quals type (some n) bits) (.decl name quals type (some n') bits)
  | declBits (name : Option String) (quals : List String) (type : Node) (init : Option Node)
    {n n' : Node} : Rearranged n n' →
    Rearranged (.decl name quals type init (some n)) (.decl name quals type init (some n'))
  | typedef (name : String) {n n' : Node} :
    Rearranged n n' → Rearranged (.typedef name n) (.typedef name n')
  | branch (shape : Shape) (before after : List Node) (pos : Option Position) {n n' : Node} :
    Rearranged n n' →
    Rearranged (.branch shape (before ++ n :: after) pos) (.branch shape (before ++ n' :: after) pos)

/-- Trees say the same of every interface, in any order: as a part, as a value and as a type. -/
structure Alike (n n' : Node) : Prop where
  texts : ∀ name, (n.texts name).Perm (n'.texts name)
  effects : ∀ interface, (n.effects interface).Perm (n'.effects interface)
  literal : n.literal? = n'.literal?
  itemEffects : ∀ kind datatype, (n.itemEffects kind datatype).Perm (n'.itemEffects kind datatype)

namespace Alike

variable {n n' n'' : Node}

theorem refl (n : Node) : Alike n n := ⟨fun _ => .rfl, fun _ => .rfl, rfl, fun _ _ => .rfl⟩

theorem trans (h : Alike n n') (h' : Alike n' n'') : Alike n n'' where
  texts name := (h.texts name).trans (h'.texts name)
  effects interface := (h.effects interface).trans (h'.effects interface)
  literal := h.literal.trans h'.literal
  itemEffects kind datatype := (h.itemEffects kind datatype).trans (h'.itemEffects kind datatype)

theorem flatMap_perm {α β : Type} {f : α → List β} {a a' : α} (before after : List α)
    (h : (f a).Perm (f a')) :
    ((before ++ a :: after).flatMap f).Perm ((before ++ a' :: after).flatMap f) := by
  simp only [List.flatMap_append, List.flatMap_cons]
  exact (h.append_right _).append_left _

/-- The word of an enumerator depends on the literal only. -/
theorem word?_eq (h : n.literal? = n'.literal?) (kind : Kind) (datatype name : String)
    (pos : Option Position) : Reading.word? ⟨kind, datatype, .mk name (some n) pos⟩ =
      Reading.word? ⟨kind, datatype, .mk name (some n') pos⟩ := by
  have hvalue : ∀ m : Node, Reading.value ⟨kind, datatype, .mk name (some m) pos⟩ =
      integerOf (some m) := fun m => rfl
  unfold Reading.word?
  rw [hvalue, hvalue, toOption_integerOf, toOption_integerOf, h]

theorem items (tag : Option String) {items items' : List EnumItem} (h : items.Perm items') :
    Alike (.enum tag (some items)) (.enum tag (some items')) where
  texts name := by
    rw [texts_enum, texts_enum]
    exact h.flatMap_right _
  effects interface := by
    rw [effects_enum, effects_enum]
    exact h.flatMap_right _
  literal := rfl
  itemEffects kind datatype := h.filterMap _

theorem value (tag : Option String) (before after : List EnumItem) (name : String)
    (pos : Option Position) (h : Alike n n') :
    Alike (.enum tag (some (before ++ .enumerator (.mk name (some n) pos) :: after)))
      (.enum tag (some (before ++ .enumerator (.mk name (some n') pos) :: after))) where
  texts name := by
    rw [texts_enum, texts_enum]
    exact flatMap_perm before after (h.texts name)
  effects interface := by
    rw [effects_enum, effects_enum]
    exact flatMap_perm before after (h.effects interface)
  literal := rfl
  itemEffects kind datatype := by
    have heffect : (AddressStep.ofItem kind datatype (.enumerator (.mk name (some n) pos))).effect? =
        (AddressStep.ofItem kind datatype (.enumerator (.mk name (some n') pos))).effect? := by
      show some (Reading.effect _) = some (Reading.effect _)
      unfold Reading.effect
      rw [word?_eq h.literal]
      rfl
    unfold Node.itemEffects
    simp only [Node.items, List.filterMap_append, List.filterMap_cons, heffect]
    exact .rfl

theorem unary (op : String) (pos : Option Position) (h : Alike n n') :
    Alike (.unary op n pos) (.unary op n' pos) where
  texts name := by
    rw [texts_unary, texts_unary]
    exact h.texts name
  effects interface := by
    rw [effects_unary, effects_unary]
    exact h.effects interface
  literal := rfl
  itemEffects kind datatype := .rfl

theorem initList (before after : List Node) (pos : Option Position) (h : Alike n n') :
    Alike (.initList (before ++ n :: after) pos) (.initList (before ++ n' :: after) pos) where
  texts name := by
    rw [texts_initList, texts_initList]
    exact flatMap_perm before after (h.texts name)
  effects interface := by
    rw [effects_initList, effects_initList]
    exact flatMap_perm before after (h.effects interface)
  literal := rfl
  itemEffects kind datatype := .rfl

theorem branch (shape : Shape) (before after : List Node) (pos : Option Position)
    (h : Alike n n') : Alike (.branch shape (before ++ n :: after) pos)
      (.branch shape (before ++ n' :: after) pos) where
  texts name := by
    rw [texts_branch, texts_branch]
    exact flatMap_perm before after (h.texts name)
  effects interface := by
    rw [effects_branch, effects_branch]
    exact flatMap_perm before after (h.effects interface)
  literal := rfl
  itemEffects kind datatype := .rfl

theorem declType (name : Option String) (quals : List String) (init bits : Option Node)
    (h : Alike n n') :
    Alike (.decl name quals n init bits) (.decl name quals n' init bits) where
  texts name := by rw [texts_decl, texts_decl]
  effects interface := by
    rw [effects_decl, effects_decl]
    exact ((h.effects interface).append_right _).append_right _
  literal := rfl
  itemEffects kind datatype := .rfl

theorem declInit (name : Option String) (quals : List String) (type : Node) (bits : Option Node)
    (h : Alike n n') :
    Alike (.decl name quals type (some n) bits) (.decl name quals type (some n') bits) where
  texts name := by
    rw [texts_decl, texts_decl, textFor?_eq, textFor?_eq, Option.bind_some, Option.bind_some,
      h.literal]
  effects interface := by
    rw [effects_decl, effects_decl]
    exact ((h.effects interface).append_left _).append_right _
  literal := rfl
  itemEffects kind datatype := .rfl

theorem declBits (name : Option String) (quals : List String) (type : Node) (init : Option Node)
    (h : Alike n n') :
    Alike (.decl name quals type init (some n)) (.decl name quals type init (some n')) where
  texts name := by rw [texts_decl, texts_decl]
  effects interface := by
    rw [effects_decl, effects_decl]
    exact (h.effects interface).append_left _
  literal := rfl
  itemEffects kind datatype := .rfl

theorem typedef (name : String) (h : Alike n n') : Alike (.typedef name n) (.typedef name n') where
  texts sought := by
    rw [texts_typedef, texts_typedef]
    exact h.texts sought
  effects interface := by
    rw [effects_typedef, effects_typedef]
    cases (afterStem? (interfaceStem interface) name).bind decodeTypeName? with
    | none => exact .rfl
    | some g => exact h.itemEffects g.1 g.2
  literal := rfl
  itemEffects kind datatype := .rfl

end Alike

/-- **Another order of enumerators keeps what a tree says.** -/
theorem Rearranged.alike {n n' : Node} (h : Rearranged n n') : Alike n n' := by
  -- On the place of the body: an enumerator is read through its value, a definition through its type.
  induction h with
  | refl n => exact .refl n
  | trans _ _ ih ih' => exact ih.trans ih'
  | items tag hperm => exact .items tag hperm
  | value tag before after name pos _ ih => exact ih.value tag before after name pos
  | unary op pos _ ih => exact ih.unary op pos
  | initList before after pos _ ih => exact ih.initList before after pos
  | declType name quals init bits _ ih => exact ih.declType name quals init bits
  | declInit name quals type bits _ ih => exact ih.declInit name quals type bits
  | declBits name quals type init _ ih => exact ih.declBits name quals type init
  | typedef name _ ih => exact ih.typedef name
  | branch shape before after pos _ ih => exact ih.branch shape before after pos

end FpgaInterface
