import FpgaInterface.CustomType.Layout
import FpgaInterface.Proofs.LiteralText
import FpgaInterface.Proofs.Traversal

/-!
# Fixed-point layouts are read item by item

A layout is read from a list of integer literals and of negations of them. Which texts count as
literals of which integers is left open first, since more texts are read than there are literals.

* `IsReadAs`, `SpellsInteger` : a text is read as an integer; it is a literal of an integer;
* `textMisread_iff` : the texts for which one of these is so without the other;
* `LayoutOutcome R` : what is to come of an initialiser if `R` says what the literals are;
* `readLayout_eq_iff` : this is what comes of it, with the texts that are read for the literals;
* `readLayout_literals_iff` : it is so with the literals themselves, up to the first item that is
  misread.
-/

namespace FpgaInterface

/-! ## Literals of an integer -/

section Texts
variable {n : Nat} {ds : List Char} {text : String} {v v' : Int}

/-- Decimal digits of a number, too many of them to be read. -/
def IsLongNumeral (n : Nat) (ds : List Char) : Prop :=
  Text.IsNumeral 10 n ds ∧ ds.head? ≠ some '0' ∧ Text.Numeral.decimalDigitLimit < ds.length

/-- A text is a literal of an integer: digits in one of the four notations, as many as there may be,
and a suffix, with blanks around them. -/
def SpellsInteger (text : String) (v : Int) : Prop :=
  ∃ (n : Nat) (before ds suffix after : List Char), v = n ∧
    text.toList = before ++ (ds ++ suffix ++ after) ∧
    (∀ c ∈ before, Text.isBlank c = true) ∧ (∀ c ∈ after, Text.isBlank c = true) ∧
    (∀ c ∈ suffix, c ∈ ['u', 'U', 'l', 'L']) ∧ (IsLiteralBody n ds ∨ IsLongNumeral n ds)

/-- A text is read as an integer, which its payload spells in the radix that its start marks. -/
def IsReadAs (text : String) (v : Int) : Prop :=
  ∃ radix payload, Marks (literalDigits text.toList) radix payload ∧
    ∃ p : Text.Spelling radix, p.text = payload ∧ p.value = v

/-- A literal has too many digits to be read, or a text is read that is no literal: it has a blank,
a sign, another mark of the radix, an underscore or a digit of another script in its payload. -/
inductive TextMisread (text : String) : Prop
  | long {n : Nat} (numeral : IsLongNumeral n (literalDigits text.toList))
  | loose {radix : Nat} {payload : List Char}
    (marks : Marks (literalDigits text.toList) radix payload)
    (p : Text.Spelling radix) (text_eq : p.text = payload) (notBare : ¬ p.IsBare)

theorem isReadAs_iff : IsReadAs text v ↔ integerLiteral? text = some v := by
  constructor
  · rintro ⟨radix, payload, hmarks, p, hp⟩
    rw [hmarks.integerLiteral?_eq]
    exact Text.Numeral.read?_eq_some_iff.2 ⟨p, hp⟩
  · intro h
    obtain ⟨radix, payload, hmarks⟩ := Marks.exists_payload (literalDigits text.toList)
    rw [hmarks.integerLiteral?_eq] at h
    obtain ⟨p, hp⟩ := Text.Numeral.read?_eq_some_iff.1 h
    exact ⟨radix, payload, hmarks, p, hp⟩

theorem spellsInteger_iff : SpellsInteger text v ↔ ∃ n : Nat, v = n ∧
    (IsLiteralBody n (literalDigits text.toList) ∨
      IsLongNumeral n (literalDigits text.toList)) := by
  constructor
  · rintro ⟨n, before, ds, suffix, after, hv, htext, hbefore, hafter, hsuffix, hds⟩
    have hplain := IsDigitString.isPlain ⟨n, hds⟩
    rw [htext, literalDigits_append hbefore hafter hplain.1 hplain.2 hsuffix]
    exact ⟨n, hv, hds⟩
  · rintro ⟨n, hv, hds⟩
    obtain ⟨before, ds, suffix, after, htext, hbefore, hafter, hsuffix, hstring⟩ :=
      isIntegerText_iff.2 ⟨n, hds⟩
    have hplain := hstring.isPlain
    rw [htext, literalDigits_append hbefore hafter hplain.1 hplain.2 hsuffix] at hds
    exact ⟨n, before, ds, suffix, after, hv, htext, hbefore, hafter, hsuffix, hds⟩

theorem exists_spellsInteger_iff :
    (∃ v, SpellsInteger text v) ↔ IsDigitString (literalDigits text.toList) := by
  simp only [spellsInteger_iff]
  constructor
  · rintro ⟨v, n, -, hds⟩
    exact ⟨n, hds⟩
  · rintro ⟨n, hds⟩
    exact ⟨n, n, rfl, hds⟩

/-- A spelling of digits alone has a value for each of them. -/
theorem Text.Spelling.IsBare.length_values {radix : Nat} {p : Text.Spelling radix} (h : p.IsBare)
    (hr : radix ≤ 16) : p.values.length = p.text.length := by
  have hdigit : ∀ c ∈ p.run, (Text.digit? radix c).isSome := by
    intro c hc
    rw [← h.text_eq] at hc
    obtain ⟨d, hd⟩ := (p.isBare_iff hr).1 h c hc
    rw [hd.digit? hr, Option.isSome_some]
  rw [h.text_eq, ← p.isRun.filterMap]
  exact List.filterMap_length_eq_length.2 hdigit

theorem IsLongNumeral.not_read (h : IsLongNumeral n (literalDigits text.toList)) :
    ¬ ∃ v, IsReadAs text v := by
  obtain ⟨numeral, hhead, hlong⟩ := h
  rintro ⟨v, radix, payload, hmarks, p, hp, -⟩
  obtain ⟨rfl, rfl⟩ := hmarks.unique (.decimal (.inl hhead))
  have hbare : p.IsBare := by
    rw [p.isBare_iff (by decide), hp]
    exact Text.exists_isNumeral_iff.1 ⟨n, numeral⟩
  have hlength := hbare.length_values (by decide)
  have hlimit := p.limit rfl
  rw [hp] at hlength
  omega

/-- What is read of a literal is the integer that it spells. -/
theorem IsReadAs.eq_of_spells (h : IsReadAs text v) (h' : SpellsInteger text v') : v = v' := by
  obtain ⟨n, rfl, hbody | hlong⟩ := spellsInteger_iff.1 h'
  · rw [isReadAs_iff, integerLiteral?_of_body hbody rfl] at h
    exact (Option.some.inj h).symm
  · exact absurd ⟨v, h⟩ hlong.not_read

/-- **The misread texts** are the literals that are not read and the other texts that are. -/
theorem textMisread_iff :
    TextMisread text ↔ ¬ ((∃ v, IsReadAs text v) ↔ ∃ v, SpellsInteger text v) := by
  rw [exists_spellsInteger_iff]
  constructor
  · rintro (⟨hlong⟩ | ⟨hmarks, p, hp, hbare⟩) hiff
    · exact hlong.not_read (hiff.2 ⟨_, .inr hlong⟩)
    · have hdigits := hmarks.isDigitString_iff.1 (hiff.1 ⟨_, _, _, hmarks, p, hp, rfl⟩)
      rw [p.isBare_iff hmarks.radix_le, hp] at hbare
      exact hbare hdigits.2
  · intro hiff
    by_cases hstring : IsDigitString (literalDigits text.toList)
    · have hread : ¬ ∃ v, IsReadAs text v := fun h => hiff (iff_of_true h hstring)
      obtain ⟨n, hbody | hlong⟩ := hstring
      · exact absurd ⟨n, isReadAs_iff.2 (integerLiteral?_of_body hbody rfl)⟩ hread
      · exact .long hlong
    · have hread : ∃ v, IsReadAs text v := by
        by_contra hread
        exact hiff (iff_of_false hread hstring)
      obtain ⟨v, radix, payload, hmarks, p, hp, -⟩ := hread
      refine .loose hmarks p hp fun hbare => hstring (hmarks.isDigitString_iff.2 ?_)
      rw [← hp]
      exact ⟨p.text_ne_nil, (p.isBare_iff hmarks.radix_le).1 hbare⟩

end Texts

/-! ## Items -/

/-- An expression is a constant that may be an integer, with a text that `R` gives an integer. -/
inductive LiteralValue (R : String → Int → Prop) : Node → Int → Prop
  | constant {type text : String} {pos : Option Position} {v : Int}
    (integer : type ∉ nonIntegerTypes) (text_eq : R text v) :
    LiteralValue R (.constant type text pos) v

/-- An item is a literal, or the negation of one. -/
inductive ItemValue (R : String → Int → Prop) : Node → Int → Prop
  | literal {item : Node} {v : Int} (value : LiteralValue R item v) : ItemValue R item v
  | negation {arg : Node} {pos : Option Position} {v : Int} (value : LiteralValue R arg v) :
    ItemValue R (.unary "-" arg pos) (-v)

def HasValue (R : String → Int → Prop) (item : Node) : Prop := ∃ v, ItemValue R item v

/-- The refusal of an expression that is no literal. -/
def literalRefusal : Node → ConstantError
  | .constant type text pos =>
    if type ∈ nonIntegerTypes then .notInteger (.constant type text pos) else .invalidLiteral text
  | n => .notInteger (foundIn (some n))

/-- The refusal of an item that has no value. It is that of the argument of a negation. -/
def itemRefusal : Node → CustomTypeError
  | .initList .. => .nestedList
  | .unary op arg pos =>
    .constant (if op = "-" then literalRefusal arg else literalRefusal (.unary op arg pos))
  | n => .constant (literalRefusal n)

section Items
variable {R R' : String → Int → Prop} {n item : Node} {text : String} {v v' : Int}

theorem integerOf_of_literalValue (h : LiteralValue IsReadAs n v) : integerOf (some n) = .ok v := by
  obtain ⟨htype, htext⟩ := h
  simp [integerOf, htype, parseInteger, isReadAs_iff.1 htext]

theorem integerOf_of_not_literalValue (h : ¬ ∃ v, LiteralValue IsReadAs n v) :
    integerOf (some n) = .error (literalRefusal n) := by
  cases n with
  | constant type text pos =>
    by_cases htype : type ∈ nonIntegerTypes
    · simp [integerOf, literalRefusal, htype]
    · have hnone : integerLiteral? text = none := by
        rw [Option.eq_none_iff_forall_ne_some]
        exact fun v hv => h ⟨v, .constant htype (isReadAs_iff.2 hv)⟩
      simp [integerOf, literalRefusal, htype, parseInteger, hnone]
  | _ => rfl

theorem layoutItem_of_value (h : ItemValue IsReadAs item v) : layoutItem item = .ok v := by
  cases h with
  | literal value =>
    have hvalue := integerOf_of_literalValue value
    obtain ⟨-, -⟩ := value
    simp [layoutItem, signedInteger, hvalue, Except.mapError]
  | negation value =>
    simp [layoutItem, signedInteger, integerOf_of_literalValue value, Except.map, Except.mapError]

theorem layoutItem_of_not_hasValue (h : ¬ HasValue IsReadAs item) :
    layoutItem item = .error (itemRefusal item) := by
  have hliteral : ¬ ∃ v, LiteralValue IsReadAs item v := fun ⟨v, hv⟩ => h ⟨v, .literal hv⟩
  have hinteger := integerOf_of_not_literalValue hliteral
  cases item with
  | initList items pos => rfl
  | unary op arg pos =>
    by_cases hop : op = "-"
    · subst hop
      have harg := integerOf_of_not_literalValue fun ⟨v, hv⟩ => h ⟨-v, .negation hv⟩
      simp [layoutItem, signedInteger, itemRefusal, harg, Except.map, Except.mapError]
    · simp [layoutItem, signedInteger, itemRefusal, hop, hinteger, Except.mapError]
  | _ => simp [layoutItem, signedInteger, itemRefusal, hinteger, Except.mapError]

theorem hasValue_eq_succeeds : HasValue IsReadAs = Succeeds layoutItem := by
  funext item
  refine propext ⟨fun ⟨v, hv⟩ => ⟨v, layoutItem_of_value hv⟩, fun ⟨v, hv⟩ => ?_⟩
  by_contra h
  rw [layoutItem_of_not_hasValue h] at hv
  cases hv

theorem layoutItem_eq_ok_iff : layoutItem item = .ok v ↔ ItemValue IsReadAs item v := by
  refine ⟨fun h => ?_, layoutItem_of_value⟩
  obtain ⟨v', hv⟩ : HasValue IsReadAs item := by
    rw [hasValue_eq_succeeds]
    exact ⟨v, h⟩
  cases (layoutItem_of_value hv).symm.trans h
  exact hv

/-- Whether an expression is a literal shows in the refusal of it, which is that of its text. -/
theorem exists_literalValue_iff : (∃ v, LiteralValue R n v) ↔
    ∃ text, literalRefusal n = .invalidLiteral text ∧ ∃ v, R text v := by
  constructor
  · rintro ⟨v, ⟨htype, hv⟩⟩
    exact ⟨_, by rw [literalRefusal, if_neg htype], v, hv⟩
  · rintro ⟨text, hrefusal, v, hv⟩
    cases n with
    | constant type spelling pos =>
      by_cases htype : type ∈ nonIntegerTypes
      · simp [literalRefusal, htype] at hrefusal
      · obtain rfl : spelling = text := by simpa [literalRefusal, htype] using hrefusal
        exact ⟨v, .constant htype hv⟩
    | _ => cases hrefusal

/-- The same shows of an item: with a value it would be refused for its text. -/
theorem hasValue_iff : HasValue R item ↔
    ∃ text, itemRefusal item = .constant (.invalidLiteral text) ∧ ∃ v, R text v := by
  constructor
  · rintro ⟨v, value | value⟩
    · obtain ⟨text, hrefusal, hv⟩ := exists_literalValue_iff.1 ⟨_, value⟩
      refine ⟨text, ?_, hv⟩
      rw [← hrefusal]
      obtain ⟨-, -⟩ := value
      rfl
    · obtain ⟨text, hrefusal, hv⟩ := exists_literalValue_iff.1 ⟨_, value⟩
      exact ⟨text, by rw [itemRefusal, if_pos rfl, hrefusal], hv⟩
  · rintro ⟨text, hrefusal, hv⟩
    cases item with
    | unary op arg pos =>
      by_cases hop : op = "-"
      · subst hop
        have harg : literalRefusal arg = .invalidLiteral text := by
          simpa [itemRefusal] using hrefusal
        obtain ⟨v, value⟩ := exists_literalValue_iff.2 ⟨text, harg, hv⟩
        exact ⟨-v, .negation value⟩
      · simp [itemRefusal, hop, literalRefusal] at hrefusal
    | initList => cases hrefusal
    | _ =>
      obtain ⟨v, value⟩ := exists_literalValue_iff.2
        ⟨text, by simpa [itemRefusal] using hrefusal, hv⟩
      exact ⟨v, .literal value⟩

theorem hasValue_iff_of_refusal (h : itemRefusal item = .constant (.invalidLiteral text)) :
    HasValue R item ↔ ∃ v, R text v := by
  rw [hasValue_iff]
  refine ⟨?_, fun hv => ⟨text, h, hv⟩⟩
  rintro ⟨text', htext', hv⟩
  cases h.symm.trans htext'
  exact hv

end Items

/-! ## Outcomes -/

/-- What is to come of an initialiser: a refusal that names the first thing wrong, or a layout. -/
inductive LayoutOutcome (R : String → Int → Prop) :
    Option Node → Except CustomTypeError FxpLayout → Prop
  | notAList {init : Option Node} (noList : ∀ items pos, init ≠ some (.initList items pos)) :
    LayoutOutcome R init (.error .notAList)
  | badItem {items before : List Node} {item : Node} {pos : Option Position} {e : CustomTypeError}
    (first : FirstWithout (HasValue R) items before item) (refusal : itemRefusal item = e) :
    LayoutOutcome R (some (.initList items pos)) (.error e)
  | tooFew {items : List Node} {values : List Int} {pos : Option Position}
    (values_eq : List.Forall₂ (ItemValue R) items values) (few : values.length < 3) :
    LayoutOutcome R (some (.initList items pos)) (.error .tooFewItems)
  | wordLength {items : List Node} {s w i : Int} {more : List Int} {pos : Option Position}
    (values_eq : List.Forall₂ (ItemValue R) items (s :: w :: i :: more)) (below : w < 1) :
    LayoutOutcome R (some (.initList items pos))
      (.error (.invalidLayout [FxpLayout.wordLengthViolation]))
  | layout {items : List Node} {s w i : Int} {more : List Int} {pos : Option Position}
    {f : FxpLayout}
    (values_eq : List.Forall₂ (ItemValue R) items (s :: w :: i :: more))
    (signed : f.signed = true ↔ s ≠ 0) (wordLength : f.wordLength = w)
    (integerWordLength : f.integerWordLength = i) (fractionLength : f.fractionLength = w - i) :
    LayoutOutcome R (some (.initList items pos)) (.ok f)

section Outcomes
variable {R R' : String → Int → Prop} {init : Option Node} {items before : List Node} {item : Node}
  {pos : Option Position} {r : Except CustomTypeError FxpLayout} {e : ConstantError}

theorem readLayout_of_outcome (h : LayoutOutcome IsReadAs init r) : readLayout init = r := by
  have hvalues : ∀ {items values}, List.Forall₂ (ItemValue IsReadAs) items values →
      items.mapM layoutItem = .ok values := fun h =>
    mapM_eq_ok_iff.2 (h.imp fun _ _ => layoutItem_eq_ok_iff.2)
  cases h with
  | notAList noList =>
    unfold readLayout
    split
    · exact absurd rfl (noList _ _)
    · rfl
  | @badItem items before item pos e first refusal =>
    have hfails : items.mapM layoutItem = .error e := by
      rw [hasValue_eq_succeeds] at first
      refine mapM_eq_error_iff.2 ⟨before, item, first, ?_⟩
      rw [← refusal]
      exact layoutItem_of_not_hasValue (by rw [hasValue_eq_succeeds]; exact first.here)
    rw [readLayout, hfails]
    rfl
  | @tooFew items values pos values_eq few =>
    rw [readLayout, hvalues values_eq, ok_bind]
    match values, few with
    | [], _ | [_], _ | [_, _], _ => rfl
  | wordLength values_eq below =>
    rw [readLayout, hvalues values_eq, ok_bind]
    simp [FxpLayout.make?, Int.not_le.2 below]
  | @layout items s w i more pos f values_eq signed wordLength integerWordLength =>
    subst wordLength integerWordLength
    have hsigned : decide (s ≠ 0) = f.signed := Bool.eq_iff_iff.2 (by simpa using signed.symm)
    have hmake : FxpLayout.make? (decide (s ≠ 0)) f.wordLength f.integerWordLength = some f := by
      rw [hsigned, FxpLayout.make?, dif_pos f.wordLength_pos]
    rw [readLayout, hvalues values_eq, ok_bind]
    simp only [hmake]

/-- What comes of an initialiser, with the texts that are read for the literals. -/
theorem outcome_readLayout (init : Option Node) :
    LayoutOutcome IsReadAs init (readLayout init) := by
  unfold readLayout
  split
  · next items pos =>
    cases hitems : items.mapM layoutItem with
    | error e =>
      obtain ⟨before, item, first, he⟩ := mapM_eq_error_iff.1 hitems
      rw [← hasValue_eq_succeeds] at first
      rw [layoutItem_of_not_hasValue first.here] at he
      exact .badItem first (Except.error.inj he)
    | ok values =>
      have values_eq : List.Forall₂ (ItemValue IsReadAs) items values :=
        (mapM_eq_ok_iff.1 hitems).imp fun _ _ => layoutItem_eq_ok_iff.1
      rw [ok_bind]
      match values with
      | [] | [_] | [_, _] => exact .tooFew values_eq (by simp)
      | s :: w :: i :: more =>
        by_cases hw : 1 ≤ w
        · simp only [FxpLayout.make?, dif_pos hw]
          exact .layout values_eq (by simp) rfl rfl rfl
        · simp only [FxpLayout.make?, dif_neg hw]
          exact .wordLength values_eq (by omega)
  · next hlist => exact .notAList fun items pos h => hlist items pos h

/-- **What comes of an initialiser** is one outcome, that with the texts that are read. -/
theorem readLayout_eq_iff : readLayout init = r ↔ LayoutOutcome IsReadAs init r :=
  ⟨fun h => h ▸ outcome_readLayout init, readLayout_of_outcome⟩

namespace LayoutOutcome

/-- The first item without a value is what is refused. -/
theorem eq_of_first (h : LayoutOutcome R (some (.initList items pos)) r)
    (first : FirstWithout (HasValue R) items before item) : r = .error (itemRefusal item) := by
  have hvalues : ∀ {values}, ¬ List.Forall₂ (ItemValue R) items values := fun h =>
    first.here ((forall₂_exists_right h item first.mem).imp fun _ hv => hv.2)
  cases h with
  | notAList noList => exact absurd rfl (noList items pos)
  | badItem first' refusal =>
    obtain ⟨-, rfl⟩ := first.unique first'
    rw [refusal]
  | tooFew values_eq => exact absurd values_eq hvalues
  | wordLength values_eq => exact absurd values_eq hvalues
  | layout values_eq => exact absurd values_eq hvalues

/-- What is refused as a constant is the first item without a value. -/
theorem exists_of_constant
    (h : LayoutOutcome R (some (.initList items pos)) (.error (.constant e))) :
    ∃ before item, FirstWithout (HasValue R) items before item ∧
      itemRefusal item = .constant e := by
  cases h with
  | badItem first refusal => exact ⟨_, _, first, refusal⟩

/-- With an item that only some of the readings take for a literal the outcomes differ. -/
theorem ne_of_first {r' : Except CustomTypeError FxpLayout}
    (first : FirstWithout (HasValue R) items before item) (hvalue : HasValue R' item) (h : LayoutOutcome R (some (.initList items pos)) r)
    (h' : LayoutOutcome R' (some (.initList items pos)) r') : r ≠ r' := by
  rintro rfl
  obtain rfl := h.eq_of_first first
  obtain ⟨text, hrefusal, hv⟩ := hasValue_iff.1 hvalue
  rw [hrefusal] at h'
  obtain ⟨_, item', first', hrefusal'⟩ := h'.exists_of_constant
  exact first'.here ((hasValue_iff_of_refusal hrefusal').2 hv)

/-- Items that all have the same values come to the same outcome. -/
theorem mono (h : LayoutOutcome R (some (.initList items pos)) r)
    (hall : ∀ item ∈ items, HasValue R item)
    (hvalues : ∀ item ∈ items, ∀ v, ItemValue R item v → ItemValue R' item v) :
    LayoutOutcome R' (some (.initList items pos)) r := by
  have htransfer : ∀ {values}, List.Forall₂ (ItemValue R) items values →
      List.Forall₂ (ItemValue R') items values := fun h =>
    ((List.forall₂_and_left _ _).2 ⟨hvalues, h⟩).imp fun _ _ h => h.1 _ h.2
  cases h with
  | notAList noList => exact absurd rfl (noList items pos)
  | badItem first => exact absurd (hall _ first.mem) first.here
  | tooFew values_eq few => exact .tooFew (htransfer values_eq) few
  | wordLength values_eq below => exact .wordLength (htransfer values_eq) below
  | layout values_eq signed word whole fraction =>
    exact .layout (htransfer values_eq) signed word whole fraction

end LayoutOutcome

/-! ## Items that are misread -/

/-- An item has the value that it spells. -/
def IsSound (item : Node) : Prop := ∃ v, ItemValue IsReadAs item v ∧ ItemValue SpellsInteger item v

/-- The text of an item is misread, or the item is refused at a place that cannot be shown. -/
inductive ItemMisread (item : Node) : Prop
  | text {text : String} (literal : itemRefusal item = .constant (.invalidLiteral text))
    (misread : TextMisread text)
  | place {e : ConstantError} (refusal : itemRefusal item = .constant e)
    (hidden : e.isShowable = false)

/-- The first item of an initialiser without the value that it spells is misread. -/
def Misread (init : Option Node) : Prop :=
  ∃ items pos before item, init = some (.initList items pos) ∧
    FirstWithout IsSound items before item ∧ ItemMisread item

/-- A layout is read from the literals, and a constant that is refused can be shown. -/
def ReadsLiterals (init : Option Node) : Prop :=
  LayoutOutcome SpellsInteger init (readLayout init) ∧
    ∀ e, readLayout init = .error (.constant e) → e.isShowable = true

theorem ItemValue.unique {v v' : Int} (h : ItemValue IsReadAs item v)
    (h' : ItemValue IsReadAs item v') : v = v' := by
  cases (layoutItem_of_value h).symm.trans (layoutItem_of_value h')
  rfl

theorem ItemValue.eq_of_spells {v v' : Int} (h : ItemValue IsReadAs item v)
    (h' : ItemValue SpellsInteger item v') : v = v' := by
  rcases h with ⟨⟨-, h⟩⟩ | ⟨⟨-, h⟩⟩ <;> rcases h' with ⟨⟨-, h'⟩⟩ | ⟨⟨-, h'⟩⟩
  · exact h.eq_of_spells h'
  · rw [h.eq_of_spells h']

theorem isSound_iff : IsSound item ↔ HasValue IsReadAs item ∧ HasValue SpellsInteger item := by
  constructor
  · rintro ⟨v, hread, hspells⟩
    exact ⟨⟨v, hread⟩, v, hspells⟩
  · rintro ⟨⟨v, hread⟩, v', hspells⟩
    obtain rfl := hread.eq_of_spells hspells
    exact ⟨v, hread, hspells⟩

/-- An item that is not misread has a value if it spells one. -/
theorem hasValue_iff_of_not_misread (h : ¬ ItemMisread item) :
    HasValue IsReadAs item ↔ HasValue SpellsInteger item := by
  have htext : ∀ text, itemRefusal item = .constant (.invalidLiteral text) →
      ((∃ v, IsReadAs text v) ↔ ∃ v, SpellsInteger text v) := fun text hrefusal => by
    by_contra hne
    exact h (.text hrefusal (textMisread_iff.2 hne))
  constructor
  · intro hread
    obtain ⟨text, hrefusal, hv⟩ := hasValue_iff.1 hread
    exact (hasValue_iff_of_refusal hrefusal).2 ((htext text hrefusal).1 hv)
  · intro hspells
    obtain ⟨text, hrefusal, hv⟩ := hasValue_iff.1 hspells
    exact (hasValue_iff_of_refusal hrefusal).2 ((htext text hrefusal).2 hv)

theorem FirstWithout.isRead (first : FirstWithout IsSound items before item)
    (hnone : ¬ HasValue IsReadAs item) : FirstWithout (HasValue IsReadAs) items before item :=
  first.imp (fun _ h => (isSound_iff.1 h).1) hnone

theorem FirstWithout.isSpelt (first : FirstWithout IsSound items before item)
    (hnone : ¬ HasValue SpellsInteger item) :
    FirstWithout (HasValue SpellsInteger) items before item :=
  first.imp (fun _ h => (isSound_iff.1 h).2) hnone

theorem readsLiterals_of_noList (h : ∀ items pos, init ≠ some (.initList items pos)) :
    ReadsLiterals init := by
  have hrefused : readLayout init = .error .notAList := readLayout_eq_iff.2 (.notAList h)
  refine ⟨?_, fun e he => ?_⟩
  · rw [hrefused]
    exact .notAList h
  · cases hrefused.symm.trans he

theorem readsLiterals_of_sound (hsound : ∀ item ∈ items, IsSound item) :
    ReadsLiterals (some (.initList items pos)) := by
  have hread := outcome_readLayout (some (.initList items pos))
  have hall : ∀ item ∈ items, HasValue IsReadAs item := fun item hitem =>
    (isSound_iff.1 (hsound item hitem)).1
  refine ⟨hread.mono hall fun item hitem v hv => ?_, fun e he => ?_⟩
  · obtain ⟨v', hv', hspells⟩ := hsound item hitem
    rwa [hv.unique hv']
  · rw [he] at hread
    obtain ⟨before, item, first, -⟩ := hread.exists_of_constant
    exact absurd (hall item first.mem) first.here

/-- A first item that is not misread has no value of either kind, and its refusal is what comes. -/
theorem readsLiterals_of_first (first : FirstWithout IsSound items before item)
    (h : ¬ ItemMisread item) : ReadsLiterals (some (.initList items pos)) := by
  have hiff := hasValue_iff_of_not_misread h
  have hnone : ¬ HasValue IsReadAs item := fun hv => first.here (isSound_iff.2 ⟨hv, hiff.1 hv⟩)
  have hrefused : readLayout (some (.initList items pos)) = .error (itemRefusal item) :=
    (outcome_readLayout _).eq_of_first (first.isRead hnone)
  refine ⟨?_, fun e he => ?_⟩
  · rw [hrefused]
    exact .badItem (first.isSpelt (hiff.not.1 hnone)) rfl
  · by_contra hhidden
    exact h (.place (Except.error.inj (hrefused.symm.trans he)) (by simpa using hhidden))

/-- A first item that is misread is read without being a literal, or refused though it is one, or
refused at a place that cannot be shown. -/
theorem not_readsLiterals_of_first (first : FirstWithout IsSound items before item)
    (h : ItemMisread item) : ¬ ReadsLiterals (some (.initList items pos)) := by
  rintro ⟨hliterals, hshown⟩
  have hread := outcome_readLayout (some (.initList items pos))
  by_cases hvalue : HasValue IsReadAs item
  · have hnone : ¬ HasValue SpellsInteger item := fun h => first.here (isSound_iff.2 ⟨hvalue, h⟩)
    exact hliterals.ne_of_first (first.isSpelt hnone) hvalue hread rfl
  · cases h with
    | text literal misread =>
      rw [textMisread_iff, ← hasValue_iff_of_refusal literal, ← hasValue_iff_of_refusal literal]
        at misread
      have hspells : HasValue SpellsInteger item := by
        by_contra hnone
        exact misread (iff_of_false hvalue hnone)
      exact hread.ne_of_first (first.isRead hvalue) hspells hliterals rfl
    | place refusal hidden =>
      have hrefused := hread.eq_of_first (first.isRead hvalue)
      rw [refusal] at hrefused
      rw [hshown _ hrefused] at hidden
      cases hidden

/-- **Which layouts are read from their literals.** What comes of an initialiser is one outcome,
that with the texts that are read. It is the outcome with the literals, and the refusal of a constant
can be shown, unless the first item without the value that it spells is misread. -/
theorem readLayout_literals_iff (init : Option Node) :
    (∀ r, readLayout init = r ↔ LayoutOutcome IsReadAs init r) ∧
      (ReadsLiterals init ↔ ¬ Misread init) := by
  refine ⟨fun r => readLayout_eq_iff, ?_, fun h => ?_⟩
  · rintro h ⟨items, pos, before, item, rfl, first, hmisread⟩
    exact not_readsLiterals_of_first first hmisread h
  · by_cases hlist : ∃ items pos, init = some (.initList items pos)
    · obtain ⟨items, pos, rfl⟩ := hlist
      rcases all_or_first IsSound items with hsound | ⟨before, item, first⟩
      · exact readsLiterals_of_sound hsound
      · exact readsLiterals_of_first first fun hmisread =>
          h ⟨items, pos, before, item, rfl, first, hmisread⟩
    · exact readsLiterals_of_noList fun items pos h => hlist ⟨items, pos, h⟩

end Outcomes

/-- A layout with an underscore in its first item. -/
def looseLayout : Node :=
  .initList [.constant "int" "1_000" none, .constant "int" "33" none,
    .constant "int" "17" none] none

theorem not_spellsInteger_underscore (v : Int) : ¬ SpellsInteger "1_000" v := by
  intro h
  have hmarks : Marks (literalDigits "1_000".toList) 10 "1_000".toList := .decimal (by decide)
  have hdigits := hmarks.isDigitString_iff.1 (exists_spellsInteger_iff.1 ⟨v, h⟩)
  exact Text.not_isDigit_of_digit? (by decide) (by decide) (hdigits.2 '_' (by decide))

/-- An item that is no literal is read. -/
theorem not_readsLiterals_looseLayout :
    readLayout (some looseLayout) = .ok ⟨true, 33, 17, by decide⟩ ∧
      ¬ ReadsLiterals (some looseLayout) := by
  have hread : readLayout (some looseLayout) = .ok ⟨true, 33, 17, by decide⟩ := by decide +kernel
  refine ⟨hread, ?_⟩
  rintro ⟨houtcome, -⟩
  rw [hread] at houtcome
  cases houtcome with
  | layout values_eq =>
    cases values_eq with
    | cons first =>
      cases first with
      | literal value =>
        obtain ⟨-, htext⟩ := value
        exact not_spellsInteger_underscore _ htext

end FpgaInterface
