import FpgaInterface.Element.Kind
import FpgaInterface.SortedMap

/-!
# Locations

A location names one addressable element: its kind, its name and its datatype.

* `a < b`: by the order of the kinds, then by name, then by datatype, texts by code point;
* `Location.text`: how messages show a location.

The order is strict and total: `lt_irrefl`, `lt_trans`, `lt_trichotomy`. So what does not come after
another location is smaller or equal: `eq_of_not_lt`, `not_lt_trans`.
-/

namespace FpgaInterface

/-- One addressable element of an interface. -/
structure Location where
  kind : Kind
  name : String
  /-- The vendor's tag of the element type. -/
  datatype : String
  deriving DecidableEq, Repr

namespace Location

/-- The same element under another kind. -/
def withKind (l : Location) (k : Kind) : Location := { l with kind := k }

/-- The location that holds the size of an array. -/
def sizeLocation (l : Location) : Location := l.withKind l.kind.withSize

def text (l : Location) : String := l.kind.name ++ " " ++ l.name ++ " (" ++ l.datatype ++ ")"

/-! ## Order -/

instance : LT Location where
  lt a b := a.kind.order < b.kind.order ∨
    (a.kind = b.kind ∧ (a.name < b.name ∨ (a.name = b.name ∧ a.datatype < b.datatype)))

theorem lt_def {a b : Location} : a < b ↔ a.kind.order < b.kind.order ∨
    (a.kind = b.kind ∧ (a.name < b.name ∨ (a.name = b.name ∧ a.datatype < b.datatype))) := Iff.rfl

instance (a b : Location) : Decidable (a < b) := decidable_of_iff _ lt_def.symm

theorem lt_irrefl (a : Location) : ¬ a < a := by
  rw [lt_def]
  rintro (h | ⟨_, h | ⟨_, h⟩⟩)
  · exact Nat.lt_irrefl _ h
  · exact String.lt_irrefl _ h
  · exact String.lt_irrefl _ h

theorem lt_trans {a b c : Location} (hab : a < b) (hbc : b < c) : a < c := by
  rw [lt_def] at hab hbc ⊢
  rcases hab with hab | ⟨hk, hab⟩
  · rcases hbc with hbc | ⟨hk', _⟩
    · exact .inl (Nat.lt_trans hab hbc)
    · exact .inl (hk' ▸ hab)
  · rcases hbc with hbc | ⟨hk', hbc⟩
    · exact .inl (hk ▸ hbc)
    · refine .inr ⟨hk.trans hk', ?_⟩
      rcases hab with hab | ⟨hn, hab⟩
      · rcases hbc with hbc | ⟨hn', _⟩
        · exact .inl (String.lt_trans hab hbc)
        · exact .inl (hn' ▸ hab)
      · rcases hbc with hbc | ⟨hn', hbc⟩
        · exact .inl (hn ▸ hbc)
        · exact .inr ⟨hn.trans hn', String.lt_trans hab hbc⟩

theorem lt_trichotomy (a b : Location) : a < b ∨ a = b ∨ b < a := by
  obtain ⟨ka, na, da⟩ := a
  obtain ⟨kb, nb, db⟩ := b
  simp only [lt_def, mk.injEq]
  rcases Nat.lt_trichotomy ka.order kb.order with h | h | h
  · exact .inl (.inl h)
  · cases Kind.order_inj h
    rcases text_trichotomy na nb with h | rfl | h
    · exact .inl (.inr ⟨rfl, .inl h⟩)
    · rcases text_trichotomy da db with h | rfl | h
      · exact .inl (.inr ⟨rfl, .inr ⟨rfl, h⟩⟩)
      · exact .inr (.inl ⟨rfl, rfl, rfl⟩)
      · exact .inr (.inr (.inr ⟨rfl, .inr ⟨rfl, h⟩⟩))
    · exact .inr (.inr (.inr ⟨rfl, .inl h⟩))
  · exact .inr (.inr (.inl h))

instance : TotalOrder Location := ⟨lt_irrefl, lt_trans, lt_trichotomy⟩

theorem lt_asymm {a b : Location} (h : a < b) : ¬ b < a := fun h' => lt_irrefl a (lt_trans h h')

theorem eq_of_not_lt {a b : Location} (hab : ¬ b < a) (hba : ¬ a < b) : a = b := by
  rcases lt_trichotomy a b with h | h | h
  · exact absurd h hba
  · exact h
  · exact absurd h hab

theorem not_lt_trans {a b c : Location} (hab : ¬ b < a) (hbc : ¬ c < b) : ¬ c < a := by
  intro hca
  rcases lt_trichotomy a b with h | h | h
  · exact hbc (lt_trans hca h)
  · exact hbc (h ▸ hca)
  · exact hab h

end Location

end FpgaInterface
