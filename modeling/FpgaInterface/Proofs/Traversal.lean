import FpgaInterface.Note
import Mathlib.Data.List.Forall2

/-!
# Traversals of lists

* `FirstWithout p as before a` : `a` is the first entry of `as` without the property `p`, and
  `before` is what stands before it (`all_or_first`, `FirstWithout.unique`);
* `InAnyOrder R xs ys` : the entries of `xs` and `ys` match one to one in some order;
* `dropWhile_append_of_head`, `takeWhile_append_of_head`, `takeWhile_eq_iff` : where a start that is
  cut off ends;
* `mapM_eq_ok_iff`, `mapM_eq_error_iff` : a traversal succeeds if all its steps do, and fails with
  the fault of the first step that fails;
* `Progress.along_of_ok`, `Progress.along_of_error` : how far steps over a list come.
-/

namespace FpgaInterface

variable {α β ε σ : Type}

/-! ## The first entry without a property -/

/-- `a` is the first entry of `as` without the property `p`; `before` is what stands before it. -/
structure FirstWithout (p : α → Prop) (as before : List α) (a : α) : Prop where
  starts : before ++ [a] <+: as
  before : ∀ x ∈ before, p x
  here : ¬ p a

namespace FirstWithout

variable {p : α → Prop} {as before before' : List α} {a a' b : α}

theorem mem (h : FirstWithout p as before a) : a ∈ as := h.starts.subset (by simp)

theorem imp {q : α → Prop} (h : FirstWithout p as before a) (hq : ∀ x, p x → q x) (ha : ¬ q a) :
    FirstWithout q as before a :=
  ⟨h.starts, fun x hx => hq x (h.before x hx), ha⟩

theorem head (h : ¬ p b) : FirstWithout p (b :: as) [] b := ⟨⟨as, rfl⟩, nofun, h⟩

theorem cons (hb : p b) (h : FirstWithout p as before a) :
    FirstWithout p (b :: as) (b :: before) a := by
  refine ⟨List.cons_prefix_cons.2 ⟨rfl, h.starts⟩, fun x hx => ?_, h.here⟩
  rcases List.mem_cons.1 hx with rfl | hx
  · exact hb
  · exact h.before x hx

/-- After an entry with the property the first without it stands in the rest. -/
theorem exists_of_cons (hb : p b) (h : FirstWithout p (b :: as) before a) :
    ∃ before', before = b :: before' ∧ FirstWithout p as before' a := by
  obtain ⟨hs, hbefore, ha⟩ := h
  cases before with
  | nil =>
    obtain ⟨rfl, -⟩ := List.cons_prefix_cons.1 hs
    exact absurd hb ha
  | cons x xs =>
    obtain ⟨rfl, hxs⟩ := List.cons_prefix_cons.1 hs
    exact ⟨xs, rfl, hxs, fun y hy => hbefore y (List.mem_cons_of_mem _ hy), ha⟩

/-- An entry without the property at the start of a list is the first one. -/
theorem eq_of_cons (hb : ¬ p b) (h : FirstWithout p (b :: as) before a) : before = [] ∧ a = b := by
  obtain ⟨hs, hbefore, ha⟩ := h
  cases before with
  | nil => exact ⟨rfl, (List.cons_prefix_cons.1 hs).1⟩
  | cons x xs =>
    obtain ⟨rfl, -⟩ := List.cons_prefix_cons.1 hs
    exact absurd (hbefore x (List.mem_cons_self ..)) hb

theorem unique (h : FirstWithout p as before a) (h' : FirstWithout p as before' a') :
    before = before' ∧ a = a' := by
  induction as generalizing before before' with
  | nil => exact absurd h.mem (by simp)
  | cons b as ih =>
    by_cases hb : p b
    · obtain ⟨xs, rfl, hx⟩ := h.exists_of_cons hb
      obtain ⟨ys, rfl, hy⟩ := h'.exists_of_cons hb
      obtain ⟨rfl, rfl⟩ := ih hx hy
      exact ⟨rfl, rfl⟩
    · obtain ⟨rfl, rfl⟩ := h.eq_of_cons hb
      obtain ⟨rfl, rfl⟩ := h'.eq_of_cons hb
      exact ⟨rfl, rfl⟩

end FirstWithout

/-- A property holds all along a list, or there is a first entry without it. -/
theorem all_or_first (p : α → Prop) (as : List α) :
    (∀ a ∈ as, p a) ∨ ∃ before a, FirstWithout p as before a := by
  induction as with
  | nil => exact .inl nofun
  | cons b as ih =>
    by_cases hb : p b
    · rcases ih with h | ⟨before, a, h⟩
      · exact .inl fun x hx => (List.mem_cons.1 hx).elim (fun e => e ▸ hb) (h x)
      · exact .inr ⟨b :: before, a, h.cons hb⟩
    · exact .inr ⟨[], b, .head hb⟩

/-! ## Lists that match -/

section Matching
variable {R : α → β → Prop} {xs : List α} {ys : List β}

theorem forall₂_exists_right (h : List.Forall₂ R xs ys) : ∀ x ∈ xs, ∃ y ∈ ys, R x y := by
  induction h with
  | nil => exact fun x hx => absurd hx List.not_mem_nil
  | @cons a b _ _ hab _ ih =>
    intro x hx
    rcases List.mem_cons.1 hx with rfl | hx
    · exact ⟨b, List.mem_cons_self .., hab⟩
    · obtain ⟨y, hy, hxy⟩ := ih x hx
      exact ⟨y, List.mem_cons_of_mem _ hy, hxy⟩

theorem forall₂_exists_left (h : List.Forall₂ R xs ys) : ∀ y ∈ ys, ∃ x ∈ xs, R x y := by
  have hflip : List.Forall₂ (flip R) ys xs := h.flip
  exact forall₂_exists_right hflip

/-- The lists match one to one in some order. -/
def InAnyOrder (R : α → β → Prop) (xs : List α) (ys : List β) : Prop :=
  ∃ xs', xs'.Perm xs ∧ List.Forall₂ R xs' ys

theorem InAnyOrder.exists_right (h : InAnyOrder R xs ys) : ∀ x ∈ xs, ∃ y ∈ ys, R x y := by
  obtain ⟨xs', hperm, hmatch⟩ := h
  exact fun x hx => forall₂_exists_right hmatch x (hperm.mem_iff.2 hx)

theorem InAnyOrder.exists_left (h : InAnyOrder R xs ys) : ∀ y ∈ ys, ∃ x ∈ xs, R x y := by
  obtain ⟨xs', hperm, hmatch⟩ := h
  intro y hy
  obtain ⟨x, hx, hxy⟩ := forall₂_exists_left hmatch y hy
  exact ⟨x, hperm.mem_iff.1 hx, hxy⟩

end Matching

/-! ## Starts that are cut off -/

section Start

variable {p : α → Bool} {front as : List α}

/-- What is cut off the start of a list ends where an entry is to stay. -/
theorem dropWhile_append_of_head (hfront : ∀ a ∈ front, p a = true)
    (h : ∀ a ∈ as.head?, p a = false) : (front ++ as).dropWhile p = as := by
  rw [List.dropWhile_append_of_pos hfront]
  cases as with
  | nil => rfl
  | cons a rest => exact List.dropWhile_cons_of_neg (by simp [h a rfl])

theorem takeWhile_append_of_head (hfront : ∀ a ∈ front, p a = true)
    (h : ∀ a ∈ as.head?, p a = false) : (front ++ as).takeWhile p = front := by
  rw [List.takeWhile_append_of_pos hfront]
  cases as with
  | nil => rw [List.takeWhile_nil, List.append_nil]
  | cons a rest => rw [List.takeWhile_cons_of_neg (by simp [h a rfl]), List.append_nil]

theorem takeWhile_eq_iff (hfront : ∀ a ∈ front, p a = true) :
    as.takeWhile p = front ↔ ∃ rest, as = front ++ rest ∧ ∀ a ∈ rest.head?, p a = false := by
  constructor
  · rintro rfl
    refine ⟨as.dropWhile p, List.takeWhile_append_dropWhile.symm, fun a ha => ?_⟩
    have hhead := List.head?_dropWhile_not p as
    rw [Option.mem_def.1 ha] at hhead
    exact hhead
  · rintro ⟨rest, rfl, hrest⟩
    exact takeWhile_append_of_head hfront hrest

end Start

/-! ## Traversals -/

theorem ok_bind (a : α) (f : α → Except ε β) : Except.ok a >>= f = f a := rfl

theorem bind_eq_ok_iff {x : Except ε α} {f : α → Except ε β} {b : β} :
    x >>= f = .ok b ↔ ∃ a, x = .ok a ∧ f a = .ok b := by
  cases x <;> simp [bind, Except.bind]

theorem bind_eq_error_iff {x : Except ε α} {f : α → Except ε β} {e : ε} :
    x >>= f = .error e ↔ x = .error e ∨ ∃ a, x = .ok a ∧ f a = .error e := by
  cases x <;> simp [bind, Except.bind]

theorem mapError_eq_ok_iff {ε' : Type} {x : Except ε α} {f : ε → ε'} {a : α} :
    x.mapError f = .ok a ↔ x = .ok a := by
  cases x <;> simp [Except.mapError]

theorem exists_of_toBool {x : Except ε α} (h : x.toBool = true) : ∃ a, x = .ok a := by
  cases x with
  | ok a => exact ⟨a, rfl⟩
  | error e => cases h

/-- A traversal succeeds exactly with what all its steps answer. -/
theorem mapM_eq_ok_iff {f : α → Except ε β} {as : List α} {bs : List β} :
    as.mapM f = .ok bs ↔ List.Forall₂ (fun a b => f a = .ok b) as bs := by
  induction as generalizing bs with
  | nil => cases bs <;> simp [pure, Except.pure]
  | cons a as ih =>
    simp only [List.mapM_cons, bind_eq_ok_iff, List.forall₂_cons_left_iff, ih]
    constructor
    · rintro ⟨b, hb, cs, hcs, h⟩
      cases h
      exact ⟨b, cs, hb, hcs, rfl⟩
    · rintro ⟨b, cs, hb, hcs, rfl⟩
      exact ⟨b, hb, cs, hcs, rfl⟩

/-- A step answers something for an entry. -/
def Succeeds (f : α → Except ε β) (a : α) : Prop := ∃ b, f a = .ok b

theorem not_succeeds_iff {f : α → Except ε β} {a : α} :
    ¬ Succeeds f a ↔ ∃ e, f a = .error e := by
  unfold Succeeds
  cases f a <;> simp

/-- A traversal fails exactly with the fault of the first step that fails. -/
theorem mapM_eq_error_iff {f : α → Except ε β} {as : List α} {e : ε} :
    as.mapM f = .error e ↔
      ∃ before a, FirstWithout (Succeeds f) as before a ∧ f a = .error e := by
  induction as with
  | nil =>
    refine ⟨fun h => by simp [pure, Except.pure] at h, ?_⟩
    rintro ⟨before, a, h, -⟩
    exact absurd h.mem (by simp)
  | cons b as ih =>
    by_cases hb : Succeeds f b
    · obtain ⟨c, hc⟩ := hb
      have hrest : (b :: as).mapM f = .error e ↔ as.mapM f = .error e := by
        rw [List.mapM_cons, hc]
        cases as.mapM f <;> simp [bind, Except.bind, pure, Except.pure]
      rw [hrest, ih]
      constructor
      · rintro ⟨before, a, h, he⟩
        exact ⟨b :: before, a, h.cons ⟨c, hc⟩, he⟩
      · rintro ⟨before, a, h, he⟩
        obtain ⟨before', -, h'⟩ := h.exists_of_cons ⟨c, hc⟩
        exact ⟨before', a, h', he⟩
    · obtain ⟨e', he'⟩ := not_succeeds_iff.1 hb
      have hhere : (b :: as).mapM f = .error e ↔ f b = .error e := by
        rw [List.mapM_cons, he']
        simp [bind, Except.bind]
      rw [hhere]
      constructor
      · intro h
        exact ⟨[], b, .head hb, h⟩
      · rintro ⟨before, a, h, he⟩
        obtain ⟨-, rfl⟩ := h.eq_of_cons hb
        exact he

/-! ## Steps with a state -/

namespace Progress

variable {step : σ → α → Except ε σ} (notes : σ → α → List Note) {s t : σ} {as before : List α}

/-- Steps that all succeed come to the end. -/
theorem along_of_ok (h : as.foldlM step s = .ok t) :
    (along step notes s as).fault = none ∧ (along step notes s as).state = t := by
  induction as generalizing s with
  | nil => exact ⟨rfl, Except.ok.inj h⟩
  | cons a as ih =>
    rw [List.foldlM_cons] at h
    obtain ⟨u, hu, h⟩ := bind_eq_ok_iff.1 h
    simp only [along, hu]
    exact ih h

/-- The first step that fails ends the way in the state before it. -/
theorem along_of_error {a : α} {e : ε} (h : before.foldlM step s = .ok t)
    (he : step t a = .error e) (hs : before ++ [a] <+: as) :
    (along step notes s as).fault = some e ∧ (along step notes s as).state = t := by
  obtain ⟨after, rfl⟩ := hs
  induction before generalizing s with
  | nil =>
    cases h
    simp [along, he]
  | cons b before ih =>
    rw [List.foldlM_cons] at h
    obtain ⟨u, hu, h⟩ := bind_eq_ok_iff.1 h
    simp only [List.cons_append, along, hu]
    exact ih h

end Progress

end FpgaInterface
