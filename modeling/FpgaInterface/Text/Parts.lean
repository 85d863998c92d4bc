/-!
# Parts of a text

* `partsAt`: the parts of a text between the characters that separate them;
* `joinWith`: parts with a separator between them. `joinWith_partsAt` says that it undoes the split.

No part holds the separator (`not_mem_of_mem_partsAt`).
-/

namespace FpgaInterface.Text

/-- The parts of a text between the characters `sep`; there is one more than there are of those. -/
def partsAt (sep : Char) : List Char → List (List Char)
  | [] => [[]]
  | c :: rest =>
    if c = sep then [] :: partsAt sep rest
    else match partsAt sep rest with
      | [] => [[c]]
      | part :: parts => (c :: part) :: parts

def joinWith (sep : Char) : List (List Char) → List Char
  | [] => []
  | [part] => part
  | part :: parts => part ++ sep :: joinWith sep parts

theorem partsAt_ne_nil (sep : Char) (cs : List Char) : partsAt sep cs ≠ [] := by
  cases cs with
  | nil => simp [partsAt]
  | cons c rest =>
    rw [partsAt]
    split
    · simp
    · split <;> simp

theorem joinWith_partsAt (sep : Char) (cs : List Char) : joinWith sep (partsAt sep cs) = cs := by
  induction cs with
  | nil => rfl
  | cons c rest ih =>
    rw [partsAt]
    cases h : partsAt sep rest with
    | nil => exact absurd h (partsAt_ne_nil sep rest)
    | cons part parts =>
      rw [h] at ih
      split
      · next hc => rw [joinWith, List.nil_append, ih, hc]; simp
      · cases parts with
        | nil => simpa [joinWith] using ih
        | cons p ps => simpa [joinWith] using ih

theorem not_mem_of_mem_partsAt {sep : Char} {cs part : List Char} (h : part ∈ partsAt sep cs) :
    sep ∉ part := by
  induction cs generalizing part with
  | nil =>
    obtain rfl := List.mem_singleton.1 h
    exact List.not_mem_nil
  | cons c rest ih =>
    rw [partsAt] at h
    split at h
    · rcases List.mem_cons.1 h with rfl | h
      · exact List.not_mem_nil
      · exact ih h
    · next hc =>
      cases hparts : partsAt sep rest with
      | nil => exact absurd hparts (partsAt_ne_nil sep rest)
      | cons first parts =>
        rw [hparts] at h ih
        rcases List.mem_cons.1 h with rfl | h
        · rw [List.mem_cons, not_or]
          exact ⟨Ne.symm hc, ih (List.mem_cons_self ..)⟩
        · exact ih (List.mem_cons_of_mem _ h)

theorem partsAt_append_sep {sep : Char} {part : List Char} (h : sep ∉ part) (rest : List Char) :
    partsAt sep (part ++ sep :: rest) = part :: partsAt sep rest := by
  induction part with
  | nil => simp [partsAt]
  | cons c part ih =>
    rw [List.mem_cons, not_or] at h
    rw [List.cons_append, partsAt, if_neg (Ne.symm h.1), ih h.2]

theorem partsAt_of_not_mem {sep : Char} {part : List Char} (h : sep ∉ part) :
    partsAt sep part = [part] := by
  induction part with
  | nil => rfl
  | cons c part ih =>
    rw [List.mem_cons, not_or] at h
    rw [partsAt, if_neg (Ne.symm h.1), ih h.2]

theorem joinWith_cons {parts : List (List Char)} (sep : Char) (part : List Char) (h : parts ≠ []) :
    joinWith sep (part :: parts) = part ++ sep :: joinWith sep parts := by
  cases parts with
  | nil => exact absurd rfl h
  | cons next parts => rfl

theorem partsAt_joinWith {sep : Char} {parts : List (List Char)} (hne : parts ≠ [])
    (h : ∀ part ∈ parts, sep ∉ part) : partsAt sep (joinWith sep parts) = parts := by
  induction parts with
  | nil => exact absurd rfl hne
  | cons part parts ih =>
    have hpart := h part (List.mem_cons_self ..)
    by_cases hparts : parts = []
    · rw [hparts]
      exact partsAt_of_not_mem hpart
    · have hrest := ih hparts fun p hp => h p (List.mem_cons_of_mem _ hp)
      rw [joinWith_cons sep part hparts, partsAt_append_sep hpart, hrest]

theorem partsAt_append_cons (sep : Char) (cs ds : List Char) :
    partsAt sep (cs ++ sep :: ds) = partsAt sep cs ++ partsAt sep ds := by
  induction cs with
  | nil => simp [partsAt]
  | cons c cs ih =>
    rw [List.cons_append, partsAt, ih, partsAt]
    split
    · rfl
    · cases hparts : partsAt sep cs with
      | nil => exact absurd hparts (partsAt_ne_nil sep cs)
      | cons part parts => rfl

theorem length_partsAt (sep : Char) (cs : List Char) :
    (partsAt sep cs).length = cs.count sep + 1 := by
  induction cs with
  | nil => rfl
  | cons c cs ih =>
    rw [partsAt, List.count_cons]
    split
    · next hc => simp [ih, hc]
    · next hc =>
      cases hparts : partsAt sep cs with
      | nil => exact absurd hparts (partsAt_ne_nil sep cs)
      | cons part parts =>
        rw [hparts] at ih
        simpa [hc] using ih

end FpgaInterface.Text
