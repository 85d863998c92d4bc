import FpgaInterface.Files.Path

/-!
# Paths and their texts

* `Path.toList_text` : the characters of the text of a path;
* `Path.count_text_ofText` : reading a text as a path drops slashes and dots alone;
* `Path.IsNormal` : no name could be dropped or split when the text is read. What is read from a text
  is normal (`isNormal_ofText`), and so is what is made of normal paths;
* `Path.ofText_text` : a normal path is read back from its text.
-/

namespace FpgaInterface

namespace Text

theorem intercalate_eq_joinWith (sep : Char) (parts : List (List Char)) :
    [sep].intercalate parts = joinWith sep parts := by
  induction parts with
  | nil => rfl
  | cons part parts ih =>
    cases parts with
    | nil => simp [joinWith]
    | cons next parts =>
      rw [List.intercalate_cons_cons, ih, joinWith_cons sep part (List.cons_ne_nil _ _),
        List.append_assoc, List.singleton_append]

theorem count_joinWith {sep c : Char} (h : c ≠ sep) (parts : List (List Char)) :
    (joinWith sep parts).count c = parts.flatten.count c := by
  induction parts with
  | nil => rfl
  | cons part parts ih =>
    by_cases hparts : parts = []
    · rw [hparts]
      simp [joinWith]
    · rw [joinWith_cons sep part hparts, List.count_append, List.count_cons_of_ne (Ne.symm h), ih,
        List.flatten_cons, List.count_append]

end Text

namespace Path

variable {p q : Path} {s : String} {c : Char}

/-! ## Characters -/

theorem toList_text (p : Path) :
    p.text.toList = if p.root = "" ∧ p.names = [] then ['.']
      else p.root.toList ++ Text.joinWith '/' (p.names.map String.toList) := by
  unfold text
  have hroot : (decide (p.root = "") && p.names.isEmpty) = true ↔ p.root = "" ∧ p.names = [] := by
    simp
  split
  · next h =>
    rw [if_pos (hroot.1 h)]
    rfl
  · next h =>
    rw [if_neg fun h' => h (hroot.2 h'), String.toList_append, String.toList_intercalate]
    exact congrArg _ (Text.intercalate_eq_joinWith ..)

theorem rootOf_eq (cs : List Char) : rootOf cs = "" ∨ rootOf cs = "/" ∨ rootOf cs = "//" := by
  unfold rootOf
  split <;> simp

/-- The characters that reading a text as a path drops are slashes and dots. -/
theorem count_text_ofText (s : String) (hslash : c ≠ '/') (hdot : c ≠ '.') :
    (ofText s).text.toList.count c = s.toList.count c := by
  have hroot : (ofText s).root.toList.count c = 0 := by
    rw [List.count_eq_zero]
    rcases rootOf_eq s.toList with h | h | h <;> simp [ofText, h, hslash]
  have hnames : ((ofText s).names.map String.toList).flatten.count c = s.toList.count c := by
    have hparts := Text.count_joinWith hslash (Text.partsAt '/' s.toList)
    rw [Text.joinWith_partsAt] at hparts
    rw [hparts]
    simp only [ofText, List.map_map]
    -- a part that is dropped holds no character but dots
    induction Text.partsAt '/' s.toList with
    | nil => rfl
    | cons part parts ih =>
      rw [List.flatten_cons, List.count_append, ← ih, List.filter_cons]
      split
      · simp [List.count_append]
      · next hpart =>
        have hdropped : part = [] ∨ part = ['.'] := by
          simpa [Decidable.or_iff_not_imp_left] using hpart
        rcases hdropped with rfl | rfl <;> simp [hdot.symm]
  rw [toList_text]
  split
  · next h =>
    have hcount : s.toList.count c = 0 := by rw [← hnames, h.2]; rfl
    simp [hcount, hdot.symm]
  · rw [List.count_append, hroot, Text.count_joinWith hslash, hnames, Nat.zero_add]

/-! ## Reading back -/

/-- The root and the names are such that none of them vanishes or is split when the text of the path
is read. -/
structure IsNormal (p : Path) : Prop where
  root : p.root = "" ∨ p.root = "/" ∨ p.root = "//"
  names : ∀ name ∈ p.names, name ≠ "" ∧ name ≠ "." ∧ '/' ∉ name.toList

theorem isNormal_ofText (s : String) : (ofText s).IsNormal where
  root := rootOf_eq s.toList
  names name h := by
    obtain ⟨part, hpart, rfl⟩ := List.mem_map.1 h
    obtain ⟨hmem, hkeep⟩ := List.mem_filter.1 hpart
    have hkept : part ≠ [] ∧ part ≠ ['.'] := by simpa using hkeep
    refine ⟨fun hempty => hkept.1 ?_, fun hdot => hkept.2 ?_, ?_⟩
    · have := congrArg String.toList hempty
      rwa [String.toList_ofList] at this
    · have := congrArg String.toList hdot
      rwa [String.toList_ofList] at this
    · rw [String.toList_ofList]
      exact Text.not_mem_of_mem_partsAt hmem

theorem IsNormal.join (hp : p.IsNormal) (hq : q.IsNormal) : (p.join q).IsNormal := by
  unfold Path.join
  split
  · exact hq
  · refine ⟨hp.root, fun name h => ?_⟩
    rcases List.mem_append.1 h with h | h
    · exact hp.names name h
    · exact hq.names name h

theorem IsNormal.parent (hp : p.IsNormal) : p.parent.IsNormal :=
  ⟨hp.root, fun name h => hp.names name (List.dropLast_subset _ h)⟩

theorem mem_of_mem_collapse {names : List String} {name : String} (h : name ∈ collapse names) :
    name ∈ names := by
  have hstep : ∀ done : List String,
      name ∈ names.foldl (fun done name => if name = ".." then done.tail else name :: done) done →
        name ∈ done ∨ name ∈ names := by
    clear h
    induction names with
    | nil => exact fun done h => .inl h
    | cons first rest ih =>
      intro done h
      rcases ih _ h with h | h
      · dsimp only at h
        split at h
        · exact .inl (List.mem_of_mem_tail h)
        · rcases List.mem_cons.1 h with rfl | h
          · exact .inr (List.mem_cons_self ..)
          · exact .inl h
      · exact .inr (List.mem_cons_of_mem _ h)
  rcases hstep [] (List.mem_reverse.1 h) with h | h
  · cases h
  · exact h

theorem IsNormal.resolve (hp : p.IsNormal) (hq : q.IsNormal) : (Path.resolve p q).IsNormal :=
  ⟨.inr (.inl rfl), fun name h => (hp.join hq).names name (mem_of_mem_collapse h)⟩

theorem rootOf_of_head {cs : List Char} (h : cs.head? = some c) (hc : c ≠ '/') :
    rootOf cs = "" ∧ rootOf ('/' :: cs) = "/" ∧ rootOf ('/' :: '/' :: cs) = "//" := by
  cases cs with
  | nil => cases h
  | cons d rest =>
    obtain rfl : d = c := Option.some.inj h
    simp [rootOf, hc]

/-- A normal path that has names starts with the first of them, behind its root. -/
theorem IsNormal.exists_head (h : p.IsNormal) (hne : p.names ≠ []) :
    ∃ c, (Text.joinWith '/' (p.names.map String.toList)).head? = some c ∧ c ≠ '/' := by
  obtain ⟨first, more, hnames⟩ := List.exists_cons_of_ne_nil hne
  obtain ⟨hempty, -, hslash⟩ := h.names first (by rw [hnames]; exact List.mem_cons_self ..)
  have hfirst : first.toList ≠ [] := by simpa using hempty
  obtain ⟨c, cs, hcs⟩ := List.exists_cons_of_ne_nil hfirst
  rw [hcs] at hslash
  refine ⟨c, ?_, fun hc => hslash (hc ▸ List.mem_cons_self ..)⟩
  rw [hnames, List.map_cons, hcs]
  cases more with
  | nil => rfl
  | cons next more => rfl

theorem IsNormal.partsAt (h : p.IsNormal) (hne : p.names ≠ []) :
    Text.partsAt '/' (Text.joinWith '/' (p.names.map String.toList)) =
      p.names.map String.toList := by
  refine Text.partsAt_joinWith (by simpa using hne) fun part hpart => ?_
  obtain ⟨name, hname, rfl⟩ := List.mem_map.1 hpart
  exact (h.names name hname).2.2

/-- Reading a text drops no name of a normal path. -/
theorem IsNormal.filter (h : p.IsNormal) :
    ((p.names.map String.toList).filter fun name => name ≠ [] && name ≠ ['.']).map String.ofList =
      p.names := by
  have hall : ∀ part ∈ p.names.map String.toList,
      (decide (part ≠ []) && decide (part ≠ ['.'])) = true := by
    intro part hpart
    obtain ⟨name, hname, rfl⟩ := List.mem_map.1 hpart
    obtain ⟨hempty, hdot, -⟩ := h.names name hname
    have hempty' : name.toList ≠ [] := by simpa using hempty
    have hdot' : name.toList ≠ ['.'] := fun he => hdot (String.toList_inj.1 he)
    simp [hempty', hdot']
  rw [List.filter_eq_self.2 hall, List.map_map]
  simp [Function.comp_def]

/-- A normal path is the one that its text spells. -/
theorem ofText_text (h : p.IsNormal) : ofText p.text = p := by
  by_cases hne : p.names = []
  · obtain ⟨root, names⟩ := p
    dsimp only at hne
    subst hne
    rcases h.root with hroot | hroot | hroot
    all_goals
      dsimp only at hroot
      subst hroot
      decide +kernel
  · obtain ⟨c, hhead, hc⟩ := h.exists_head hne
    obtain ⟨hrelative, hone, htwo⟩ := rootOf_of_head hhead hc
    have hparts := h.partsAt hne
    have hkept := h.filter
    have htext := toList_text p
    rw [if_neg fun h' => hne h'.2] at htext
    unfold ofText
    rw [htext]
    obtain ⟨root, names⟩ := p
    -- a root leaves one empty part for each of its slashes
    rcases h.root with hroot | hroot | hroot
    all_goals
      dsimp only at hroot
      subst hroot
    · rw [show ("" : String).toList = [] from rfl, List.nil_append, hrelative, hparts, hkept]
    · rw [show ("/" : String).toList = ['/'] from rfl, List.singleton_append, hone, Text.partsAt,
        if_pos rfl, hparts, List.filter_cons_of_neg (by decide), hkept]
    · rw [show ("//" : String).toList = ['/', '/'] from rfl, List.cons_append, List.singleton_append,
        htwo, Text.partsAt, if_pos rfl, Text.partsAt, if_pos rfl, hparts,
        List.filter_cons_of_neg (by decide), List.filter_cons_of_neg (by decide), hkept]

end Path

end FpgaInterface
