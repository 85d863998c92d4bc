import FpgaInterface.Proofs.AsciiLiteral
import FpgaInterface.Proofs.ModuleFault

/-!
# A module determines its interface

The text of a module says which signature and which bindings it was written for.

* `append_inj_of_head` : where a run of characters ends;
* `Binding.Plain` : what is known of the bindings of a set; a line determines such a binding
  (`Binding.line_append_inj`), and the lines of a namespace all of its bindings
  (`bodyChars_append_inj`);
* `moduleBody_inj` : so does a module, with its signature;
* `endedOnce_moduleBody` : a module ends in one newline already;
* `moduleText_eq_iff` : two descriptions have the same module exactly if they have the same
  signature and the same bindings.
-/

namespace FpgaInterface

variable {b b' : Binding} {bs bs' : List Binding} {xs ys : List Char}

/-! ## Runs of characters -/

theorem append_inj_of_head {α : Type} {p : α → Prop} {us vs xs ys : List α} (hu : ∀ a ∈ us, p a)
    (hv : ∀ a ∈ vs, p a) (hx : ∀ a ∈ xs.head?, ¬ p a) (hy : ∀ a ∈ ys.head?, ¬ p a)
    (h : us ++ xs = vs ++ ys) : us = vs ∧ xs = ys := by
  induction us generalizing vs with
  | nil =>
    cases vs with
    | nil => exact ⟨rfl, h⟩
    | cons v vs =>
      rw [List.nil_append, List.cons_append] at h
      exact absurd (hv v (List.mem_cons_self ..)) (hx v (by rw [h]; rfl))
  | cons u us ih =>
    cases vs with
    | nil =>
      rw [List.nil_append, List.cons_append] at h
      exact absurd (hu u (List.mem_cons_self ..)) (hy u (by rw [← h]; rfl))
    | cons v vs =>
      obtain ⟨rfl, hrest⟩ := List.cons.inj h
      obtain ⟨rfl, hend⟩ := ih (fun a ha => hu a (List.mem_cons_of_mem _ ha))
        (fun a ha => hv a (List.mem_cons_of_mem _ ha)) hrest
      exact ⟨rfl, hend⟩

/-- A run ends at the first mark that does not stand in it. -/
theorem append_cons_inj {α : Type} {a : α} {us vs xs ys : List α} (hu : a ∉ us) (hv : a ∉ vs)
    (h : us ++ a :: xs = vs ++ a :: ys) : us = vs ∧ xs = ys := by
  have hbefore : ∀ zs : List α, a ∉ zs → ∀ x ∈ zs, x ≠ a := fun zs hz x hx hxa => hz (hxa ▸ hx)
  have hhead : ∀ zs : List α, ∀ x ∈ (a :: zs).head?, ¬ x ≠ a := fun zs x hx hne =>
    hne (Option.some.inj hx).symm
  obtain ⟨huv, hrest⟩ :=
    append_inj_of_head (hbefore us hu) (hbefore vs hv) (hhead xs) (hhead ys) h
  exact ⟨huv, (List.cons.inj hrest).2⟩

/-! ## Lines -/

/-- A binding whose name and type cannot be mistaken for what stands beside them. -/
structure Binding.Plain (b : Binding) : Prop where
  name : ' ' ∉ b.name.toList
  ctype : ',' ∉ b.ctype.toList
  address : ∃ n : Nat, b.address = n
  size : ∀ i, b.size = some i → ∃ n : Nat, i = n

theorem not_mem_of_isWord {c : Char} {name : String} (hstart : Text.isWordStart c = false)
    (hrest : Text.isWordRest c = false) (h : IsWord name) : c ∉ name.toList := by
  obtain ⟨hword, -⟩ := h
  intro hmem
  cases hchars : name.toList with
  | nil =>
    rw [hchars] at hmem
    cases hmem
  | cons d rest =>
    rw [hchars] at hmem hword
    rw [Text.isIdentifier, Bool.and_eq_true, List.all_eq_true] at hword
    rcases List.mem_cons.1 hmem with rfl | hmem
    · rw [hstart] at hword
      cases hword.1
    · cases hrest.symm.trans (hword.2 _ hmem)

theorem not_mem_elementTypes :
    ∀ p ∈ elementTypes, ',' ∉ p.2.toList ∧ '\n' ∉ p.2.toList := by decide +kernel

theorem Declares.not_mem_ctype {s : AddressSet} {e : Entry} (h : Declares s e b) :
    ',' ∉ b.ctype.toList ∧ '\n' ∉ b.ctype.toList := by
  obtain ⟨before, after, htypes, -⟩ := List.lookup_eq_some_iff.1 h.ctype
  exact not_mem_elementTypes _ (htypes ▸ List.mem_append_right _ (List.mem_cons_self ..))

theorem Declares.plain {s : AddressSet} {e : Entry} (h : Declares s e b) (hword : IsWord e.1.name) :
    b.Plain where
  name := h.name ▸ not_mem_of_isWord (by decide +kernel) (by decide +kernel) hword
  ctype := h.not_mem_ctype.1
  address := ⟨_, h.address⟩
  size := by
    intro i hi
    by_cases hk : ∃ k, SizedBy e.1.kind k
    · obtain ⟨k, hk⟩ := hk
      obtain ⟨w, -, hsize⟩ := h.size.array k hk
      exact ⟨w.toNat, Option.some.inj (hi.symm.trans hsize)⟩
    · cases hi.symm.trans (h.size.single fun k hk' => hk ⟨k, hk'⟩)

/-- Each binding of a namespace declares an entry whose name is a word. -/
theorem Namespace.exists_declares {space : Namespace} {s : AddressSet}
    (h : space.bindings s = .ok bs) : ∀ b ∈ bs, ∃ e, Declares s e b ∧ IsWord e.1.name := by
  obtain ⟨hmap, -⟩ := Namespace.bindings_eq_ok_iff.1 h
  intro b hb
  obtain ⟨e, he, hbind⟩ := forall₂_exists_left (mapM_eq_ok_iff.1 hmap) b hb
  obtain ⟨hbindable, hdeclares⟩ :=
    (bindEntry_eq_ok_iff (Namespace.isSize_of_mem_entries he)).1 hbind
  exact ⟨e, hdeclares, hbindable.word⟩

theorem Namespace.plain_of_bindings {space : Namespace} {s : AddressSet}
    (h : space.bindings s = .ok bs) : ∀ b ∈ bs, b.Plain := by
  intro b hb
  obtain ⟨e, hdeclares, hword⟩ := Namespace.exists_declares h b hb
  exact hdeclares.plain hword

def lineEnd : Option Int → List Char
  | none => ")\n".toList
  | some size => ", ".toList ++ ((Text.signed "" Text.decimal size).toList ++ ")\n".toList)

theorem Binding.line_eq (b : Binding) : b.line = "    " ++ b.name ++ " = " ++ b.accessor.name ++
    "(ctypes." ++ b.ctype ++ ", " ++ addressText b.address ++
    (match b.size with
      | none => ""
      | some size => ", " ++ Text.signed "" Text.decimal size) ++ ")\n" := rfl

theorem Binding.line_toList {n : Nat} (h : b.address = n) : b.line.toList =
    "    ".toList ++ (b.name.toList ++ ' ' :: ("= ".toList ++ (b.accessor.name.toList ++
      '(' :: ("ctypes.".toList ++ (b.ctype.toList ++ ',' :: (" 0x".toList ++
        ((Text.upperHex n).toList ++ lineEnd b.size))))))) := by
  rw [Binding.line_eq, addressText, h, Text.signed_natCast]
  simp only [String.toList_append, List.append_assoc]
  cases b.size <;> simp [lineEnd]

theorem lineEnd_head (size : Option Int) :
    ∀ c ∈ (lineEnd size).head?, ¬ (Text.digit? 16 c).isSome = true := by
  intro c hc
  cases size <;> cases hc <;> decide

theorem lineEnd_append_inj {size size' : Option Int} (hsize : ∀ i, size = some i → ∃ n : Nat, i = n)
    (hsize' : ∀ i, size' = some i → ∃ n : Nat, i = n)
    (h : lineEnd size ++ xs = lineEnd size' ++ ys) : size = size' ∧ xs = ys := by
  cases size with
  | none =>
    cases size' with
    | none => exact ⟨rfl, List.append_cancel_left h⟩
    | some i => cases (List.cons.inj h).1
  | some i =>
    cases size' with
    | none => cases (List.cons.inj h).1
    | some i' =>
      obtain ⟨n, rfl⟩ := hsize i rfl
      obtain ⟨n', rfl⟩ := hsize' i' rfl
      simp only [lineEnd, Text.signed_natCast, List.append_assoc, List.append_cancel_left_eq] at h
      have hn := Text.isNumeral_decimal n
      have hn' := Text.isNumeral_decimal n'
      have hmark : Text.digit? 10 ')' = none := by decide
      obtain ⟨hchars, hrest⟩ := append_cons_inj (hn.not_mem (by decide) hmark)
        (hn'.not_mem (by decide) hmark) h
      rw [hchars] at hn
      exact ⟨by rw [hn.unique hn' (by decide)], (List.cons.inj hrest).2⟩

theorem AccessorClass.name_inj {c c' : AccessorClass} (h : c.name = c'.name) : c = c' := by
  cases c <;> cases c' <;> first | rfl | exact absurd h (by decide)

/-- A line determines its binding and where it ends. -/
theorem Binding.line_append_inj (hb : b.Plain) (hb' : b'.Plain)
    (h : b.line.toList ++ xs = b'.line.toList ++ ys) : b = b' ∧ xs = ys := by
  obtain ⟨n, hn⟩ := hb.address
  obtain ⟨n', hn'⟩ := hb'.address
  rw [Binding.line_toList hn, Binding.line_toList hn'] at h
  simp only [List.append_assoc, List.cons_append] at h
  obtain ⟨hname, h⟩ := append_cons_inj hb.name hb'.name (List.append_cancel_left h)
  have hparen : ∀ c : AccessorClass, '(' ∉ c.name.toList := by
    intro c
    cases c <;> decide
  obtain ⟨hclass, h⟩ := append_cons_inj (hparen _) (hparen _) (List.append_cancel_left h)
  obtain ⟨hctype, h⟩ := append_cons_inj hb.ctype hb'.ctype (List.append_cancel_left h)
  have hhex := Text.isNumeral_upperHex n
  have hhex' := Text.isNumeral_upperHex n'
  obtain ⟨haddress, h⟩ : (Text.upperHex n).toList = (Text.upperHex n').toList ∧
      lineEnd b.size ++ xs = lineEnd b'.size ++ ys := by
    have hend : ∀ size zs, ∀ c ∈ (lineEnd size ++ zs).head?, ¬ (Text.digit? 16 c).isSome = true := by
      intro size zs c hc
      refine lineEnd_head size c ?_
      cases size <;> exact hc
    exact append_inj_of_head (hhex.digit? (by decide)) (hhex'.digit? (by decide)) (hend _ _)
      (hend _ _) (List.append_cancel_left h)
  obtain ⟨hsize, hrest⟩ := lineEnd_append_inj hb.size hb'.size h
  rw [haddress] at hhex
  have hnumber : b.address = b'.address := by rw [hn, hn', hhex.unique hhex' (by decide)]
  refine ⟨?_, hrest⟩
  cases b
  cases b'
  exact Binding.mk.injEq .. ▸ ⟨String.toList_inj.1 hname,
    AccessorClass.name_inj (String.toList_inj.1 hclass), String.toList_inj.1 hctype, hnumber, hsize⟩

theorem Binding.exists_line (b : Binding) : ∃ rest, b.line.toList = ' ' :: rest := by
  rw [Binding.line_eq]
  simp only [String.toList_append, List.append_assoc]
  exact ⟨_, rfl⟩

/-! ## Namespaces -/

/-- The lines of a namespace, with an empty line before them. -/
def bodyChars : List Binding → List Char
  | [] => []
  | b :: bs => '\n' :: (b.line.toList ++ bs.flatMap (·.line.toList))

theorem bodyChars_append (bs : List Binding) (b : Binding) :
    ∃ front, bodyChars (bs ++ [b]) = front ++ b.line.toList := by
  cases bs with
  | nil => exact ⟨['\n'], by simp [bodyChars]⟩
  | cons b' bs => exact ⟨'\n' :: (b'.line.toList ++ bs.flatMap (·.line.toList)), by simp [bodyChars]⟩

theorem exists_bodyChars (b : Binding) (bs : List Binding) :
    ∃ rest, bodyChars (b :: bs) = '\n' :: ' ' :: rest := by
  obtain ⟨rest, hrest⟩ := b.exists_line
  exact ⟨rest ++ bs.flatMap (·.line.toList), by rw [bodyChars, hrest, List.cons_append]⟩

theorem namespaceText_toList (space : Namespace) (about : String) (bs : List Binding) :
    (namespaceText space about bs).toList = "class ".toList ++ (space.name.toList ++
      (":\n    \"\"\"".toList ++ (about.toList ++ ("\"\"\"\n".toList ++ bodyChars bs)))) := by
  have hlines : (String.join (bs.map Binding.line)).toList = bs.flatMap (·.line.toList) := by
    rw [String.toList_join, List.flatMap_map]
  have hparts : namespaceText space about bs = "class " ++ space.name ++ ":\n    \"\"\"" ++ about ++
      "\"\"\"\n" ++ (if bs.isEmpty then "" else "\n") ++ String.join (bs.map Binding.line) := rfl
  rw [hparts]
  simp only [String.toList_append, hlines, List.append_assoc]
  cases bs with
  | nil => rfl
  | cons b bs =>
    have hnewline : "\n".toList = ['\n'] := rfl
    rw [bodyChars, List.isEmpty_cons, if_neg Bool.false_ne_true, List.flatMap_cons, hnewline,
      List.singleton_append]

/-- What follows a namespace does not look like one of its lines. -/
structure EndsLines (xs : List Char) : Prop where
  line : ∀ ws, xs ≠ ' ' :: ws
  body : ∀ ws, xs ≠ '\n' :: ' ' :: ws

theorem lines_append_inj (hbs : ∀ b ∈ bs, b.Plain) (hbs' : ∀ b ∈ bs', b.Plain)
    (hx : ∀ ws, xs ≠ ' ' :: ws) (hy : ∀ ws, ys ≠ ' ' :: ws)
    (h : bs.flatMap (·.line.toList) ++ xs = bs'.flatMap (·.line.toList) ++ ys) :
    bs = bs' ∧ xs = ys := by
  induction bs generalizing bs' with
  | nil =>
    cases bs' with
    | nil => exact ⟨rfl, h⟩
    | cons b' bs' =>
      obtain ⟨rest, hrest⟩ := b'.exists_line
      rw [List.flatMap_cons, hrest] at h
      exact absurd h (hx _)
  | cons b bs ih =>
    cases bs' with
    | nil =>
      obtain ⟨rest, hrest⟩ := b.exists_line
      rw [List.flatMap_cons, hrest] at h
      exact absurd h.symm (hy _)
    | cons b' bs' =>
      rw [List.flatMap_cons, List.flatMap_cons, List.append_assoc, List.append_assoc] at h
      obtain ⟨rfl, hrest⟩ := Binding.line_append_inj (hbs b (List.mem_cons_self ..))
        (hbs' b' (List.mem_cons_self ..)) h
      obtain ⟨rfl, hend⟩ := ih (fun x hmem => hbs x (List.mem_cons_of_mem _ hmem))
        (fun x hmem => hbs' x (List.mem_cons_of_mem _ hmem)) hrest
      exact ⟨rfl, hend⟩

/-- The lines of a namespace determine its bindings and where it ends. -/
theorem bodyChars_append_inj (hbs : ∀ b ∈ bs, b.Plain) (hbs' : ∀ b ∈ bs', b.Plain)
    (hx : EndsLines xs) (hy : EndsLines ys) (h : bodyChars bs ++ xs = bodyChars bs' ++ ys) :
    bs = bs' ∧ xs = ys := by
  cases bs with
  | nil =>
    cases bs' with
    | nil => exact ⟨rfl, h⟩
    | cons b' bs' =>
      obtain ⟨rest, hrest⟩ := exists_bodyChars b' bs'
      rw [bodyChars, hrest] at h
      exact absurd h (hx.body _)
  | cons b bs =>
    cases bs' with
    | nil =>
      obtain ⟨rest, hrest⟩ := exists_bodyChars b bs
      rw [bodyChars, hrest] at h
      exact absurd h.symm (hy.body _)
    | cons b' bs' =>
      rw [bodyChars, bodyChars, List.cons_append, List.cons_append] at h
      refine lines_append_inj hbs hbs' hx.line hy.line ?_
      rw [List.flatMap_cons, List.flatMap_cons]
      exact (List.cons.inj h).2

/-! ## Modules -/

/-- What stands before the signature of a module depends on the interface alone. -/
theorem exists_moduleHead (interface : String) : ∃ head : List Char, ∀ signature rs fs,
    (moduleBody interface signature rs fs).toList = head ++
      (Text.asciiLiteralChars signature.toList ++ ("\n\n\n".toList ++
        ((registersText rs).toList ++ ("\n\n\n".toList ++ (fifosText fs).toList)))) := by
  obtain ⟨head, hhead⟩ : ∃ head : String, ∀ signature rs fs,
      moduleBody interface signature rs fs = head ++ Text.asciiLiteral signature ++ "\n\n\n" ++
        registersText rs ++ "\n\n\n" ++ fifosText fs := ⟨_, fun _ _ _ => rfl⟩
  refine ⟨head.toList, fun signature rs fs => ?_⟩
  rw [hhead]
  simp only [String.toList_append, List.append_assoc, Text.asciiLiteral, String.toList_ofList]

theorem endsLines_nil : EndsLines [] := ⟨nofun, nofun⟩

theorem endsLines_newlines (xs : List Char) : EndsLines ("\n\n\n".toList ++ xs) := by
  refine ⟨fun ws h => ?_, fun ws h => ?_⟩
  · cases (List.cons.inj h).1
  · cases (List.cons.inj (List.cons.inj h).2).1

/-- A module determines its signature and its bindings. -/
theorem moduleBody_inj {interface signature signature' : String} {rs rs' fs fs' : List Binding}
    (hrs : ∀ b ∈ rs, b.Plain) (hrs' : ∀ b ∈ rs', b.Plain) (hfs : ∀ b ∈ fs, b.Plain)
    (hfs' : ∀ b ∈ fs', b.Plain)
    (h : moduleBody interface signature rs fs = moduleBody interface signature' rs' fs') :
    signature = signature' ∧ rs = rs' ∧ fs = fs' := by
  obtain ⟨head, hhead⟩ := exists_moduleHead interface
  have hchars := congrArg String.toList h
  rw [hhead, hhead] at hchars
  obtain ⟨hsignature, hchars⟩ :=
    Text.asciiLiteralChars_append_inj (List.append_cancel_left hchars)
  simp only [registersText, fifosText, namespaceText_toList, List.append_assoc,
    List.append_cancel_left_eq] at hchars
  obtain ⟨hregisters, hchars⟩ := bodyChars_append_inj hrs hrs' (endsLines_newlines _)
    (endsLines_newlines _) hchars
  simp only [List.append_cancel_left_eq] at hchars
  obtain ⟨hfifos, -⟩ := bodyChars_append_inj hfs hfs' endsLines_nil endsLines_nil
    (congrArg (· ++ []) hchars)
  exact ⟨String.toList_inj.1 hsignature, hregisters, hfifos⟩

/-! ## The end of a module -/

/-- The characters end in one newline. -/
def EndsOnce (cs : List Char) : Prop := ∃ front c, cs = front ++ [c, '\n'] ∧ c ≠ '\n'

theorem EndsOnce.append {cs : List Char} (h : EndsOnce cs) (ds : List Char) :
    EndsOnce (ds ++ cs) := by
  obtain ⟨front, c, rfl, hc⟩ := h
  exact ⟨ds ++ front, c, (List.append_assoc ..).symm, hc⟩

theorem endedOnce_of_endsOnce {s : String} (h : EndsOnce s.toList) : endedOnce s = s := by
  obtain ⟨front, c, hs, hc⟩ := h
  rw [endedOnce, hs, ← String.toList_inj, String.toList_ofList, hs]
  simp [hc]

theorem Binding.endsOnce_line (b : Binding) : EndsOnce b.line.toList := by
  have hend : EndsOnce ")\n".toList := ⟨[], ')', rfl, by decide⟩
  rw [Binding.line_eq, String.toList_append]
  exact hend.append _

theorem endsOnce_namespaceText (space : Namespace) (about : String) (bs : List Binding) :
    EndsOnce (namespaceText space about bs).toList := by
  rw [namespaceText_toList]
  refine .append (.append (.append (.append ?_ _) _) _) _
  rcases List.eq_nil_or_concat bs with rfl | ⟨front, b, rfl⟩
  · exact ⟨['"', '"'], '"', rfl, by decide⟩
  · obtain ⟨chars, hchars⟩ := bodyChars_append front b
    rw [List.concat_eq_append, hchars]
    exact (b.endsOnce_line.append _).append _

theorem endedOnce_moduleBody (interface signature : String) (rs fs : List Binding) :
    endedOnce (moduleBody interface signature rs fs) = moduleBody interface signature rs fs := by
  refine endedOnce_of_endsOnce ?_
  obtain ⟨head, hhead⟩ := exists_moduleHead interface
  have hend : EndsOnce (fifosText fs).toList := endsOnce_namespaceText ..
  rw [hhead]
  exact ((((hend.append _).append _).append _).append _).append _

/-! ## Descriptions -/

theorem moduleText_eq_ok_iff {d : Description} {interface text : String} :
    moduleText d interface = .ok text ↔ ∃ rs fs, registerBindings d.registers = .ok rs ∧
      fifoBindings d.registers = .ok fs ∧ text = moduleBody interface d.signature rs fs := by
  simp only [moduleText, bind_eq_ok_iff, endedOnce_moduleBody, pure, Except.pure, Except.ok.injEq]
  constructor
  · rintro ⟨rs, hrs, fs, hfs, rfl⟩
    exact ⟨rs, fs, hrs, hfs, rfl⟩
  · rintro ⟨rs, fs, hrs, hfs, rfl⟩
    exact ⟨rs, hrs, fs, hfs, rfl⟩

/-- **The text of a module determines the interface.** Two descriptions have the same module exactly
if they have the same signature and the same bindings. -/
theorem moduleText_eq_iff {d d' : Description} {interface text text' : String}
    (h : moduleText d interface = .ok text) (h' : moduleText d' interface = .ok text') :
    text = text' ↔ d.signature = d'.signature ∧
      registerBindings d.registers = registerBindings d'.registers ∧
      fifoBindings d.registers = fifoBindings d'.registers := by
  obtain ⟨rs, fs, hrs, hfs, rfl⟩ := moduleText_eq_ok_iff.1 h
  obtain ⟨rs', fs', hrs', hfs', rfl⟩ := moduleText_eq_ok_iff.1 h'
  rw [hrs, hrs', hfs, hfs', Except.ok.injEq, Except.ok.injEq]
  constructor
  · exact moduleBody_inj (Namespace.plain_of_bindings (registerBindings_eq _ ▸ hrs))
      (Namespace.plain_of_bindings (registerBindings_eq _ ▸ hrs'))
      (Namespace.plain_of_bindings (fifoBindings_eq _ ▸ hfs))
      (Namespace.plain_of_bindings (fifoBindings_eq _ ▸ hfs'))
  · rintro ⟨hsignature, rfl, rfl⟩
    rw [hsignature]

/-- An array with its size. -/
def sizedTaps : AddressSet where
  entries := [(⟨.indicatorArray, "Taps", "U8"⟩, 0x1800a), (⟨.indicatorArraySize, "Taps", "U8"⟩, 4)]
  sorted := by decide +kernel

/-- The same array, and a size that belongs to no array. -/
def sizedTapsAndSpare : AddressSet where
  entries := [(⟨.indicatorArray, "Taps", "U8"⟩, 0x1800a), (⟨.controlArraySize, "Taps", "U8"⟩, 9),
    (⟨.indicatorArraySize, "Taps", "U8"⟩, 4)]
  sorted := by decide +kernel

/-- A size of its own leaves no trace; a character and the escapes that spell it differ. -/
theorem moduleText_eq_iff_sizedTaps :
    ∃ text text' text'', moduleText ⟨"\"😀\n", sizedTaps⟩ "Main" = .ok text ∧
      moduleText ⟨"\"😀\n", sizedTapsAndSpare⟩ "Main" = .ok text' ∧
      moduleText ⟨"\"\\ud83d\\ude00\n", sizedTaps⟩ "Main" = .ok text'' ∧
      sizedTaps ≠ sizedTapsAndSpare ∧ text = text' ∧ text ≠ text'' := by
  have hregisters : registerBindings sizedTaps = registerBindings sizedTapsAndSpare := by
    decide +kernel
  have hfifos : fifoBindings sizedTaps = fifoBindings sizedTapsAndSpare := by decide +kernel
  obtain ⟨rs, hrs⟩ := exists_of_toBool
    (show (registerBindings sizedTaps).toBool = true by decide +kernel)
  obtain ⟨fs, hfs⟩ := exists_of_toBool
    (show (fifoBindings sizedTaps).toBool = true by decide +kernel)
  have htext : ∀ signature, moduleText ⟨signature, sizedTaps⟩ "Main" =
      .ok (moduleBody "Main" signature rs fs) := fun signature =>
    moduleText_eq_ok_iff.2 ⟨rs, fs, hrs, hfs, rfl⟩
  have hspare : moduleText ⟨"\"😀\n", sizedTapsAndSpare⟩ "Main" =
      .ok (moduleBody "Main" "\"😀\n" rs fs) :=
    moduleText_eq_ok_iff.2 ⟨rs, fs, hregisters ▸ hrs, hfifos ▸ hfs, rfl⟩
  refine ⟨_, _, _, htext _, hspare, htext _, by decide +kernel, ?_, fun heq => ?_⟩
  · exact (moduleText_eq_iff (htext _) hspare).2 ⟨rfl, hregisters, hfifos⟩
  · have hsignature := ((moduleText_eq_iff (htext _) (htext _)).1 heq).1
    exact absurd hsignature (by decide)

end FpgaInterface
