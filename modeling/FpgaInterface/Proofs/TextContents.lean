import FpgaInterface.Extract.Interface
import FpgaInterface.Header.TextLiteral
import FpgaInterface.Header.TokenList
import FpgaInterface.Proofs.Traversal

/-!
# What a text in double quotes holds

* `Header.IsTextLiteral mark body cs` : a text in double quotes, with the mark of its encoding;
* `Header.isTextLiteral_of_mem_tokens` : every token of a text is spelled like this;
* `unquote_append` : the quotes at both ends of a text are cut off, however many there are;
* `HasContents` : what the constants with a spelling give, and the headers whose signature it is; the
  tokens of a text have the contents of a literal (`exists_hasContents_of_mem_tokens`);
* `hasContents_body_iff` : it is what stands between the quotes, exactly without a mark and without a
  quote at the end.
-/

namespace FpgaInterface

namespace Header

open Text (Scan)

variable {c : Char} {cs u r mark body : List Char}

/-! ## Spellings of texts -/

/-- What stands between the quotes of a text: a quote or a backslash belongs to an escape. -/
inductive IsTextBody : List Char → Prop
  | nil : IsTextBody []
  | plain {c : Char} {cs : List Char} (quote : c ≠ '"') (escape : c ≠ '\\') (rest : IsTextBody cs) :
    IsTextBody (c :: cs)
  | escape {c : Char} {cs : List Char} (rest : IsTextBody cs) : IsTextBody ('\\' :: c :: cs)

/-- The marks of encodings. A text may have none. -/
def encodingMarks : List (List Char) := [[], ['L'], ['u'], ['U'], ['u', '8']]

/-- A text in double quotes after the mark of its encoding, if it has one. -/
structure IsTextLiteral (mark body cs : List Char) : Prop where
  isMark : mark ∈ encodingMarks
  isBody : IsTextBody body
  spelling : cs = mark ++ '"' :: (body ++ ['"'])

theorem IsTextBody.head?_ne (h : IsTextBody body) : body.head? ≠ some '"' := by
  cases h with
  | nil => nofun
  | plain quote => exact fun hhead => quote (Option.some.inj hhead)
  | escape => exact fun hhead => absurd (Option.some.inj hhead) (by decide)

/-- Of two quotes at the end the second one would belong to no escape. -/
theorem IsTextBody.ne_append_quotes (h : IsTextBody body) (front : List Char) :
    body ≠ front ++ ['"', '"'] := by
  induction h generalizing front with
  | nil => simp
  | plain quote _ _ ih =>
    cases front with
    | nil => exact fun h => quote (List.cons.inj h).1
    | cons d front => exact fun h => ih front (List.cons.inj h).2
  | escape rest ih =>
    rcases front with - | ⟨d, - | ⟨e, front⟩⟩
    · exact fun h => absurd (List.cons.inj h).1 (by decide)
    · intro h
      rw [(List.cons.inj (List.cons.inj h).2).2] at rest
      exact rest.head?_ne rfl
    · exact fun h => ih front (List.cons.inj (List.cons.inj h).2).2

/-- What stands before a quote at the end has none at its own ends. -/
theorem IsTextBody.front (h : IsTextBody (cs ++ ['"'])) :
    cs.head? ≠ some '"' ∧ cs.getLast? ≠ some '"' := by
  constructor
  · intro hhead
    refine h.head?_ne ?_
    rw [List.head?_append, hhead]
    rfl
  · intro hlast
    obtain ⟨front, rfl⟩ := List.getLast?_eq_some_iff.1 hlast
    exact h.ne_append_quotes front (List.append_assoc ..)

/-! ## Texts among the tokens -/

theorem exists_of_textRest (h : textRest cs = some (u, r)) :
    ∃ body, IsTextBody body ∧ u = body ++ ['"'] := by
  fun_induction textRest cs generalizing u r with
  | case1 cs =>
    cases h
    exact ⟨[], .nil, rfl⟩
  | case2 c cs _ ih =>
    obtain ⟨⟨v, s⟩, hrest, hu⟩ := Option.map_eq_some_iff.1 h
    obtain ⟨body, hbody, rfl⟩ := ih hrest
    cases hu
    exact ⟨'\\' :: c :: body, .escape hbody, rfl⟩
  | case3 | case4 | case5 | case6 => cases h
  | case7 c cs hquote hescape hlast hnewline ih =>
    obtain ⟨⟨v, s⟩, hrest, hu⟩ := Option.map_eq_some_iff.1 h
    obtain ⟨body, hbody, rfl⟩ := ih hrest
    cases hu
    refine ⟨c :: body, .plain hquote (fun hc => ?_) hbody, rfl⟩
    cases cs with
    | nil => exact hlast hc rfl
    | cons d cs => exact hescape d cs hc rfl

theorem isTextLiteral_of_plainText (h : plainText cs = some (u, r)) :
    ∃ body, IsTextBody body ∧ u = '"' :: (body ++ ['"']) := by
  obtain ⟨v, s, w, hquote, hrest, rfl⟩ := Scan.andThen_eq_some h
  obtain ⟨body, hbody, rfl⟩ := exists_of_textRest hrest
  rw [Scan.word_eq_some hquote]
  exact ⟨body, hbody, rfl⟩

theorem isTextLiteral_of_text (h : text cs = some (u, r)) :
    ∃ mark body, IsTextLiteral mark body u := by
  obtain ⟨scan, hscan, h⟩ := Scan.exists_of_firstOf h
  rcases List.mem_pair.1 hscan with rfl | rfl
  · obtain ⟨mark, s, w, hmark, hplain, rfl⟩ := Scan.andThen_eq_some h
    obtain ⟨body, hbody, rfl⟩ := isTextLiteral_of_plainText hplain
    obtain ⟨scan, hscan, hmark⟩ := Scan.exists_of_firstOf hmark
    obtain ⟨letters, hletters, rfl⟩ := List.mem_map.1 hscan
    rw [Scan.word_eq_some hmark]
    have hmarks : ∀ letters ∈ ["L", "u8", "u", "U"], letters.toList ∈ encodingMarks := by decide
    exact ⟨letters.toList, body, hmarks letters hletters, hbody, rfl⟩
  · obtain ⟨body, hbody, rfl⟩ := isTextLiteral_of_plainText h
    exact ⟨[], body, List.mem_cons_self .., hbody, rfl⟩

theorem exists_of_firstSpelling {ss : List (Scan × (String → Except SyntaxCause TokenClass))}
    {kind : TokenClass} (h : firstSpelling ss cs = some (.ok (kind, u, r))) :
    ∃ s ∈ ss, s.1 cs = some (u, r) ∧ s.2 (String.ofList u) = .ok kind := by
  induction ss with
  | nil => cases h
  | cons s rest ih =>
    obtain ⟨scan, outcome⟩ := s
    rw [firstSpelling] at h
    split at h
    · obtain ⟨s, hs, hfound⟩ := ih h
      exact ⟨s, List.mem_cons_of_mem _ hs, hfound⟩
    · next v w hscan =>
      cases houtcome : outcome (String.ofList v) with
      | error cause =>
        rw [houtcome] at h
        cases h
      | ok found =>
        rw [houtcome] at h
        cases h
        exact ⟨_, List.mem_cons_self .., hscan, houtcome⟩

/-- Only one of the spellings makes a text. -/
theorem eq_text_of_mem_spellings : ∀ s ∈ spellings, ∀ v, s.2 v = .ok .text → s.1 = text := by
  intro s hs v hv
  simp only [spellings, List.mem_cons, List.not_mem_nil, or_false] at hs
  rcases hs with rfl | rfl | rfl | rfl | rfl | rfl | rfl | rfl | rfl | rfl | rfl | rfl | rfl | rfl |
    rfl | rfl | rfl | rfl
  -- the other ones make a token of another class, or none
  all_goals try cases hv
  · rfl
  · dsimp only at hv
    split at hv <;> cases hv

theorem isTextLiteral_of_lexeme (h : lexeme c cs = .ok (.text, u, r)) :
    ∃ mark body, IsTextLiteral mark body u := by
  unfold lexeme at h
  split at h
  · next outcome houtcome =>
    rw [h] at houtcome
    obtain ⟨s, hs, hscan, hkind⟩ := exists_of_firstSpelling houtcome
    rw [eq_text_of_mem_spellings s hs _ hkind] at hscan
    exact isTextLiteral_of_text hscan
  · cases h

section Step
variable {here next : Cursor} {ts : List Token} {t : Token}

theorem kind_of_readPragma (h : readPragma here cs = .tokens ts next) (ht : t ∈ ts) :
    t.kind = .pragma ∨ t.kind = .pragmaText := by
  unfold readPragma at h
  dsimp only at h
  split at h
  · cases h
    exact .inl (congrArg Token.kind (List.mem_singleton.1 ht))
  · cases h
    exact (List.mem_pair.1 ht).imp (congrArg Token.kind) (congrArg Token.kind)

theorem isTextLiteral_of_advance
    (h : advance here = .tokens ts next) (ht : t ∈ ts) (hkind : t.kind = .text) :
    ∃ mark body, IsTextLiteral mark body t.text.toList := by
  unfold advance at h
  split at h
  · cases h
  · cases h
    cases ht
  · next rest =>
    split at h
    · split at h
      · cases h
      · cases h
        cases ht
    · split at h
      · rcases kind_of_readPragma h ht with hpragma | hpragma <;> cases hpragma.symm.trans hkind
      · cases h
        obtain rfl := List.mem_singleton.1 ht
        cases hkind
  · next c rest _ _ =>
    split at h
    · cases h
      cases ht
    · split at h
      · cases h
      · next kind u r hlexeme =>
        cases h
        obtain rfl := List.mem_singleton.1 ht
        obtain rfl : kind = .text := hkind
        obtain ⟨mark, body, hliteral⟩ := isTextLiteral_of_lexeme hlexeme
        exact ⟨mark, body, by rw [String.toList_ofList]; exact hliteral⟩

end Step

/-- **Every token of a text is a literal**, whatever text it is read from. -/
theorem isTextLiteral_of_mem_tokens {file text : String} {t : Token} (h : t ∈ (tokens file text).1)
    (hkind : t.kind = .text) : ∃ mark body, IsTextLiteral mark body t.text.toList := by
  have hfrom : ∀ fuel here, t ∈ (tokensFrom fuel here).1 →
      ∃ mark body, IsTextLiteral mark body t.text.toList := by
    intro fuel
    induction fuel with
    | zero => exact fun here h => absurd h List.not_mem_nil
    | succ fuel ih =>
      intro here h
      rw [tokensFrom] at h
      split at h
      · cases h
      · cases h
      · next ts next hstep =>
        rcases List.mem_append.1 h with h | h
        · exact isTextLiteral_of_advance hstep h hkind
        · exact ih next h
  exact hfrom _ _ h

/-- A literal that stands alone is the spelling of its constant. -/
theorem IsTextLiteral.spelling_read {spelling : String}
    (h : IsTextLiteral mark body spelling.toList) : (TextLiteral.read spelling).spelling = spelling := by
  have hmark : ∀ c ∈ mark, decide (c ≠ '"') = true := by
    have hmarks : ∀ mark ∈ encodingMarks, (mark.all fun c => decide (c ≠ '"')) = true := by decide
    exact List.all_eq_true.1 (hmarks mark h.isMark)
  have htake : spelling.toList.takeWhile (· ≠ '"') = mark := by
    rw [h.spelling]
    exact takeWhile_append_of_head hmark (by simp)
  have hdrop : spelling.toList.dropWhile (· ≠ '"') = '"' :: (body ++ ['"']) := by
    rw [h.spelling]
    exact dropWhile_append_of_head hmark (by simp)
  have hread : TextLiteral.read spelling = ⟨mark, [body]⟩ := by
    rw [TextLiteral.read, htake, hdrop]
    simp
  rw [← String.toList_inj, h.spelling, hread]
  simp [TextLiteral.spelling]

end Header

/-! ## Quotes at the ends -/

variable {mark body : List Char} {spelling : String}

/-- The quotes at both ends of a text are cut off, however many there are. -/
theorem unquote_append (before middle after : List Char) (hbefore : ∀ c ∈ before, c = '"')
    (hafter : ∀ c ∈ after, c = '"') (hhead : middle.head? ≠ some '"')
    (hlast : middle.getLast? ≠ some '"')
    (htext : spelling.toList = before ++ (middle ++ after)) : (unquote spelling).toList = middle := by
  have hquotes : ∀ cs : List Char, (∀ c ∈ cs, c = '"') → ∀ c ∈ cs, decide (c = '"') = true :=
    fun cs h c hc => decide_eq_true (h c hc)
  have hdrop : spelling.toList.dropWhile (· = '"') = middle ++ after ∨
      middle = [] ∧ spelling.toList.dropWhile (· = '"') = [] := by
    rw [htext]
    cases middle with
    | nil =>
      have hall : ∀ c ∈ before ++ after, c = '"' := fun c hc =>
        (List.mem_append.1 hc).elim (hbefore c) (hafter c)
      have hdrop := dropWhile_append_of_head (hquotes _ hall) (show ∀ c ∈ [].head?, _ from nofun)
      rw [List.append_nil] at hdrop
      exact .inr ⟨rfl, hdrop⟩
    | cons c middle =>
      refine .inl (dropWhile_append_of_head (hquotes before hbefore) fun d hd => decide_eq_false ?_)
      rintro rfl
      exact hhead hd
  rw [unquote, String.toList_ofList]
  rcases hdrop with hdrop | ⟨rfl, hdrop⟩
  · have hend : (middle ++ after).reverse.dropWhile (· = '"') = middle.reverse := by
      rw [List.reverse_append]
      refine dropWhile_append_of_head
        (hquotes _ fun c hc => hafter c (List.mem_reverse.1 hc)) fun d hd => decide_eq_false ?_
      rintro rfl
      rw [List.head?_reverse] at hd
      exact hlast hd
    rw [hdrop, hend, List.reverse_reverse]
  · rw [hdrop]
    rfl

/-! ## Contents -/

/-- Characters less a quote at their end. -/
def lessQuote (cs : List Char) : List Char := if cs.getLast? = some '"' then cs.dropLast else cs

/-- What is left of a literal without the quotes at its ends: a mark keeps the opening quote inside. -/
def contentsOf (mark body : List Char) : List Char :=
  if mark = [] then lessQuote body
  else if body = [] then mark
  else mark ++ '"' :: lessQuote body

theorem Header.IsTextBody.lessQuote (h : Header.IsTextBody body) :
    ∃ quotes, body = lessQuote body ++ quotes ∧ (∀ c ∈ quotes, c = '"') ∧
      (lessQuote body).head? ≠ some '"' ∧ (lessQuote body).getLast? ≠ some '"' ∧
      (body ≠ [] → lessQuote body ≠ []) := by
  by_cases hlast : body.getLast? = some '"'
  · obtain ⟨front, rfl⟩ := List.getLast?_eq_some_iff.1 hlast
    have hfront : FpgaInterface.lessQuote (front ++ ['"']) = front := by
      simp [FpgaInterface.lessQuote]
    rw [hfront]
    refine ⟨['"'], rfl, by simp, h.front.1, h.front.2, fun _ => ?_⟩
    rintro rfl
    exact h.head?_ne rfl
  · have hbody : FpgaInterface.lessQuote body = body := if_neg hlast
    rw [hbody]
    exact ⟨[], (List.append_nil _).symm, nofun, h.head?_ne, hlast, id⟩

theorem unquote_literal (h : Header.IsTextLiteral mark body spelling.toList) :
    (unquote spelling).toList = contentsOf mark body := by
  obtain ⟨quotes, hbody, hquotes, hhead, hlast, hne⟩ := h.isBody.lessQuote
  have hspelling : spelling.toList = mark ++ '"' :: (lessQuote body ++ (quotes ++ ['"'])) := by
    rw [h.spelling, ← List.append_assoc, ← hbody]
  have hafter : ∀ c ∈ quotes ++ ['"'], c = '"' := fun c hc =>
    (List.mem_append.1 hc).elim (hquotes c) List.mem_singleton.1
  have hends : ∀ mark ∈ Header.encodingMarks,
      mark.head? ≠ some '"' ∧ mark.getLast? ≠ some '"' := by decide
  obtain ⟨hstart, hend⟩ := hends mark h.isMark
  unfold contentsOf
  split
  · next hmark =>
    subst hmark
    exact unquote_append ['"'] _ _ (by simp) hafter hhead hlast hspelling
  · next hmark =>
    split
    · next hempty =>
      subst hempty
      exact unquote_append [] mark ['"', '"'] nofun (by simp) hstart hend h.spelling
    · next hfull =>
      refine unquote_append [] _ _ nofun hafter ?_ ?_ (by rw [hspelling]; simp)
      · rw [List.head?_append_of_ne_nil _ hmark]
        exact hstart
      · rw [List.getLast?_append_of_ne_nil _ (List.cons_ne_nil _ _),
          List.getLast?_cons_of_ne_nil (hne hfull)]
        exact hlast

theorem length_le_lessQuote (cs : List Char) : cs.length ≤ (lessQuote cs).length + 1 := by
  unfold lessQuote
  split
  · rw [List.length_dropLast]
    omega
  · omega

theorem lessQuote_eq_iff : lessQuote body = body ↔ body.getLast? ≠ some '"' := by
  constructor
  · intro h hlast
    obtain ⟨front, rfl⟩ := List.getLast?_eq_some_iff.1 hlast
    rw [lessQuote, if_pos hlast, List.dropLast_concat] at h
    simp at h
  · exact fun hlast => if_neg hlast

theorem contentsOf_eq_body_iff : contentsOf mark body = body ↔
    mark = [] ∧ body.getLast? ≠ some '"' := by
  unfold contentsOf
  split
  · next hmark => rw [lessQuote_eq_iff, and_iff_right hmark]
  · next hmark =>
    refine iff_of_false (fun heq => ?_) fun h => hmark h.1
    split at heq
    · next hempty => exact hmark (heq.trans hempty)
    · have hlength := congrArg List.length heq
      have hless := length_le_lessQuote body
      have hpos := List.length_pos_iff.2 hmark
      rw [List.length_append, List.length_cons] at hlength
      omega

/-- The first declaration that gives a name a text gives it a literal. -/
def DeclaresFirst (name spelling : String) (ds : List Declaration) : Prop :=
  ∃ before d after pos, ds = before ++ d :: after ∧
    (∀ e ∈ before, ¬ (e.name = some name ∧ isText e.init = true)) ∧
    d.name = some name ∧ d.init = some (.constant "string" spelling pos)

theorem signatureOf_of_declaresFirst {name : String} {ds : List Declaration}
    (h : DeclaresFirst name spelling ds) : signatureOf name ds = some (unquote spelling) := by
  obtain ⟨before, d, after, pos, rfl, hbefore, hname, hinit⟩ := h
  have hskip : before.findSome? (textFor? name) = none := by
    refine List.findSome?_eq_none_iff.2 fun e he => if_neg ?_
    simpa using hbefore e he
  rw [signatureOf, List.findSome?_append, hskip, Option.none_or, List.findSome?_cons]
  simp [textFor?, hname, hinit, isText, textOf, Except.toOption]

/-- The contents of a constant that is spelled like this, wherever it stands, and of the signature of
every header whose first text of that name it is. -/
structure HasContents (spelling contents : String) : Prop where
  constant : ∀ pos, textOf (some (.constant "string" spelling pos)) = .ok contents
  signature : ∀ interface (tree : Node),
    DeclaresFirst (constantName interface signatureSuffix) spelling tree.declarations →
      tree.signature? interface = some contents

theorem hasContents_literal (h : Header.IsTextLiteral mark body spelling.toList) :
    HasContents spelling (String.ofList (contentsOf mark body)) := by
  rw [← unquote_literal h, String.ofList_toList]
  exact ⟨fun _ => rfl, fun _ _ hfirst => signatureOf_of_declaresFirst hfirst⟩

/-- Every token of a text is a literal, and alone it is a constant with the contents of that. -/
theorem exists_hasContents_of_mem_tokens {file text : String} {t : Header.Token}
    (h : t ∈ (Header.tokens file text).1) (hkind : t.kind = .text) :
    ∃ mark body, Header.IsTextLiteral mark body t.text.toList ∧
      HasContents (Header.TextLiteral.read t.text).spelling
        (String.ofList (contentsOf mark body)) := by
  obtain ⟨mark, body, hliteral⟩ := Header.isTextLiteral_of_mem_tokens h hkind
  refine ⟨mark, body, hliteral, ?_⟩
  rw [hliteral.spelling_read]
  exact hasContents_literal hliteral

/-- **The contents of a literal are what stands between its quotes, exactly without a mark of an
encoding and without a quote at the end.** A quote that an escape ends in is cut off as well, and
its backslash is left; a mark is left with the opening quote. -/
theorem hasContents_body_iff (h : Header.IsTextLiteral mark body spelling.toList) :
    HasContents spelling (String.ofList (contentsOf mark body)) ∧
      (HasContents spelling (String.ofList body) ↔ mark = [] ∧ body.getLast? ≠ some '"') := by
  have hcontents := hasContents_literal h
  refine ⟨hcontents, ?_⟩
  rw [← contentsOf_eq_body_iff]
  constructor
  · intro hbody
    have hsame := (hcontents.constant none).symm.trans (hbody.constant none)
    exact String.ofList_injective (Except.ok.inj hsame)
  · intro heq
    rwa [heq] at hcontents

/-- A header that declares the signature of `Main` twice, the second time with a literal. -/
def signatureHeader (spelling : String) : Node :=
  .branch .file
    [.decl (some "NiFpga_Main_Signature") [] (.branch .type [] none) none none,
      .decl (some "NiFpga_Main_Signature") ["const"] (.branch .type [] none)
        (some (.constant "string" spelling none)) none]
    none

theorem declaresFirst_signatureHeader (spelling : String) :
    DeclaresFirst (constantName "Main" signatureSuffix) spelling
      (signatureHeader spelling).declarations := by
  have hname : some "NiFpga_Main_Signature" = some (constantName "Main" signatureSuffix) := by decide
  exact ⟨[⟨some "NiFpga_Main_Signature", [], none⟩], _, [], none, rfl, by decide, hname, rfl⟩

/-- Quotes inside a literal stay, also at its start. -/
theorem hasContents_body_iff_quotesInside :
    Header.IsTextLiteral [] "\\\"a\\\"b".toList "\"\\\"a\\\"b\"".toList ∧
      (signatureHeader "\"\\\"a\\\"b\"").signature? "Main" = some "\\\"a\\\"b" := by
  have hliteral : Header.IsTextLiteral [] "\\\"a\\\"b".toList "\"\\\"a\\\"b\"".toList :=
    ⟨by decide, .escape (.plain (by decide) (by decide) (.escape (.plain (by decide) (by decide)
      .nil))), by decide⟩
  have hcontents := ((hasContents_body_iff hliteral).2.2 ⟨rfl, by decide⟩).signature "Main" _
    (declaresFirst_signatureHeader _)
  exact ⟨hliteral, hcontents⟩

/-- A quote at the end of a literal is lost, and a mark before it is not. -/
theorem not_hasContents_quoteAtEnd :
    (Header.IsTextLiteral [] "ab\\\"".toList "\"ab\\\"\"".toList ∧
      ¬ HasContents "\"ab\\\"\"" "ab\\\"" ∧
      (signatureHeader "\"ab\\\"\"").signature? "Main" = some "ab\\") ∧
    (Header.IsTextLiteral ['L'] "ab".toList "L\"ab\"".toList ∧ ¬ HasContents "L\"ab\"" "ab" ∧
      (signatureHeader "L\"ab\"").signature? "Main" = some "L\"ab") := by
  refine ⟨⟨⟨by decide, .plain (by decide) (by decide) (.plain (by decide) (by decide) (.escape .nil)),
    by decide⟩, fun h => ?_, by decide +kernel⟩, ⟨by decide, .plain (by decide) (by decide)
    (.plain (by decide) (by decide) .nil), by decide⟩, fun h => ?_, by decide +kernel⟩
  · exact absurd (Except.ok.inj (h.constant none)) (by decide +kernel)
  · exact absurd (Except.ok.inj (h.constant none)) (by decide +kernel)

end FpgaInterface
