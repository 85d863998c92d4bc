import FpgaInterface.Extract.Interface
import FpgaInterface.Proofs.Effect

/-!
# The first text of a name

A declaration is found by its place in the tree: the numbers of the parts that lead to it. Places
are compared number by number, so that going through a tree is going through its places in order.

* `Node.parts`, `Node.at?` : the parts of a node in order, and the node at a place;
* `Node.Reaches` : a declaration stands at a place, and no declaration on the way to it;
* `Node.reached` : the declarations that are reached, with their places. These are all of them
  (`mem_reached_iff`) in the order of places (`sorted_reached`), and without the places they are
  `Node.declarations` (`map_snd_reached`);
* `Node.followedBy`, `Node.text?` : two trees as one file, and the text of a constant in a tree;
* `FirstText` : the text of the first declaration that gives the name one, which is what
  `signatureOf` finds (`signatureOf_eq_some_iff`, `signatureOf_eq_none_iff`);
* `search` : a search that goes through all of a tree, with the text that it has found so far. It
  does not fail, and finds what `signatureOf` does (`search_eq`);
* `constantText_first` : all of this for the constants of an interface, whatever the tree.
-/

namespace FpgaInterface

namespace Node

/-! ## Places -/

def parts : Node → List Node
  | constant .. => []
  | ident .. => []
  | unary _ arg _ => [arg]
  | initList items _ => items
  | enum _ none => []
  | enum _ (some items) => items.flatMap fun item => item.value?.toList
  | decl _ _ type init bits => type :: (init.toList ++ bits.toList)
  | typedef _ type => [type]
  | branch _ parts _ => parts

def at? (n : Node) : List Nat → Option Node
  | [] => some n
  | i :: place => n.parts[i]?.bind fun m => m.at? place

def declaration? : Node → Option Declaration
  | decl name quals _ init _ => some ⟨name, quals, init⟩
  | _ => none

/-- A declaration stands at a place, and none in front of it on the way there. -/
structure Reaches (n : Node) (place : List Nat) (d : Declaration) : Prop where
  here : (n.at? place).bind declaration? = some d
  onTheWay : ∀ front, front <+: place → front ≠ place → (n.at? front).bind declaration? = none

variable {n m : Node} {d : Declaration} {place : List Nat} {i : Nat}

theorem sizeOf_lt_of_mem_parts (h : m ∈ n.parts) : sizeOf m < sizeOf n := by
  cases n with
  | constant | ident => cases h
  | unary op arg pos =>
    obtain rfl := List.mem_singleton.1 h
    simp only [unary.sizeOf_spec]
    omega
  | initList items pos =>
    have := List.sizeOf_lt_of_mem h
    simp only [initList.sizeOf_spec]
    simp only [parts] at this
    omega
  | enum tag body => cases body with
    | none => cases h
    | some items =>
      obtain ⟨item, hitem, hvalue⟩ := List.mem_flatMap.1 h
      have := List.sizeOf_lt_of_mem hitem
      rcases item with ⟨name, - | value, pos⟩ | -
      · cases hvalue
      · obtain rfl := List.mem_singleton.1 hvalue
        simp only [EnumItem.enumerator.sizeOf_spec, Enumerator.mk.sizeOf_spec,
          Option.some.sizeOf_spec] at this
        simp only [enum.sizeOf_spec, Option.some.sizeOf_spec]
        omega
      · cases hvalue
  | decl name quals type init bits =>
    simp only [decl.sizeOf_spec]
    rcases List.mem_cons.1 h with rfl | h
    · omega
    · rcases List.mem_append.1 h with h | h
      all_goals
        rw [Option.mem_toList.1 h, Option.some.sizeOf_spec]
        omega
  | typedef name type =>
    obtain rfl := List.mem_singleton.1 h
    simp only [typedef.sizeOf_spec]
    omega
  | branch shape items pos =>
    have := List.sizeOf_lt_of_mem h
    simp only [branch.sizeOf_spec]
    simp only [parts] at this
    omega

/-- What is so of a node if it is so of its parts, is so of every node. -/
theorem induction {P : Node → Prop} (step : ∀ n : Node, (∀ m ∈ n.parts, P m) → P n) (n : Node) :
    P n := step n fun m hm => have := sizeOf_lt_of_mem_parts hm; induction step m
termination_by n

theorem declarations_of_some (h : n.declaration? = some d) : n.declarations = [d] := by
  cases n with
  | decl => cases h; rfl
  | constant | ident | unary | initList | enum | typedef | branch => cases h

theorem declarations_of_none (h : n.declaration? = none) :
    n.declarations = n.parts.flatMap declarations := by
  cases n with
  | constant | ident => rfl
  | unary op arg pos => exact (List.append_nil _).symm
  | typedef name type => exact (List.append_nil _).symm
  | initList items pos => exact declarationsOf_eq_flatMap items
  | branch shape items pos => exact declarationsOf_eq_flatMap items
  | decl => cases h
  | enum tag body => cases body with
    | none => rfl
    | some items =>
      show enumeratorDeclarations items =
        (items.flatMap fun item => item.value?.toList).flatMap declarations
      rw [enumeratorDeclarations_eq_flatMap, List.flatMap_assoc]
      congr 1
      funext item
      cases item.value? with
      | none => rfl
      | some value => exact (List.append_nil _).symm

/-! ## Declarations with their places -/

theorem reaches_nil_iff : n.Reaches [] d ↔ n.declaration? = some d := by
  constructor
  · exact fun h => h.here
  · exact fun h => ⟨h, fun front hfront hne => absurd (List.prefix_nil.1 hfront) hne⟩

/-- A place in a part is reached if the node itself is no declaration. -/
theorem reaches_cons_iff : n.Reaches (i :: place) d ↔
    n.declaration? = none ∧ ∃ m, n.parts[i]? = some m ∧ m.Reaches place d := by
  constructor
  · rintro ⟨hhere, hway⟩
    have hself : n.declaration? = none := hway [] List.nil_prefix (List.cons_ne_nil _ _).symm
    cases hm : n.parts[i]? with
    | none =>
      rw [at?, hm] at hhere
      cases hhere
    | some m =>
      rw [at?, hm] at hhere
      refine ⟨hself, m, rfl, hhere, fun front hfront hne => ?_⟩
      have hfront' := hway (i :: front) (List.cons_prefix_cons.2 ⟨rfl, hfront⟩)
        fun he => hne (List.cons.inj he).2
      rwa [at?, hm] at hfront'
  · rintro ⟨hself, m, hm, hhere, hway⟩
    refine ⟨by rwa [at?, hm], fun front hfront hne => ?_⟩
    cases front with
    | nil => exact hself
    | cons j front =>
      obtain ⟨rfl, hrest⟩ := List.cons_prefix_cons.1 hfront
      rw [at?, hm]
      exact hway front hrest fun he => hne (he ▸ rfl)

/-- The declarations that are reached, with their places. -/
def reached (n : Node) : List (List Nat × Declaration) :=
  match n.declaration? with
  | some d => [([], d)]
  | none => (n.parts.attach.map fun m => m.1.reached).zipIdx.flatMap fun x =>
      x.1.map fun y => (x.2 :: y.1, y.2)
termination_by n
decreasing_by exact sizeOf_lt_of_mem_parts m.2

theorem reached_of_some (h : n.declaration? = some d) : n.reached = [([], d)] := by
  rw [reached, h]

theorem reached_of_none (h : n.declaration? = none) :
    n.reached = (n.parts.map reached).zipIdx.flatMap fun x =>
      x.1.map fun y => (x.2 :: y.1, y.2) := by
  rw [reached, h, List.attach_map_val]

theorem mem_reached_iff : (place, d) ∈ n.reached ↔ n.Reaches place d := by
  induction n using Node.induction generalizing place with
  | step n ih =>
    cases hself : n.declaration? with
    | some e =>
      rw [reached_of_some hself, List.mem_singleton, Prod.mk.injEq]
      cases place with
      | nil => rw [reaches_nil_iff, hself]; simp [eq_comm]
      | cons i place => rw [reaches_cons_iff, hself]; simp
    | none =>
      rw [reached_of_none hself, List.mem_flatMap]
      simp only [Prod.exists, List.mem_zipIdx_iff_getElem?, List.getElem?_map,
        Option.map_eq_some_iff, List.mem_map]
      cases place with
      | nil => rw [reaches_nil_iff, hself]; simp
      | cons i place =>
        rw [reaches_cons_iff, and_iff_right hself]
        constructor
        · rintro ⟨_, j, ⟨m, hm, rfl⟩, place', d', hmem, hplace⟩
          cases hplace
          exact ⟨m, hm, (ih m (List.mem_of_getElem? hm)).1 hmem⟩
        · rintro ⟨m, hm, hreach⟩
          exact ⟨_, i, ⟨m, hm, rfl⟩, place, d, (ih m (List.mem_of_getElem? hm)).2 hreach, rfl⟩

theorem map_snd_reached (n : Node) : n.reached.map (·.2) = n.declarations := by
  induction n using Node.induction with
  | step n ih =>
    cases hself : n.declaration? with
    | some d => rw [reached_of_some hself, declarations_of_some hself]; rfl
    | none =>
      rw [reached_of_none hself, declarations_of_none hself, List.map_flatMap]
      simp only [List.map_map, Function.comp_def]
      have hplaces := List.flatMap_map (·.1) (fun found => found.map (·.2))
        (n.parts.map reached).zipIdx
      rw [← hplaces, List.zipIdx_map_fst, List.flatMap_map]
      exact List.flatMap_congr ih

theorem sorted_zipIdx {α : Type} (xs : List α) (start : Nat) :
    (xs.zipIdx start).Pairwise fun a b => a.2 < b.2 := by
  induction xs generalizing start with
  | nil => exact .nil
  | cons x xs ih =>
    rw [List.zipIdx_cons]
    exact List.pairwise_cons.2 ⟨fun y hy => List.le_snd_of_mem_zipIdx hy, ih _⟩

/-- Declarations are reached in the order of their places. -/
theorem sorted_reached (n : Node) : n.reached.Pairwise fun a b => a.1 < b.1 := by
  induction n using Node.induction with
  | step n ih =>
    cases hself : n.declaration? with
    | some d => rw [reached_of_some hself]; exact List.pairwise_singleton ..
    | none =>
      rw [reached_of_none hself]
      refine List.pairwise_flatMap.2 ⟨?_, (sorted_zipIdx _ _).imp ?_⟩
      · rintro ⟨found, i⟩ hfound
        obtain ⟨m, hm, rfl⟩ := List.mem_map.1 (List.fst_mem_of_mem_zipIdx hfound)
        refine List.pairwise_map.2 ((ih m hm).imp fun {a b} hlt => ?_)
        exact List.cons_lt_cons_self.2 hlt
      · rintro ⟨found, i⟩ ⟨found', j⟩ hlt x hx y hy
        obtain ⟨a, -, rfl⟩ := List.mem_map.1 hx
        obtain ⟨b, -, rfl⟩ := List.mem_map.1 hy
        exact List.cons_lt_cons_iff.2 (.inl hlt)

/-! ## Files -/

/-- The trees at the top of a file. Another tree stands for itself. -/
def topLevel : Node → List Node
  | branch .file parts _ => parts
  | n => [n]

/-- Two trees as one file. -/
def followedBy (n m : Node) : Node := branch .file (n.topLevel ++ m.topLevel) n.pos?

theorem declarationsOf_topLevel (n : Node) : declarationsOf n.topLevel = n.declarations := by
  unfold topLevel
  split
  · rfl
  · exact List.append_nil _

theorem declarations_followedBy (n m : Node) :
    (n.followedBy m).declarations = n.declarations ++ m.declarations := by
  rw [followedBy, declarations, declarationsOf_eq_flatMap, List.flatMap_append,
    ← declarationsOf_eq_flatMap, ← declarationsOf_eq_flatMap, declarationsOf_topLevel,
    declarationsOf_topLevel]

/-- The text that a header gives a constant of the interface. -/
def text? (interface suffix : String) (tree : Node) : Option String :=
  signatureOf (constantName interface suffix) tree.declarations

end Node

variable {name text : String} {d : Declaration} {found : Option String} {tree : Node}

/-! ## The first text -/

/-- A declaration is of the name and has a literal in double quotes as its initialiser. -/
def GivesText (name : String) (d : Declaration) : Prop :=
  d.name = some name ∧ ∃ spelling pos, d.init = some (.constant "string" spelling pos)

/-- The text is that of the first declaration that gives the name one. -/
def FirstText (name : String) (tree : Node) (text : String) : Prop :=
  ∃ place d, tree.Reaches place d ∧ GivesText name d ∧ textOf d.init = .ok text ∧
    ∀ place' d', tree.Reaches place' d' → place' < place → ¬ GivesText name d'

theorem isText_iff {init : Option Node} :
    isText init = true ↔ ∃ spelling pos, init = some (.constant "string" spelling pos) := by
  constructor
  · intro h
    unfold isText at h
    split at h
    · obtain rfl := eq_of_beq h
      exact ⟨_, _, rfl⟩
    · cases h
  · rintro ⟨spelling, pos, rfl⟩
    rfl

theorem textOf_of_isText {init : Option Node} (h : isText init = true) :
    ∃ text, textOf init = .ok text := by
  obtain ⟨spelling, pos, rfl⟩ := isText_iff.1 h
  exact ⟨unquote spelling, rfl⟩

theorem givesText_iff : GivesText name d ↔ (d.name = some name && isText d.init) = true := by
  rw [GivesText, ← isText_iff, Bool.and_eq_true, decide_eq_true_iff]

theorem textFor?_eq_none_iff : textFor? name d = none ↔ ¬ GivesText name d := by
  rw [givesText_iff, ← textFor?_isSome, Option.isSome_iff_ne_none, not_not]

theorem textFor?_eq_some_iff :
    textFor? name d = some text ↔ GivesText name d ∧ textOf d.init = .ok text := by
  by_cases hd : GivesText name d
  · obtain ⟨contents, hcontents⟩ := textOf_of_isText (isText_iff.2 hd.2)
    rw [textFor?, if_pos (givesText_iff.1 hd), hcontents, and_iff_right hd, Except.ok.injEq]
    exact Option.some_inj
  · rw [textFor?_eq_none_iff.2 hd]
    constructor
    · intro h
      cases h
    · exact fun h => absurd h.1 hd

/-- What is found in a list in the order of its keys is found at the first key where there is
something. -/
theorem findSome?_eq_some_iff_of_sorted {α β : Type} {key : α → List Nat} {f : α → Option β}
    {xs : List α} {b : β} (hsorted : xs.Pairwise fun x y => key x < key y) :
    xs.findSome? f = some b ↔ ∃ x ∈ xs, f x = some b ∧ ∀ y ∈ xs, key y < key x → f y = none := by
  constructor
  · intro h
    obtain ⟨before, x, after, rfl, hx, hbefore⟩ := List.findSome?_eq_some_iff.1 h
    refine ⟨x, List.mem_append_right _ List.mem_cons_self, hx, fun y hy hlt => ?_⟩
    rcases List.mem_append.1 hy with hy | hy
    · exact hbefore y hy
    · rcases List.mem_cons.1 hy with rfl | hy
      · exact absurd hlt (List.lt_irrefl _)
      · have hgt := (List.pairwise_cons.1 (List.pairwise_append.1 hsorted).2.1).1 y hy
        exact absurd hlt (List.lt_asymm hgt)
  · rintro ⟨x, hx, hfound, hfirst⟩
    obtain ⟨before, after, rfl⟩ := List.append_of_mem hx
    refine List.findSome?_eq_some_iff.2 ⟨before, x, after, rfl, hfound, fun y hy => ?_⟩
    exact hfirst y (List.mem_append_left _ hy)
      ((List.pairwise_append.1 hsorted).2.2 y hy x List.mem_cons_self)

theorem signatureOf_append (name : String) (ds es : List Declaration) :
    signatureOf name (ds ++ es) = (signatureOf name ds).or (signatureOf name es) :=
  List.findSome?_append

theorem signatureOf_declarations (name : String) (tree : Node) :
    signatureOf name tree.declarations = tree.reached.findSome? fun x => textFor? name x.2 := by
  rw [signatureOf, ← Node.map_snd_reached, List.findSome?_map]
  rfl

theorem signatureOf_eq_some_iff :
    signatureOf name tree.declarations = some text ↔ FirstText name tree text := by
  rw [signatureOf_declarations, findSome?_eq_some_iff_of_sorted tree.sorted_reached]
  simp only [Prod.exists, Prod.forall, Node.mem_reached_iff, textFor?_eq_none_iff,
    textFor?_eq_some_iff, FirstText, and_assoc]

theorem signatureOf_eq_none_iff : signatureOf name tree.declarations = none ↔
    ∀ place d, tree.Reaches place d → ¬ GivesText name d := by
  rw [signatureOf_declarations, List.findSome?_eq_none_iff]
  simp only [Prod.forall, Node.mem_reached_iff, textFor?_eq_none_iff]

/-! ## The search -/

/-- What a search has found after a declaration. -/
def lookAt (name : String) (found : Option String) (d : Declaration) :
    Except ConstantError (Option String) :=
  if found.isSome then .ok found
  else if d.name = some name && d.init.isSome then
    if isText d.init then (textOf d.init).map some else .ok none
  else .ok none

/-- What a search has found after a tree: the parts of a declaration are left out, those of another
node are gone through one after another. -/
def search (name : String) (found : Option String) (n : Node) :
    Except ConstantError (Option String) :=
  match n.declaration? with
  | some d => lookAt name found d
  | none => n.parts.attach.foldlM (fun found m => search name found m.1) found
termination_by n
decreasing_by exact Node.sizeOf_lt_of_mem_parts m.2

theorem search_of_some {n : Node} (h : n.declaration? = some d) :
    search name found n = lookAt name found d := by
  rw [search, h]

theorem search_of_none {n : Node} (h : n.declaration? = none) :
    search name found n = n.parts.foldlM (search name) found := by
  rw [search, h]
  dsimp only
  rw [List.foldlM_subtype fun _ _ _ => rfl, List.unattach_attach]

theorem lookAt_eq (name : String) (found : Option String) (d : Declaration) :
    lookAt name found d = .ok (found.or (textFor? name d)) := by
  cases found with
  | some text => rfl
  | none =>
    rw [Option.none_or, lookAt, textFor?]
    by_cases hname : d.name = some name
    · cases hinit : isText d.init with
      | false => simp [hname]
      | true =>
        obtain ⟨text, htext⟩ := textOf_of_isText hinit
        obtain ⟨spelling, pos, hd⟩ := isText_iff.1 hinit
        simp only [hd] at htext
        simp [hname, hd, htext, Except.map, Except.toOption]
    · simp [hname]

/-- A search does not fail, and keeps what it has found. -/
theorem search_eq (name : String) (found : Option String) (n : Node) :
    search name found n = .ok (found.or (signatureOf name n.declarations)) := by
  induction n using Node.induction generalizing found with
  | step n ih =>
    cases hself : n.declaration? with
    | some d =>
      rw [search_of_some hself, lookAt_eq, Node.declarations_of_some hself, signatureOf,
        List.findSome?_singleton]
    | none =>
      rw [search_of_none hself, Node.declarations_of_none hself]
      generalize n.parts = parts at ih
      induction parts generalizing found with
      | nil => exact congrArg _ (Option.or_none).symm
      | cons m rest ihrest =>
        rw [List.foldlM_cons, ih m List.mem_cons_self]
        refine (ihrest _ fun k hk => ih k (List.mem_cons_of_mem _ hk)).trans ?_
        rw [List.flatMap_cons, signatureOf_append, Option.or_assoc]

/-- **The text of a constant is that of the first declaration that gives it one**, in the order of
places and without the declarations inside others; there is none if no declaration gives it one. A
search for it does not fail, and in two trees one after another the first one that has a text for it
gives it. -/
theorem constantText_first (interface suffix : String) (tree : Node) :
    search (constantName interface suffix) none tree = .ok (tree.text? interface suffix) ∧
    (∀ text, tree.text? interface suffix = some text ↔
      FirstText ("NiFpga_" ++ interface ++ "_" ++ suffix) tree text) ∧
    (tree.text? interface suffix = none ↔ ∀ place d, tree.Reaches place d →
      ¬ GivesText ("NiFpga_" ++ interface ++ "_" ++ suffix) d) ∧
    ∀ tree', (tree.followedBy tree').text? interface suffix =
      (tree.text? interface suffix).or (tree'.text? interface suffix) := by
  have hname : constantName interface suffix = "NiFpga_" ++ interface ++ "_" ++ suffix := rfl
  refine ⟨search_eq _ none tree, fun text => ?_, ?_, fun tree' => ?_⟩
  · rw [← hname]
    exact signatureOf_eq_some_iff
  · rw [← hname]
    exact signatureOf_eq_none_iff
  · rw [Node.text?, Node.declarations_followedBy, signatureOf_append]
    rfl

end FpgaInterface
