import FpgaInterface.Proofs.FileChange
import FpgaInterface.Proofs.PathText

/-!
# Places of files

Two paths may be spelled differently and lead to one place. If they end in names of files, these are
the same then.

* `Path.IsFileName`, `Path.child` : the name of a file, and the path of it in a folder;
* `FileTree.SamePlace` : two paths lead to one place. Then the files have one name
  (`FileTree.SamePlace.name_eq`);
* `FileTree.KeepsFile` : a file holds what it held, or is still not there. This is so of every file
  beside a path when folders are made (`MadeFolders.keepsFile`), and of every file in another place
  when one is put there (`FileTree.keepsFile_put`).
-/

namespace FpgaInterface

namespace Path

variable {name : String}

/-- A name that a file can have. -/
structure IsFileName (name : String) : Prop where
  nonempty : name ≠ ""
  dot : name ≠ "."
  dots : name ≠ ".."
  slash : '/' ∉ name.toList

def child (p : Path) (name : String) : Path := { p with names := p.names ++ [name] }

theorem join_ofText (h : IsFileName name) (p : Path) : p.join (ofText name) = p.child name := by
  have hnormal : IsNormal ⟨"", [name]⟩ := by
    refine ⟨.inl rfl, fun other hother => ?_⟩
    obtain rfl := List.mem_singleton.1 hother
    exact ⟨h.nonempty, h.dot, h.slash⟩
  have htext : text ⟨"", [name]⟩ = name := by simp [text]
  have hname := ofText_text hnormal
  rw [htext] at hname
  rw [hname]
  rfl

theorem child_parent {p : Path} (h : p.names ≠ []) : p.parent.child p.name = p := by
  obtain ⟨root, names⟩ := p
  dsimp only at h
  simp only [child, parent, name, List.getLast?_eq_some_getLast h, Option.getD_some,
    List.dropLast_concat_getLast]

end Path

namespace FileTree

variable {t t' : FileTree} {names names' here : List String} {p q file : Path} {name a b : String}
  {c : Content}

/-! ## Keys -/

theorem exists_front (names : List String) (name : String) :
    ∃ front, (key (names ++ [name])).toList = front ++ '/' :: name.toList := by
  have hkey : (key (names ++ [name])).toList =
      '/' :: Text.joinWith '/' ((names ++ [name]).map String.toList) := by
    unfold key
    rw [String.toList_append, String.toList_intercalate]
    exact congrArg _ (Text.intercalate_eq_joinWith ..)
  rw [hkey]
  clear hkey
  induction names with
  | nil => exact ⟨[], rfl⟩
  | cons first rest ih =>
    obtain ⟨front, hfront⟩ := ih
    refine ⟨'/' :: first.toList ++ front, ?_⟩
    rw [List.cons_append, List.map_cons, Text.joinWith_cons '/' _ (by simp), hfront]
    simp

/-- The keys of files of different names are different. -/
theorem key_inj_last (ha : '/' ∉ a.toList) (hb : '/' ∉ b.toList)
    (h : key (names ++ [a]) = key (names' ++ [b])) : a = b := by
  have hlast : ∀ (front : List Char) {cs : List Char}, '/' ∉ cs →
      (front ++ '/' :: cs).reverse.takeWhile (· != '/') = cs.reverse := by
    intro front cs hcs
    rw [List.reverse_append, List.reverse_cons, List.append_assoc, List.takeWhile_append_of_pos,
      List.singleton_append, List.takeWhile_cons_of_neg (by simp), List.append_nil]
    intro c hc
    exact bne_iff_ne.2 fun h => hcs (h ▸ List.mem_reverse.1 hc)
  obtain ⟨front, hfront⟩ := exists_front names a
  obtain ⟨front', hfront'⟩ := exists_front names' b
  have hreverse := hlast front ha
  rw [← hfront, h, hfront', hlast front' hb] at hreverse
  exact String.toList_inj.1 (List.reverse_inj.1 hreverse.symm)

/-! ## Places -/

/-- The names of the folder in which a path starts. -/
def start (t : FileTree) (p : Path) : List String := if p.isAbsolute then [] else t.folder

theorem follow_append (t : FileTree) (here front rest : List String) :
    t.follow here (front ++ rest) = t.follow here front >>= fun there => t.follow there rest := by
  induction front generalizing here with
  | nil => rfl
  | cons name front ih =>
    rw [List.cons_append, follow, follow]
    cases t.entryAt? here with
    | none => rfl
    | some e => cases e with
      | file c => rfl
      | folder =>
        dsimp only
        split
        · rfl
        · exact ih _

theorem follow_singleton (h : t.entryAt? here = some .folder) (name : String) :
    t.follow here [name] = if longestName < name.utf8ByteSize then .error .tooLong
      else .ok (if name = ".." then here.dropLast else here ++ [name]) := by
  unfold follow
  rw [h]
  rfl

/-- The folder at a path is there, with these names. -/
structure HasFolder (t : FileTree) (p : Path) (here : List String) : Prop where
  follow : t.follow (t.start p) p.names = .ok here
  folder : t.entryAt? here = some .folder

theorem follow_of_locate (h : t.locate p = .ok names) :
    t.follow (t.start p) p.names = .ok names := by
  unfold locate at h
  split at h
  · cases h
  · split at h
    · cases h
    · exact h

theorem exists_hasFolder (h : t.locate (p.child name) = .ok names) :
    ∃ here, t.HasFolder p here ∧
      names = if name = ".." then here.dropLast else here ++ [name] := by
  have hfollow : t.follow (t.start p) (p.names ++ [name]) = .ok names := follow_of_locate h
  rw [follow_append] at hfollow
  cases hhere : t.follow (t.start p) p.names with
  | error kind =>
    rw [hhere] at hfollow
    cases hfollow
  | ok here =>
    rw [hhere] at hfollow
    change t.follow here [name] = .ok names at hfollow
    have hfolder : t.entryAt? here = some .folder := by
      unfold follow at hfollow
      split at hfollow
      · cases hfollow
      · cases hfollow
      · assumption
    rw [follow_singleton hfolder] at hfollow
    split at hfollow
    · cases hfollow
    · exact ⟨here, ⟨hhere, hfolder⟩, (Except.ok.inj hfollow).symm⟩

/-- Where a folder is there in both trees, a name in it leads to the same place. -/
theorem locate_child_eq (h : t.HasFolder p here) (h' : t'.HasFolder p here) (name : String) :
    t'.locate (p.child name) = t.locate (p.child name) := by
  have hfollow : t'.follow (t'.start p) (p.names ++ [name]) =
      t.follow (t.start p) (p.names ++ [name]) := by
    rw [follow_append, follow_append, h.follow, h'.follow]
    change t'.follow here [name] = t.follow here [name]
    rw [follow_singleton h.folder, follow_singleton h'.folder]
  unfold locate
  change (if _ then _ else if _ then _ else t'.follow (t'.start p) (p.names ++ [name])) =
    (if _ then _ else if _ then _ else t.follow (t.start p) (p.names ++ [name]))
  rw [hfollow]

/-- Two paths lead to one place. -/
def SamePlace (t : FileTree) (p q : Path) : Prop :=
  ∃ names names', t.locate p = .ok names ∧ t.locate q = .ok names' ∧ key names = key names'

theorem SamePlace.name_eq (ha : Path.IsFileName a) (hb : Path.IsFileName b)
    (h : t.SamePlace (p.child a) (q.child b)) : a = b := by
  obtain ⟨names, names', hlocate, hlocate', hkey⟩ := h
  obtain ⟨here, -, rfl⟩ := exists_hasFolder hlocate
  obtain ⟨there, -, rfl⟩ := exists_hasFolder hlocate'
  rw [if_neg ha.dots, if_neg hb.dots] at hkey
  exact key_inj_last ha.slash hb.slash hkey

/-! ## Files -/

theorem find_eq_file_iff : t.find p = .ok (.file c) ↔
    ∃ names, t.locate p = .ok names ∧ t.entryAt? names = some (.file c) := by
  unfold find
  cases hlocate : t.locate p with
  | error kind => exact iff_of_false nofun fun ⟨_, h, _⟩ => nomatch h
  | ok names =>
    dsimp only [bind, Except.bind]
    cases hentry : t.entryAt? names <;> simp [hentry]

/-- A file holds what it held, or is still not there. -/
def KeepsFile (file : Path) (t t' : FileTree) : Prop :=
  ∀ c, t'.find file = .ok (.file c) ↔ t.find file = .ok (.file c)

theorem KeepsFile.refl (file : Path) (t : FileTree) : KeepsFile file t t := fun _ => .rfl

theorem KeepsFile.trans {t'' : FileTree} (h : KeepsFile file t t') (h' : KeepsFile file t' t'') :
    KeepsFile file t t'' := fun c => (h' c).trans (h c)

theorem entryAt?_file_iff (hfiles : ∀ k c, t'.entries.get? k = some (.file c) ↔
      t.entries.get? k = some (.file c)) (names : List String) :
    t'.entryAt? names = some (.file c) ↔ t.entryAt? names = some (.file c) := by
  by_cases hnil : names = []
  · rw [hnil, entryAt?_nil, entryAt?_nil]
  · rw [entryAt?_of_ne_nil hnil, entryAt?_of_ne_nil hnil, hfiles]

/-- What is no folder is none after a file is put somewhere. -/
theorem folder_of_put (h : (t.put names (.file c)).entryAt? here = some .folder) :
    t.entryAt? here = some .folder := by
  by_cases hnil : here = []
  · rw [hnil]
    exact entryAt?_nil
  · rw [entryAt?_of_ne_nil hnil] at h ⊢
    rw [get?_put] at h
    split at h
    · cases h
    · exact h

/-- A path leads to the same place after a file is put where no folder is. -/
theorem locate_put_iff (hput : t.entryAt? names ≠ some .folder) :
    (t.put names (.file c)).locate p = .ok names' ↔ t.locate p = .ok names' := by
  constructor
  · exact locate_mono rfl fun _ => folder_of_put
  · exact locate_mono rfl fun _ => entryAt?_put_of_folder hput

/-- A file stays when one is put in another place. -/
theorem keepsFile_put (hput : t.entryAt? names ≠ some .folder)
    (hother : ∀ names', t.locate file = .ok names' → key names' ≠ key names) :
    KeepsFile file t (t.put names (.file c)) := by
  intro c'
  simp only [find_eq_file_iff, locate_put_iff hput]
  refine exists_congr fun names' => and_congr_right fun hlocate => ?_
  by_cases hnil : names' = []
  · rw [hnil, entryAt?_nil, entryAt?_nil]
  · rw [entryAt?_of_ne_nil hnil, entryAt?_of_ne_nil hnil, get?_put, if_neg (hother names' hlocate)]

theorem samePlace_put_iff (hput : t.entryAt? names ≠ some .folder) :
    (t.put names (.file c)).SamePlace p q ↔ t.SamePlace p q := by
  simp only [SamePlace, locate_put_iff hput]

/-- A file stays when another one is written. -/
theorem keepsFile_of_write {text : String} (h : t.write q text = .ok t')
    (hother : ¬ t'.SamePlace q file) : KeepsFile file t t' := by
  obtain ⟨names, hlocate, hput, rfl⟩ := exists_of_write h
  refine keepsFile_put hput fun names' hlocate' hkey => hother ?_
  exact (samePlace_put_iff hput).2 ⟨names, names', hlocate, hlocate', hkey.symm⟩

/-- A path to the place of what is written leads to it. -/
theorem find_of_samePlace {text : String} (h : t.write q text = .ok t')
    (hname : name ≠ "..") (hsame : t'.SamePlace q (p.child name)) :
    t'.find (p.child name) = .ok (.file (.text text)) := by
  obtain ⟨names, hlocate, hput, rfl⟩ := exists_of_write h
  obtain ⟨names', names'', hlocate', hlocate'', hkey⟩ := hsame
  obtain rfl := Except.ok.inj (((locate_put_iff hput).1 hlocate').symm.trans hlocate)
  refine find_eq_file_iff.2 ⟨names'', hlocate'', ?_⟩
  obtain ⟨here, -, rfl⟩ := exists_hasFolder hlocate''
  rw [if_neg hname] at hkey ⊢
  rw [entryAt?_of_ne_nil (by simp), get?_put, if_pos hkey.symm]

theorem exists_hasFolder_of_find {e : FileEntry} (h : t.find (p.child name) = .ok e) :
    ∃ here, t.HasFolder p here := by
  unfold find at h
  cases hlocate : t.locate (p.child name) with
  | error kind =>
    rw [hlocate] at h
    cases h
  | ok names =>
    obtain ⟨here, hhere, -⟩ := exists_hasFolder hlocate
    exact ⟨here, hhere⟩

/-- At the path of a folder that is there, there is no file. -/
theorem HasFolder.find_ne (h : t.HasFolder p here) : t.find p ≠ .ok (.file c) := by
  intro hfind
  obtain ⟨names, hlocate, hfile⟩ := find_eq_file_iff.1 hfind
  obtain rfl := Except.ok.inj (h.follow.symm.trans (follow_of_locate hlocate))
  rw [h.folder] at hfile
  cases hfile

end FileTree

namespace MadeFolders

open FileTree

variable {t t' : FileTree} {output p : Path} {here : List String}

theorem hasFolder (h : MadeFolders output t t') (hhere : t.HasFolder p here) :
    t'.HasFolder p here := by
  refine ⟨?_, h.entryAt? hhere.folder⟩
  have hstart : t'.start p = t.start p := by rw [start, start, h.folder]
  rw [hstart]
  exact follow_mono (fun _ => h.entryAt?) hhere.follow

/-- The files of a folder that is there stay when folders are made. -/
theorem keepsFile (h : MadeFolders output t t') (hhere : t.HasFolder p here) (name : String) :
    KeepsFile (p.child name) t t' := by
  intro c
  rw [find_eq_file_iff, find_eq_file_iff, locate_child_eq hhere (h.hasFolder hhere)]
  exact exists_congr fun names => and_congr_right fun _ =>
    entryAt?_file_iff (fun _ _ => h.file_iff) names

end MadeFolders

end FpgaInterface
