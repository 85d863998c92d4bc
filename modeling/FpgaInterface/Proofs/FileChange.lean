import FpgaInterface.Files.Tree

/-!
# What changes in a tree of files

A path leads on through folders, so it leads where it did as long as those folders stay.

* `FileTree.follow_mono`, `FileTree.locate_mono` : paths lead where they did;
* `MadeFolders p t t'` : everything in `t` stays, and what is new in `t'` is folders on the way of
  `p`;
* `madeFolders_makeFolders` : this is what making folders does, also if it fails;
* `WroteFile output file text t t'` : beside those, a file is written where its path leads
  (`MadeFolders.wroteFile`).
-/

namespace FpgaInterface

namespace FileTree

variable {t t' : FileTree} {names ns : List String} {e : FileEntry} {p : Path}

/-! ## Entries -/

theorem get?_put (k : String) :
    (t.put names e).entries.get? k = if k = key names then some e else t.entries.get? k :=
  SortedMap.get?_insert ..

theorem entryAt?_nil : t.entryAt? [] = some .folder := rfl

theorem entryAt?_of_ne_nil (h : names ≠ []) : t.entryAt? names = t.entries.get? (key names) := by
  unfold entryAt?
  rw [if_neg (by simpa using h)]

theorem ne_nil_of_entryAt?_ne (h : t.entryAt? names ≠ some .folder) : names ≠ [] := by
  rintro rfl
  exact h entryAt?_nil

/-- A folder stays where something is put that is no folder. -/
theorem entryAt?_put_of_folder (hput : t.entryAt? ns ≠ some .folder)
    (h : t.entryAt? names = some .folder) : (t.put ns e).entryAt? names = some .folder := by
  by_cases hnil : names = []
  · rw [hnil]
    exact entryAt?_nil
  · rw [entryAt?_of_ne_nil hnil] at h ⊢
    rw [entryAt?_of_ne_nil (ne_nil_of_entryAt?_ne hput)] at hput
    rw [get?_put, if_neg, h]
    -- two lists of names may have one key, and then the entry would be the folder
    intro hkey
    exact hput (hkey ▸ h)

theorem entryAt?_put_self (h : names ≠ []) : (t.put names e).entryAt? names = some e := by
  rw [entryAt?_of_ne_nil h, get?_put, if_pos rfl]

/-! ## Paths -/

/-- Names lead where they did if the folders on the way stay. -/
theorem follow_mono (hfolders : ∀ ns, t.entryAt? ns = some .folder → t'.entryAt? ns = some .folder)
    {here rest : List String} (h : t.follow here rest = .ok names) :
    t'.follow here rest = .ok names := by
  induction rest generalizing here with
  | nil => exact h
  | cons name rest ih =>
    rw [follow] at h ⊢
    cases hentry : t.entryAt? here with
    | none =>
      rw [hentry] at h
      cases h
    | some entry =>
      cases entry with
      | file c =>
        rw [hentry] at h
        cases h
      | folder =>
        rw [hentry] at h
        rw [hfolders here hentry]
        dsimp only at h ⊢
        split at h
        · cases h
        · next hlong =>
          rw [if_neg hlong]
          exact ih h

theorem locate_mono (hfolder : t'.folder = t.folder)
    (hfolders : ∀ ns, t.entryAt? ns = some .folder → t'.entryAt? ns = some .folder)
    (h : t.locate p = .ok names) : t'.locate p = .ok names := by
  unfold locate at h ⊢
  rw [hfolder]
  split at h
  · cases h
  · next hnull =>
    rw [if_neg hnull]
    split at h
    · cases h
    · next hlong =>
      rw [if_neg hlong]
      exact follow_mono hfolders h

/-! ## Writing -/

theorem exists_of_makeFolder (h : t.makeFolder p = .ok t') :
    ∃ names, t.locate p = .ok names ∧ t.entryAt? names = none ∧ t' = t.put names .folder := by
  unfold makeFolder at h
  split at h
  · cases h
  · next names hlocate =>
    split at h
    · cases h
    · next hnone =>
      split at h
      · cases h
        exact ⟨names, hlocate, hnone, rfl⟩
      · cases h
      · cases h

theorem exists_of_write {text : String} (h : t.write p text = .ok t') :
    ∃ names, t.locate p = .ok names ∧ t.entryAt? names ≠ some .folder ∧
      t' = t.put names (.file (.text text)) := by
  unfold write at h
  split at h
  · cases h
  · next names hlocate =>
    refine ⟨names, hlocate, ?_⟩
    split at h
    · cases h
    · next hfile =>
      cases h
      exact ⟨by rw [hfile]; nofun, rfl⟩
    · next hnone =>
      split at h
      · cases h
        exact ⟨by rw [hnone]; nofun, rfl⟩
      · cases h
      · cases h

/-- A path leads where it did if it leads to no folder that goes. -/
theorem locate_put (hlocate : t.locate p = .ok names) (hput : t.entryAt? names ≠ some .folder) :
    (t.put names e).locate p = .ok names :=
  locate_mono (t := t) rfl (fun _ => entryAt?_put_of_folder hput) hlocate

theorem find_put (hlocate : t.locate p = .ok names) (hput : t.entryAt? names ≠ some .folder) :
    (t.put names e).find p = .ok e := by
  have hentry := entryAt?_put_self (t := t) (e := e) (ne_nil_of_entryAt?_ne hput)
  unfold find
  rw [locate_put hlocate hput]
  dsimp only [bind, Except.bind]
  rw [hentry]

end FileTree

/-! ## Making folders -/

/-- Everything in the first tree stays, and only folders on the way of a path are new in the second
one. -/
structure MadeFolders (p : Path) (t t' : FileTree) : Prop where
  folder : t'.folder = t.folder
  stays : ∀ k e, t.entries.get? k = some e → t'.entries.get? k = some e
  made : ∀ k e, t.entries.get? k = none → t'.entries.get? k = some e →
    e = .folder ∧ ∃ n names, t'.locate { p with names := p.names.take n } = .ok names ∧
      k = FileTree.key names

namespace MadeFolders

variable {p : Path} {t t' t'' : FileTree}

theorem entryAt? (h : MadeFolders p t t') {names : List String} {e : FileEntry}
    (he : t.entryAt? names = some e) : t'.entryAt? names = some e := by
  by_cases hnil : names = []
  · rw [hnil] at he ⊢
    exact he
  · rw [FileTree.entryAt?_of_ne_nil hnil] at he ⊢
    exact h.stays _ _ he

theorem refl (p : Path) (t : FileTree) : MadeFolders p t t where
  folder := rfl
  stays _ _ he := he
  made k e hnone he := by
    rw [hnone] at he
    cases he

theorem trans (h : MadeFolders p t t') (h' : MadeFolders p t' t'') : MadeFolders p t t'' where
  folder := h'.folder.trans h.folder
  stays k e he := h'.stays k e (h.stays k e he)
  made k e hnone he := by
    cases hmiddle : t'.entries.get? k with
    | none => exact h'.made k e hmiddle he
    | some e' =>
      obtain rfl := Option.some.inj ((h'.stays k e' hmiddle).symm.trans he)
      obtain ⟨hfolder, n, names, hlocate, hkey⟩ := h.made k e' hnone hmiddle
      exact ⟨hfolder, n, names,
        FileTree.locate_mono h'.folder (fun _ => h'.entryAt?) hlocate, hkey⟩

theorem file_iff (h : MadeFolders p t t') {k : String} {c : Content} :
    t'.entries.get? k = some (.file c) ↔ t.entries.get? k = some (.file c) := by
  refine ⟨fun h' => ?_, h.stays k _⟩
  cases hentry : t.entries.get? k with
  | none =>
    obtain ⟨hfolder, -⟩ := h.made k _ hentry h'
    cases hfolder
  | some e => rw [← h.stays k e hentry, h']

theorem makeFolder {n : Nat} (h : t.makeFolder { p with names := p.names.take n } = .ok t') :
    MadeFolders p t t' := by
  obtain ⟨names, hlocate, hnone, rfl⟩ := FileTree.exists_of_makeFolder h
  have hput : t.entryAt? names ≠ some .folder := by
    rw [hnone]
    nofun
  rw [FileTree.entryAt?_of_ne_nil (FileTree.ne_nil_of_entryAt?_ne hput)] at hnone
  refine ⟨rfl, fun k e he => ?_, fun k e hk he => ?_⟩
  · rw [FileTree.get?_put, if_neg, he]
    rintro rfl
    rw [hnone] at he
    cases he
  · rw [FileTree.get?_put] at he
    split at he
    · next hkey =>
      cases he
      exact ⟨rfl, n, names, FileTree.locate_put hlocate hput, hkey⟩
    · rw [hk] at he
      cases he

theorem makeFoldersUpTo (p : Path) (t : FileTree) (n : Nat) :
    MadeFolders p t (t.makeFoldersUpTo p n).1 := by
  induction n with
  | zero => exact .refl p t
  | succ n ih =>
    unfold FileTree.makeFoldersUpTo
    dsimp only
    cases hmake : t.makeFolder { p with names := p.names.take (n + 1) } with
    | ok t' => exact .makeFolder hmake
    | error kind =>
      cases kind with
      | missing =>
        dsimp only
        generalize t.makeFoldersUpTo p n = outcome at ih ⊢
        obtain ⟨t', result⟩ := outcome
        cases result with
        | error e => exact ih
        | ok _ =>
          dsimp only at ih ⊢
          cases hmake' : t'.makeFolder { p with names := p.names.take (n + 1) } with
          | ok t'' => exact ih.trans (.makeFolder hmake')
          | error kind =>
            dsimp only
            split <;> exact ih
      -- every other fault only asks whether the folder is there
      | _ =>
        dsimp only
        split <;> exact .refl p t

/-- Making the folders of a path does nothing else, also if it fails. -/
theorem makeFolders (p : Path) (t : FileTree) : MadeFolders p t (t.makeFolders p).1 :=
  makeFoldersUpTo p t p.names.length

end MadeFolders

/-- A file is written. Otherwise everything stays, and only folders on the way of the output are
new. -/
structure WroteFile (output file : Path) (text : String) (t t' : FileTree) : Prop where
  found : t'.find file = .ok (.file (.text text))
  elsewhere : ∃ names made, t'.locate file = .ok names ∧ MadeFolders output t made ∧
    t' = made.put names (.file (.text text)) ∧
    ∀ k c, k ≠ FileTree.key names →
      (t'.entries.get? k = some (.file c) ↔ t.entries.get? k = some (.file c))

theorem MadeFolders.wroteFile {output file : Path} {text : String} {t made t' : FileTree}
    (h : MadeFolders output t made) (hwrite : made.write file text = .ok t') :
    WroteFile output file text t t' := by
  obtain ⟨names, hlocate, hput, rfl⟩ := FileTree.exists_of_write hwrite
  refine ⟨FileTree.find_put hlocate hput, names, made, FileTree.locate_put hlocate hput, h, rfl, ?_⟩
  intro k c hk
  rw [FileTree.get?_put, if_neg hk, h.file_iff]

end FpgaInterface
