import Mathlib.Data.List.Infix
import StockResearch.Lib.Table

/-!
# Directory trees

What is under one directory: the directories and the files in it, each under the list of
names that leads to it. The operations are those of a file system; none of the result is
one that fails.

- `DirectoryTree.makeDirectory`, `createFile`, `appendFile`, `unlink`, `removeDirectory`:
  the operations.
- `DirectoryTree.Orderly`: every entry is in a directory, and none is deeper than a bound.
- `DirectoryTree.Holds`: exactly these files and these directories.
- `DirectoryTree.Removed`: a tree without some of the entries of another.
-/

namespace StockResearch

/-- An entry of a directory. -/
inductive Node (β : Type) where
  | directory
  | file (content : List β)
deriving DecidableEq

/-- A directory, by the paths of what is under it. -/
abbrev DirectoryTree (β : Type) := Table (List String) (Node β)

namespace DirectoryTree

variable {β : Type}

/-! ## Operations -/

/-- A path of a directory, the empty one that of the tree itself. -/
def isDirectory (tree : DirectoryTree β) (path : List String) : Bool :=
  path = [] || match tree.get? path with
    | some .directory => true
    | _ => false

/-- `mkdir`, for which a directory may be there. -/
def makeDirectory (path : List String) (tree : DirectoryTree β) : Option (DirectoryTree β) :=
  if tree.isDirectory path then some tree
  else
    match tree.get? path with
    | some _ => none
    | none => if tree.isDirectory path.dropLast then some (tree.insert path .directory) else none

/-- The opening of a file to be written anew. -/
def createFile (path : List String) (tree : DirectoryTree β) : Option (DirectoryTree β) :=
  if tree.isDirectory path then none
  else
    match tree.get? path with
    | some _ => some (tree.modify path fun _ => .file [])
    | none => if tree.isDirectory path.dropLast then some (tree.insert path (.file [])) else none

/-- The writing of one item at the end of a file. -/
def appendFile (path : List String) (item : β) (tree : DirectoryTree β) :
    Option (DirectoryTree β) :=
  match tree.get? path with
  | some (.file content) => some (tree.modify path fun _ => .file (content ++ [item]))
  | _ => none

/-- What a file holds. -/
def readFile (path : List String) (tree : DirectoryTree β) : Option (List β) :=
  match tree.get? path with
  | some (.file content) => some content
  | _ => none

/-- An entry of a directory, not of one further down. -/
def isChild (directory path : List String) : Bool := path ≠ [] ∧ path.dropLast = directory

/-- The directories and the files in a directory. -/
def listing (directory : List String) (tree : DirectoryTree β) :
    List (List String) × List (List String) :=
  ((tree.select fun path node => isChild directory path && match node with
      | .directory => true
      | .file _ => false).map Prod.fst,
    (tree.select fun path node => isChild directory path && match node with
      | .directory => false
      | .file _ => true).map Prod.fst)

/-- The tree without one entry. -/
def erase (tree : DirectoryTree β) (path : List String) : DirectoryTree β :=
  tree.deleteWhere fun key _ => decide (key = path)

/-- `unlink` -/
def unlink (path : List String) (tree : DirectoryTree β) : Option (DirectoryTree β) :=
  match tree.get? path with
  | some (.file _) => some (tree.erase path)
  | _ => none

/-- `rmdir` -/
def removeDirectory (path : List String) (tree : DirectoryTree β) : Option (DirectoryTree β) :=
  match tree.get? path with
  | some .directory =>
    if (tree.select fun key _ => isChild path key).isEmpty then some (tree.erase path) else none
  | _ => none

/-! ## What they do -/

theorem isDirectory_iff {tree : DirectoryTree β} {path : List String} :
    tree.isDirectory path = true ↔ path = [] ∨ tree.get? path = some .directory := by
  unfold isDirectory
  cases tree.get? path with
  | none => simp
  | some node => cases node <;> simp

theorem isChild_iff {directory path : List String} :
    isChild directory path = true ↔ ∃ name, path = directory ++ [name] := by
  simp only [isChild, decide_eq_true_eq]
  constructor
  · rintro ⟨hne, rfl⟩
    exact ⟨path.getLast hne, (List.dropLast_append_getLast hne).symm⟩
  · rintro ⟨name, rfl⟩
    simp

theorem get?_erase {tree : DirectoryTree β} {path key : List String} :
    (tree.erase path).get? key = if key = path then none else tree.get? key :=
  Table.get?_deleteKey tree path key

theorem mem_listing_directories {tree : DirectoryTree β} {directory path : List String} :
    path ∈ (listing directory tree).1 ↔
      isChild directory path = true ∧ tree.get? path = some .directory := by
  simp only [listing, List.mem_map, Prod.exists, Table.mem_select, Bool.and_eq_true]
  constructor
  · rintro ⟨key, node, ⟨hget, hchild, hnode⟩, rfl⟩
    cases node with
    | directory => exact ⟨hchild, hget⟩
    | file content => cases hnode
  · rintro ⟨hchild, hget⟩
    exact ⟨path, .directory, ⟨hget, hchild, rfl⟩, rfl⟩

theorem mem_listing_files {tree : DirectoryTree β} {directory path : List String} :
    path ∈ (listing directory tree).2 ↔
      isChild directory path = true ∧ ∃ content, tree.get? path = some (.file content) := by
  simp only [listing, List.mem_map, Prod.exists, Table.mem_select, Bool.and_eq_true]
  constructor
  · rintro ⟨key, node, ⟨hget, hchild, hnode⟩, rfl⟩
    cases node with
    | directory => cases hnode
    | file content => exact ⟨hchild, content, hget⟩
  · rintro ⟨hchild, content, hget⟩
    exact ⟨path, .file content, ⟨hget, hchild, rfl⟩, rfl⟩

theorem nodup_listing (directory : List String) (tree : DirectoryTree β) :
    (listing directory tree).1.Nodup ∧ (listing directory tree).2.Nodup :=
  ⟨Table.select_keys_nodup _ _, Table.select_keys_nodup _ _⟩

/-- A new directory or a new file in a directory. -/
theorem get?_insert_new {tree : DirectoryTree β} {path key : List String} {node : Node β}
    (h : tree.get? path = none) :
    Table.get? (Table.insert tree path node) key =
      if key = path then some node else tree.get? key :=
  Table.get?_insert h node key

theorem removeDirectory_eq_some {tree : DirectoryTree β} {path : List String}
    (hget : tree.get? path = some .directory)
    (hempty : ∀ key, isChild path key = true → tree.get? key = none) :
    removeDirectory path tree = some (tree.erase path) := by
  have hnone : (tree.select fun key _ => isChild path key) = [] := by
    rw [Table.select_eq_nil_iff]
    intro key node hkey
    cases hchild : isChild path key with
    | false => rfl
    | true => exact absurd ((hempty key hchild).symm.trans hkey) nofun
  rw [removeDirectory, hget]
  exact if_pos (by simp [hnone])

/-! ## Trees in order -/

/-- Every entry is in a directory of the tree, and no path is longer than the depth. -/
structure Orderly (depth : Nat) (tree : DirectoryTree β) : Prop where
  entries : ∀ path node, tree.get? path = some node →
    path ≠ [] ∧ tree.isDirectory path.dropLast = true
  shallow : ∀ path node, tree.get? path = some node → path.length ≤ depth

theorem isDirectory_mono {tree tree' : DirectoryTree β} {path : List String}
    (h : ∀ key, tree.get? key = some .directory → tree'.get? key = some .directory)
    (hpath : tree.isDirectory path = true) : tree'.isDirectory path = true := by
  rw [isDirectory_iff] at hpath ⊢
  exact hpath.imp_right (h path)

theorem Orderly.empty (depth : Nat) : Orderly depth (Table.empty : DirectoryTree β) where
  entries _ _ h := by cases h
  shallow _ _ h := by cases h

namespace Orderly

variable {depth : Nat} {tree tree' : DirectoryTree β} {path : List String}

theorem insert (h : Orderly depth tree) {node : Node β} (hnew : tree.get? path = none)
    (hne : path ≠ []) (hparent : tree.isDirectory path.dropLast = true)
    (hlength : path.length ≤ depth) : Orderly depth (Table.insert tree path node) := by
  have hmono : ∀ key, tree.get? key = some .directory →
      (Table.insert tree path node).get? key = some .directory := by
    intro key hkey
    rw [get?_insert_new hnew, if_neg]
    · exact hkey
    · rintro rfl
      exact absurd (hnew.symm.trans hkey) nofun
  constructor
  · intro key other hkey
    rw [get?_insert_new hnew] at hkey
    split at hkey
    · rename_i heq
      subst heq
      exact ⟨hne, isDirectory_mono hmono hparent⟩
    · exact ⟨(h.entries key other hkey).1, isDirectory_mono hmono (h.entries key other hkey).2⟩
  · intro key other hkey
    rw [get?_insert_new hnew] at hkey
    split at hkey
    · rename_i heq
      exact heq ▸ hlength
    · exact h.shallow key other hkey

/-- What a file holds is no matter. -/
theorem modifyFile (h : Orderly depth tree) {node : Node β} (hget : tree.get? path = some node)
    (hfile : tree.isDirectory path = false) (content : List β) :
    Orderly depth (Table.modify tree path fun _ => .file content) := by
  have hold : ∀ key other, (Table.modify tree path fun _ => .file content).get? key = some other →
      ∃ old, tree.get? key = some old := by
    intro key other hkey
    rw [Table.get?_modify] at hkey
    split at hkey
    · rename_i heq
      exact ⟨node, heq ▸ hget⟩
    · exact ⟨other, hkey⟩
  have hmono : ∀ key, tree.get? key = some .directory →
      (Table.modify tree path fun _ => Node.file content).get? key = some .directory := by
    intro key hkey
    rw [Table.get?_modify, if_neg]
    · exact hkey
    · rintro rfl
      exact absurd (isDirectory_iff.mpr (.inr hkey)) (by simp [hfile])
  constructor
  · intro key other hkey
    obtain ⟨old, hget'⟩ := hold key other hkey
    exact ⟨(h.entries key old hget').1, isDirectory_mono hmono (h.entries key old hget').2⟩
  · intro key other hkey
    obtain ⟨old, hget'⟩ := hold key other hkey
    exact h.shallow key old hget'

theorem ne_nil_of_not_isDirectory (h : tree.isDirectory path = false) : path ≠ [] := by
  rintro rfl
  exact absurd h (by simp [isDirectory])

theorem makeDirectory (h : Orderly depth tree) (hlength : path.length ≤ depth)
    (hmake : DirectoryTree.makeDirectory path tree = some tree') : Orderly depth tree' := by
  unfold DirectoryTree.makeDirectory at hmake
  split at hmake
  · cases hmake
    exact h
  · rename_i hfile
    split at hmake
    · cases hmake
    · rename_i hnew
      split at hmake
      · rename_i hparent
        cases hmake
        exact h.insert hnew (ne_nil_of_not_isDirectory (eq_false_of_ne_true hfile)) hparent hlength
      · cases hmake

theorem createFile (h : Orderly depth tree) (hlength : path.length ≤ depth)
    (hcreate : DirectoryTree.createFile path tree = some tree') : Orderly depth tree' := by
  unfold DirectoryTree.createFile at hcreate
  split at hcreate
  · cases hcreate
  · rename_i hfile
    split at hcreate
    · rename_i hget
      cases hcreate
      exact h.modifyFile hget (eq_false_of_ne_true hfile) []
    · rename_i hnew
      split at hcreate
      · rename_i hparent
        cases hcreate
        exact h.insert hnew (ne_nil_of_not_isDirectory (eq_false_of_ne_true hfile)) hparent hlength
      · cases hcreate

theorem appendFile (h : Orderly depth tree) {item : β}
    (happend : DirectoryTree.appendFile path item tree = some tree') : Orderly depth tree' := by
  unfold DirectoryTree.appendFile at happend
  split at happend
  · rename_i content hget
    cases happend
    refine h.modifyFile hget (eq_false_of_ne_true fun hdirectory => ?_) _
    rcases isDirectory_iff.mp hdirectory with rfl | hdir
    · exact (h.entries _ _ hget).1 rfl
    · cases hget.symm.trans hdir
  · cases happend

/-- Everything on the way to an entry is a directory. -/
theorem isDirectory_of_prefix (h : Orderly depth tree) {directory : List String} {node : Node β}
    (hget : tree.get? path = some node) (hstart : directory <+: path) (hne : directory ≠ path) :
    tree.isDirectory directory = true := by
  induction path using List.reverseRecOn generalizing node with
  | nil => exact absurd (List.prefix_nil.mp hstart) hne
  | append_singleton path name ih =>
    have hparent := (h.entries _ _ hget).2
    rw [List.dropLast_concat] at hparent
    have hstart' : directory <+: path := (List.prefix_concat_iff.mp hstart).resolve_left hne
    by_cases heq : directory = path
    · exact heq ▸ hparent
    · rcases isDirectory_iff.mp hparent with rfl | hdir
      · exact absurd (List.prefix_nil.mp hstart') heq
      · exact ih hdir hstart' heq

end Orderly

/-! ## What a tree holds -/

/-- The files and the directories of a tree are exactly these. -/
structure Holds (files : List (List String × List β)) (directories : List String → Prop)
    (tree : DirectoryTree β) : Prop where
  files : ∀ path content, tree.get? path = some (.file content) ↔ (path, content) ∈ files
  directories : ∀ path, tree.get? path = some .directory ↔ directories path

namespace Holds

variable {files : List (List String × List β)} {directories : List String → Prop}
  {tree : DirectoryTree β} {path : List String}

theorem isDirectory (h : Holds files directories tree) :
    tree.isDirectory path = true ↔ path = [] ∨ directories path := by
  rw [isDirectory_iff, h.directories]

theorem get?_eq_none (h : Holds files directories tree) (hfile : ∀ content, (path, content) ∉ files)
    (hdirectory : ¬ directories path) : tree.get? path = none := by
  cases hget : tree.get? path with
  | none => rfl
  | some node =>
    cases node with
    | directory => exact absurd ((h.directories path).mp hget) hdirectory
    | file content => exact absurd ((h.files path content).mp hget) (hfile content)

/-- A directory is made, if there is not a file. -/
theorem makeDirectory (h : Holds files directories tree) (hne : path ≠ [])
    (hfile : ∀ content, (path, content) ∉ files)
    (hparent : path.dropLast = [] ∨ directories path.dropLast) :
    ∃ tree', DirectoryTree.makeDirectory path tree = some tree' ∧
      Holds files (fun key => directories key ∨ key = path) tree' := by
  unfold DirectoryTree.makeDirectory
  -- a directory that is there is kept
  by_cases hdirectory : directories path
  · refine ⟨tree, if_pos (h.isDirectory.mpr (.inr hdirectory)), h.files, fun key => ?_⟩
    rw [h.directories]
    constructor
    · exact .inl
    · rintro (hkey | rfl)
      · exact hkey
      · exact hdirectory
  · have hnone := h.get?_eq_none hfile hdirectory
    have hnot : ¬ tree.isDirectory path = true := fun hdir =>
      (h.isDirectory.mp hdir).elim hne hdirectory
    rw [if_neg hnot, hnone]
    refine ⟨_, if_pos (h.isDirectory.mpr hparent), fun key content => ?_, fun key => ?_⟩
    · rw [get?_insert_new hnone, ← h.files]
      split
      · rename_i heq
        subst heq
        simp [hnone]
      · rfl
    · rw [get?_insert_new hnone, ← h.directories]
      split
      · rename_i heq
        simp [heq]
      · rename_i hkey
        simp [hkey]

/-- A file is created, if there is not an entry. -/
theorem createFile (h : Holds files directories tree) (hne : path ≠ [])
    (hfile : ∀ content, (path, content) ∉ files) (hdirectory : ¬ directories path)
    (hparent : path.dropLast = [] ∨ directories path.dropLast) :
    ∃ tree', DirectoryTree.createFile path tree = some tree' ∧
      Holds (files ++ [(path, [])]) directories tree' := by
  have hnone := h.get?_eq_none hfile hdirectory
  have hnot : ¬ tree.isDirectory path = true := fun hdir =>
    (h.isDirectory.mp hdir).elim hne hdirectory
  unfold DirectoryTree.createFile
  rw [if_neg hnot, hnone]
  refine ⟨_, if_pos (h.isDirectory.mpr hparent), fun key content => ?_, fun key => ?_⟩
  · rw [get?_insert_new hnone, List.mem_append, ← h.files, List.mem_singleton, Prod.mk.injEq]
    split
    · rename_i heq
      subst heq
      simp [hnone, eq_comm]
    · rename_i hkey
      simp [hkey]
  · rw [get?_insert_new hnone, ← h.directories]
    split
    · rename_i heq
      subst heq
      simp [hnone]
    · rfl

/-- The last file grows by an item. -/
theorem appendFile {content : List β} {item : β}
    (h : Holds (files ++ [(path, content)]) directories tree)
    (hfile : ∀ content, (path, content) ∉ files) :
    ∃ tree', DirectoryTree.appendFile path item tree = some tree' ∧
      Holds (files ++ [(path, content ++ [item])]) directories tree' := by
  have hget : tree.get? path = some (.file content) := (h.files path content).mpr (by simp)
  refine ⟨tree.modify path fun _ => .file (content ++ [item]), by
    rw [DirectoryTree.appendFile, hget], fun key other => ?_, fun key => ?_⟩
  · have hold := h.files key other
    rw [List.mem_append, List.mem_singleton, Prod.mk.injEq] at hold ⊢
    rw [Table.get?_modify]
    split
    · rename_i heq
      subst heq
      simp [hget, hfile, eq_comm]
    · rename_i hkey
      simpa [hkey] using hold
  · rw [Table.get?_modify, ← h.directories]
    split
    · rename_i heq
      subst heq
      simp [hget]
    · rfl

theorem readFile {content : List β} (h : Holds files directories tree)
    (hmem : (path, content) ∈ files) : DirectoryTree.readFile path tree = some content := by
  rw [DirectoryTree.readFile, (h.files path content).mpr hmem]

end Holds

/-! ## Removal -/

/-- An entry further down. -/
def Under (directory path : List String) : Prop := directory <+: path ∧ directory ≠ path

theorem Under.trans_start {a b c : List String} (h : Under a b) (hbc : b <+: c) : Under a c := by
  refine ⟨h.1.trans hbc, ?_⟩
  rintro rfl
  exact h.2 (h.1.eq_of_length_le hbc.length_le)

theorem Under.of_child {directory path : List String} (h : isChild directory path = true) :
    Under directory path := by
  obtain ⟨name, rfl⟩ := isChild_iff.mp h
  exact ⟨List.prefix_append _ _, by simp⟩

/-- An entry further down is a child, or further down than one. -/
theorem Under.child {directory path : List String} (h : Under directory path) :
    ∃ child, isChild directory child = true ∧ child <+: path := by
  obtain ⟨⟨rest, rfl⟩, hne⟩ := h
  cases rest with
  | nil => exact absurd (List.append_nil directory).symm hne
  | cons name rest =>
    exact ⟨directory ++ [name], isChild_iff.mpr ⟨name, rfl⟩, rest, by simp⟩

/-- What one tree has and another has not. -/
structure Removed (gone : List String → Prop) (before tree : DirectoryTree β) : Prop where
  absent : ∀ path, gone path → tree.get? path = none
  kept : ∀ path, ¬ gone path → tree.get? path = before.get? path

namespace Removed

variable {gone gone' : List String → Prop} {before tree tree' : DirectoryTree β}
  {path : List String}

/-- Nothing of what would be gone was there. -/
theorem of_absent (h : ∀ path, gone path → before.get? path = none) :
    Removed gone before before := ⟨h, fun _ _ => rfl⟩

theorem congr (h : Removed gone before tree)
    (hiff : ∀ path node, before.get? path = some node → (gone path ↔ gone' path)) :
    Removed gone' before tree := by
  have habsent : ∀ path, before.get? path = none → tree.get? path = none := by
    intro path hnone
    by_cases hgone : gone path
    · exact h.absent path hgone
    · exact (h.kept path hgone).trans hnone
  constructor
  · intro path hgone
    cases hget : before.get? path with
    | none => exact habsent path hget
    | some node => exact h.absent path ((hiff path node hget).mpr hgone)
  · intro path hkept
    cases hget : before.get? path with
    | none => exact habsent path hget
    | some node =>
      exact (h.kept path fun hgone => hkept ((hiff path node hget).mp hgone)).trans hget

theorem trans (h : Removed gone before tree) (h' : Removed gone' tree tree') :
    Removed (fun path => gone path ∨ gone' path) before tree' := by
  constructor
  · intro path hgone
    by_cases hlater : gone' path
    · exact h'.absent path hlater
    · exact (h'.kept path hlater).trans (h.absent path (hgone.resolve_right hlater))
  · intro path hkept
    rw [not_or] at hkept
    exact (h'.kept path hkept.2).trans (h.kept path hkept.1)

theorem erase : Removed (fun key => key = path) tree (tree.erase path) := by
  constructor
  · rintro key rfl
    rw [get?_erase, if_pos rfl]
  · intro key hkey
    rw [get?_erase, if_neg hkey]

theorem unlink (h : Removed gone before tree) {content : List β}
    (hget : before.get? path = some (.file content)) (hkept : ¬ gone path) :
    ∃ tree', DirectoryTree.unlink path tree = some tree' ∧
      Removed (fun key => gone key ∨ key = path) before tree' := by
  refine ⟨tree.erase path, ?_, h.trans erase⟩
  rw [DirectoryTree.unlink, h.kept path hkept, hget]

theorem removeDirectory (h : Removed gone before tree)
    (hget : before.get? path = some .directory) (hkept : ¬ gone path)
    (hempty : ∀ key, isChild path key = true → gone key) :
    ∃ tree', DirectoryTree.removeDirectory path tree = some tree' ∧
      Removed (fun key => gone key ∨ key = path) before tree' :=
  ⟨tree.erase path, removeDirectory_eq_some ((h.kept path hkept).trans hget)
    fun key hchild => h.absent key (hempty key hchild), h.trans erase⟩

/-- What is left is in order, if nothing was left in what is gone. -/
theorem orderly (h : Removed gone before tree) {depth : Nat} (horderly : Orderly depth before)
    (hdown : ∀ path, gone path.dropLast → gone path) : Orderly depth tree := by
  have hbefore : ∀ path node, tree.get? path = some node →
      ¬ gone path ∧ before.get? path = some node := by
    intro path node hget
    have hkept : ¬ gone path := fun hgone => nomatch (h.absent path hgone).symm.trans hget
    exact ⟨hkept, (h.kept path hkept).symm.trans hget⟩
  constructor
  · intro path node hget
    obtain ⟨hkept, hget'⟩ := hbefore path node hget
    obtain ⟨hne, hparent⟩ := horderly.entries path node hget'
    refine ⟨hne, isDirectory_iff.mpr ((isDirectory_iff.mp hparent).imp_right fun hdir => ?_)⟩
    exact (h.kept _ fun hgone => hkept (hdown path hgone)).trans hdir
  · intro path node hget
    exact horderly.shallow path node (hbefore path node hget).2

end Removed

end DirectoryTree

end StockResearch
