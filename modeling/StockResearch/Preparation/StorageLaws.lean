import Mathlib.Data.List.Pairwise
import StockResearch.Preparation.Storage

/-!
# A preparation is published whole or not at all

The staging directory is the only entry of the root that changes before the rename, it holds
exactly the files once they are staged, and what is in it can always be removed again. Which
mappings are accepted is a matter of the paths alone: normal texts of relative paths, no one
a directory of another, so that no file stands in the way of the next.

- `WellFormed`: the mappings that are meant to be accepted.
- `AllOrNothing`: what an end of a publication leaves in the root.
- `PublicationLaw`: both, with the writes of accepted files.
- `publicationLaw_iff`: the law holds but for the mapping of the single dot.
-/

namespace StockResearch.Preparation

open DirectoryTree (Orderly Holds Under Removed isChild)

/-! ## The law -/

/-- A normalized relative path with at least one name, as the check means it. -/
def IsNormalizedPath (text : String) : Prop :=
  ∃ names, names ≠ [] ∧ (∀ name ∈ names, IsName name ∧ name ≠ ".." ∧ '\\' ∉ name.toList) ∧
    text = joined names

/-- The mappings that are meant to be accepted. -/
structure WellFormed (files : FileMapping) : Prop where
  nonempty : files.items ≠ []
  bytes : ∀ item ∈ files.items, ∃ content, item.2 = .bytes content
  normalized : ∀ item ∈ files.items, IsNormalizedPath item.1
  apart : ∀ a ∈ files.items, ∀ b ∈ files.items, ∀ rest, b.1 ≠ a.1 ++ "/" ++ rest

/-- The mapping of the single dot. -/
def IsSingleDot (files : FileMapping) : Prop := ∃ content, files.items = [(".", .bytes content)]

/-- The names of the path of a file. -/
def partsOf (file : String × Bytes) : List String := (PosixPath.ofText file.1).parts

/-- A directory that one of the files is in. -/
def IsDirectoryOf (files : List (String × Bytes)) (path : List String) : Prop :=
  path ≠ [] ∧ ∃ file ∈ files, Under path (partsOf file)

/-- The files of a tree are exactly these, and its directories are the ones they are in. -/
def Complete (files : List (String × Bytes)) (tree : DirectoryTree UInt8) : Prop :=
  Holds (files.map fun file => (partsOf file, file.2)) (IsDirectoryOf files) tree

/-- What the end of a publication leaves in the root. -/
structure AllOrNothing (sha256 : Bytes → String) (name staging : String) (files : FileMapping)
    (ev : StoragePoint → Event StorageError) (before : Root)
    (result : Outcome StorageError PreparationReceipt × Root) : Prop where
  raised : ∀ e after, result = (.raised e, after) →
    after.get? name = before.get? name ∧ (∀ entry, entry ≠ staging →
      after.get? entry = before.get? entry) ∧
      ((∀ point : StoragePoint, point.isCleanup = true → ev point = .proceeds) →
        ∀ entry, after.get? entry = before.get? entry)
  returned : ∀ receipt after, result = (.ok receipt, after) →
    ∃ contents : List (String × Bytes),
      files.items = contents.map (fun file => (file.1, .bytes file.2)) ∧
      receipt = ⟨name, contents.map fun file => ⟨file.1, sha256 file.2⟩⟩ ∧
      (∃ tree, after.get? name = some (.directory tree) ∧ Complete contents tree) ∧
      ∀ entry, entry ≠ name → after.get? entry = before.get? entry
  stopped : ∀ after, result = (.crashed, after) →
    ∀ entry, entry ≠ staging → after.get? entry = before.get? entry

/-- **The law of publication**: exactly the well-formed mappings are accepted, their files
do not stand in each other's way, and whatever happens at the steps, a preparation is
exposed whole or nothing is. -/
structure PublicationLaw (files : FileMapping) : Prop where
  accepts : (∃ normalized, validateFiles files = .ok normalized) ↔ WellFormed files
  writable : ∀ normalized, validateFiles files = .ok normalized →
    ∀ (staging : String) (ev : StoragePoint → Event StorageError) (before : Root),
      before.get? staging = some (.directory Table.empty) → (∀ point, ev point = .proceeds) →
      ∃ after, normalized.forM (stageFile staging) ev before = (.ok ⟨⟩, after)
  atomic : ∀ (sha256 : Bytes → String) (root : RootPath) (name : String)
    (validator : PreparationValidator) (suffix : String)
    (ev : StoragePoint → Event StorageError) (before : Root),
    AllOrNothing sha256 name (stagingPrefix ++ suffix) files ev before
      (publishPreparation sha256 root name files validator suffix ev before)

/-! ## Accepted mappings -/

/-- Two paths of which one is the other or one of its parents. -/
def Conflict (path other : PosixPath) : Prop :=
  path = other ∨ path ∈ other.parents ∨ other ∈ path.parents

theorem conflictsWith_iff {path : PosixPath} {filePaths : List PosixPath} :
    ConflictsWith path filePaths ↔ ∃ other ∈ filePaths, Conflict path other := by
  unfold ConflictsWith Conflict
  constructor
  · rintro (hmem | ⟨other, hother, h⟩)
    · exact ⟨path, hmem, .inl rfl⟩
    · exact ⟨other, hother, .inr h⟩
  · rintro ⟨other, hother, rfl | h⟩
    · exact .inl hother
    · exact .inr ⟨other, hother, h⟩

theorem validateItems_eq_ok {items : List (String × FileContent)} :
    ∀ {filePaths : List PosixPath} {normalized : List (String × Bytes)},
      validateItems filePaths items = .ok normalized ↔
        (∀ item ∈ items, ¬ IsUnsafePath item.1) ∧
        items = normalized.map (fun file => (file.1, .bytes file.2)) ∧
        items.Pairwise (fun a b =>
          ¬ Conflict (PosixPath.ofText b.1) (PosixPath.ofText a.1)) ∧
        ∀ item ∈ items, ¬ ConflictsWith (PosixPath.ofText item.1) filePaths := by
  induction items with
  | nil =>
    intro filePaths normalized
    cases normalized with
    | nil => simp [validateItems]
    | cons file normalized => simp [validateItems]
  | cons item items ih =>
    obtain ⟨relativePath, content⟩ := item
    intro filePaths normalized
    -- no conflict with the paths so far and the new one
    have hcons : ∀ path : PosixPath, (∀ item ∈ items,
        ¬ ConflictsWith (PosixPath.ofText item.1) (filePaths ++ [path])) ↔
        (∀ item ∈ items, ¬ Conflict (PosixPath.ofText item.1) path) ∧
          ∀ item ∈ items, ¬ ConflictsWith (PosixPath.ofText item.1) filePaths := by
      intro path
      rw [← forall₂_and]
      refine forall₂_congr fun item _ => ?_
      simp only [conflictsWith_iff, not_exists, not_and, List.forall_mem_append,
        List.forall_mem_singleton]
      exact and_comm
    cases content with
    -- a content that is no bytes is refused
    | other =>
      simp only [validateItems, bind_eq_ok, reduceCtorEq, false_and, exists_false, and_false,
        false_iff, List.forall_mem_cons]
      rintro ⟨-, hitems, -⟩
      cases normalized with
      | nil => cases hitems
      | cons file normalized => cases hitems
    | bytes content =>
      simp only [validateItems, bind_eq_ok, require_eq_ok, pure_eq_ok, ih, hcons,
        List.forall_mem_cons, List.pairwise_cons, exists_and_left, exists_const]
      constructor
      · rintro ⟨hsafe, _, ⟨⟩, hfree, rest, ⟨hrest, rfl, hpairs, hnew, hseen⟩, rfl⟩
        exact ⟨⟨hsafe, hrest⟩, rfl, ⟨hnew, hpairs⟩, hfree, hseen⟩
      · rintro ⟨⟨hsafe, hrest⟩, hitems, ⟨hnew, hpairs⟩, hfree, hseen⟩
        cases normalized with
        | nil => cases hitems
        | cons file normalized =>
          rw [List.map_cons, List.cons.injEq] at hitems
          obtain ⟨hhead, rfl⟩ := hitems
          cases hhead
          exact ⟨hsafe, _, rfl, hfree, normalized, ⟨hrest, rfl, hpairs, hnew, hseen⟩, rfl⟩

/-- The paths that pass the check: the normalized ones, and the dot. -/
theorem not_isUnsafePath_iff {text : String} :
    ¬ IsUnsafePath text ↔ text = "." ∨ IsNormalizedPath text := by
  have hchecks : ¬ IsUnsafePath text ↔ text ≠ "" ∧ '\\' ∉ text.toList ∧
      ((PosixPath.ofText text).root = "" ∧ (PosixPath.ofText text).asPosix = text) ∧
      ∀ part ∈ (PosixPath.ofText text).tail, part ∉ ["", ".", ".."] := by
    unfold IsUnsafePath
    simp only [not_or, PosixPath.isAbsolute, decide_eq_true_eq, not_not, PosixPath.parts,
      List.any_eq_true, not_exists, not_and, ne_eq]
    constructor
    · rintro ⟨hempty, hslash, hroot, hparts, htext⟩
      rw [if_pos hroot] at hparts
      exact ⟨hempty, hslash, ⟨hroot, htext.symm⟩, hparts⟩
    · rintro ⟨hempty, hslash, ⟨hroot, htext⟩, hparts⟩
      rw [if_pos hroot]
      exact ⟨hempty, hslash, hroot, hparts, htext.symm⟩
  rw [hchecks, PosixPath.relative_normal_iff]
  constructor
  · -- a text in normal form is the dot, or names that are joined
    rintro ⟨-, hslash, rfl | ⟨names, hne, hnames, rfl⟩, hparts⟩
    · exact .inl rfl
    · refine .inr ⟨names, hne, fun name hname => ⟨hnames name hname, ?_, ?_⟩, rfl⟩
      · rw [PosixPath.ofText_joined hne hnames] at hparts
        rintro rfl
        exact hparts _ hname (by simp)
      · exact fun hmem => hslash ((mem_joined (by decide)).mpr ⟨name, hname, hmem⟩)
  · -- the dot has no parts to check
    rintro (rfl | ⟨names, hne, hnames, rfl⟩)
    · exact ⟨by decide, by decide, .inl rfl, by decide⟩
    · have hproper : ∀ name ∈ names, IsName name := fun name hname => (hnames name hname).1
      refine ⟨?_, ?_, .inr ⟨names, hne, hproper, rfl⟩, ?_⟩
      · obtain ⟨c, rest, hchars, -⟩ := joined_toList hne hproper
        intro hempty
        simp [hempty] at hchars
      · rw [mem_joined (by decide)]
        rintro ⟨name, hname, hslash⟩
        exact (hnames name hname).2.2 hslash
      · rw [PosixPath.ofText_joined hne hproper]
        intro part hpart
        obtain ⟨⟨hempty, hdot, -⟩, hdots, -⟩ := hnames part hpart
        simp [hempty, hdot, hdots]

/-- Two normalized paths conflict exactly where one is a directory of the other, or they are
one. -/
theorem conflict_iff {a b : String} (ha : IsNormalizedPath a) (hb : IsNormalizedPath b) :
    Conflict (PosixPath.ofText b) (PosixPath.ofText a) ↔
      a = b ∨ (∃ rest, a = b ++ "/" ++ rest) ∨ ∃ rest, b = a ++ "/" ++ rest := by
  obtain ⟨names, hne, hnames, rfl⟩ := ha
  obtain ⟨names', hne', hnames', rfl⟩ := hb
  have hproper : ∀ name ∈ names, IsName name := fun name hname => (hnames name hname).1
  have hproper' : ∀ name ∈ names', IsName name := fun name hname => (hnames' name hname).1
  have hinj : joined names = joined names' ↔ names = names' := by
    constructor
    · intro heq
      rw [← namesOf_joined hne hproper, heq, namesOf_joined hne' hproper']
    · exact congrArg joined
  rw [Conflict, PosixPath.ofText_joined hne hproper, PosixPath.ofText_joined hne' hproper',
    PosixPath.mem_parents, PosixPath.mem_parents, hinj,
    joined_append_slash_iff hne' hproper' hproper hne,
    joined_append_slash_iff hne hproper hproper' hne']
  simp only [PosixPath.mk.injEq, true_and]
  rw [eq_comm]

/-- The dot is a parent of every other accepted path. -/
theorem conflict_dot {text : String} (h : text = "." ∨ IsNormalizedPath text) :
    Conflict (PosixPath.ofText text) (PosixPath.ofText ".") ∧
      Conflict (PosixPath.ofText ".") (PosixPath.ofText text) := by
  have hdot : PosixPath.ofText "." = ⟨"", []⟩ := by decide
  rw [hdot]
  rcases h with rfl | ⟨names, hne, hnames, rfl⟩
  · rw [hdot]
    exact ⟨.inl rfl, .inl rfl⟩
  · have hproper : ∀ name ∈ names, IsName name := fun name hname => (hnames name hname).1
    rw [PosixPath.ofText_joined hne hproper]
    have hparent : (⟨"", []⟩ : PosixPath) ∈ (⟨"", names⟩ : PosixPath).parents :=
      PosixPath.mem_parents.mpr ⟨rfl, List.nil_prefix, fun heq => hne heq.symm⟩
    exact ⟨.inr (.inr hparent), .inr (.inl hparent)⟩

theorem Conflict.symm {path other : PosixPath} (h : Conflict path other) : Conflict other path := by
  rcases h with rfl | h | h
  · exact .inl rfl
  · exact .inr (.inr h)
  · exact .inr (.inl h)

/-- Contents that are all bytes. -/
theorem exists_contents {items : List (String × FileContent)}
    (h : ∀ item ∈ items, ∃ content, item.2 = .bytes content) :
    ∃ normalized : List (String × Bytes),
      items = normalized.map fun file => (file.1, .bytes file.2) := by
  induction items with
  | nil => exact ⟨[], rfl⟩
  | cons item items ih =>
    obtain ⟨⟨content, hcontent⟩, hitems⟩ := List.forall_mem_cons.mp h
    obtain ⟨normalized, rfl⟩ := ih hitems
    refine ⟨(item.1, content) :: normalized, ?_⟩
    rw [List.map_cons, ← hcontent]

/-- A list without repetition whose items are all one has that item only. -/
theorem eq_singleton_of_forall {α : Type} {xs : List α} {x : α} (hmem : x ∈ xs)
    (hnodup : xs.Nodup) (h : ∀ y ∈ xs, y = x) : xs = [x] := by
  cases xs with
  | nil => cases hmem
  | cons y ys =>
    obtain ⟨rfl, hys⟩ := List.forall_mem_cons.mp h
    cases ys with
    | nil => rfl
    | cons z zs =>
      have hz := hys z List.mem_cons_self
      exact absurd (hz ▸ List.mem_cons_self) (List.nodup_cons.mp hnodup).1

/-- Exactly the well-formed mappings are accepted, and the one of the single dot. -/
theorem validateFiles_accepts {files : FileMapping} :
    (∃ normalized, validateFiles files = .ok normalized) ↔
      WellFormed files ∨ IsSingleDot files := by
  have hok : (∃ normalized, validateFiles files = .ok normalized) ↔
      ∃ normalized, files.items ≠ [] ∧ validateItems [] files.items = .ok normalized := by
    simp [validateFiles, bind_eq_ok]
  rw [hok]
  -- normalized paths conflict when one is the other or begins it
  have hapart : ∀ {a b : String}, IsNormalizedPath a → IsNormalizedPath b → a ≠ b →
      (∀ rest, b ≠ a ++ "/" ++ rest) → (∀ rest, a ≠ b ++ "/" ++ rest) →
      ¬ Conflict (PosixPath.ofText b) (PosixPath.ofText a) := by
    intro a b ha hb hne hba hab
    rw [conflict_iff ha hb]
    rintro (heq | ⟨rest, heq⟩ | ⟨rest, heq⟩)
    · exact hne heq
    · exact hab rest heq
    · exact hba rest heq
  constructor
  · rintro ⟨normalized, hne, hitems⟩
    obtain ⟨hsafe, hbytes, hpairs, -⟩ := validateItems_eq_ok.mp hitems
    have hfree : ∀ a ∈ files.items, ∀ b ∈ files.items, a ≠ b →
        ¬ Conflict (PosixPath.ofText b.1) (PosixPath.ofText a.1) := by
      have : Std.Symm fun a b : String × FileContent =>
          ¬ Conflict (PosixPath.ofText b.1) (PosixPath.ofText a.1) :=
        ⟨fun _ _ h hconflict => h hconflict.symm⟩
      exact fun a ha b hb hab => hpairs.forall ha hb hab
    have hkinds : ∀ item ∈ files.items, item.1 = "." ∨ IsNormalizedPath item.1 :=
      fun item hitem => not_isUnsafePath_iff.mp (hsafe item hitem)
    have hcontents : ∀ item ∈ files.items, ∃ content, item.2 = .bytes content := by
      intro item hitem
      rw [hbytes] at hitem
      obtain ⟨file, -, rfl⟩ := List.mem_map.mp hitem
      exact ⟨file.2, rfl⟩
    -- the dot conflicts with every other path, so it is alone
    by_cases hdot : ∃ item ∈ files.items, item.1 = "."
    · obtain ⟨item, hitem, htext⟩ := hdot
      obtain ⟨content, hcontent⟩ := hcontents item hitem
      refine .inr ⟨content, ?_⟩
      rw [← hcontent, ← htext]
      refine eq_singleton_of_forall hitem (.of_map _ files.nodup) fun other hother => ?_
      by_contra hne
      exact hfree other hother item hitem hne (htext ▸ (conflict_dot (hkinds other hother)).2)
    · have hnormalized : ∀ item ∈ files.items, IsNormalizedPath item.1 := fun item hitem =>
        (hkinds item hitem).resolve_left fun htext => hdot ⟨item, hitem, htext⟩
      refine .inl ⟨hne, hcontents, hnormalized, fun a ha b hb rest heq => ?_⟩
      by_cases hab : a = b
      · -- no path begins itself
        have hlength := congrArg String.length heq
        have hslash : "/".length = 1 := by decide
        rw [hab] at hlength
        simp only [String.length_append] at hlength
        omega
      · exact hfree a ha b hb hab
          ((conflict_iff (hnormalized a ha) (hnormalized b hb)).mpr (.inr (.inr ⟨rest, heq⟩)))
  · -- both kinds pass the checks
    rintro (h | ⟨content, hdot⟩)
    · obtain ⟨normalized, hnormalized⟩ := exists_contents h.bytes
      refine ⟨normalized, h.nonempty, validateItems_eq_ok.mpr ⟨?_, hnormalized, ?_, ?_⟩⟩
      · exact fun item hitem => not_isUnsafePath_iff.mpr (.inr (h.normalized item hitem))
      · have hkeys : files.items.Pairwise fun a b => a.1 ≠ b.1 := List.pairwise_map.mp files.nodup
        refine hkeys.imp_of_mem fun {a b} ha hb hne => ?_
        exact hapart (h.normalized a ha) (h.normalized b hb) hne (h.apart a ha b hb)
          (h.apart b hb a ha)
      · simp [conflictsWith_iff]
    · refine ⟨[(".", content)], by simp [hdot], ?_⟩
      rw [hdot, validateItems_eq_ok]
      refine ⟨?_, rfl, by simp, by simp [conflictsWith_iff]⟩
      intro item hitem
      rw [List.mem_singleton.mp hitem]
      exact not_isUnsafePath_iff.mpr (.inl rfl)

/-! ## The staging directory -/

section

variable {staging : String} {before : Root} {ev : StoragePoint → Event StorageError}
  {P Q : DirectoryTree UInt8 → Prop}

/-- Only the staging directory has changed, and its tree has a property. -/
structure Staged (staging : String) (before : Root) (P : DirectoryTree UInt8 → Prop)
    (root : Root) : Prop where
  elsewhere : ∀ entry, entry ≠ staging → root.get? entry = before.get? entry
  tree : ∃ tree, root.get? staging = some (.directory tree) ∧ P tree

theorem Staged.mono {root : Root} (h : Staged staging before P root)
    (hPQ : ∀ tree, P tree → Q tree) : Staged staging before Q root := by
  obtain ⟨tree, hget, hP⟩ := h.tree
  exact ⟨h.elsewhere, tree, hget, hPQ tree hP⟩

/-- Two properties of one tree. -/
theorem Staged.and {root : Root} (h : Staged staging before P root)
    (h' : Staged staging before Q root) :
    Staged staging before (fun tree => P tree ∧ Q tree) root := by
  obtain ⟨tree, hget, hP⟩ := h.tree
  obtain ⟨tree', hget', hQ⟩ := h'.tree
  cases hget.symm.trans hget'
  exact ⟨h.elsewhere, tree, hget, hP, hQ⟩

theorem Staged.modify {root : Root} {tree tree' : DirectoryTree UInt8}
    (h : Staged staging before P root) (hQ : Q tree')
    (hget : root.get? staging = some (.directory tree)) :
    Staged staging before Q (root.modify staging fun _ => .directory tree') where
  elsewhere entry hentry := by
    rw [Table.get?_modify, if_neg hentry]
    exact h.elsewhere entry hentry
  tree := ⟨tree', by rw [Table.get?_modify, if_pos rfl, hget]; rfl, hQ⟩

theorem inDirectory_eq_ok {f : DirectoryTree UInt8 → Option (DirectoryTree UInt8)}
    {root root' : Root} {u : Unit} (h : inDirectory staging f root = .ok (u, root')) :
    ∃ tree tree', root.get? staging = some (.directory tree) ∧ f tree = some tree' ∧
      root' = root.modify staging fun _ => .directory tree' := by
  unfold inDirectory at h
  split at h
  · rename_i tree hget
    split at h
    · rename_i tree' hf
      cases h
      exact ⟨tree, tree', hget, hf, rfl⟩
    · cases h
  · cases h

/-- An operation that keeps a property of the tree. -/
theorem keeps_inDirectory {point : StoragePoint}
    {f : DirectoryTree UInt8 → Option (DirectoryTree UInt8)}
    (hf : ∀ tree tree', P tree → f tree = some tree' → P tree') :
    Proc.Keeps (Staged staging before P) (Proc.action point (inDirectory staging f)) := by
  refine Proc.Keeps.action fun root u root' h hok => ?_
  obtain ⟨tree, tree', hget, hftree, rfl⟩ := inDirectory_eq_ok hok
  obtain ⟨_, hget', hP⟩ := h.tree
  cases hget.symm.trans hget'
  exact h.modify (hf tree tree' hP hftree) hget

/-- Some step did not proceed. -/
def Faulty (ev : StoragePoint → Event StorageError) : Prop := ∃ point, ev point ≠ .proceeds

/-- An operation that a tree of the property allows. -/
theorem triple_inDirectory {point : StoragePoint}
    {f : DirectoryTree UInt8 → Option (DirectoryTree UInt8)}
    (hf : ∀ tree, P tree → ∃ tree', f tree = some tree' ∧ Q tree') :
    Proc.Triple ev (fun _ => Faulty ev) (Staged staging before P)
      (Proc.action point (inDirectory staging f)) (fun _ => Staged staging before Q)
      (fun _ _ => Faulty ev) := by
  by_cases hev : ev point = .proceeds
  · refine Proc.Triple.action_proceeds hev fun root h => ?_
    obtain ⟨tree, hget, hP⟩ := h.tree
    obtain ⟨tree', hftree, hQ⟩ := hf tree hP
    refine ⟨(), root.modify staging fun _ => .directory tree', ?_, h.modify hQ hget⟩
    rw [inDirectory, hget]
    simp only [hftree]
  · exact Proc.Triple.action_event (fun _ _ => ⟨point, hev⟩) (fun h => absurd h hev)
      (fun _ _ _ => ⟨point, hev⟩)

/-! ## Staging a file -/

variable {files : List (List String × Bytes)} {directories : List String → Prop}

/-- The directories of a path are made, if none of them is a file. -/
theorem triple_makeParents {relativePath : String} {names : List String} :
    ∀ {directory : List String}, (∀ path, path ≠ [] → path <+: directory ++ names →
        ∀ content, (path, content) ∉ files) →
      Proc.Triple ev (fun _ => Faulty ev)
        (Staged staging before
          (Holds files fun path => directories path ∨ (path ≠ [] ∧ path <+: directory)))
        (makeParents staging relativePath directory names)
        (fun _ => Staged staging before
          (Holds files fun path => directories path ∨ (path ≠ [] ∧ path <+: directory ++ names)))
        (fun _ _ => Faulty ev) := by
  induction names with
  | nil =>
    intro directory _
    rw [List.append_nil]
    exact .pure fun _ h => h
  | cons name names ih =>
    intro directory hfree
    have hassoc : directory ++ name :: names = directory ++ [name] ++ names := by simp
    rw [hassoc] at hfree ⊢
    refine .bind (triple_inDirectory fun tree h => ?_) fun _ => ih hfree
    -- the parent of the directory was made one step earlier
    have hparent : (directory ++ [name]).dropLast = [] ∨
        (directories (directory ++ [name]).dropLast ∨
          ((directory ++ [name]).dropLast ≠ [] ∧
            (directory ++ [name]).dropLast <+: directory)) := by
      rw [List.dropLast_concat]
      by_cases hnil : directory = []
      · exact .inl hnil
      · exact .inr (.inr ⟨hnil, List.prefix_rfl⟩)
    obtain ⟨tree', hmake, hholds⟩ := h.makeDirectory (by simp)
      (hfree _ (by simp) (List.prefix_append _ _)) hparent
    refine ⟨tree', hmake, hholds.files, fun path => ?_⟩
    rw [hholds.directories, List.prefix_concat_iff]
    -- afterwards the prefixes are those before and the new directory
    constructor
    · rintro ((hold | ⟨hne, hstart⟩) | rfl)
      · exact .inl hold
      · exact .inr ⟨hne, .inr hstart⟩
      · exact .inr ⟨by simp, .inl rfl⟩
    · rintro (hold | ⟨hne, rfl | hstart⟩)
      · exact .inl (.inl hold)
      · exact .inr rfl
      · exact .inl (.inr ⟨hne, hstart⟩)

/-- The bytes of the last file are written after those it has. -/
theorem triple_writeBytes {relativePath : String} {path : List String}
    (hfree : ∀ content, (path, content) ∉ files) {bytes : Bytes} :
    ∀ {offset : Nat} {content : Bytes},
      Proc.Triple ev (fun _ => Faulty ev)
        (Staged staging before (Holds (files ++ [(path, content)]) directories))
        (writeBytes staging relativePath path offset bytes)
        (fun _ => Staged staging before (Holds (files ++ [(path, content ++ bytes)]) directories))
        (fun _ _ => Faulty ev) := by
  induction bytes with
  | nil =>
    intro offset content
    rw [List.append_nil]
    exact .pure fun _ h => h
  | cons byte bytes ih =>
    intro offset content
    have hassoc : content ++ byte :: bytes = content ++ [byte] ++ bytes := by simp
    rw [hassoc]
    exact .bind (triple_inDirectory fun tree h => h.appendFile hfree) fun _ => ih

/-- No path of the files is the start of the path of another. -/
structure Apart (done : List (String × Bytes)) (file : String × Bytes) : Prop where
  ne_nil : partsOf file ≠ []
  not_prefix : ∀ other ∈ done, ¬ partsOf other <+: partsOf file
  not_within : ∀ other ∈ done, ¬ partsOf file <+: partsOf other

theorem prefix_dropLast_iff {α : Type} {xs ys : List α} (hne : ys ≠ []) :
    xs <+: ys.dropLast ↔ xs <+: ys ∧ xs ≠ ys := by
  obtain ⟨init, last, rfl⟩ := (List.eq_nil_or_concat ys).resolve_left hne
  simp only [List.concat_eq_append, List.dropLast_concat, List.prefix_concat_iff]
  constructor
  · intro h
    refine ⟨.inr h, ?_⟩
    rintro rfl
    have hlength := h.length_le
    simp only [List.length_append, List.length_singleton] at hlength
    omega
  · rintro ⟨heq | h, hproper⟩
    · exact absurd heq hproper
    · exact h

/-- A file that no other stands in the way of is staged. -/
theorem triple_stageFile {done : List (String × Bytes)} {file : String × Bytes}
    (h : Apart done file) :
    Proc.Triple ev (fun _ => Faulty ev) (Staged staging before (Complete done))
      (stageFile staging file) (fun _ => Staged staging before (Complete (done ++ [file])))
      (fun _ _ => Faulty ev) := by
  -- no staged file is a prefix of this one
  have hfree : ∀ path, path <+: partsOf file → ∀ content,
      (path, content) ∉ done.map fun other => (partsOf other, other.2) := by
    intro path hstart content hmem
    obtain ⟨other, hother, heq⟩ := List.mem_map.mp hmem
    cases heq
    exact h.not_prefix other hother hstart
  have hproper : ∀ path, path <+: (partsOf file).dropLast ↔ path <+: partsOf file ∧
      path ≠ partsOf file := fun path => prefix_dropLast_iff h.ne_nil
  let present := done.map fun other => (partsOf other, other.2)
  let made := fun path => IsDirectoryOf done path ∨ (path ≠ [] ∧ path <+: (partsOf file).dropLast)
  -- 1. its directories are made
  have hparents : Proc.Triple ev (fun _ => Faulty ev) (Staged staging before (Complete done))
      (makeParents staging file.1 [] (partsOf file).dropLast)
      (fun _ => Staged staging before (Holds present made)) (fun _ _ => Faulty ev) := by
    refine (triple_makeParents fun path _ hstart =>
      hfree path (hstart.trans (List.dropLast_prefix _))).weaken (fun root hroot => ?_)
      (fun _ h => h) (fun _ _ h => h) (fun _ _ h => h)
    refine hroot.mono fun tree htree => ⟨htree.files, fun path => ?_⟩
    rw [htree.directories]
    constructor
    · exact .inl
    · rintro (hold | ⟨hne, hnil⟩)
      · exact hold
      · exact absurd (List.prefix_nil.mp hnil) hne
  have hmade : ¬ made (partsOf file) := by
    rintro (⟨-, other, hother, hunder⟩ | ⟨-, hstart⟩)
    · exact h.not_within other hother hunder.1
    · exact ((hproper _).mp hstart).2 rfl
  have hparent : (partsOf file).dropLast = [] ∨ made (partsOf file).dropLast := by
    by_cases hnil : (partsOf file).dropLast = []
    · exact .inl hnil
    · exact .inr (.inr ⟨hnil, List.prefix_rfl⟩)
  -- 2. the file is created, empty
  have hcreate : Proc.Triple ev (fun _ => Faulty ev) (Staged staging before (Holds present made))
      (Proc.action (.openFile file.1)
        (inDirectory staging (DirectoryTree.createFile (partsOf file))))
      (fun _ => Staged staging before (Holds (present ++ [(partsOf file, [])]) made))
      (fun _ _ => Faulty ev) :=
    triple_inDirectory fun tree htree =>
      htree.createFile h.ne_nil (hfree _ List.prefix_rfl) hmade hparent
  refine .bind hparents fun _ => .bind hcreate fun _ => ?_
  refine (triple_writeBytes (hfree _ List.prefix_rfl)).weaken (fun _ h => h) (fun _ h => h)
    (fun _ root hroot => ?_) (fun _ _ h => h)
  refine hroot.mono fun tree htree => ⟨fun path content => ?_, fun path => ?_⟩
  · rw [htree.files, List.nil_append, List.map_append, List.map_singleton]
  · rw [htree.directories]
    simp only [made, IsDirectoryOf, hproper, List.mem_append, List.mem_singleton, or_and_right,
      exists_or, exists_eq_left, and_or_left]
    rw [Under]

/-- No path of some files is the start of the path of another, or empty. -/
def Separate (files : List (String × Bytes)) : Prop :=
  ∀ done file rest, files = done ++ file :: rest → Apart done file

/-- Files that are separate are staged. -/
theorem triple_stageFiles {normalized : List (String × Bytes)} (h : Separate normalized) :
    Proc.Triple ev (fun _ => Faulty ev) (Staged staging before (Complete []))
      (normalized.forM (stageFile staging))
      (fun _ => Staged staging before (Complete normalized)) (fun _ _ => Faulty ev) := by
  exact .forM_done (fun done => Staged staging before (Complete done))
    fun done file rest hsplit => triple_stageFile (h done file rest hsplit)

/-- What is read back is what was staged. -/
theorem triple_readBack {normalized files : List (String × Bytes)}
    (hmem : ∀ file ∈ files, file ∈ normalized) :
    Proc.Triple ev (fun _ => Faulty ev) (Staged staging before (Complete normalized))
      (readBack staging files)
      (fun observed root => observed = files ∧ Staged staging before (Complete normalized) root)
      (fun _ _ => Faulty ev) := by
  induction files with
  | nil => exact .pure fun _ h => ⟨rfl, h⟩
  | cons file files ih =>
    obtain ⟨hfile, hfiles⟩ := List.forall_mem_cons.mp hmem
    have hread : Proc.Triple ev (fun _ => Faulty ev) (Staged staging before (Complete normalized))
        (Proc.read (.readBack file.1)
          (ofDirectory staging (DirectoryTree.readFile (partsOf file))))
        (fun content root => content = file.2 ∧ Staged staging before (Complete normalized) root)
        (fun _ _ => Faulty ev) := by
      by_cases hev : ev (.readBack file.1) = .proceeds
      · refine .read_proceeds hev fun root hroot => ?_
        obtain ⟨tree, hget, htree⟩ := hroot.tree
        refine ⟨file.2, ?_, rfl, hroot⟩
        rw [ofDirectory, hget]
        exact fetch_eq_ok.mpr (htree.readFile (List.mem_map_of_mem hfile))
      · exact .action_event (fun _ _ => ⟨_, hev⟩) (fun h => absurd h hev) (fun _ _ _ => ⟨_, hev⟩)
    refine .bind hread fun content => ?_
    rintro root ⟨rfl, hroot⟩
    refine Proc.Triple.bind (ih hfiles) (fun observed => ?_) root hroot
    rintro after ⟨rfl, hafter⟩
    exact ⟨rfl, hafter⟩

/-! ## A staging directory in order -/

variable {depth : Nat}

theorem keeps_makeParents {relativePath : String} {names : List String} :
    ∀ {directory : List String}, (directory ++ names).length ≤ depth →
      Proc.Keeps (Staged staging before (Orderly depth))
        (makeParents staging relativePath directory names) := by
  induction names with
  | nil => exact fun _ => .pure
  | cons name names ih =>
    intro directory hlength
    have hassoc : directory ++ name :: names = directory ++ [name] ++ names := by simp
    rw [hassoc] at hlength
    refine .bind (keeps_inDirectory fun tree tree' h hmake => h.makeDirectory ?_ hmake)
      fun _ => ih hlength
    rw [List.length_append] at hlength
    omega

theorem keeps_writeBytes {relativePath : String} {path : List String} {bytes : Bytes} :
    ∀ {offset : Nat}, Proc.Keeps (Staged staging before (Orderly depth))
      (writeBytes staging relativePath path offset bytes) := by
  induction bytes with
  | nil => exact .pure
  | cons byte bytes ih =>
    exact .bind (keeps_inDirectory fun _ _ h happend => h.appendFile happend) fun _ => ih

/-- Whatever happens while a file is staged, what is staged can be removed. -/
theorem keeps_stageFile {file : String × Bytes} (hlength : (partsOf file).length ≤ depth) :
    Proc.Keeps (Staged staging before (Orderly depth)) (stageFile staging file) := by
  have hparents : ([] ++ (partsOf file).dropLast).length ≤ depth := by
    rw [List.nil_append, List.length_dropLast]
    omega
  refine .bind (keeps_makeParents hparents) fun _ => .bind (keeps_inDirectory ?_)
    fun _ => keeps_writeBytes
  exact fun tree tree' h hcreate => h.createFile hlength hcreate

theorem keeps_readBack {P : Root → Prop} {files : List (String × Bytes)} :
    Proc.Keeps P (readBack staging files) := by
  induction files with
  | nil => exact .pure
  | cons file files ih => exact .bind .read fun _ => .bind ih fun _ => .pure

/-! ## Removal of a staging directory -/

/-- Every call of the cleanup proceeds. -/
def CleanupProceeds (ev : StoragePoint → Event StorageError) : Prop :=
  ∀ point : StoragePoint, point.isCleanup = true → ev point = .proceeds

theorem triple_inDirectory_proceeds {point : StoragePoint}
    {f : DirectoryTree UInt8 → Option (DirectoryTree UInt8)} (hev : ev point = .proceeds)
    (hf : ∀ tree, P tree → ∃ tree', f tree = some tree' ∧ Q tree') :
    Proc.Triple ev (fun _ => False) (Staged staging before P)
      (Proc.action point (inDirectory staging f)) (fun _ => Staged staging before Q)
      (fun _ _ => False) := by
  refine .action_proceeds hev fun root h => ?_
  obtain ⟨tree, hget, hP⟩ := h.tree
  obtain ⟨tree', hftree, hQ⟩ := hf tree hP
  refine ⟨(), root.modify staging fun _ => .directory tree', ?_, h.modify hQ hget⟩
  rw [inDirectory, hget]
  simp only [hftree]

/-- A tree is listed as it is. -/
theorem triple_scanDirectory (hev : CleanupProceeds ev) {directory : List String}
    {tree : DirectoryTree UInt8} :
    Proc.Triple ev (fun _ => False) (Staged staging before (· = tree))
      (scanDirectory staging directory)
      (fun found root => found = DirectoryTree.listing directory tree ∧
        Staged staging before (· = tree) root)
      (fun _ _ => False) := by
  refine .tryExcept (M := fun _ _ => False) (.read_proceeds (hev _ rfl) fun root h => ?_)
    (fun _ _ h => h.elim)
  obtain ⟨tree', hget, rfl⟩ := h.tree
  refine ⟨_, ?_, rfl, h⟩
  rw [ofDirectory, hget]
  rfl

/-- A loop of operations that each take one entry away. -/
theorem triple_erasing {paths : List (List String)} {gone : List String → Prop}
    {tree : DirectoryTree UInt8} {point : List String → StoragePoint}
    {op : List String → DirectoryTree UInt8 → Option (DirectoryTree UInt8)}
    (hev : ∀ path, ev (point path) = .proceeds) (hnodup : paths.Nodup)
    (hop : ∀ path ∈ paths, ∀ (done : List (List String)) (current : DirectoryTree UInt8),
      path ∉ done →
      Removed (fun key => gone key ∨ key ∈ done) tree current →
      ∃ current', op path current = some current' ∧
        Removed (fun key => (gone key ∨ key ∈ done) ∨ key = path) tree current') :
    Proc.Triple ev (fun _ => False) (Staged staging before (Removed gone tree))
      (paths.forM fun path => Proc.action (point path) (inDirectory staging (op path)))
      (fun _ => Staged staging before (Removed (fun key => gone key ∨ key ∈ paths) tree))
      (fun _ _ => False) := by
  have hloop : Proc.Triple ev (fun _ => False)
      (Staged staging before (Removed (fun key => gone key ∨ key ∈ ([] : List _)) tree))
      (paths.forM fun path => Proc.action (point path) (inDirectory staging (op path)))
      (fun _ => Staged staging before (Removed (fun key => gone key ∨ key ∈ paths) tree))
      (fun _ _ => False) := by
    refine .forM_done (fun done => Staged staging before
      (Removed (fun key => gone key ∨ key ∈ done) tree)) fun done path rest hsplit => ?_
    -- the paths are different, so this one is still there
    have hnew : path ∉ done := by
      rw [hsplit, List.nodup_append] at hnodup
      exact fun hmem => hnodup.2.2 path hmem path List.mem_cons_self rfl
    refine triple_inDirectory_proceeds (hev path) fun current hcurrent => ?_
    obtain ⟨current', hok, hremoved⟩ := hop path (by simp [hsplit]) done current hnew hcurrent
    refine ⟨current', hok, hremoved.congr fun key _ _ => ?_⟩
    rw [List.mem_append, List.mem_singleton, or_assoc]
  refine hloop.weaken (fun root hroot => hroot.mono fun current hcurrent => ?_) (fun _ h => h)
    (fun _ _ h => h) (fun _ _ h => h)
  exact hcurrent.congr fun key _ _ => by simp

/-- Children of one directory are not under each other. -/
theorem not_under_child {directory a b : List String} (ha : isChild directory a = true)
    (hb : isChild directory b = true) : ¬ Under a b := by
  obtain ⟨name, rfl⟩ := DirectoryTree.isChild_iff.mp ha
  obtain ⟨name', rfl⟩ := DirectoryTree.isChild_iff.mp hb
  exact fun h => h.2 (h.1.eq_of_length (by simp))

/-- What a directory was found to hold. -/
structure Found (directory : List String) (tree : DirectoryTree UInt8)
    (directories files : List (List String)) : Prop where
  nodup : directories.Nodup ∧ files.Nodup
  directories : ∀ path, path ∈ directories ↔
    isChild directory path = true ∧ tree.get? path = some .directory
  files : ∀ path, path ∈ files ↔
    isChild directory path = true ∧ ∃ content, tree.get? path = some (.file content)

theorem found_listing {directory : List String} {tree : DirectoryTree UInt8}
    {found : List (List String) × List (List String)}
    (h : found = DirectoryTree.listing directory tree) :
    Found directory tree found.1 found.2 where
  directories _ := h ▸ DirectoryTree.mem_listing_directories
  files _ := h ▸ DirectoryTree.mem_listing_files
  nodup := h ▸ DirectoryTree.nodup_listing directory tree

/-- What is under one of the directories. -/
def Below (directories : List (List String)) (path : List String) : Prop :=
  ∃ child ∈ directories, Under child path

namespace Found

variable {directory : List String} {tree : DirectoryTree UInt8}
  {directories files : List (List String)}

theorem not_below (h : Found directory tree directories files) {path : List String}
    (hpath : isChild directory path = true) : ¬ Below directories path := by
  rintro ⟨child, hchild, hunder⟩
  exact not_under_child ((h.directories child).mp hchild).1 hpath hunder

/-- First everything under the directories goes, which are there until the end. -/
theorem triple_below (h : Found directory tree directories files)
    (horderly : Orderly (depth + 1 + directory.length) tree)
    (ih : ∀ {child : List String} {tree : DirectoryTree UInt8},
      Orderly (depth + child.length) tree →
        Proc.Triple ev (fun _ => False) (Staged staging before (· = tree))
          (removeUnder staging depth child)
          (fun _ => Staged staging before (Removed (Under child) tree)) (fun _ _ => False)) :
    Proc.Triple ev (fun _ => False) (Staged staging before (· = tree))
      (directories.forM (removeUnder staging depth))
      (fun _ => Staged staging before (Removed (Below directories) tree)) (fun _ _ => False) := by
  have hloop : Proc.Triple ev (fun _ => False) (Staged staging before (Removed (Below []) tree))
      (directories.forM (removeUnder staging depth))
      (fun _ => Staged staging before (Removed (Below directories) tree)) (fun _ _ => False) := by
    refine .forM_done (fun done => Staged staging before (Removed (Below done) tree)) ?_
    rintro done child rest hsplit root hroot
    obtain ⟨current, hget, hremoved⟩ := hroot.tree
    have hchild : isChild directory child = true :=
      ((h.directories child).mp (by simp [hsplit])).1
    -- removing the children before has left this one orderly
    have hcurrent : Orderly (depth + child.length) current := by
      obtain ⟨name, rfl⟩ := DirectoryTree.isChild_iff.mp hchild
      rw [List.length_append, List.length_singleton]
      have hdepth : depth + (directory.length + 1) = depth + 1 + directory.length := by omega
      rw [hdepth]
      refine hremoved.orderly horderly ?_
      rintro path ⟨other, hother, hunder⟩
      exact ⟨other, hother, hunder.trans_start (List.dropLast_prefix path)⟩
    refine (ih hcurrent).weaken (fun _ hr => hr) (fun _ hr => hr) (fun _ after hafter => ?_)
      (fun _ _ hr => hr) root ⟨hroot.elsewhere, current, hget, rfl⟩
    refine hafter.mono fun final hfinal => (hremoved.trans hfinal).congr fun path _ _ => ?_
    simp only [Below, List.mem_append, List.mem_singleton, or_and_right, exists_or,
      exists_eq_left]
  refine hloop.weaken (fun root hroot => hroot.mono ?_) (fun _ h => h) (fun _ _ h => h)
    (fun _ _ h => h)
  rintro _ rfl
  refine Removed.of_absent fun path hbelow => ?_
  obtain ⟨_, hmem, -⟩ := hbelow
  cases hmem

/-- Then the files. -/
theorem triple_unlink (h : Found directory tree directories files) (hev : CleanupProceeds ev) :
    Proc.Triple ev (fun _ => False) (Staged staging before (Removed (Below directories) tree))
      (files.forM fun path =>
        Proc.action (.unlink path) (inDirectory staging (DirectoryTree.unlink path)))
      (fun _ => Staged staging before
        (Removed (fun path => Below directories path ∨ path ∈ files) tree))
      (fun _ _ => False) := by
  refine triple_erasing (fun path => hev _ rfl) h.nodup.2
    fun path hpath done current hnew hcurrent => ?_
  obtain ⟨hchild, content, hget⟩ := (h.files path).mp hpath
  exact hcurrent.unlink hget fun hgone => hgone.elim (h.not_below hchild) hnew

/-- Then the directories, which are empty. -/
theorem triple_rmdir (h : Found directory tree directories files) (hev : CleanupProceeds ev) :
    Proc.Triple ev (fun _ => False)
      (Staged staging before (Removed (fun path => Below directories path ∨ path ∈ files) tree))
      (directories.forM fun path =>
        Proc.action (.rmdir path) (inDirectory staging (DirectoryTree.removeDirectory path)))
      (fun _ => Staged staging before
        (Removed (fun path => (Below directories path ∨ path ∈ files) ∨ path ∈ directories) tree))
      (fun _ _ => False) := by
  refine triple_erasing (fun path => hev _ rfl) h.nodup.1
    fun path hpath done current hnew hcurrent => ?_
  obtain ⟨hchild, hget⟩ := (h.directories path).mp hpath
  refine hcurrent.removeDirectory hget ?_ fun key hkey =>
    .inl (.inl ⟨path, hpath, Under.of_child hkey⟩)
  rintro ((hbelow | hfile) | hdone)
  · exact h.not_below hchild hbelow
  · obtain ⟨-, content, hcontent⟩ := (h.files path).mp hfile
    cases hget.symm.trans hcontent
  · exact hnew hdone

/-- With them, everything under the directory is gone. -/
theorem gone_iff (h : Found directory tree directories files) (horderly : Orderly depth tree)
    {path : List String} {node : Node UInt8} (hget : tree.get? path = some node) :
    ((Below directories path ∨ path ∈ files) ∨ path ∈ directories) ↔ Under directory path := by
  constructor
  · rintro ((⟨child, hchild, hunder⟩ | hfile) | hdirectory)
    · exact (Under.of_child ((h.directories child).mp hchild).1).trans_start hunder.1
    · exact Under.of_child ((h.files path).mp hfile).1
    · exact Under.of_child ((h.directories path).mp hdirectory).1
  · intro hunder
    obtain ⟨child, hchild, hstart⟩ := hunder.child
    by_cases heq : child = path
    · subst heq
      cases node with
      | directory => exact .inr ((h.directories child).mpr ⟨hchild, hget⟩)
      | file content => exact .inl (.inr ((h.files child).mpr ⟨hchild, content, hget⟩))
    · have hdirectory := horderly.isDirectory_of_prefix hget hstart heq
      rcases DirectoryTree.isDirectory_iff.mp hdirectory with rfl | hdirectory
      · obtain ⟨name, hname⟩ := DirectoryTree.isChild_iff.mp hchild
        simp at hname
      · exact .inl (.inl ⟨child, (h.directories child).mpr ⟨hchild, hdirectory⟩, hstart, heq⟩)

end Found

/-- If the calls of the cleanup proceed, nothing is left under a directory. -/
theorem triple_removeUnder (hev : CleanupProceeds ev) :
    ∀ {depth : Nat} {directory : List String} {tree : DirectoryTree UInt8},
      Orderly (depth + directory.length) tree →
      Proc.Triple ev (fun _ => False) (Staged staging before (· = tree))
        (removeUnder staging depth directory)
        (fun _ => Staged staging before (Removed (Under directory) tree)) (fun _ _ => False) := by
  intro depth
  induction depth with
  | zero =>
    intro directory tree horderly
    refine .pure fun root h => h.mono ?_
    rintro _ rfl
    refine Removed.of_absent fun path hunder => ?_
    by_contra hsome
    obtain ⟨node, hnode⟩ := Option.ne_none_iff_exists'.mp hsome
    have hshallow := horderly.shallow path node hnode
    exact hunder.2 (hunder.1.eq_of_length_le (by omega))
  | succ depth ih =>
    intro directory tree horderly
    refine .bind (triple_scanDirectory hev) fun found => ?_
    rintro root ⟨hfound, hroot⟩
    have h := found_listing hfound
    refine Proc.Triple.weaken (.bind (h.triple_below horderly ih) fun _ =>
      .bind (h.triple_unlink hev) fun _ => h.triple_rmdir hev)
      (fun _ h => h) (fun _ h => h) (fun _ after hafter => ?_) (fun _ _ h => h) root hroot
    exact hafter.mono fun final hfinal =>
      hfinal.congr fun path node hget => h.gone_iff horderly hget

/-- If the calls of the cleanup proceed, the root is as it was before. -/
theorem triple_removeStagingTree (hev : CleanupProceeds ev) (hnew : before.get? staging = none) :
    Proc.Triple ev (fun _ => False) (Staged staging before (Orderly depth))
      (removeStagingTree staging depth)
      (fun _ root => ∀ entry, root.get? entry = before.get? entry) (fun _ _ => False) := by
  rintro root hroot
  obtain ⟨tree, hget, horderly⟩ := hroot.tree
  have hunder : Proc.Triple ev (fun _ => False) (Staged staging before (· = tree))
      (removeUnder staging depth []) (fun _ => Staged staging before (Removed (Under []) tree))
      (fun _ _ => False) := triple_removeUnder hev (by simpa using horderly)
  refine Proc.Triple.bind hunder (fun _ => .action_proceeds (hev _ rfl) fun after hafter => ?_) root
    ⟨hroot.elsewhere, tree, hget, rfl⟩
  obtain ⟨final, hfinal, hremoved⟩ := hafter.tree
  -- everything under the root is gone, and the root itself is a directory
  have hempty : final.rows = [] := by
    rw [List.eq_nil_iff_forall_not_mem]
    rintro ⟨path, node⟩ hmem
    have hnode := Table.mem_rows_iff.mp hmem
    by_cases hnil : path = []
    · subst hnil
      have hkept := hremoved.kept [] fun h => h.2 rfl
      exact (horderly.entries [] node (hkept.symm.trans hnode)).1 rfl
    · have habsent := hremoved.absent path ⟨List.nil_prefix, Ne.symm hnil⟩
      cases habsent.symm.trans hnode
  refine ⟨(), after.without staging, ?_, fun entry => ?_⟩
  · rw [removeEntry, hfinal]
    exact if_pos (by simp [hempty])
  · rw [Root.without, Table.get?_deleteKey]
    split
    · rename_i heq
      rw [heq, hnew]
    · rename_i hentry
      exact hafter.elsewhere entry hentry

/-- Nothing but the staging directory has changed. -/
def Elsewhere (staging : String) (before root : Root) : Prop :=
  ∀ entry, entry ≠ staging → root.get? entry = before.get? entry

theorem keeps_elsewhere {point : StoragePoint}
    {f : DirectoryTree UInt8 → Option (DirectoryTree UInt8)} :
    Proc.Keeps (Elsewhere staging before) (Proc.action point (inDirectory staging f)) := by
  refine Proc.Keeps.action fun root u root' h hok entry hentry => ?_
  obtain ⟨tree, tree', -, -, rfl⟩ := inDirectory_eq_ok hok
  rw [Table.get?_modify, if_neg hentry]
  exact h entry hentry

theorem keeps_removeUnder : ∀ {depth : Nat} {directory : List String},
    Proc.Keeps (Elsewhere staging before) (removeUnder staging depth directory) := by
  intro depth
  induction depth with
  | zero => exact .pure
  | succ depth ih =>
    intro directory
    refine .bind (.tryExcept .read fun _ => .pure) fun found => ?_
    exact .bind (.forM fun _ => ih) fun _ => .bind (.forM fun _ => keeps_elsewhere) fun _ =>
      .forM fun _ => keeps_elsewhere

/-- Whatever happens in the cleanup, it happens in the staging directory. -/
theorem keeps_removeStagingTree :
    Proc.Keeps (Elsewhere staging before) (removeStagingTree staging depth) := by
  refine .bind keeps_removeUnder fun _ => .action fun root u root' h hok entry hentry => ?_
  unfold removeEntry at hok
  split at hok
  · split at hok
    · cases hok
      rw [Root.without, Table.get?_deleteKey, if_neg hentry]
      exact h entry hentry
    · cases hok
  · cases hok

/-! ## Exposure -/

/-- The preparation is at its destination, and nothing else has changed. -/
structure Exposed (name : String) (normalized : List (String × Bytes)) (before root : Root) :
    Prop where
  destination : ∃ tree, root.get? name = some (.directory tree) ∧ Complete normalized tree
  others : ∀ entry, entry ≠ name → root.get? entry = before.get? entry

/-- The rename exposes what is staged. -/
theorem Staged.rename {name : String} {normalized : List (String × Bytes)} {root root' : Root}
    {u : Unit} (h : Staged staging before (Complete normalized) root)
    (hnew : before.get? staging = none)
    (hok : renameDirectory staging name root = .ok (u, root')) :
    Exposed name normalized before root' := by
  obtain ⟨tree, hget, htree⟩ := h.tree
  -- but for the staging entry the root is as before
  have hothers : ∀ entry, (root.without staging).get? entry = before.get? entry := by
    intro entry
    rw [Root.without, Table.get?_deleteKey]
    split
    · rename_i heq
      rw [heq, hnew]
    · rename_i hentry
      exact h.elsewhere entry hentry
  have hinsert : ∀ cleared : Root, cleared.get? name = none →
      (∀ entry, entry ≠ name → cleared.get? entry = before.get? entry) →
      Exposed name normalized before (cleared.insert name (.directory tree)) := by
    intro cleared hcleared hrest
    refine ⟨⟨tree, Table.get?_insert_self hcleared _, htree⟩, fun entry hentry => ?_⟩
    rw [Table.get?_insert hcleared, if_neg hentry]
    exact hrest entry hentry
  unfold renameDirectory at hok
  rw [hget] at hok
  simp only at hok
  split at hok
  · -- the name is free, or an empty directory is replaced
    rename_i hnone
    cases hok
    refine hinsert _ ?_ fun entry _ => hothers entry
    rw [Root.without, Table.get?_deleteKey, hnone, ite_self]
  · split at hok
    · cases hok
      refine hinsert _ ?_ fun entry hentry => ?_
      · rw [Root.without, Table.get?_deleteKey, if_pos rfl]
      · rw [Root.without, Table.get?_deleteKey, if_neg hentry]
        exact hothers entry
    · cases hok
  · cases hok

theorem keeps_destinationExists {P : Root → Prop} {name : String} {again : Bool} :
    Proc.Keeps P (destinationExists name again) :=
  .tryExcept .read fun _ => .pure

variable {normalized : List (String × Bytes)}

/-- What is known of the staged tree, with what keeps it removable. -/
theorem both_orderly {α : Type} {m : Storage α} {P : DirectoryTree UInt8 → Prop}
    {post : α → Root → Prop}
    (hm : Proc.Triple ev (fun _ => Faulty ev) (Staged staging before P) m
      post (fun _ _ => Faulty ev))
    (hkeeps : Proc.Keeps (Staged staging before (Orderly depth)) m) :
    Proc.Triple ev (Staged staging before (Orderly depth))
      (Staged staging before fun tree => P tree ∧ Orderly depth tree) m
      (fun a root => post a root ∧ Staged staging before (Orderly depth) root)
      (fun _ => Staged staging before (Orderly depth)) := by
  have hm' : Proc.Triple ev (fun _ => Faulty ev)
      (Staged staging before fun tree => P tree ∧ Orderly depth tree) m post
      (fun _ _ => Faulty ev) :=
    hm.weaken (fun _ h => h.mono fun _ => And.left) (fun _ h => h) (fun _ _ h => h) (fun _ _ h => h)
  have hkeeps' : Proc.Triple ev (Staged staging before (Orderly depth))
      (Staged staging before fun tree => P tree ∧ Orderly depth tree) m
      (fun _ => Staged staging before (Orderly depth))
      (fun _ => Staged staging before (Orderly depth)) :=
    (hkeeps ev).weaken (fun _ h => h.mono fun _ => And.right) (fun _ h => h) (fun _ _ h => h)
      (fun _ _ h => h)
  exact (hm'.both hkeeps').weaken (fun _ h => h) (fun _ h => h.2) (fun _ _ h => h)
    (fun _ _ h => h.2)

/-- The body of the `try` statement exposes the preparation, or leaves what can be removed. -/
theorem triple_stageAndExpose {sha256 : Bytes → String} {name : String}
    {validator : PreparationValidator} (hnew : before.get? staging = none)
    (hseparate : Separate normalized)
    (hdepth : ∀ file ∈ normalized, (partsOf file).length ≤ depth) :
    Proc.Triple ev (Staged staging before (Orderly depth))
      (Staged staging before fun tree => Complete [] tree ∧ Orderly depth tree)
      (stageAndExpose sha256 staging name normalized validator)
      (fun receipt root => receipt = preparationReceipt sha256 name normalized ∧
        Exposed name normalized before root)
      (fun _ => Staged staging before (Orderly depth)) := by
  let staged := Staged staging before fun tree => Complete normalized tree ∧ Orderly depth tree
  have horderly : ∀ root, staged root → Staged staging before (Orderly depth) root :=
    fun _ h => h.mono fun _ => And.right
  -- 1. the files are written
  have hwrite : Proc.Triple ev (Staged staging before (Orderly depth))
      (Staged staging before fun tree => Complete [] tree ∧ Orderly depth tree)
      (normalized.forM (stageFile staging)) (fun _ => staged)
      (fun _ => Staged staging before (Orderly depth)) :=
    (both_orderly (triple_stageFiles hseparate)
      (.forM_mem fun file hfile => keeps_stageFile (hdepth file hfile))).weaken (fun _ h => h)
      (fun _ h => h) (fun _ _ h => h.1.and h.2) (fun _ _ h => h)
  -- 2. they are read back
  have hread : Proc.Triple ev (Staged staging before (Orderly depth)) staged
      (readBack staging normalized) (fun observed root => observed = normalized ∧ staged root)
      (fun _ => Staged staging before (Orderly depth)) :=
    (both_orderly (triple_readBack fun _ hfile => hfile) keeps_readBack).weaken (fun _ h => h)
      (fun _ h => h) (fun _ _ h => ⟨h.1.1, h.1.2.and h.2⟩) (fun _ _ h => h)
  refine .bind hwrite fun _ => .bind hread fun observed => ?_
  rintro root ⟨rfl, hroot⟩
  -- 3. the checks and the validator change nothing
  have hcheck : ∀ x : Except StorageError Unit, Proc.Triple ev
      (Staged staging before (Orderly depth)) staged (Proc.ofExcept x) (fun _ => staged)
      (fun _ => Staged staging before (Orderly depth)) :=
    fun x => .ofExcept (fun _ _ _ h => h) fun _ _ _ h => horderly _ h
  have htaken : Proc.Triple ev (Staged staging before (Orderly depth)) staged
      (destinationExists name true) (fun _ => staged)
      (fun _ => Staged staging before (Orderly depth)) :=
    (keeps_destinationExists ev).weaken (fun _ h => h) horderly (fun _ _ h => h)
      (fun _ => horderly)
  -- 4. the rename exposes them
  have hrename : Proc.Triple ev (Staged staging before (Orderly depth)) staged
      (Proc.action .rename (renameDirectory staging name))
      (fun _ => Exposed name observed before)
      (fun _ => Staged staging before (Orderly depth)) :=
    .action horderly (fun _ _ _ h hok => (h.mono fun _ => And.left).rename hnew hok)
      (fun _ _ h => horderly _ h)
  exact Proc.Triple.bind (hcheck _) (fun _ => .bind (hcheck _) fun _ => .bind htaken fun taken =>
    .bind (hcheck _) fun _ => .bind hrename fun _ => .pure fun _ h => ⟨rfl, h⟩) root hroot

/-! ## Publication -/

theorem complete_empty : Complete [] (Table.empty : DirectoryTree UInt8) where
  files _ _ := by simp
  directories path := by simp [IsDirectoryOf]

/-- A new staging directory is empty. -/
theorem makeStaging_eq_ok {root : Root} {u : Unit}
    (h : makeStaging staging before = .ok (u, root)) : before.get? staging = none ∧
      Staged staging before (fun tree => Complete [] tree ∧ Orderly depth tree) root := by
  unfold makeStaging at h
  split at h
  · cases h
  · rename_i hnew
    cases h
    refine ⟨hnew, fun entry hentry => ?_, Table.empty, Table.get?_insert_self hnew _,
      complete_empty, Orderly.empty depth⟩
    rw [Table.get?_insert hnew, if_neg hentry]

theorem destination_ne_staging {name suffix : String} (h : isDestinationName name = true) :
    name ≠ stagingPrefix ++ suffix := by
  rintro rfl
  have hchars : (stagingPrefix ++ suffix).toList = '.' :: ("staging-".toList ++ suffix.toList) :=
    String.toList_append
  unfold isDestinationName at h
  rw [hchars] at h
  simp only [Bool.and_eq_true] at h
  exact absurd h.1.1 (by decide)

/-- The paths of accepted files are separate, but for the dot. -/
theorem WellFormed.separate {files : FileMapping} (h : WellFormed files)
    (hitems : files.items = normalized.map fun file => (file.1, .bytes file.2)) :
    Separate normalized := by
  -- the parts of a normalized path are its names
  have hnames : ∀ file ∈ normalized, ∃ names, names ≠ [] ∧ (∀ name ∈ names, IsName name) ∧
      file.1 = joined names ∧ partsOf file = names := by
    intro file hfile
    obtain ⟨names, hne, hnames, heq⟩ := h.normalized (file.1, .bytes file.2)
      (hitems ▸ List.mem_map_of_mem hfile)
    have hproper : ∀ name ∈ names, IsName name := fun name hname => (hnames name hname).1
    have hpath : file.1 = joined names := heq
    refine ⟨names, hne, hproper, hpath, ?_⟩
    rw [partsOf, hpath, PosixPath.ofText_joined hne hproper]
    rfl
  -- so a path whose parts begin another's would be a prefix of it
  have hapart : ∀ a ∈ normalized, ∀ b ∈ normalized, a.1 ≠ b.1 → ¬ partsOf a <+: partsOf b := by
    intro a ha b hb hab hstart
    obtain ⟨names, hne, hproper, hpath, hparts⟩ := hnames a ha
    obtain ⟨names', hne', hproper', hpath', hparts'⟩ := hnames b hb
    rw [hparts, hparts'] at hstart
    by_cases heq : names = names'
    · exact hab (by rw [hpath, hpath', heq])
    · obtain ⟨rest, hrest⟩ :=
        (joined_append_slash_iff hne hproper hproper' hne').mpr ⟨hstart, heq⟩
      refine h.apart (a.1, .bytes a.2) (hitems ▸ List.mem_map_of_mem ha) (b.1, .bytes b.2)
        (hitems ▸ List.mem_map_of_mem hb) rest ?_
      rw [hpath, hpath']
      exact hrest
  have hkeys : (normalized.map Prod.fst).Nodup := by
    have hnodup := files.nodup
    rwa [hitems, List.map_map] at hnodup
  intro done file rest hsplit
  have hmem : ∀ other ∈ done, other ∈ normalized := fun other hother => by
    simp [hsplit, hother]
  have hfile : file ∈ normalized := by simp [hsplit]
  have hdiffer : ∀ other ∈ done, other.1 ≠ file.1 := by
    rw [hsplit, List.map_append, List.map_cons, List.nodup_append] at hkeys
    exact fun other hother =>
      hkeys.2.2 other.1 (List.mem_map_of_mem hother) file.1 List.mem_cons_self
  obtain ⟨names, hne, -, -, hparts⟩ := hnames file hfile
  exact ⟨hparts ▸ hne, fun other hother => hapart other (hmem other hother) file hfile
    (hdiffer other hother), fun other hother => hapart file hfile other (hmem other hother)
    (hdiffer other hother).symm⟩

theorem length_le_depthOf {file : String × Bytes} (h : file ∈ normalized) :
    (partsOf file).length ≤ depthOf normalized := by
  unfold depthOf
  induction normalized with
  | nil => cases h
  | cons other normalized ih =>
    rw [List.map_cons, List.foldr_cons]
    rcases List.mem_cons.mp h with rfl | h
    · exact le_max_left _ _
    · exact (ih h).trans (le_max_right _ _)

theorem validateFiles_eq_ok {files : FileMapping} (h : validateFiles files = .ok normalized) :
    files.items = normalized.map fun file => (file.1, .bytes file.2) := by
  simp only [validateFiles, bind_eq_ok] at h
  obtain ⟨-, -, hitems⟩ := h
  exact (validateItems_eq_ok.mp hitems).2.1

/-- What a publication that raised left. -/
def Undone (name staging : String) (ev : StoragePoint → Event StorageError)
    (before root : Root) : Prop :=
  root.get? name = before.get? name ∧ Elsewhere staging before root ∧
    (CleanupProceeds ev → ∀ entry, root.get? entry = before.get? entry)

/-- The publication of well-formed files. -/
theorem triple_publishPreparation {sha256 : Bytes → String} {path : RootPath} {name suffix : String}
    {files : FileMapping} {validator : PreparationValidator} (hfiles : ¬ IsSingleDot files) :
    Proc.Triple ev (Elsewhere (stagingPrefix ++ suffix) before) (· = before)
      (publishPreparation sha256 path name files validator suffix)
      (fun receipt root => ∃ contents : List (String × Bytes),
        files.items = contents.map (fun file => (file.1, .bytes file.2)) ∧
        receipt = preparationReceipt sha256 name contents ∧ Exposed name contents before root)
      (fun _ => Undone name (stagingPrefix ++ suffix) ev before) := by
  have hundone : ∀ root, root = before → Undone name (stagingPrefix ++ suffix) ev before root := by
    rintro root rfl
    exact ⟨rfl, fun _ _ => rfl, fun _ _ => rfl⟩
  have helsewhere : ∀ root, root = before → Elsewhere (stagingPrefix ++ suffix) before root := by
    rintro root rfl entry -
    rfl
  -- until the staging directory is made nothing has changed
  refine .bind (M := fun _ root => root = before)
    (.ofExcept (fun _ _ _ h => h) fun _ s _ h => hundone s h) fun _ => ?_
  refine .bind (M := fun _ root => isDestinationName name = true ∧ root = before)
    (.ofExcept (fun _ _ hok h => ⟨?_, h⟩) fun _ s _ h => hundone s h) fun _ => ?_
  · simp only [validateDestinationName, require_eq_ok, not_or, not_not] at hok
    exact hok.1
  refine .bind (M := fun normalized root => validateFiles files = .ok normalized ∧
    isDestinationName name = true ∧ root = before)
    (.ofExcept (fun _ _ hok h => ⟨hok, h⟩) fun _ s _ h => hundone s h.2) fun normalized => ?_
  rintro root ⟨hvalid, hdestination, hroot⟩
  have hne : name ≠ stagingPrefix ++ suffix := destination_ne_staging hdestination
  have hwell : WellFormed files :=
    (validateFiles_accepts.mp ⟨normalized, hvalid⟩).resolve_right hfiles
  have hitems := validateFiles_eq_ok hvalid
  have htaken : Proc.Triple ev (Elsewhere (stagingPrefix ++ suffix) before) (· = before)
      (destinationExists name false) (fun _ root => root = before)
      (fun _ => Undone name (stagingPrefix ++ suffix) ev before) :=
    (keeps_destinationExists ev).weaken (fun _ h => h) helsewhere (fun _ _ h => h)
      (fun _ => hundone)
  refine Proc.Triple.bind htaken (fun taken => .bind (M := fun _ root => root = before)
    (.ofExcept (fun _ _ _ h => h) fun _ s _ h => hundone s h) fun _ =>
    .bind (M := fun _ root => before.get? (stagingPrefix ++ suffix) = none ∧
      Staged (stagingPrefix ++ suffix) before
        (fun tree => Complete [] tree ∧ Orderly (depthOf normalized) tree) root)
      (.action helsewhere ?_ (fun s _ h => hundone s h)) fun _ => ?_) root hroot
  · rintro s u t rfl hok
    exact makeStaging_eq_ok hok
  · rintro s ⟨hnew, hs⟩
    -- the body of the `try`
    have hbody : Proc.Triple ev (Elsewhere (stagingPrefix ++ suffix) before)
        (Staged (stagingPrefix ++ suffix) before
          fun tree => Complete [] tree ∧ Orderly (depthOf normalized) tree)
        (stageAndExpose sha256 (stagingPrefix ++ suffix) name normalized validator)
        (fun receipt root => ∃ contents : List (String × Bytes),
          files.items = contents.map (fun file => (file.1, .bytes file.2)) ∧
          receipt = preparationReceipt sha256 name contents ∧ Exposed name contents before root)
        (fun _ => Staged (stagingPrefix ++ suffix) before (Orderly (depthOf normalized))) :=
      (triple_stageAndExpose hnew (hwell.separate hitems) fun file => length_le_depthOf).weaken
        (fun _ h => h) (fun _ h => h.elsewhere) (fun _ _ h => ⟨normalized, hitems, h⟩)
        (fun _ _ h => h)
    -- and its cleanup, which may be stopped itself
    have hcleanup : ∀ e : StorageError, Proc.Triple ev (Elsewhere (stagingPrefix ++ suffix) before)
        (Staged (stagingPrefix ++ suffix) before (Orderly (depthOf normalized)))
        (removeStagingTree (stagingPrefix ++ suffix) (depthOf normalized))
        (fun _ => Undone name (stagingPrefix ++ suffix) ev before)
        (fun _ => Undone name (stagingPrefix ++ suffix) ev before) := by
      intro _
      by_cases hclean : CleanupProceeds ev
      · exact (triple_removeStagingTree hclean hnew).weaken (fun _ h => h) (fun _ h => h.elim)
          (fun _ _ h => ⟨h name, fun entry _ => h entry, fun _ => h⟩) (fun _ _ h => h.elim)
      · have hrest : ∀ root, Elsewhere (stagingPrefix ++ suffix) before root →
            Undone name (stagingPrefix ++ suffix) ev before root :=
          fun root h => ⟨h name hne, h, fun hev => absurd hev hclean⟩
        exact (keeps_removeStagingTree ev).weaken (fun _ h => h.elsewhere) (fun _ h => h)
          (fun _ => hrest) (fun _ => hrest)
    exact Proc.Triple.onRaise hbody hcleanup s hs

/-- Whatever happens at the steps, well-formed files are exposed whole or not at all. -/
theorem publishPreparation_allOrNothing {sha256 : Bytes → String} {path : RootPath}
    {name suffix : String} {files : FileMapping} {validator : PreparationValidator}
    (hfiles : ¬ IsSingleDot files) :
    AllOrNothing sha256 name (stagingPrefix ++ suffix) files ev before
      (publishPreparation sha256 path name files validator suffix ev before) := by
  have hends : Proc.Ends (Elsewhere (stagingPrefix ++ suffix) before) _ _
    (publishPreparation sha256 path name files validator suffix ev before) :=
    triple_publishPreparation hfiles before rfl
  constructor
  · intro e after hresult
    rw [hresult] at hends
    exact hends
  · intro receipt after hresult
    rw [hresult] at hends
    obtain ⟨contents, hitems, hreceipt, hexposed⟩ := hends
    exact ⟨contents, hitems, hreceipt, hexposed.destination, hexposed.others⟩
  · intro after hresult
    rw [hresult] at hends
    exact hends

/-- A root that another publisher has locked is left alone. -/
theorem publishRunPreparation_busy {sha256 : Bytes → String} {path : RootPath}
    {name suffix : String} {files : FileMapping} {validator : PreparationValidator} :
    Proc.Triple ev (· = before) (· = before)
      (publishRunPreparation sha256 path name files validator suffix true)
      (fun _ _ => False) (fun _ root => root = before) := by
  have hclose : ∀ {post : Root → Prop}, (∀ root, root = before → post root) →
      Proc.Triple ev (· = before) (· = before)
        (Proc.action .close fun root => .ok ((), root) : Storage Unit) (fun _ => post)
        (fun _ root => root = before) := by
    intro post hpost
    refine .action (fun _ h => h) (fun s u t h hok => ?_) fun _ _ h => h
    cases hok
    exact hpost s h
  refine .bind (M := fun _ root => root = before) (.action (fun _ h => h) ?_ fun _ _ h => h)
    fun _ => ?_
  · intro s u t h hok
    split at hok
    · cases hok
      exact h
    · cases hok
  · refine .bind (M := fun _ _ => False) (.onRaise (M := fun _ root => root = before) ?_ fun _ =>
      hclose fun _ h => h) fun _ _ h => h.elim
    refine .bind (M := fun _ _ => False) (.ofExcept ?_ fun _ _ _ h => h) fun _ _ h => h.elim
    exact fun _ _ hok _ => nomatch require_eq_ok.mp hok

end

/-- The dot has no name. -/
theorem IsSingleDot.not_wellFormed {files : FileMapping} (h : IsSingleDot files) :
    ¬ WellFormed files := by
  intro hwell
  obtain ⟨content, hitems⟩ := h
  obtain ⟨names, hne, hnames, heq⟩ := hwell.normalized (".", .bytes content) (by simp [hitems])
  have hnone : namesOf ".".toList = [] := by decide
  have hdot : joined names = "." := heq.symm
  rw [← namesOf_joined hne fun name hname => (hnames name hname).1, hdot] at hne
  exact hne hnone

/-- **All or nothing.** The law of publication holds of every mapping but that of the single
dot, which is accepted without a name. -/
theorem publicationLaw_iff (files : FileMapping) : PublicationLaw files ↔ ¬ IsSingleDot files := by
  constructor
  · intro h hdot
    exact hdot.not_wellFormed (h.accepts.mp (validateFiles_accepts.mpr (.inr hdot)))
  · intro hfiles
    refine ⟨?_, ?_, fun sha256 root name validator suffix ev before =>
      publishPreparation_allOrNothing hfiles⟩
    · rw [validateFiles_accepts, or_iff_left hfiles]
    · intro normalized hvalid staging ev before hget hev
      have hwell := (validateFiles_accepts.mp ⟨normalized, hvalid⟩).resolve_right hfiles
      have hfaulty : ¬ Faulty ev := fun ⟨point, hpoint⟩ => hpoint (hev point)
      have hstage : Proc.Triple ev (fun _ => False) (Staged staging before (Complete []))
          (normalized.forM (stageFile staging))
          (fun _ => Staged staging before (Complete normalized)) (fun _ _ => False) :=
        (triple_stageFiles (hwell.separate (validateFiles_eq_ok hvalid))).weaken (fun _ h => h)
          (fun _ h => hfaulty h) (fun _ _ h => h) (fun _ _ h => hfaulty h)
      have hempty : Staged staging before (Complete []) before :=
        ⟨fun _ _ => rfl, Table.empty, hget, complete_empty⟩
      obtain ⟨⟨⟩, after, hresult, -⟩ := hstage.returns hempty
      exact ⟨after, hresult⟩

/-- The mapping of the single dot. -/
def dotFiles : FileMapping where
  items := [(".", .bytes [])]
  nodup := by decide

/-- The dot passes the check of the paths, although it has no name. -/
theorem single_dot_accepted :
    validateFiles dotFiles = .ok [(".", [])] ∧ ¬ WellFormed dotFiles ∧
      ¬ PublicationLaw dotFiles := by
  have hdot : IsSingleDot dotFiles := ⟨[], rfl⟩
  have haccepted : validateFiles dotFiles = .ok [(".", [])] := by decide
  exact ⟨haccepted, hdot.not_wellFormed,
    fun h => hdot.not_wellFormed (h.accepts.mp ⟨_, haccepted⟩)⟩

end StockResearch.Preparation
