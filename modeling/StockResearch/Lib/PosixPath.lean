import Mathlib.Data.List.Infix
import Mathlib.Tactic.Common

/-!
# Pure POSIX paths

A path as the language's path library reads it from a text, without looking at any file:
a root, and the names after it. Empty names and single dots are dropped when a text is
read, so that many texts are one path; a text is normal if it is the one its path is
written as.

- `PosixPath`, `PosixPath.ofText`, `PosixPath.asPosix`: reading and writing.
- `IsName`, `joined`: names, and the text of a list of them.
- `PosixPath.relative_normal_iff`: the normal texts of relative paths.
- `PosixPath.mem_parents`: the parents of a path are its proper prefixes.
-/

namespace StockResearch

/-- A pure path: its root (none, `/` or `//`), and its names. -/
structure PosixPath where
  root : String
  tail : List String
deriving DecidableEq

/-! ## Names -/

/-- A name that reading a text does not drop. -/
def IsName (name : String) : Prop := name ≠ "" ∧ name ≠ "." ∧ '/' ∉ name.toList

instance (name : String) : Decidable (IsName name) :=
  inferInstanceAs (Decidable (_ ∧ _ ∧ _))

/-- The names of a text, between its slashes. -/
def namesOf (text : List Char) : List String :=
  ((text.splitOn '/').map String.ofList).filter fun name => name ≠ "" ∧ name ≠ "."

/-- The text of a list of names. -/
def joined (names : List String) : String :=
  String.ofList (['/'].intercalate (names.map String.toList))

theorem not_mem_of_mem_splitOn {α : Type} [DecidableEq α] {separator : α} {xs part : List α}
    (h : part ∈ xs.splitOn separator) : separator ∉ part := by
  induction xs generalizing part with
  | nil =>
    rw [List.splitOn_nil, List.mem_singleton] at h
    simp [h]
  | cons x xs ih =>
    rw [List.splitOn_cons_eq_if_modifyHead] at h
    split at h
    · rcases List.mem_cons.mp h with rfl | h
      · simp
      · exact ih h
    · rename_i hx
      cases hsplit : xs.splitOn separator with
      | nil => exact absurd hsplit (List.splitOn_ne_nil separator xs)
      | cons first rest =>
        rw [hsplit, List.modifyHead_cons] at h
        rcases List.mem_cons.mp h with rfl | h
        · have hfirst := ih (hsplit ▸ List.mem_cons_self)
          have hne : separator ≠ x := fun heq => hx (by simp [heq])
          simp [hfirst, hne]
        · exact ih (hsplit ▸ List.mem_cons_of_mem _ h)

theorem isName_of_mem_namesOf {text : List Char} {name : String} (h : name ∈ namesOf text) :
    IsName name := by
  obtain ⟨hmem, hkept⟩ := List.mem_filter.mp h
  obtain ⟨part, hpart, rfl⟩ := List.mem_map.mp hmem
  simp only [decide_eq_true_eq] at hkept
  refine ⟨hkept.1, hkept.2, ?_⟩
  rw [String.toList_ofList]
  exact not_mem_of_mem_splitOn hpart

/-- Joined names are read again. -/
theorem namesOf_joined {names : List String} (hne : names ≠ [])
    (hnames : ∀ name ∈ names, IsName name) : namesOf (joined names).toList = names := by
  have hsplit : (joined names).toList.splitOn '/' = names.map String.toList := by
    rw [joined, String.toList_ofList]
    refine List.splitOn_intercalate _ ?_ (by simpa using hne)
    intro part hpart
    obtain ⟨name, hname, rfl⟩ := List.mem_map.mp hpart
    exact (hnames name hname).2.2
  have hmap : (names.map String.toList).map String.ofList = names := by
    simp [List.map_map, Function.comp_def]
  rw [namesOf, hsplit, hmap]
  refine List.filter_eq_self.mpr fun name hname => ?_
  exact decide_eq_true ⟨(hnames name hname).1, (hnames name hname).2.1⟩

/-- Joined names start with a character of the first, which is no slash. -/
theorem joined_toList {names : List String} (hne : names ≠ [])
    (hnames : ∀ name ∈ names, IsName name) :
    ∃ c rest, (joined names).toList = c :: rest ∧ c ≠ '/' := by
  obtain ⟨name, others, rfl⟩ := List.exists_cons_of_ne_nil hne
  obtain ⟨hempty, -, hslash⟩ := hnames name List.mem_cons_self
  obtain ⟨c, rest, hchars⟩ := List.exists_cons_of_ne_nil
    (fun hnil => hempty (String.toList_eq_nil_iff.mp hnil) : name.toList ≠ [])
  have hc : c ≠ '/' := fun heq => hslash (by simp [hchars, heq])
  rw [joined, String.toList_ofList]
  cases others with
  | nil => exact ⟨c, rest, by simp [hchars], hc⟩
  | cons other others =>
    rw [List.map_cons, List.map_cons, List.intercalate_cons_cons, hchars]
    exact ⟨c, _, rfl, hc⟩

/-- The characters of joined names are those of the names, and slashes between them. -/
theorem mem_joined {names : List String} {c : Char} (hc : c ≠ '/') :
    c ∈ (joined names).toList ↔ ∃ name ∈ names, c ∈ name.toList := by
  rw [joined, String.toList_ofList]
  induction names with
  | nil => simp
  | cons name names ih =>
    cases names with
    | nil => simp
    | cons other names =>
      rw [List.map_cons, List.map_cons, List.intercalate_cons_cons, ← List.map_cons]
      simp only [List.mem_append, ih, List.mem_cons, exists_eq_or_imp, hc, List.not_mem_nil,
        or_false]

/-- Joined names, after a directory. -/
theorem joined_append {names rest : List String} (hne : names ≠ []) (hrest : rest ≠ []) :
    joined (names ++ rest) = joined names ++ "/" ++ joined rest := by
  obtain ⟨first, rest, rfl⟩ := List.exists_cons_of_ne_nil hrest
  simp only [joined, ← String.toList_inj, String.toList_append, String.toList_ofList]
  induction names with
  | nil => exact absurd rfl hne
  | cons name names ih =>
    cases names with
    | nil => simp
    | cons other names =>
      have ih := ih (by simp)
      simp only [List.cons_append, List.map_cons, List.intercalate_cons_cons,
        List.append_assoc] at ih ⊢
      rw [ih]

/-- A normal text is a directory of another exactly where its names come first. -/
theorem joined_append_slash_iff {names names' : List String} (hne : names ≠ [])
    (hnames : ∀ name ∈ names, IsName name) (hnames' : ∀ name ∈ names', IsName name)
    (hne' : names' ≠ []) :
    (∃ rest, joined names' = joined names ++ "/" ++ rest) ↔ names <+: names' ∧ names ≠ names' := by
  constructor
  · rintro ⟨rest, heq⟩
    have hsplit : names' = names ++ namesOf rest.toList := by
      have hlist : (joined names').toList = (joined names).toList ++ '/' :: rest.toList := by
        rw [heq]
        simp
      rw [← namesOf_joined hne' hnames', hlist, namesOf, List.splitOn_append_cons_self,
        List.map_append, List.filter_append]
      exact congrArg (· ++ namesOf rest.toList) (namesOf_joined hne hnames)
    refine ⟨⟨_, hsplit.symm⟩, ?_⟩
    rintro rfl
    have hlength := congrArg String.length heq
    simp only [String.length_append] at hlength
    have hslash : "/".length = 1 := by decide
    omega
  · rintro ⟨⟨rest, rfl⟩, hproper⟩
    have hrest : rest ≠ [] := by
      rintro rfl
      exact hproper (List.append_nil names).symm
    exact ⟨joined rest, joined_append hne hrest⟩

/-! ## Paths -/

namespace PosixPath

/-- `PurePosixPath(text)`: two slashes at the start are a root of their own, three are
one. -/
def ofText (text : String) : PosixPath :=
  match text.toList with
  | '/' :: '/' :: '/' :: rest => ⟨"/", namesOf rest⟩
  | '/' :: '/' :: rest => ⟨"//", namesOf rest⟩
  | '/' :: rest => ⟨"/", namesOf rest⟩
  | chars => ⟨"", namesOf chars⟩

/-- `as_posix()` -/
def asPosix (path : PosixPath) : String :=
  if path.root = "" ∧ path.tail = [] then "." else path.root ++ joined path.tail

/-- `is_absolute()` -/
def isAbsolute (path : PosixPath) : Bool := path.root ≠ ""

/-- `parts` -/
def parts (path : PosixPath) : List String :=
  if path.root = "" then path.tail else path.root :: path.tail

/-- `parents` -/
def parents (path : PosixPath) : List PosixPath :=
  path.tail.inits.dropLast.reverse.map fun tail => ⟨path.root, tail⟩

/-- `parent` -/
def parent (path : PosixPath) : PosixPath := ⟨path.root, path.tail.dropLast⟩

/-- `path / other` -/
def join (path other : PosixPath) : PosixPath :=
  if other.root = "" then ⟨path.root, path.tail ++ other.tail⟩ else other

theorem ofText_of_head {text : String} (h : text.toList.head? ≠ some '/') :
    ofText text = ⟨"", namesOf text.toList⟩ := by
  unfold ofText
  split
  all_goals simp_all

theorem ofText_joined {names : List String} (hne : names ≠ [])
    (hnames : ∀ name ∈ names, IsName name) : ofText (joined names) = ⟨"", names⟩ := by
  obtain ⟨c, rest, hchars, hc⟩ := joined_toList hne hnames
  rw [ofText_of_head (by simpa [hchars] using hc), namesOf_joined hne hnames]

/-- The names of a relative path. -/
theorem ofText_relative {text : String} (h : (ofText text).root = "") :
    (ofText text).tail = namesOf text.toList := by
  unfold ofText at h ⊢
  split at h
  · exact absurd (show "/" = "" from h) (by decide)
  · exact absurd (show "//" = "" from h) (by decide)
  · exact absurd (show "/" = "" from h) (by decide)
  · rfl

/-- The normal texts of relative paths: the dot, and joined names. -/
theorem relative_normal_iff {text : String} :
    (ofText text).root = "" ∧ (ofText text).asPosix = text ↔
      text = "." ∨ ∃ names, names ≠ [] ∧ (∀ name ∈ names, IsName name) ∧ text = joined names := by
  constructor
  · rintro ⟨hroot, htext⟩
    have htail := ofText_relative hroot
    unfold asPosix at htext
    split at htext
    · exact .inl htext.symm
    · rename_i hsome
      refine .inr ⟨_, fun hnil => hsome ⟨hroot, hnil⟩, fun name hname => ?_, ?_⟩
      · exact isName_of_mem_namesOf (htail ▸ hname)
      · rw [hroot, String.empty_append] at htext
        exact htext.symm
  · rintro (rfl | ⟨names, hne, hnames, rfl⟩)
    · decide
    · rw [ofText_joined hne hnames]
      refine ⟨rfl, ?_⟩
      rw [asPosix, if_neg (fun h => hne h.2)]
      exact String.empty_append

theorem mem_inits_dropLast {α : Type} {xs ys : List α} :
    xs ∈ ys.inits.dropLast ↔ xs <+: ys ∧ xs ≠ ys := by
  induction ys generalizing xs with
  | nil => simp
  | cons y ys ih =>
    have hinits : (y :: ys).inits.dropLast = [] :: ys.inits.dropLast.map (y :: ·) := by
      have hsome : ys.inits ≠ [] := List.ne_nil_of_mem ((List.mem_inits [] ys).mpr List.nil_prefix)
      rw [List.inits_cons, List.dropLast_cons_of_ne_nil (by simpa using hsome),
        List.map_dropLast]
    rw [hinits]
    cases xs with
    | nil => simp
    | cons x xs =>
      simp only [List.mem_cons, reduceCtorEq, false_or, List.mem_map, List.cons.injEq,
        List.cons_prefix_cons, ne_eq, not_and]
      constructor
      · rintro ⟨zs, hzs, rfl, rfl⟩
        obtain ⟨hstart, hne⟩ := ih.mp hzs
        exact ⟨⟨rfl, hstart⟩, fun _ => hne⟩
      · rintro ⟨⟨rfl, hstart⟩, hne⟩
        exact ⟨xs, ih.mpr ⟨hstart, hne rfl⟩, rfl, rfl⟩

/-- The parents of a path have its root and a proper prefix of its names. -/
theorem mem_parents {path other : PosixPath} : path ∈ other.parents ↔
    path.root = other.root ∧ path.tail <+: other.tail ∧ path.tail ≠ other.tail := by
  simp only [parents, List.mem_map, List.mem_reverse, mem_inits_dropLast]
  constructor
  · rintro ⟨tail, h, rfl⟩
    exact ⟨rfl, h⟩
  · rintro ⟨hroot, h⟩
    exact ⟨path.tail, h, by rw [← hroot]⟩

end PosixPath

end StockResearch
