import StockResearch.Lib.Outcome
import StockResearch.Sources.PyExceptions

/-!
# Qualified names of a filing

Attributes and texts of XBRL name things by a prefix and a local name. The prefixes of a
member are read once, for the whole of it: a prefix with two namespaces is refused.

- `EdinetXbrlQName`: a resolved name.
- `readNamespaces`: `_read_namespaces`, the namespace of each prefix.
- `resolveQName`: `_resolve_qname`.
-/

namespace StockResearch.Sources

/-- `StringConstraints(min_length=1, max_length=1024)` -/
def IsBoundedText (text : String) : Prop := 1 ≤ text.length ∧ text.length ≤ 1024

instance (text : String) : Decidable (IsBoundedText text) :=
  inferInstanceAs (Decidable (_ ∧ _))

/-- `EdinetXbrlQName` -/
structure EdinetXbrlQName where
  nameSpace : String
  localName : String
  nameSpace_bounded : IsBoundedText nameSpace
  localName_bounded : IsBoundedText localName
deriving DecidableEq

/-- What `iterparse` yields of the namespaces of some bytes: each prefix with its namespace, in
document order, up to where it raises. -/
structure NamespaceRun where
  declared : List (String × String)
  error : Option XmlError

/-- `namespaces.get(label)` -/
def namespaceOf (namespaces : List (String × String)) (label : String) : Option String :=
  (namespaces.find? (·.1 = label)).map Prod.snd

/-- One round of the loop over the declared prefixes. -/
def declareLabel (namespaces : List (String × String)) (declared : String × String) :
    Except PyException (List (String × String)) :=
  match namespaceOf namespaces declared.1 with
  | some known => do
    require (known = declared.2) .valueError
    pure namespaces
  | none => pure (namespaces ++ [declared])

/-- `_read_namespaces` -/
def readNamespaces (run : NamespaceRun) : Except PyException (List (String × String)) := do
  let namespaces ← run.declared.foldlM declareLabel []
  match run.error with
  | some error => .error error.raised
  | none => pure namespaces

/-- `EdinetXbrlQName(...)`, and the checks of the model. -/
def makeQName (nameSpace localName : String) : Except PyException EdinetXbrlQName :=
  if h : IsBoundedText nameSpace ∧ IsBoundedText localName then
    .ok ⟨nameSpace, localName, h.1, h.2⟩
  else .error .valueError

/-- The prefix and the local name of a text, which is split at its only colon. -/
def splitQName (value : String) : Option (String × String) :=
  match split ':' value with
  | [localName] => some ("", localName)
  | [label, localName] => some (label, localName)
  | _ => none

/-- `_resolve_qname` -/
def resolveQName (value : String) (namespaces : List (String × String)) :
    Except PyException EdinetXbrlQName := do
  let (label, localName) ← fetch (splitQName value) .valueError
  let nameSpace ← fetch (namespaceOf namespaces label) .valueError
  require (localName ≠ "") .valueError
  makeQName nameSpace localName

/-! ## The prefixes of a member -/

/-- No prefix has two namespaces. -/
def Consistent (declared : List (String × String)) : Prop :=
  ∀ label first second, (label, first) ∈ declared → (label, second) ∈ declared → first = second

/-- The table says of every prefix what was declared. -/
def Records (namespaces declared : List (String × String)) : Prop :=
  Consistent declared ∧ ∀ label nameSpace,
    namespaceOf namespaces label = some nameSpace ↔ (label, nameSpace) ∈ declared

theorem records_nil : Records [] [] :=
  ⟨fun _ _ _ hfirst => absurd hfirst List.not_mem_nil, fun _ _ => by simp [namespaceOf]⟩

theorem namespaceOf_concat {namespaces : List (String × String)} {declared : String × String}
    {label : String} (h : namespaceOf namespaces declared.1 = none) :
    namespaceOf (namespaces ++ [declared]) label =
      if label = declared.1 then some declared.2 else namespaceOf namespaces label := by
  rw [namespaceOf, List.find?_append]
  by_cases hlabel : label = declared.1
  · subst hlabel
    rw [namespaceOf, Option.map_eq_none_iff] at h
    simp [h]
  · have hnot : [declared].find? (·.1 = label) = none := by simp [Ne.symm hlabel]
    rw [hnot, Option.or_none, if_neg hlabel, namespaceOf]

/-- A round either finds the prefix at odds, or records it. -/
theorem declareLabel_step {namespaces done : List (String × String)}
    (h : Records namespaces done) (declared : String × String) :
    (Consistent (done ++ [declared]) →
      ∃ namespaces', declareLabel namespaces declared = .ok namespaces' ∧
        Records namespaces' (done ++ [declared])) ∧
      (¬ Consistent (done ++ [declared]) →
        declareLabel namespaces declared = .error .valueError) := by
  obtain ⟨hconsistent, hrecords⟩ := h
  unfold declareLabel
  cases hknown : namespaceOf namespaces declared.1 with
  -- a new prefix
  | none =>
    have hnew : ∀ nameSpace, (declared.1, nameSpace) ∉ done := fun nameSpace hmem => by
      rw [(hrecords _ _).mpr hmem] at hknown
      cases hknown
    have hboth : Consistent (done ++ [declared]) := by
      intro label first second hfirst hsecond
      rcases List.mem_append.mp hfirst with hold | hnewest <;>
        rcases List.mem_append.mp hsecond with hold' | hnewest'
      · exact hconsistent label first second hold hold'
      · obtain rfl := List.mem_singleton.mp hnewest'
        exact absurd hold (hnew first)
      · obtain rfl := List.mem_singleton.mp hnewest
        exact absurd hold' (hnew second)
      · rw [List.mem_singleton] at hnewest hnewest'
        exact (Prod.mk.inj (hnewest.trans hnewest'.symm)).2
    refine ⟨fun _ => ⟨_, rfl, hboth, fun label nameSpace => ?_⟩, fun h => absurd hboth h⟩
    rw [namespaceOf_concat hknown]
    split
    · rename_i hlabel
      subst hlabel
      simp [hnew, Prod.ext_iff, eq_comm]
    · rename_i hlabel
      simp [hrecords, Prod.ext_iff, hlabel]
  -- a prefix that is bound: to the same name, or at odds with it
  | some known =>
    have hmem : (declared.1, known) ∈ done := (hrecords _ _).mp hknown
    by_cases hsame : known = declared.2
    · have hdone : ∀ item, item ∈ done ++ [declared] ↔ item ∈ done := by
        intro item
        rw [List.mem_append, List.mem_singleton, or_iff_left_of_imp]
        rintro rfl
        rw [hsame] at hmem
        exact hmem
      have hboth : Consistent (done ++ [declared]) := fun label first second hfirst hsecond =>
        hconsistent label first second ((hdone _).mp hfirst) ((hdone _).mp hsecond)
      refine ⟨fun _ => ⟨namespaces, ?_, hboth, fun label nameSpace => ?_⟩, fun h => absurd hboth h⟩
      · exact bind_eq_ok.mpr ⟨(), require_eq_ok.mpr hsame, rfl⟩
      · rw [hdone, hrecords]
    · refine ⟨fun h => absurd ?_ hsame, fun _ => ?_⟩
      · exact h declared.1 known declared.2 (List.mem_append_left _ hmem) (by simp)
      · exact bind_eq_error.mpr (.inl (require_eq_error.mpr ⟨hsame, rfl⟩))

theorem Consistent.of_append {xs ys : List (String × String)} (h : Consistent (xs ++ ys)) :
    Consistent xs := fun label first second hfirst hsecond =>
  h label first second (List.mem_append_left _ hfirst) (List.mem_append_left _ hsecond)

/-- The loop records the prefixes of a member if they are consistent, and raises if not. -/
theorem declareLabels {namespaces done : List (String × String)}
    (h : Records namespaces done) (rest : List (String × String)) :
    (Consistent (done ++ rest) → ∃ namespaces',
      rest.foldlM declareLabel namespaces = .ok namespaces' ∧
        Records namespaces' (done ++ rest)) ∧
      (¬ Consistent (done ++ rest) →
        rest.foldlM declareLabel namespaces = .error .valueError) := by
  induction rest generalizing namespaces done with
  | nil =>
    rw [List.append_nil]
    exact ⟨fun _ => ⟨namespaces, rfl, h⟩, fun hnot => absurd h.1 hnot⟩
  | cons declared rest ih =>
    have hassoc : done ++ declared :: rest = (done ++ [declared]) ++ rest := by simp
    obtain ⟨hok, herror⟩ := declareLabel_step h declared
    rw [hassoc, List.foldlM_cons]
    by_cases hstep : Consistent (done ++ [declared])
    · obtain ⟨namespaces', hrun, hrecords⟩ := hok hstep
      rw [hrun]
      exact ih hrecords
    · rw [herror hstep]
      exact ⟨fun hboth => absurd hboth.of_append hstep, fun _ => rfl⟩

/-- The prefixes of a member are read exactly when they are consistent and the library does
not raise. -/
theorem readNamespaces_eq_ok {run : NamespaceRun} {namespaces : List (String × String)}
    (h : readNamespaces run = .ok namespaces) :
    run.error = none ∧ Records namespaces run.declared := by
  obtain ⟨hok, herror⟩ := declareLabels records_nil run.declared
  rw [List.nil_append] at hok herror
  rw [readNamespaces] at h
  by_cases hconsistent : Consistent run.declared
  · obtain ⟨namespaces', hrun, hrecords⟩ := hok hconsistent
    rw [hrun] at h
    cases herror : run.error with
    | none =>
      rw [herror] at h
      cases h
      exact ⟨rfl, hrecords⟩
    | some error =>
      rw [herror] at h
      cases h
  · rw [herror hconsistent] at h
    cases h

theorem exists_readNamespaces {run : NamespaceRun} (hconsistent : Consistent run.declared)
    (herror : run.error = none) : ∃ namespaces, readNamespaces run = .ok namespaces := by
  obtain ⟨namespaces, hrun, -⟩ := (declareLabels records_nil run.declared).1 hconsistent
  exact ⟨namespaces, by rw [readNamespaces, hrun, herror]; rfl⟩

/-- It raises for a prefix with two namespaces, and then what the library raises. -/
theorem readNamespaces_eq_error {run : NamespaceRun} {error : PyException} :
    readNamespaces run = .error error ↔
      (¬ Consistent run.declared ∧ error = .valueError) ∨
        (Consistent run.declared ∧ ∃ raised, run.error = some raised ∧ raised.raised = error) := by
  obtain ⟨hok, herror⟩ := declareLabels records_nil run.declared
  rw [List.nil_append] at hok herror
  rw [readNamespaces]
  by_cases hconsistent : Consistent run.declared
  · obtain ⟨namespaces, hrun, -⟩ := hok hconsistent
    rw [hrun, ok_bind]
    cases run.error with
    | none => simp [hconsistent, pure, Except.pure]
    | some raised => simp [hconsistent]
  · rw [herror hconsistent]
    simp [hconsistent, bind, Except.bind, eq_comm]

/-! ## Names -/

theorem makeQName_eq_error {nameSpace localName : String} {error : PyException}
    (h : makeQName nameSpace localName = .error error) : error = .valueError := by
  unfold makeQName at h
  split at h
  · cases h
  · exact (Except.error.inj h).symm

/-- A name that cannot be resolved is a `ValueError`. -/
theorem resolveQName_eq_error {value : String} {namespaces : List (String × String)}
    {error : PyException} (h : resolveQName value namespaces = .error error) :
    error = .valueError := by
  simp only [resolveQName, bind_eq_error, fetch_eq_error, require_eq_error] at h
  rcases h with ⟨-, rfl⟩ | ⟨_, -, ⟨-, rfl⟩ | ⟨_, -, ⟨-, rfl⟩ | ⟨_, -, h⟩⟩⟩
  · rfl
  · rfl
  · rfl
  · exact makeQName_eq_error h

/-- A text names what its prefix and its local name are declared to be. -/
def Names (declared : List (String × String)) (value : String) (name : EdinetXbrlQName) : Prop :=
  ∃ label, splitQName value = some (label, name.localName) ∧ (label, name.nameSpace) ∈ declared

theorem resolveQName_eq_ok {value : String} {namespaces declared : List (String × String)}
    {name : EdinetXbrlQName} (h : Records namespaces declared) :
    resolveQName value namespaces = .ok name ↔ Names declared value name := by
  simp only [resolveQName, bind_eq_ok, fetch_eq_ok, require_eq_ok, h.2, Names]
  constructor
  · rintro ⟨⟨label, localName⟩, hsplit, nameSpace, hdeclared, -, -, hname⟩
    unfold makeQName at hname
    split at hname
    · cases hname
      exact ⟨label, hsplit, hdeclared⟩
    · cases hname
  · rintro ⟨label, hsplit, hdeclared⟩
    refine ⟨_, hsplit, _, hdeclared, (), ?_, ?_⟩
    · intro hempty
      have := name.localName_bounded.1
      rw [show name.localName = "" from hempty] at this
      exact absurd this (by decide)
    · exact dif_pos ⟨name.nameSpace_bounded, name.localName_bounded⟩

end StockResearch.Sources
