import StockResearch.Lib.Walk
import StockResearch.Preparation.TradingDates
import StockResearch.Sources.DocumentList

/-!
# Amended filings

An amended filing names the filing it amends, which may itself be an amendment. The links
are the provider's: they may lead nowhere, to another issuer, to two versions of one filing,
or round in a circle.

- `lookUp`: what the observations of an id say about its parent.
- `correctionReasons`: `correction_reasons`, the reasons not to choose between filings.
- `Chain`: the ids that the links lead through.
- `correctionReasons_resolved`: the loop ends, and what it reports.
-/

namespace StockResearch.Preparation

open Requests (Identifier)
open Sources

deriving instance DecidableEq for EdinetDocument

/-! ## The code -/

/-- Why the links cannot be followed any further. -/
inductive ParentFault where
  | missing
  | issuerMismatch
  | snapshotsConflict
deriving DecidableEq

/-- The reason that is reported. -/
def ParentFault.reason : ParentFault → String
  | missing => "amendment_parent_missing"
  | issuerMismatch => "amendment_parent_issuer_mismatch"
  | snapshotsConflict => "amendment_parent_snapshots_conflict"

/-- The loop over the parents, once: what the observations with an id lead to. The JSON text of
an observation has all its fields, so that it stands for the observation. -/
def lookUp (document : EdinetDocument) (documents : List EdinetDocument) (parent : Identifier) :
    Except ParentFault (Option Identifier) :=
  match documents.filter (·.documentId = parent) with
  | [] => .error .missing
  | item :: items =>
    if (item :: items).any (·.edinetCode ≠ document.edinetCode) then
      .error .issuerMismatch
    else if (item :: items).dedup.length ≠ 1 then .error .snapshotsConflict
    else .ok item.parentDocumentId

/-- The loop over the parents; none is a spent budget of rounds. -/
def followParents (rounds : Nat) (document : EdinetDocument) (documents : List EdinetDocument) :
    Option (Walk.Outcome ParentFault) :=
  Walk.walk (lookUp document documents) rounds [document.documentId] document.parentDocumentId

/-- What the loop adds to the reasons. -/
def chainReasons : Walk.Outcome ParentFault → List String
  | .ended => []
  | .cycle => ["amendment_cycle"]
  | .stopped fault => [fault.reason]

/-- What the type of a document adds to the reasons. -/
def amendedReasons (document : EdinetDocument) : List String :=
  if document.documentType.value ∈ ["130", "150", "170"] then
    "amendment_selection_unresolved" ::
      (if document.parentDocumentId = none then [ParentFault.missing.reason] else [])
  else []

/-- What the other children of the parent add to the reasons. -/
def competingReasons (document : EdinetDocument) (documents : List EdinetDocument) : List String :=
  if document.parentDocumentId ≠ none ∧ 1 < ((documents.filter
      (·.parentDocumentId = document.parentDocumentId)).map (·.documentId)).dedup.length then
    ["competing_amendments"]
  else []

/-- `correction_reasons`, with a budget of rounds. -/
def correctionReasons? (rounds : Nat) (document : EdinetDocument)
    (documents : List EdinetDocument) : Option (List String) := do
  let outcome ← followParents rounds document documents
  pure (sortedSet (amendedReasons document ++ chainReasons outcome ++
    competingReasons document documents))

/-- `correction_reasons` -/
def correctionReasons (document : EdinetDocument) (documents : List EdinetDocument) :
    List String :=
  (correctionReasons? (documents.length + 1) document documents).getD []

/-! ## The chain of parents -/

/-- All observations of an id are one filing of the issuer, with that parent. -/
def LeadsTo (document : EdinetDocument) (documents : List EdinetDocument) (id : Identifier)
    (parent : Option Identifier) : Prop :=
  ∃ item ∈ documents, item.documentId = id ∧ item.edinetCode = document.edinetCode ∧
    (∀ other ∈ documents, other.documentId = id → other = item) ∧ item.parentDocumentId = parent

/-- The ids that parents lead through from a document, the last one first, and the next id. -/
inductive Chain (document : EdinetDocument) (documents : List EdinetDocument) :
    List Identifier → Option Identifier → Prop
  | start : Chain document documents [document.documentId] document.parentDocumentId
  | follow {visited : List Identifier} {id : Identifier} {parent : Option Identifier} :
      Chain document documents visited (some id) → LeadsTo document documents id parent →
      Chain document documents (id :: visited) parent

/-- An id that the chain comes to, observed or not. -/
def OnChain (document : EdinetDocument) (documents : List EdinetDocument) (id : Identifier) :
    Prop :=
  id = document.documentId ∨ ∃ visited, Chain document documents visited (some id)

/-- An observation off the chain that is no child of the document's parent. -/
def Unrelated (document : EdinetDocument) (documents : List EdinetDocument)
    (extra : EdinetDocument) : Prop :=
  ¬ OnChain document documents extra.documentId ∧
    extra.parentDocumentId ≠ document.parentDocumentId

variable {document : EdinetDocument} {documents others : List EdinetDocument}

/-- A set of one element, as a list. -/
theorem dedup_length_eq_one_iff {α : Type} [DecidableEq α] {x : α} {xs : List α} :
    (x :: xs).dedup.length = 1 ↔ ∀ y ∈ xs, y = x := by
  rw [← List.card_toFinset, Finset.card_eq_one]
  constructor
  · rintro ⟨z, hz⟩ y hy
    have hmem : ∀ a ∈ x :: xs, a = z := fun a ha =>
      Finset.mem_singleton.mp (hz ▸ List.mem_toFinset.mpr ha)
    rw [hmem y (List.mem_cons_of_mem x hy), hmem x List.mem_cons_self]
  · intro h
    refine ⟨x, Finset.ext fun a => ?_⟩
    rw [List.mem_toFinset, List.mem_cons, Finset.mem_singleton]
    exact ⟨fun ha => ha.elim id (h a), .inl⟩

/-- The size of a set does not depend on how its elements are listed. -/
theorem dedup_length_congr {α : Type} [DecidableEq α] {xs ys : List α}
    (h : ∀ x, x ∈ xs ↔ x ∈ ys) : xs.dedup.length = ys.dedup.length := by
  have hsame : xs.toFinset = ys.toFinset := Finset.ext fun x => by simpa using h x
  rw [← List.card_toFinset, ← List.card_toFinset, hsame]

/-- An id leads on exactly when its observations are one filing of the issuer. -/
theorem lookUp_eq_ok {id : Identifier} {parent : Option Identifier} :
    lookUp document documents id = .ok parent ↔ LeadsTo document documents id parent := by
  have hmem : ∀ item, item ∈ documents.filter (·.documentId = id) ↔
      item ∈ documents ∧ item.documentId = id := fun item => by simp [List.mem_filter]
  rw [lookUp]
  split
  · -- no observation has the id
    rename_i hnone
    refine ⟨nofun, fun ⟨item, hitem, hid, _⟩ => ?_⟩
    have := (hmem item).mpr ⟨hitem, hid⟩
    rw [hnone] at this
    cases this
  · -- the issuer is checked first, then that all observations are equal
    rename_i item items hfound
    rw [hfound] at hmem
    obtain ⟨hitem, hid⟩ := (hmem item).mp List.mem_cons_self
    constructor
    · intro h
      split at h
      · cases h
      · rename_i hissuer
        split at h
        · cases h
        · rename_i hone
          cases h
          rw [not_not, dedup_length_eq_one_iff] at hone
          have hcode : item.edinetCode = document.edinetCode := by
            have hnone : ∀ x ∈ item :: items, x.edinetCode = document.edinetCode := by
              simpa using hissuer
            exact hnone item List.mem_cons_self
          refine ⟨item, hitem, hid, hcode, fun other hother hother_id => ?_, rfl⟩
          rcases List.mem_cons.mp ((hmem other).mpr ⟨hother, hother_id⟩) with rfl | hrest
          · rfl
          · exact hone other hrest
    · rintro ⟨kept, -, -, hcode, hsame, rfl⟩
      have hall : ∀ x ∈ item :: items, x = kept := fun x hx =>
        hsame x ((hmem x).mp hx).1 ((hmem x).mp hx).2
      have hkept : item = kept := hall item List.mem_cons_self
      have hissuer : ¬ (item :: items).any (·.edinetCode ≠ document.edinetCode) = true := by
        rw [List.any_eq_true]
        rintro ⟨x, hx, hne⟩
        exact of_decide_eq_true hne (hall x hx ▸ hcode)
      have hone : (item :: items).dedup.length = 1 :=
        dedup_length_eq_one_iff.mpr fun y hy => (hall y (List.mem_cons_of_mem _ hy)).trans hkept.symm
      rw [if_neg hissuer, if_neg (not_not.mpr hone), hkept]

/-- What an id leads to depends on the set of its observations. -/
theorem lookUp_congr {id : Identifier}
    (h : ∀ item, item.documentId = id → (item ∈ others ↔ item ∈ documents)) :
    lookUp document others id = lookUp document documents id := by
  have hmem : ∀ item, item ∈ others.filter (·.documentId = id) ↔
      item ∈ documents.filter (·.documentId = id) := by
    intro item
    simp only [List.mem_filter, decide_eq_true_eq]
    exact and_congr_left (h item)
  rw [lookUp, lookUp]
  generalize others.filter (·.documentId = id) = xs at hmem ⊢
  generalize documents.filter (·.documentId = id) = ys at hmem ⊢
  rcases xs with - | ⟨x, xs⟩ <;> rcases ys with - | ⟨y, ys⟩
  · rfl
  · exact absurd ((hmem y).mpr List.mem_cons_self) List.not_mem_nil
  · exact absurd ((hmem x).mp List.mem_cons_self) List.not_mem_nil
  · have hany : (x :: xs).any (·.edinetCode ≠ document.edinetCode) =
        (y :: ys).any (·.edinetCode ≠ document.edinetCode) := by
      rw [Bool.eq_iff_iff, List.any_eq_true, List.any_eq_true]
      exact exists_congr fun item => and_congr_left fun _ => hmem item
    simp only [hany, dedup_length_congr hmem]
    split
    · rfl
    · split
      · rfl
      · rename_i hone
        -- there is one observation, which heads both lists
        have hsame := dedup_length_eq_one_iff.mp (not_not.mp hone)
        rcases List.mem_cons.mp ((hmem x).mp List.mem_cons_self) with rfl | hx
        · rfl
        · rw [hsame x hx]

/-- The parents that lead on are ids of observations. -/
theorem mem_ids_of_lookUp (id : Identifier) (parent : Option Identifier)
    (h : lookUp document documents id = .ok parent) : id ∈ documents.map (·.documentId) := by
  obtain ⟨item, hitem, hid, -⟩ := lookUp_eq_ok.mp h
  exact List.mem_map.mpr ⟨item, hitem, hid⟩

theorem chain_iff_trail {visited : List Identifier} {next : Option Identifier} :
    Chain document documents visited next ↔
      Walk.Trail (lookUp document documents) document.documentId document.parentDocumentId
        visited next := by
  constructor
  · intro h
    induction h with
    | start => exact .start
    | follow _ hleads ih => exact ih.step (lookUp_eq_ok.mpr hleads)
  · intro h
    induction h with
    | start => exact .start
    | step _ hlook ih => exact ih.follow (lookUp_eq_ok.mp hlook)

/-! ## The loop ends -/

/-- The loop has an end, and every budget of more rounds than observations reaches it. -/
theorem followParents_ends (document : EdinetDocument) (documents : List EdinetDocument) :
    ∃ outcome, ∀ rounds, documents.length < rounds →
      followParents rounds document documents = some outcome := by
  have hends : (followParents (documents.length + 1) document documents).isSome :=
    Walk.walk_isSome_of_length_lt mem_ids_of_lookUp (by rw [List.length_map]; omega) _ _
  obtain ⟨outcome, houtcome⟩ := Option.isSome_iff_exists.mp hends
  exact ⟨outcome, fun rounds hrounds => Walk.walk_mono houtcome hrounds⟩

/-- The reasons are those of the loop that ran to its end. -/
theorem correctionReasons_eq {outcome : Walk.Outcome ParentFault}
    (h : followParents (documents.length + 1) document documents = some outcome) :
    correctionReasons document documents = sortedSet (amendedReasons document ++
      chainReasons outcome ++ competingReasons document documents) := by
  rw [correctionReasons, correctionReasons?, h]
  rfl

/-- Where the loops and the children of the parent agree, so do the reasons. -/
theorem correctionReasons_congr
    (hloop : ∀ rounds,
      followParents rounds document others = followParents rounds document documents)
    (hcompeting : competingReasons document others = competingReasons document documents) :
    correctionReasons document others = correctionReasons document documents := by
  obtain ⟨outcome, hdocuments⟩ := followParents_ends document documents
  obtain ⟨outcome', hothers⟩ := followParents_ends document others
  obtain rfl : outcome' = outcome := by
    have hlarge := hothers (others.length + documents.length + 1) (by omega)
    rw [hloop, hdocuments _ (by omega)] at hlarge
    exact (Option.some.inj hlarge).symm
  rw [correctionReasons_eq (hdocuments _ (by omega)), correctionReasons_eq (hothers _ (by omega)),
    hcompeting]

/-! ## What the reasons depend on -/

/-- Neither order nor repetition of observations matters. -/
theorem correctionReasons_of_mem_iff (h : ∀ item, item ∈ others ↔ item ∈ documents) :
    correctionReasons document others = correctionReasons document documents := by
  apply correctionReasons_congr
  · intro rounds
    have hlook : lookUp document others = lookUp document documents :=
      funext fun id => lookUp_congr fun item _ => h item
    rw [followParents, followParents, hlook]
  · have hcount : ((others.filter (·.parentDocumentId = document.parentDocumentId)).map
        (·.documentId)).dedup.length = ((documents.filter
        (·.parentDocumentId = document.parentDocumentId)).map (·.documentId)).dedup.length :=
      dedup_length_congr (by simp [h])
    rw [competingReasons, competingReasons, hcount]

/-- An unrelated observation changes nothing. -/
theorem correctionReasons_cons_of_unrelated {extra : EdinetDocument}
    (h : Unrelated document documents extra) :
    correctionReasons document (extra :: documents) = correctionReasons document documents := by
  obtain ⟨hoff, hparent⟩ := h
  apply correctionReasons_congr
  · intro rounds
    refine Walk.walk_congr (fun visited id htrail => ?_) rounds .start
    have hid : extra.documentId ≠ id := fun heq =>
      hoff (.inr ⟨visited, heq ▸ chain_iff_trail.mpr htrail⟩)
    refine lookUp_congr fun item hitem => ?_
    rw [List.mem_cons, or_iff_right]
    rintro rfl
    exact hid hitem
  · rw [competingReasons, competingReasons, List.filter_cons_of_neg (by simpa using hparent)]

/-! ## Circles -/

/-- Only the loop reports a circle, and only if it ends in one. -/
theorem cycle_mem_iff {outcome : Walk.Outcome ParentFault}
    (h : followParents (documents.length + 1) document documents = some outcome) :
    "amendment_cycle" ∈ correctionReasons document documents ↔ outcome = .cycle := by
  have hamended : "amendment_cycle" ∉ amendedReasons document := by
    rw [amendedReasons]
    split
    · split <;> decide
    · exact List.not_mem_nil
  have hcompeting : "amendment_cycle" ∉ competingReasons document documents := by
    rw [competingReasons]
    split
    · decide
    · exact List.not_mem_nil
  rw [correctionReasons_eq h, mem_sortedSet, List.mem_append, List.mem_append,
    or_iff_left hcompeting, or_iff_right hamended]
  cases outcome with
  | ended => simp [chainReasons]
  | cycle => simp [chainReasons]
  | stopped fault => cases fault <;> simp [chainReasons, ParentFault.reason]

/-- A circle is reported exactly when the links come back to an id. -/
theorem cycle_mem_correctionReasons_iff :
    "amendment_cycle" ∈ correctionReasons document documents ↔
      ∃ visited id, Chain document documents visited (some id) ∧ id ∈ visited := by
  obtain ⟨outcome, hends⟩ := followParents_ends document documents
  have hend := hends _ (Nat.lt_succ_self _)
  have hcycle := Walk.walk_cycle_iff (Option.isSome_iff_exists.mpr ⟨outcome, hend⟩)
  have hout : followParents (documents.length + 1) document documents = some .cycle ↔
      outcome = .cycle := by rw [hend, Option.some.injEq]
  rw [cycle_mem_iff hend, ← hout, followParents, hcycle]
  simp only [chain_iff_trail]

/-- What the reasons of a document among observations are. -/
structure Resolves (document : EdinetDocument) (documents : List EdinetDocument) : Prop where
  ends : ∀ rounds, documents.length < rounds →
    correctionReasons? rounds document documents = some (correctionReasons document documents)
  unordered : ∀ others, (∀ item, item ∈ others ↔ item ∈ documents) →
    correctionReasons document others = correctionReasons document documents
  cycle : "amendment_cycle" ∈ correctionReasons document documents ↔
    ∃ visited id, Chain document documents visited (some id) ∧ id ∈ visited
  unrelated : ∀ before after extra, before ++ after = documents →
    Unrelated document documents extra →
    correctionReasons document (before ++ extra :: after) = correctionReasons document documents

/-- **Every chain of amendments is followed to an end that the links alone decide.** -/
theorem correctionReasons_resolved (document : EdinetDocument) (documents : List EdinetDocument) :
    Resolves document documents where
  ends := by
    obtain ⟨outcome, hends⟩ := followParents_ends document documents
    intro rounds hrounds
    rw [correctionReasons?, hends rounds hrounds,
      correctionReasons_eq (hends _ (Nat.lt_succ_self _))]
    rfl
  unordered := fun _ => correctionReasons_of_mem_iff
  cycle := cycle_mem_correctionReasons_iff
  unrelated := by
    rintro before after extra rfl hunrelated
    rw [← correctionReasons_cons_of_unrelated hunrelated]
    exact correctionReasons_of_mem_iff fun item => by simp [or_left_comm]

end StockResearch.Preparation
