import Mathlib.Data.List.Perm.Subperm
import Mathlib.Data.List.Sort
import Mathlib.Tactic.IntervalCases
import StockResearch.Lib.History
import StockResearch.Preparation.AnnualCampaign

/-!
# The budget of the campaign

A slot file is created once and only ever by the process that spends the slot, so a slot is
permitted at most once, whatever the processes do to each other. A continuation begins after
the first slot; only there can two processes get the slots in another order.

- `CampaignInvariant`: what every step of every process keeps.
- `Effect`: all a step can do.
- `campaign_budget`: the budget, and when the slots come in their order.
-/

namespace StockResearch.Preparation.Campaign

/-! ## The law -/

/-- The slot that an event permits. -/
def CampaignEvent.slot? : CampaignEvent → Option (String × Int)
  | permitted _ _ slot => some slot
  | created .. => none

def CampaignEvent.index? : CampaignEvent → Option Nat
  | permitted _ index _ => some index
  | created .. => none

def CampaignEvent.file? : CampaignEvent → Option String
  | created _ file => some file
  | permitted .. => none

def slotFile (index : Nat) : String := "slot-" ++ toString index ++ ".json"

/-- The file of a permitted slot was created before, by the process that got the permission. -/
def FileFirst (log : List CampaignEvent) (event : CampaignEvent) : Prop :=
  ∀ process index slot, event = .permitted process index slot →
    .created process (slotFile index) ∈ log ∧ expected[index]? = some slot

/-- What holds after any steps of any processes. -/
structure CampaignLaw (s : Campaigns) : Prop where
  budget : (s.log.filterMap (·.slot?)).length ≤ 4
  once : OncePer (·.slot?) s.log
  slots : ∀ slot ∈ s.log.filterMap (·.slot?), slot ∈ expected
  createdOnce : OncePer (·.file?) s.log
  fileFirst : Supported FileFirst s.log

namespace Campaigns

/-- The contents of a file of the campaign. -/
def file? (s : Campaigns) (file : String) : Option (List UInt8) := s.directory.bind (·.get? file)

/-- A process writes the file. -/
def Written (s : Campaigns) (file : String) : Prop :=
  ∃ process purpose campaign remaining,
    s.processes process = .writing purpose campaign remaining ∧ purpose.file = file

/-- From `s` to `t` files only grow, and only while the process that created them writes them. -/
def Unrewritten (s t : Campaigns) : Prop :=
  ∀ file content, s.file? file = some content → ∃ more, t.file? file = some (content ++ more) ∧
    (¬ s.Written file → more = [] ∧ ¬ t.Written file)

/-- No process is about to get the first slot. -/
def Undisturbed (s : Campaigns) : Prop :=
  ∀ process target sequence campaign remaining,
    s.processes process ≠ .writing (.slot 0 target sequence) campaign remaining

end Campaigns

open Campaigns

/-- The condition on a step: a continuation is not recorded while another process is inside its
call for the first slot. -/
def Quiet (step : CampaignStep) (s : Campaigns) : Prop :=
  match step with
  | .proceeds process =>
    ∀ campaign record, s.processes process = .checking [] campaign record → s.Undisturbed
  | _ => True

/-! ## What a step does -/

/-- Where a process is when it creates a file. -/
def ComesFrom (purpose : Purpose) (campaign : AnnualCampaign) (place : Process) : Prop :=
  match purpose with
  | .started => ∃ record, place = .making campaign record
  | .continuation => ∃ record, place = .checking [] campaign record
  | .slot index target sequence =>
    place = .holding campaign ∧ index = campaign.sent ∧ expected[index]? = some (target, sequence)

/-- All that a step can do, in a state that is `quiet` or not. -/
inductive Effect (quiet : Prop) (s : Campaigns) : Campaigns → Prop
  | idle : Effect quiet s s
  | stops (process : Nat) : Effect quiet s (s.goto process .ended)
  | waits {process : Nat} (h : s.processes process = .waiting) :
    Effect quiet s (s.goto process .waiting)
  /-- A call of `before_send` raised. -/
  | holds {process : Nat} {campaign : AnnualCampaign}
    (h : s.processes process = .holding campaign ∨ ∃ index target sequence remaining,
      s.processes process = .writing (.slot index target sequence) campaign remaining) :
    Effect quiet s (s.goto process (.holding campaign))
  | makes {process : Nat} {campaign : AnnualCampaign} {record : CampaignRecord}
    (hnone : s.directory = none) (hsent : campaign.sent = 0) :
    Effect quiet s { s.goto process (.making campaign record) with directory := some .empty }
  /-- The names of the files are read, or one of the files. -/
  | compares {process : Nat} {remaining : List (String × String)} {campaign : AnnualCampaign}
    {record : CampaignRecord} (hsent : campaign.sent = 1) (hfile : s.file? (slotFile 0) ≠ none) :
    Effect quiet s (s.goto process (.checking remaining campaign record))
  | creates {process : Nat} {purpose : Purpose} {campaign : AnnualCampaign} {text : List UInt8}
    {files : Table String (List UInt8)} (hfiles : s.directory = some files)
    (hnew : files.get? purpose.file = none)
    (hfrom : ComesFrom purpose campaign (s.processes process))
    (hquiet : purpose = .continuation → quiet → s.Undisturbed) :
    Effect quiet s { s.goto process (.writing purpose campaign text) with
      directory := some (files.insert purpose.file [])
      log := s.log ++ [.created process purpose.file] }
  | writes {process : Nat} {purpose : Purpose} {campaign : AnnualCampaign}
    {remaining : List UInt8} (count : Nat)
    (h : s.processes process = .writing purpose campaign remaining) :
    Effect quiet s (s.writes process purpose campaign remaining count)
  | begins {process : Nat} {purpose : Purpose} {campaign : AnnualCampaign}
    (h : s.processes process = .writing purpose campaign [])
    (hpurpose : purpose = .started ∨ purpose = .continuation) :
    Effect quiet s (s.goto process (.holding campaign))
  | permits {process index : Nat} {target : String} {sequence : Int} {campaign : AnnualCampaign}
    (h : s.processes process = .writing (.slot index target sequence) campaign []) :
    Effect quiet s { s.goto process (.holding { campaign with sent := campaign.sent + 1 }) with
      log := s.log ++ [.permitted process index (target, sequence)] }

/-- An exclusive creation creates the file, or leaves the process at `place`. -/
theorem openExclusive_effect {quiet : Prop} {s : Campaigns} {process : Nat} {purpose : Purpose}
    {campaign : AnnualCampaign} {text : List UInt8} {place : Process}
    (hfrom : ComesFrom purpose campaign (s.processes process))
    (hquiet : purpose = .continuation → quiet → s.Undisturbed)
    (hplace : Effect quiet s (s.goto process place)) :
    Effect quiet s (s.openExclusive process purpose campaign text place) := by
  rw [openExclusive]
  split
  · exact hplace
  · rename_i files hfiles
    split
    · rename_i hnew
      exact .creates hfiles hnew hfrom hquiet
    · exact hplace

/-- The place of a process that compares files. -/
def Comparing (s : Campaigns) (place : Process) : Prop :=
  ∀ remaining campaign record, place = .checking remaining campaign record →
    campaign.sent = 1 ∧ s.file? (slotFile 0) ≠ none

theorem next_effect (lib : CampaignLibrary) (step : CampaignStep) (s : Campaigns)
    (hcomparing : ∀ process, Comparing s (s.processes process)) :
    Effect (Quiet step s) s (next lib step s) := by
  cases step with
  | construct process approvalHash taskId startedAt =>
    rw [next]
    split
    · rw [construct]
      split
      · exact .stops process
      · rename_i hnone
        exact .makes hnone rfl
    · exact .idle
  | continuePrior process approvalHash taskId startedAt =>
    rw [next]
    split
    · rw [continuePrior]
      split
      · exact .stops process
      · -- the first slot is among the names, so its file is there
        rename_i files hfiles
        split
        · rename_i hnames
          refine .compares rfl ?_
          rw [file?, hfiles]
          intro hmissing
          exact Table.get?_eq_none_iff.mp hmissing
            (hnames.2 _ (List.mem_cons_of_mem _ (List.mem_singleton_self _)))
        · exact .stops process
    · exact .idle
  -- an exclusive open creates the file or stops the process
  | proceeds process =>
    rw [next]
    split
    · rename_i campaign record hplace
      exact openExclusive_effect ⟨record, hplace⟩ (by simp) (.stops process)
    · rename_i campaign record hplace
      exact openExclusive_effect ⟨record, hplace⟩
        (fun _ hquiet => hquiet campaign record hplace) (.stops process)
    · rename_i name hash remaining campaign record hplace
      rw [Campaigns.compare]
      split
      · obtain ⟨hsent, hfile⟩ := hcomparing process _ _ _ hplace
        exact .compares hsent hfile
      · exact .stops process
    · exact .idle
  | beforeSend process target sequence startedAt attemptId =>
    rw [next]
    split
    · rename_i campaign hplace
      rw [Campaigns.beforeSend]
      split
      · exact .idle
      · rename_i hslot
        exact openExclusive_effect ⟨hplace, rfl, not_not.mp hslot⟩ (by simp) (.holds (.inl hplace))
    · exact .idle
  | writes process count =>
    rw [next]
    split
    · rename_i hplace
      exact .writes count hplace
    · exact .idle
  -- the write is complete: the process begins, or its slot is permitted
  | returns process =>
    rw [next]
    split
    · rename_i purpose campaign hplace
      unfold Campaigns.returns
      split
      · exact .begins hplace (.inl rfl)
      · exact .begins hplace (.inr rfl)
      · exact .permits hplace
    · exact .idle
  -- a process that holds a campaign goes on holding it
  | raises process =>
    rw [next]
    cases hplace : s.processes process with
    | waiting => exact .waits hplace
    | making campaign record => exact .stops process
    | checking remaining campaign record => exact .stops process
    | holding campaign => exact .holds (.inl hplace)
    | writing purpose campaign remaining =>
      cases purpose with
      | slot index target sequence => exact .holds (.inr ⟨_, _, _, _, hplace⟩)
      | started => exact .stops process
      | continuation => exact .stops process
    | ended => exact .stops process
  | crashes process => exact .stops process

/-! ## Contents of files -/

theorem file?_goto (s : Campaigns) (process : Nat) (place : Process) (file : String) :
    (s.goto process place).file? file = s.file? file := rfl

theorem file?_writes (s : Campaigns) (process : Nat) (purpose : Purpose)
    (campaign : AnnualCampaign) (remaining : List UInt8) (count : Nat) (file : String) :
    (s.writes process purpose campaign remaining count).file? file =
      if file = purpose.file then (s.file? file).map (· ++ remaining.take count)
      else s.file? file := by
  rw [file?, Campaigns.writes, file?]
  cases s.directory with
  | none => split <;> rfl
  | some files => exact Table.get?_modify files purpose.file _ file

theorem file?_creates {s : Campaigns} {files : Table String (List UInt8)} {name file : String}
    {processes : Nat → Process} {log : List CampaignEvent} (hfiles : s.directory = some files)
    (hnew : files.get? name = none) :
    (⟨some (files.insert name []), processes, log⟩ : Campaigns).file? file =
      if file = name then some [] else s.file? file := by
  rw [file?, file?, hfiles]
  exact Table.get?_insert hnew [] file

theorem processes_goto (s : Campaigns) (process : Nat) (place : Process) (other : Nat) :
    (s.goto process place).processes other =
      if other = process then place else s.processes other :=
  Function.update_apply s.processes process place other

/-- A process that goes elsewhere than to a file writes nothing new. -/
theorem written_goto {s : Campaigns} {process : Nat} {place : Process} {file : String}
    (hplace : ∀ purpose campaign remaining, place = .writing purpose campaign remaining →
      s.Written file)
    (h : (s.goto process place).Written file) : s.Written file := by
  obtain ⟨other, purpose, campaign, remaining, hother, hfile⟩ := h
  rw [processes_goto] at hother
  split at hother
  · exact hplace purpose campaign remaining hother
  · exact ⟨other, purpose, campaign, remaining, hother, hfile⟩

theorem Campaigns.Unrewritten.refl (s : Campaigns) : s.Unrewritten s := fun _ content hcontent =>
  ⟨[], hcontent.trans (by rw [List.append_nil]), fun hfree => ⟨rfl, hfree⟩⟩

theorem Campaigns.Unrewritten.trans {s t u : Campaigns} (hst : s.Unrewritten t)
    (htu : t.Unrewritten u) : s.Unrewritten u := by
  intro file content hcontent
  obtain ⟨more, hmore, hfree⟩ := hst file content hcontent
  obtain ⟨rest, hrest, hfree'⟩ := htu file _ hmore
  refine ⟨more ++ rest, hrest.trans (by rw [List.append_assoc]), fun hs => ?_⟩
  obtain ⟨rfl, ht⟩ := hfree hs
  obtain ⟨rfl, hu⟩ := hfree' ht
  exact ⟨rfl, hu⟩

/-- A step that leaves the files and goes to no file. -/
theorem unrewritten_goto {s : Campaigns} {process : Nat} {place : Process}
    {log : List CampaignEvent} (hplace : ∀ purpose campaign remaining,
      place ≠ .writing purpose campaign remaining) :
    s.Unrewritten { s.goto process place with log := log } := fun _ content hcontent =>
  ⟨[], hcontent.trans (by rw [List.append_nil]), fun hfree => ⟨rfl, fun hwritten =>
    hfree (written_goto (fun _ _ _ heq => absurd heq (hplace _ _ _)) hwritten)⟩⟩

/-- No step rewrites a file. -/
theorem Effect.unrewritten {quiet : Prop} {s t : Campaigns} (h : Effect quiet s t) :
    s.Unrewritten t := by
  cases h with
  | idle => exact .refl s
  | stops process => exact unrewritten_goto nofun
  | waits _ => exact unrewritten_goto nofun
  | holds _ => exact unrewritten_goto nofun
  | compares _ _ => exact unrewritten_goto nofun
  | begins _ _ => exact unrewritten_goto nofun
  | permits _ => exact unrewritten_goto nofun
  | makes hnone _ =>
    intro file content hcontent
    rw [file?, hnone] at hcontent
    cases hcontent
  -- a new file rewrites none
  | creates hfiles hnew hfrom hquiet =>
    rename_i process purpose campaign text files
    intro file content hcontent
    have hne : file ≠ purpose.file := by
      rintro rfl
      rw [file?, hfiles] at hcontent
      exact absurd (hnew.symm.trans hcontent) nofun
    refine ⟨[], ?_, fun hfree => ⟨rfl, fun hwritten => hfree ?_⟩⟩
    · rw [file?_creates hfiles hnew, if_neg hne, hcontent, List.append_nil]
    · obtain ⟨other, purpose', campaign', remaining, hother, hfile⟩ := hwritten
      dsimp only at hother
      rw [processes_goto] at hother
      split at hother
      · cases hother
        exact absurd hfile.symm hne
      · exact ⟨other, purpose', campaign', remaining, hother, hfile⟩
  -- only the file that its process holds open grows
  | writes count hplace =>
    rename_i process purpose campaign remaining
    intro file content hcontent
    have hwritten : (s.writes process purpose campaign remaining count).Written file →
        s.Written file := by
      rintro ⟨other, purpose', campaign', remaining', hother, hfile⟩
      rw [Campaigns.writes] at hother
      dsimp only at hother
      rw [processes_goto] at hother
      split at hother
      · cases hother
        exact ⟨process, purpose, campaign, remaining, hplace, hfile⟩
      · exact ⟨other, purpose', campaign', remaining', hother, hfile⟩
    rw [file?_writes, hcontent]
    split
    · rename_i hfile
      refine ⟨remaining.take count, rfl, fun hfree => absurd ?_ hfree⟩
      exact ⟨process, purpose, campaign, remaining, hplace, hfile.symm⟩
    · exact ⟨[], by rw [List.append_nil], fun hfree => ⟨rfl, fun h => hfree (hwritten h)⟩⟩

/-! ## The invariant -/

/-- The slot with this index has been permitted. -/
def Permitted (s : Campaigns) (index : Nat) : Prop :=
  ∃ process slot, .permitted process index slot ∈ s.log

def Continued (s : Campaigns) : Prop := ∃ process, .created process "continuation.json" ∈ s.log

/-- The slots before `index` were permitted; only the first may belong to a campaign that was
continued. -/
def Earned (s : Campaigns) (index : Nat) : Prop :=
  (∀ earlier, 1 ≤ earlier → earlier < index → Permitted s earlier) ∧
    (1 ≤ index → Permitted s 0 ∨ Continued s)

/-- What holds of the place of a process. -/
def Placed (s : Campaigns) (process : Nat) : Process → Prop
  | .waiting | .ended => True
  | .making campaign _ => campaign.sent = 0
  | .checking _ campaign _ => campaign.sent = 1 ∧ s.file? (slotFile 0) ≠ none
  | .holding campaign => Earned s campaign.sent
  | .writing purpose campaign _ =>
    .created process purpose.file ∈ s.log ∧ Earned s campaign.sent ∧
      ∀ index target sequence, purpose = .slot index target sequence →
        index = campaign.sent ∧ expected[index]? = some (target, sequence)

/-- What every step keeps. -/
structure CampaignInvariant (s : Campaigns) : Prop where
  placed : ∀ process, Placed s process (s.processes process)
  createdOnce : OncePer (·.file?) s.log
  createdExists : ∀ process file, .created process file ∈ s.log → s.file? file ≠ none
  indexOnce : OncePer (·.index?) s.log
  fileFirst : Supported FileFirst s.log
  earned : ∀ index, Permitted s index → Earned s index ∧ ¬ s.Written (slotFile index)

/-- What quiet steps keep besides. -/
structure CampaignOrder (s : Campaigns) : Prop where
  increasing : (s.log.filterMap (·.index?)).Pairwise (· < ·)
  continued : Continued s → s.file? (slotFile 0) ≠ none ∧ s.Undisturbed

/-- The log and the files grow. -/
structure Grows (s t : Campaigns) : Prop where
  log : s.log ⊆ t.log
  files : ∀ file, s.file? file ≠ none → t.file? file ≠ none

theorem Effect.grows {quiet : Prop} {s t : Campaigns} (h : Effect quiet s t) : Grows s t := by
  constructor
  · cases h with
    | creates => exact List.subset_append_left _ _
    | permits => exact List.subset_append_left _ _
    | _ => exact List.Subset.refl _
  · intro file hfile
    obtain ⟨content, hcontent⟩ := Option.ne_none_iff_exists'.mp hfile
    obtain ⟨more, hmore, -⟩ := h.unrewritten file content hcontent
    exact Option.ne_none_iff_exists'.mpr ⟨_, hmore⟩

theorem Permitted.mono {s t : Campaigns} {index : Nat} (hgrows : Grows s t)
    (h : Permitted s index) : Permitted t index := by
  obtain ⟨process, slot, hmem⟩ := h
  exact ⟨process, slot, hgrows.log hmem⟩

theorem Earned.mono {s t : Campaigns} {index : Nat} (hgrows : Grows s t) (h : Earned s index) :
    Earned t index := by
  refine ⟨fun earlier hpos hlt => (h.1 earlier hpos hlt).mono hgrows, fun hpos => ?_⟩
  rcases h.2 hpos with hfirst | ⟨process, hmem⟩
  · exact .inl (hfirst.mono hgrows)
  · exact .inr ⟨process, hgrows.log hmem⟩

theorem Placed.mono {s t : Campaigns} {process : Nat} {place : Process} (hgrows : Grows s t)
    (h : Placed s process place) : Placed t process place := by
  cases place with
  | waiting => trivial
  | ended => trivial
  | making campaign record => exact h
  | checking remaining campaign record => exact ⟨h.1, hgrows.files _ h.2⟩
  | holding campaign => exact Earned.mono hgrows h
  | writing purpose campaign remaining => exact ⟨hgrows.log h.1, h.2.1.mono hgrows, h.2.2⟩

theorem earned_zero (s : Campaigns) : Earned s 0 := ⟨fun _ _ hlt => absurd hlt (by omega), by omega⟩

/-- After a permission the next slot is earned. -/
theorem Earned.succ {s : Campaigns} {index : Nat} (h : Earned s index)
    (hpermitted : Permitted s index) : Earned s (index + 1) := by
  constructor
  · intro earlier hpos hlt
    rcases Nat.lt_succ_iff_lt_or_eq.mp hlt with hlt | rfl
    · exact h.1 earlier hpos hlt
    · exact hpermitted
  · intro _
    cases index with
    | zero => exact .inl hpermitted
    | succ index => exact h.2 (Nat.succ_pos index)

/-- Only the process that created a file writes it. -/
theorem CampaignInvariant.writer {s : Campaigns} (h : CampaignInvariant s) {file : String}
    {p q : Nat} {purpose : Purpose} {campaign : AnnualCampaign} {remaining : List UInt8}
    (hp : s.processes p = .writing purpose campaign remaining) (hfile : purpose.file = file)
    (hq : .created q file ∈ s.log) : p = q := by
  have hcreated := h.placed p
  rw [hp] at hcreated
  obtain ⟨hcreated, -⟩ := hcreated
  rw [hfile] at hcreated
  cases h.createdOnce.unique hcreated hq rfl rfl
  rfl

/-- A step that changes neither the files nor the log. -/
theorem CampaignInvariant.goto {s : Campaigns} {process : Nat} {place : Process}
    (h : CampaignInvariant s) (hplaced : Placed s process place)
    (hplace : ∀ purpose campaign remaining, place ≠ .writing purpose campaign remaining) :
    CampaignInvariant (s.goto process place) := by
  refine ⟨?_, h.createdOnce, h.createdExists, h.indexOnce, h.fileFirst, ?_⟩
  · intro other
    rw [processes_goto]
    split
    · rename_i heq
      rw [heq]
      exact hplaced.mono ⟨List.Subset.refl _, fun _ => id⟩
    · exact (h.placed other).mono ⟨List.Subset.refl _, fun _ => id⟩
  · intro index hindex
    obtain ⟨hearned, hfree⟩ := h.earned index hindex
    exact ⟨hearned, fun hwritten =>
      hfree (written_goto (fun _ _ _ heq => absurd heq (hplace _ _ _)) hwritten)⟩

/-- The file of a permitted slot exists. -/
theorem CampaignInvariant.created {s : Campaigns} (h : CampaignInvariant s) {p index : Nat}
    {slot : String × Int} (hmem : .permitted p index slot ∈ s.log) :
    .created p (slotFile index) ∈ s.log ∧ expected[index]? = some slot := by
  obtain ⟨before, after, hlog⟩ := List.append_of_mem hmem
  obtain ⟨hcreated, hslot⟩ := h.fileFirst before _ after hlog p index slot rfl
  refine ⟨?_, hslot⟩
  rw [hlog]
  exact List.mem_append_left _ hcreated

theorem CampaignInvariant.creates {s : Campaigns} {process : Nat} {purpose : Purpose}
    {campaign : AnnualCampaign} {text : List UInt8} {files : Table String (List UInt8)}
    (h : CampaignInvariant s) (hfiles : s.directory = some files)
    (hnew : files.get? purpose.file = none)
    (hfrom : ComesFrom purpose campaign (s.processes process))
    (hgrows : Grows s { s.goto process (.writing purpose campaign text) with
      directory := some (files.insert purpose.file [])
      log := s.log ++ [.created process purpose.file] }) :
    CampaignInvariant { s.goto process (.writing purpose campaign text) with
      directory := some (files.insert purpose.file [])
      log := s.log ++ [.created process purpose.file] } := by
  have habsent : s.file? purpose.file = none := by
    rw [file?, hfiles]
    exact hnew
  have hplaced := h.placed process
  refine ⟨?_, h.createdOnce.concat rfl ?_, ?_, h.indexOnce.skip rfl, h.fileFirst.concat nofun, ?_⟩
  · -- the process that creates a file has earned it
    intro other
    dsimp only
    rw [processes_goto]
    split
    · rename_i heq
      rw [heq]
      have hcreated : CampaignEvent.created process purpose.file ∈
          s.log ++ [.created process purpose.file] :=
        List.mem_append_right _ (List.mem_singleton_self _)
      refine ⟨hcreated, ?_, ?_⟩
      · cases purpose with
        | started =>
          obtain ⟨record, hmaking⟩ := hfrom
          rw [hmaking] at hplaced
          rw [show campaign.sent = 0 from hplaced]
          exact earned_zero _
        | continuation =>
          obtain ⟨record, hchecking⟩ := hfrom
          rw [hchecking] at hplaced
          rw [hplaced.1]
          exact ⟨fun _ hpos hlt => absurd hlt (by omega), fun _ => .inr ⟨process, hcreated⟩⟩
        | slot index target sequence =>
          obtain ⟨hholding, -, -⟩ := hfrom
          rw [hholding] at hplaced
          exact Earned.mono hgrows hplaced
      · rintro index target sequence rfl
        exact hfrom.2
    · exact (h.placed other).mono hgrows
  · -- the file was absent, so it was not created before
    intro event hmem hlabel
    match event, hlabel with
    | .created p file, hlabel =>
      cases hlabel
      exact h.createdExists p _ hmem habsent
  · intro p file hmem
    rw [file?_creates hfiles hnew]
    split
    · nofun
    · rename_i hne
      rcases List.mem_append.mp hmem with hmem | hmem
      · exact h.createdExists p file hmem
      · cases List.mem_singleton.mp hmem
        exact absurd rfl hne
  · -- a slot that was permitted is written by nobody
    rintro index ⟨p, slot, hmem⟩
    rcases List.mem_append.mp hmem with hmem | hmem
    · obtain ⟨hearned, hfree⟩ := h.earned index ⟨p, slot, hmem⟩
      refine ⟨hearned.mono hgrows, ?_⟩
      rintro ⟨q, purpose', campaign', remaining, hq, hfile⟩
      dsimp only at hq
      rw [processes_goto] at hq
      split at hq
      · cases hq
        exact h.createdExists p _ (h.created hmem).1 (hfile ▸ habsent)
      · exact hfree ⟨q, purpose', campaign', remaining, hq, hfile⟩
    · cases List.mem_singleton.mp hmem

theorem CampaignInvariant.writes {s : Campaigns} {process : Nat} {purpose : Purpose}
    {campaign : AnnualCampaign} {remaining : List UInt8} {count : Nat} (h : CampaignInvariant s)
    (hplace : s.processes process = .writing purpose campaign remaining)
    (hgrows : Grows s (s.writes process purpose campaign remaining count)) :
    CampaignInvariant (s.writes process purpose campaign remaining count) := by
  have hplaced := h.placed process
  rw [hplace] at hplaced
  refine ⟨?_, h.createdOnce, fun p file hmem => hgrows.files _ (h.createdExists p file hmem),
    h.indexOnce, h.fileFirst, ?_⟩
  · intro other
    rw [Campaigns.writes]
    dsimp only
    rw [processes_goto]
    split
    · rename_i heq
      rw [heq]
      exact ⟨hplaced.1, hplaced.2.1.mono hgrows, hplaced.2.2⟩
    · exact (h.placed other).mono hgrows
  · intro index hindex
    obtain ⟨hearned, hfree⟩ := h.earned index hindex
    refine ⟨hearned.mono hgrows, fun hwritten => hfree ?_⟩
    obtain ⟨q, purpose', campaign', remaining', hq, hfile⟩ := hwritten
    rw [Campaigns.writes] at hq
    dsimp only at hq
    rw [processes_goto] at hq
    split at hq
    · cases hq
      exact ⟨process, purpose, campaign, remaining, hplace, hfile⟩
    · exact ⟨q, purpose', campaign', remaining', hq, hfile⟩

theorem CampaignInvariant.permits {s : Campaigns} {process index : Nat} {target : String}
    {sequence : Int} {campaign : AnnualCampaign} (h : CampaignInvariant s)
    (hplace : s.processes process = .writing (.slot index target sequence) campaign [])
    (hgrows : Grows s { s.goto process (.holding { campaign with sent := campaign.sent + 1 }) with
      log := s.log ++ [.permitted process index (target, sequence)] }) :
    CampaignInvariant { s.goto process (.holding { campaign with sent := campaign.sent + 1 }) with
      log := s.log ++ [.permitted process index (target, sequence)] } := by
  have hplaced := h.placed process
  rw [hplace] at hplaced
  obtain ⟨hcreated, hearned, hslot⟩ := hplaced
  obtain ⟨rfl, hexpected⟩ := hslot _ _ _ rfl
  -- the file of the slot is being written by the process that is permitted
  have hwritten : s.Written (slotFile campaign.sent) := ⟨process, _, _, _, hplace, rfl⟩
  have hlast : CampaignEvent.permitted process campaign.sent (target, sequence) ∈
      s.log ++ [.permitted process campaign.sent (target, sequence)] :=
    List.mem_append_right _ (List.mem_singleton_self _)
  refine ⟨?_, h.createdOnce.skip rfl, ?_, h.indexOnce.concat rfl ?_, h.fileFirst.concat ?_, ?_⟩
  · intro other
    dsimp only
    rw [processes_goto]
    split
    · exact (hearned.mono hgrows).succ ⟨process, _, hlast⟩
    · exact (h.placed other).mono hgrows
  · intro p file hmem
    rcases List.mem_append.mp hmem with hmem | hmem
    · exact h.createdExists p file hmem
    · cases List.mem_singleton.mp hmem
  · -- so the index was not permitted before
    intro event hmem hlabel
    match event, hlabel with
    | .permitted p i slot, hlabel =>
      cases hlabel
      exact (h.earned _ ⟨p, slot, hmem⟩).2 hwritten
  · rintro p i slot ⟨⟩
    exact ⟨hcreated, hexpected⟩
  · -- and is written by nobody afterwards
    rintro i ⟨p, slot, hmem⟩
    rcases List.mem_append.mp hmem with hmem | hmem
    · obtain ⟨hearned, hfree⟩ := h.earned i ⟨p, slot, hmem⟩
      exact ⟨hearned.mono hgrows, fun hwritten => hfree (written_goto (fun _ _ _ heq => by cases heq) hwritten)⟩
    · cases List.mem_singleton.mp hmem
      refine ⟨hearned.mono hgrows, ?_⟩
      rintro ⟨q, purpose', campaign', remaining, hq, hfile⟩
      dsimp only at hq
      rw [processes_goto] at hq
      split at hq
      · cases hq
      · rename_i hne
        exact hne (h.writer hq hfile hcreated)

/-- Every step keeps the invariant. -/
theorem CampaignInvariant.step {quiet : Prop} {s t : Campaigns} (h : CampaignInvariant s)
    (heffect : Effect quiet s t) : CampaignInvariant t := by
  have hgrows := heffect.grows
  cases heffect with
  | idle => exact h
  | stops process => exact h.goto trivial nofun
  | waits _ => exact h.goto trivial nofun
  | holds hplace =>
    rename_i process campaign
    refine h.goto ?_ nofun
    have hplaced := h.placed process
    rcases hplace with hplace | ⟨_, _, _, _, hplace⟩
    · rw [hplace] at hplaced
      exact hplaced
    · rw [hplace] at hplaced
      exact hplaced.2.1
  -- without a directory there are no files yet
  | makes hnone hsent =>
    rename_i process campaign record
    have hmade : CampaignInvariant (s.goto process (.making campaign record)) :=
      h.goto hsent nofun
    have hgrowsMade : Grows (s.goto process (.making campaign record))
        { s.goto process (.making campaign record) with directory := some .empty } := by
      refine ⟨List.Subset.refl _, fun file hfile => ?_⟩
      rw [file?_goto, file?, hnone] at hfile
      exact absurd rfl hfile
    refine ⟨fun other => (hmade.placed other).mono hgrowsMade, hmade.createdOnce, ?_,
      hmade.indexOnce, hmade.fileFirst, ?_⟩
    · intro p file hmem
      have hfile := h.createdExists p file hmem
      rw [file?, hnone] at hfile
      exact absurd rfl hfile
    · exact fun index hindex => hmade.earned index hindex
  | compares hsent hfile => exact h.goto ⟨hsent, hfile⟩ nofun
  | creates hfiles hnew hfrom _ => exact h.creates hfiles hnew hfrom hgrows
  | writes count hplace => exact h.writes hplace hgrows
  | begins hplace _ =>
    rename_i process _ _ _
    refine h.goto ?_ nofun
    have hplaced := h.placed process
    rw [hplace] at hplaced
    exact hplaced.2.1
  | permits hplace => exact h.permits hplace hgrows

/-! ## Order -/

theorem expected_lt {index : Nat} {slot : String × Int} (h : expected[index]? = some slot) :
    index < 4 := (List.getElem?_eq_some_iff.mp h).1

theorem slotFile_ne_continuation {index : Nat} (h : index < 4) :
    slotFile index ≠ "continuation.json" := by
  interval_cases index <;> decide

/-- A process that goes elsewhere than to the first slot disturbs nothing. -/
theorem undisturbed_goto {s : Campaigns} {process : Nat} {place : Process} (h : s.Undisturbed)
    (hplace : ∀ target sequence campaign remaining,
      place ≠ .writing (.slot 0 target sequence) campaign remaining) :
    (s.goto process place).Undisturbed := by
  intro other target sequence campaign remaining hother
  rw [processes_goto] at hother
  split at hother
  · exact hplace _ _ _ _ hother
  · exact h _ _ _ _ _ hother

/-- A permission comes after those of the slots before it. -/
theorem CampaignInvariant.permits_next {s : Campaigns} {process index : Nat} {target : String}
    {sequence : Int} {campaign : AnnualCampaign} {remaining : List UInt8}
    (h : CampaignInvariant s) (ho : CampaignOrder s)
    (hplace : s.processes process = .writing (.slot index target sequence) campaign remaining)
    {earlier : Nat} (hearlier : Permitted s earlier) : earlier < index := by
  have hwritten : s.Written (slotFile index) := ⟨process, _, _, _, hplace, rfl⟩
  have hfresh : ¬ Permitted s index := fun hpermitted => (h.earned index hpermitted).2 hwritten
  by_contra hle
  rcases Nat.eq_or_lt_of_le (not_lt.mp hle) with rfl | hlt
  · exact hfresh hearlier
  obtain ⟨⟨hbetween, hfirst⟩, -⟩ := h.earned earlier hearlier
  rcases Nat.eq_zero_or_pos index with rfl | hpos
  · rcases hfirst hlt with hpermitted | hcontinued
    · exact hfresh hpermitted
    · exact (ho.continued hcontinued).2 _ _ _ _ _ hplace
  · exact hfresh (hbetween index hpos hlt)

theorem CampaignOrder.creates {s : Campaigns} {process : Nat} {purpose : Purpose}
    {campaign : AnnualCampaign} {text : List UInt8} {files : Table String (List UInt8)}
    (h : CampaignInvariant s) (ho : CampaignOrder s) (hfiles : s.directory = some files)
    (hnew : files.get? purpose.file = none)
    (hfrom : ComesFrom purpose campaign (s.processes process))
    (hquiet : purpose = .continuation → s.Undisturbed)
    (hgrows : Grows s { s.goto process (.writing purpose campaign text) with
      directory := some (files.insert purpose.file [])
      log := s.log ++ [.created process purpose.file] }) :
    CampaignOrder { s.goto process (.writing purpose campaign text) with
      directory := some (files.insert purpose.file [])
      log := s.log ++ [.created process purpose.file] } := by
  refine ⟨by simpa [CampaignEvent.index?] using ho.increasing, ?_⟩
  -- files other than that of the first slot leave the continuation as it is
  have hold (hcontinued : Continued s) (hother : ∀ target sequence,
      purpose ≠ .slot 0 target sequence) : _ :=
    (⟨hgrows.files _ (ho.continued hcontinued).1, undisturbed_goto (ho.continued hcontinued).2
      (fun target sequence _ _ heq => hother target sequence (Process.writing.inj heq).1)⟩ :
      Campaigns.file? { s.goto process (.writing purpose campaign text) with
        directory := some (files.insert purpose.file [])
        log := s.log ++ [.created process purpose.file] } (slotFile 0) ≠ none ∧
      (s.goto process (.writing purpose campaign text)).Undisturbed)
  rintro ⟨q, hmem⟩
  have hplaced := h.placed process
  cases purpose with
  -- the continuation itself: nobody writes the first slot, for the step is quiet
  | continuation =>
    obtain ⟨record, hchecking⟩ := hfrom
    rw [hchecking] at hplaced
    exact ⟨hgrows.files _ hplaced.2, undisturbed_goto (hquiet rfl) nofun⟩
  | started =>
    rcases List.mem_append.mp hmem with hmem | hmem
    · exact hold ⟨q, hmem⟩ nofun
    · exact absurd (CampaignEvent.created.inj (List.mem_singleton.mp hmem)).2 (by decide)
  -- the first slot exists already when the campaign is continued
  | slot index target sequence =>
    rcases List.mem_append.mp hmem with hbefore | hmem
    · refine hold ⟨q, hbefore⟩ ?_
      rintro target' sequence' heq
      obtain rfl : index = 0 := (Purpose.slot.inj heq).1
      refine (ho.continued ⟨q, hbefore⟩).1 ?_
      rw [file?, hfiles]
      exact hnew
    · exact absurd (CampaignEvent.created.inj (List.mem_singleton.mp hmem)).2.symm
        (slotFile_ne_continuation (expected_lt hfrom.2.2))

/-- Quiet steps keep the order. -/
theorem CampaignOrder.step {quiet : Prop} {s t : Campaigns} (h : CampaignInvariant s)
    (ho : CampaignOrder s) (heffect : Effect quiet s t) (hquiet : quiet) : CampaignOrder t := by
  have hgrows := heffect.grows
  -- a process that moves without touching a file
  have hgoto (process : Nat) {place : Process} (hplace : ∀ target sequence campaign remaining,
      place ≠ .writing (.slot 0 target sequence) campaign remaining) :
      CampaignOrder (s.goto process place) :=
    ⟨ho.increasing, fun hcontinued => ⟨(ho.continued hcontinued).1,
      undisturbed_goto (ho.continued hcontinued).2 hplace⟩⟩
  cases heffect with
  | idle => exact ho
  | stops process => exact hgoto process nofun
  | waits _ => exact hgoto _ nofun
  | holds _ => exact hgoto _ nofun
  | compares _ _ => exact hgoto _ nofun
  | begins _ _ => exact hgoto _ nofun
  | makes hnone hsent =>
    refine ⟨ho.increasing, fun hcontinued => ?_⟩
    have hfile := (ho.continued hcontinued).1
    rw [file?, hnone] at hfile
    exact absurd rfl hfile
  | creates hfiles hnew hfrom hundisturbed =>
    exact ho.creates h hfiles hnew hfrom (fun heq => hundisturbed heq hquiet) hgrows
  | writes count hplace =>
    refine ⟨ho.increasing, fun hcontinued => ?_⟩
    obtain ⟨hfile, hundisturbed⟩ := ho.continued hcontinued
    refine ⟨hgrows.files _ hfile, undisturbed_goto hundisturbed ?_⟩
    intro target sequence campaign remaining heq
    obtain ⟨rfl, rfl, -⟩ := Process.writing.inj heq
    exact hundisturbed _ _ _ _ _ hplace
  -- the next index is above those permitted before
  | permits hplace =>
    refine ⟨?_, fun hcontinued => ?_⟩
    · dsimp only
      rw [List.filterMap_append]
      refine List.pairwise_append.mpr ⟨ho.increasing, List.pairwise_singleton _ _, ?_⟩
      intro earlier hearlier last hlast
      obtain ⟨event, hmem, hindex⟩ := List.mem_filterMap.mp hearlier
      obtain rfl := List.mem_singleton.mp hlast
      match event, hindex with
      | .permitted p i slot, hindex =>
        cases hindex
        exact h.permits_next ho hplace ⟨p, slot, hmem⟩
    · obtain ⟨q, hmem⟩ := hcontinued
      rcases List.mem_append.mp hmem with hmem | hmem
      · obtain ⟨hfile, hundisturbed⟩ := ho.continued ⟨q, hmem⟩
        exact ⟨hfile, undisturbed_goto hundisturbed nofun⟩
      · cases List.mem_singleton.mp hmem

/-! ## The budget -/

theorem CampaignInvariant.initial (directory : Option (Table String (List UInt8))) :
    CampaignInvariant (Campaigns.initial directory) where
  placed _ := trivial
  createdOnce := oncePer_nil
  createdExists := nofun
  indexOnce := oncePer_nil
  fileFirst := supported_nil
  earned := by
    rintro index ⟨process, slot, hmem⟩
    cases hmem

theorem CampaignInvariant.next {s : Campaigns} (lib : CampaignLibrary) (step : CampaignStep)
    (h : CampaignInvariant s) : Effect (Quiet step s) s (Campaigns.next lib step s) := by
  refine next_effect lib step s ?_
  intro process remaining campaign record hplace
  have hplaced := h.placed process
  rw [hplace] at hplaced
  exact hplaced

/-- The slots that were permitted, with their indices. -/
theorem CampaignInvariant.slots {s : Campaigns} (h : CampaignInvariant s) {slot : String × Int}
    (hslot : slot ∈ s.log.filterMap (·.slot?)) :
    ∃ index, expected[index]? = some slot ∧ index ∈ s.log.filterMap (·.index?) := by
  obtain ⟨event, hmem, hlabel⟩ := List.mem_filterMap.mp hslot
  match event, hlabel with
  | .permitted p index slot, hlabel =>
    cases hlabel
    exact ⟨index, (h.created hmem).2, List.mem_filterMap.mpr ⟨_, hmem, rfl⟩⟩

theorem CampaignInvariant.law {s : Campaigns} (h : CampaignInvariant s) : CampaignLaw s := by
  have honce : OncePer (·.slot?) s.log := by
    refine h.indexOnce.of_determined ?_
    intro event hmem event' hmem' slot hlabel hlabel'
    match event, event', hlabel, hlabel' with
    | .permitted p index slot, .permitted p' index' slot', hlabel, hlabel' =>
      cases hlabel
      cases hlabel'
      have hslot := (h.created hmem).2
      have hsame := (List.getElem?_inj (expected_lt hslot) (by decide)).mp
        (hslot.trans (h.created hmem').2.symm)
      exact ⟨index, rfl, congrArg some hsame.symm⟩
  have hslots : ∀ slot ∈ s.log.filterMap (·.slot?), slot ∈ expected := by
    intro slot hslot
    obtain ⟨index, hindex, -⟩ := h.slots hslot
    exact List.mem_of_getElem? hindex
  exact ⟨(List.subperm_of_subset honce hslots).length_le, honce, hslots, h.createdOnce,
    h.fileFirst⟩

/-- Permissions whose indices increase come in the order of the slots. -/
theorem sublist_of_increasing {log : List CampaignEvent}
    (hincreasing : (log.filterMap (·.index?)).Pairwise (· < ·))
    (hslots : ∀ process index slot, .permitted process index slot ∈ log →
      expected[index]? = some slot) : (log.filterMap (·.slot?)).Sublist expected := by
  have hexpected : expected = (List.range 4).filterMap (expected[·]?) := by decide
  have hmapped : log.filterMap (·.slot?) =
      (log.filterMap (·.index?)).filterMap (expected[·]?) := by
    rw [List.filterMap_filterMap]
    refine List.filterMap_congr fun event hmem => ?_
    cases event with
    | created process file => rfl
    | permitted process index slot => exact (hslots process index slot hmem).symm
  have hsub : log.filterMap (·.index?) ⊆ List.range 4 := by
    intro index hindex
    obtain ⟨event, hmem, hlabel⟩ := List.mem_filterMap.mp hindex
    match event, hlabel with
    | .permitted process index slot, hlabel =>
      cases hlabel
      exact List.mem_range.mpr (expected_lt (hslots process _ slot hmem))
  rw [hmapped, hexpected]
  refine List.Sublist.filterMap _ (List.sublist_of_subperm_of_pairwise (r := (· < ·)) ?_ hincreasing
    List.pairwise_lt_range)
  exact List.subperm_of_subset (hincreasing.imp Nat.ne_of_lt) hsub

/-- At any time at most four sends have been permitted, each slot once, after its file was
created, and files are never rewritten. If every continuation was recorded while no process was
inside its call for the first slot, the slots came in their order. -/
theorem campaign_budget {lib : CampaignLibrary} {directory : Option (Table String (List UInt8))}
    {s t : Campaigns}
    (hs : Reaches (Campaigns.next lib) (fun _ _ => True) (Campaigns.initial directory) s)
    (ht : Reaches (Campaigns.next lib) (fun _ _ => True) s t) :
    CampaignLaw t ∧ s.Unrewritten t ∧
      (Reaches (Campaigns.next lib) Quiet (Campaigns.initial directory) t →
        (t.log.filterMap (·.slot?)).Sublist expected) := by
  have hinvariant (step : CampaignStep) (s : Campaigns) (h : CampaignInvariant s) :
      CampaignInvariant (Campaigns.next lib step s) := h.step (h.next lib step)
  have hinit := CampaignInvariant.initial directory
  have hs' := Reaches.invariant CampaignInvariant (fun step s _ => hinvariant step s) hinit hs
  have ht' := Reaches.invariant CampaignInvariant (fun step s _ => hinvariant step s) hs' ht
  refine ⟨ht'.law, ?_, fun hquiet => ?_⟩
  · exact Reaches.related CampaignInvariant Campaigns.Unrewritten .refl (fun _ _ _ => .trans)
      (fun step s _ => hinvariant step s) (fun step s _ h => (h.next lib step).unrewritten) hs' ht
  · have horder := Reaches.invariant (fun s => CampaignInvariant s ∧ CampaignOrder s)
      (fun step s hstep h => ⟨hinvariant step s h.1, h.2.step h.1 (h.1.next lib step) hstep⟩)
      ⟨hinit, List.Pairwise.nil, fun hcontinued => by
        obtain ⟨process, hmem⟩ := hcontinued
        cases hmem⟩ hquiet
    exact sublist_of_increasing horder.2.increasing
      fun process index slot hmem => (ht'.created hmem).2

/-! ## Steps of other processes -/

/-- The process that a step is of. -/
def CampaignStep.process : CampaignStep → Nat
  | construct process _ _ _ | continuePrior process _ _ _ | proceeds process
  | beforeSend process _ _ _ _ | writes process _ | returns process | raises process
  | crashes process => process

/-- A step moves no other process. -/
theorem next_processes (lib : CampaignLibrary) (step : CampaignStep) (s : Campaigns) {other : Nat}
    (hother : other ≠ step.process) :
    (Campaigns.next lib step s).processes other = s.processes other := by
  have hgoto (place : Process) :
      (s.goto step.process place).processes other = s.processes other := by
    rw [processes_goto, if_neg hother]
  -- an exclusive open moves its own process, whether it succeeds or not
  have hopen (purpose : Purpose) (campaign : AnnualCampaign) (text : List UInt8) (place : Process) :
      (s.openExclusive step.process purpose campaign text place).processes other =
        s.processes other := by
    rw [openExclusive]
    split
    · exact hgoto place
    · split
      · exact hgoto _
      · exact hgoto place
  cases step with
  | construct process approvalHash taskId startedAt =>
    rw [next, construct]
    split
    · split <;> exact hgoto _
    · rfl
  | continuePrior process approvalHash taskId startedAt =>
    rw [next, continuePrior]
    split
    · split
      · exact hgoto _
      · split <;> exact hgoto _
    · rfl
  | proceeds process =>
    rw [next]
    split
    · exact hopen _ _ _ _
    · exact hopen _ _ _ _
    · rw [Campaigns.compare]
      split <;> exact hgoto _
    · rfl
  | beforeSend process target sequence startedAt attemptId =>
    rw [next]
    split
    · rw [beforeSend]
      split
      · rfl
      · exact hopen _ _ _ _
    · rfl
  | writes process count =>
    rw [next]
    split
    · exact hgoto _
    · rfl
  | returns process =>
    rw [next]
    split
    · rw [returns.eq_def]
      split <;> exact hgoto _
    · rfl
  | raises process => exact hgoto _
  | crashes process => exact hgoto _

theorem runAll_processes (lib : CampaignLibrary) (other : Nat) (steps : List CampaignStep)
    (s : Campaigns) (hother : ∀ step ∈ steps, other ≠ step.process) :
    (runAll (Campaigns.next lib) steps s).processes other = s.processes other := by
  induction steps generalizing s with
  | nil => rfl
  | cons step steps ih =>
    obtain ⟨hstep, hrest⟩ := List.forall_mem_cons.mp hother
    exact (ih _ hrest).trans (next_processes lib step s hstep)

/-! ## The approved campaign -/

def approvedStarted : CampaignRecord :=
  startedRecord "5f1d" "task-1" "2026-09-27T09:00:00+09:00"

def approvedSlot : CampaignRecord :=
  slotRecord "2024" 0 "2026-09-27T09:01:00+09:00" "edinet-attempt-1" "5f1d"

/-- The language on the campaign that was approved; one byte stands for the text of a record. -/
def approvedLibrary : CampaignLibrary where
  dump record := if record = approvedStarted then [1] else if record = approvedSlot then [2] else []
  sha256 text :=
    if text = [1] then "d87c84ea991ee07affc56522a81c225fe7f42951493b06c7571e51205bcc4c92"
    else if text = [2] then "655ae380d1b540a87fbdecd028a9235ae506723339383465cdb824c04ff92d12"
    else ""

/-- The campaign starts and writes its first slot file. -/
def firstSlotSteps : List CampaignStep :=
  [.construct 0 "5f1d" "task-1" "2026-09-27T09:00:00+09:00", .proceeds 0, .writes 0 1,
    .returns 0, .beforeSend 0 "2024" 0 "2026-09-27T09:01:00+09:00" "edinet-attempt-1",
    .writes 0 1]

/-- It is continued, and the second slot is permitted. -/
def continuationSteps : List CampaignStep :=
  [.continuePrior 1 "5f1d" "task-2" "2026-09-27T10:00:00+09:00", .proceeds 1, .proceeds 1,
    .proceeds 1, .writes 1 1, .returns 1,
    .beforeSend 1 "2024" 1 "2026-09-27T10:01:00+09:00" "edinet-attempt-2", .writes 1 1,
    .returns 1]

def campaignAfter (steps : List CampaignStep) : Campaigns :=
  runAll (Campaigns.next approvedLibrary) steps (Campaigns.initial none)

theorem campaign_reaches (steps : List CampaignStep) :
    Reaches (Campaigns.next approvedLibrary) (fun _ _ => True) (Campaigns.initial none)
      (campaignAfter steps) := by
  have hallowed : ∀ steps s,
      AllowedAlong (Campaigns.next approvedLibrary) (fun _ _ => True) steps s := by
    intro steps
    induction steps with
    | nil => exact fun _ => trivial
    | cons step steps ih => exact fun s => ⟨trivial, ih _⟩
  exact Reaches.runAll (hallowed steps _)

/-- A process is about to get the first slot. -/
def Process.takesFirst : Process → Bool
  | writing (.slot 0 _ _) _ _ => true
  | _ => false

/-- Two processes that do not take the first slot disturb nothing. -/
theorem undisturbed_campaignAfter {steps : List CampaignStep}
    (htwo : ∀ step ∈ steps, step.process < 2)
    (hfirst : ((campaignAfter steps).processes 0).takesFirst = false)
    (hsecond : ((campaignAfter steps).processes 1).takesFirst = false) :
    (campaignAfter steps).Undisturbed := by
  intro process target sequence campaign remaining hplace
  have htakes : ((campaignAfter steps).processes process).takesFirst = true := by
    rw [hplace]
    rfl
  by_cases hzero : process = 0
  · rw [hzero, hfirst] at htakes
    cases htakes
  by_cases hone : process = 1
  · rw [hone, hsecond] at htakes
    cases htakes
  -- no step is of any other process
  have hidle : (campaignAfter steps).processes process = .waiting :=
    runAll_processes approvedLibrary process steps _ fun step hstep => by
      have := htwo step hstep
      omega
  rw [hidle] at htakes
  cases htakes

/-- A campaign that crashes in its first slot is continued, and gets two more slots. -/
def continuedSteps : List CampaignStep :=
  firstSlotSteps ++ .crashes 0 :: continuationSteps ++
    [.beforeSend 1 "2023" 0 "2026-09-27T10:02:00+09:00" "edinet-attempt-3", .returns 1]

theorem continued_quiet :
    Reaches (Campaigns.next approvedLibrary) Quiet (Campaigns.initial none)
      (campaignAfter continuedSteps) := by
  have htwo : ∀ step ∈ continuedSteps, step.process < 2 := by decide
  have hquiet (count : Nat)
      (hfirst : ((campaignAfter (continuedSteps.take count)).processes 0).takesFirst = false)
      (hsecond : ((campaignAfter (continuedSteps.take count)).processes 1).takesFirst = false) :
      (campaignAfter (continuedSteps.take count)).Undisturbed :=
    undisturbed_campaignAfter (fun step hstep => htwo step (List.mem_of_mem_take hstep)) hfirst
      hsecond
  -- the steps that may record a continuation, each after the steps before it
  have hmakes := hquiet 1 (by decide +kernel) (by decide +kernel)
  have hreads := hquiet 8 (by decide +kernel) (by decide +kernel)
  have hcompares := hquiet 9 (by decide +kernel) (by decide +kernel)
  have hrecords := hquiet 10 (by decide +kernel) (by decide +kernel)
  exact Reaches.runAll ⟨trivial, fun _ _ _ => hmakes, trivial, trivial, trivial, trivial, trivial,
    trivial, fun _ _ _ => hreads, fun _ _ _ => hcompares, fun _ _ _ => hrecords, trivial, trivial,
    trivial, trivial, trivial, trivial, trivial, trivial⟩

/-- The continued campaign keeps the budget, and its slots come in their order. -/
theorem campaign_budget_continued :
    CampaignLaw (campaignAfter continuedSteps) ∧
      (campaignAfter continuedSteps).log.filterMap (·.slot?) = [("2024", 1), ("2023", 0)] ∧
      ((campaignAfter continuedSteps).log.filterMap (·.slot?)).Sublist expected := by
  obtain ⟨hlaw, -, horder⟩ := campaign_budget .refl (campaign_reaches continuedSteps)
  exact ⟨hlaw, by decide +kernel, horder continued_quiet⟩

/-- A campaign that is continued before its first call returns gets the second slot first. -/
theorem campaign_disordered :
    Reaches (Campaigns.next approvedLibrary) (fun _ _ => True) (Campaigns.initial none)
        (campaignAfter (firstSlotSteps ++ continuationSteps ++ [.returns 0])) ∧
      (campaignAfter (firstSlotSteps ++ continuationSteps ++ [.returns 0])).log.filterMap
        (·.slot?) = [("2024", 1), ("2024", 0)] ∧
      ¬ [("2024", 1), ("2024", 0)].Sublist expected := by
  refine ⟨campaign_reaches _, ?_, ?_⟩
  · decide +kernel
  · decide

end StockResearch.Preparation.Campaign
