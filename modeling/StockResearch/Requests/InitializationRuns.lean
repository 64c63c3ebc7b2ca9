import StockResearch.Requests.Initialization

/-!
# Interrupted initializations

What every run of `initializeRuntimeStorage` leaves behind, wherever it stopped, and from
which of these files the next run comes to its end.

- `Progress`: the files that runs from a start leave; `Stranded`: those from which no run
  returns.
- `initialize_certain`, `initialize_stranded`: one run, from either.
- `initialization_resumes_iff`, `initialization_stranded_iff`: any number of runs.
-/

namespace StockResearch.Requests.Initialization

open Sql
open Relation (ReflTransGen)

variable {ev : Point → Event Raised}

/-! ## Steps -/

/-- What the file and its durable content are judged by. -/
def Durably (D : Option FileMode → Content → Prop) (storage : Storage) : Prop :=
  D storage.mode storage.connection.durable

/-- The connection reads `content`. -/
structure Viewing (D : Option FileMode → Content → Prop) (mode : Option FileMode)
    (content : Content) (storage : Storage) : Prop where
  mode_eq : storage.mode = mode
  view_eq : storage.connection.view = content
  durably : Durably D storage

/-- A step of the connection that cannot fail. -/
theorem onConnection_certain {J pre : Storage → Prop} {post : Unit → Storage → Prop} {point : Point}
    {f : Connection → Except SqlError Connection} (hpre : ∀ s, pre s → J s)
    (hok : ∀ s, pre s → ∃ connection, f s.connection = .ok connection ∧
      post () { s with connection := connection } ∧ J { s with connection := connection }) :
    Proc.Certain ev J pre (onConnection point f) post := by
  refine Proc.Certain.step hpre fun s hs => ?_
  obtain ⟨connection, hf, hpost, hJ⟩ := hok s hs
  exact ⟨(), _, by rw [hf], hpost, hJ⟩

/-- A step of the connection that fails. -/
theorem onConnection_fails {J pre : Storage → Prop} {point : Point}
    {f : Connection → Except SqlError Connection} (hpre : ∀ s, pre s → J s)
    (hfails : ∀ s, pre s → ∃ e, f s.connection = .error e) :
    Proc.Fails ev J pre (onConnection point f) .underlying := by
  refine Proc.Fails.step hpre fun s hs => ?_
  obtain ⟨_, hf⟩ := hfails s hs
  rw [hf]

/-- A step of the connection that the events let proceed. -/
theorem onConnection_proceeds {inv pre : Storage → Prop} {post : Unit → Storage → Prop}
    {exc : Raised → Storage → Prop} {point : Point} {f : Connection → Except SqlError Connection}
    (hev : ev point = .proceeds)
    (hok : ∀ s, pre s → ∃ connection, f s.connection = .ok connection ∧
      post () { s with connection := connection }) :
    Proc.Triple ev inv pre (onConnection point f) post exc := by
  refine Proc.Triple.step_proceeds hev fun s hs => ?_
  obtain ⟨connection, hf, hpost⟩ := hok s hs
  exact ⟨(), _, by rw [hf], hpost⟩

section

variable {D : Option FileMode → Content → Prop} {mode : Option FileMode} {before after : Content}

/-- A script whose statements run leaves what they make of the content. -/
theorem executescript_certain {version : Nat} {statements : List Statement}
    (hexec : Statement.execAll before statements = .ok after) (hbefore : D mode before)
    (hafter : D mode after) :
    Proc.Certain ev (Durably D) (Viewing D mode before) (executescript version statements)
      fun _ s => s = ⟨mode, ⟨after, none⟩⟩ := by
  have hcommit : Proc.Certain ev (Durably D) (Viewing D mode before)
      (onConnection (.commitPending version) fun connection => .ok connection.commit)
      fun _ s => s = ⟨mode, ⟨before, none⟩⟩ := by
    refine onConnection_certain (fun s hs => hs.durably) fun s hs => ⟨_, rfl, ?_, ?_⟩
    · rw [Connection.commit, hs.view_eq, hs.mode_eq]
    · show D s.mode s.connection.view
      rw [hs.view_eq, hs.mode_eq]
      exact hbefore
  have hbegin : Proc.Certain ev (Durably D) (fun s => s = ⟨mode, ⟨before, none⟩⟩)
      (onConnection (.begin version) Connection.begin)
      fun _ s => s = ⟨mode, ⟨before, some before⟩⟩ := by
    refine onConnection_certain ?_ ?_
    · rintro _ rfl
      exact hbefore
    · rintro _ rfl
      exact ⟨_, rfl, rfl, hbefore⟩
  -- the transaction holds what the statements so far have made
  have hloop : Proc.Certain ev (Durably D) (fun s => s = ⟨mode, ⟨before, some before⟩⟩)
      (statements.zipIdx.forM fun entry =>
        onConnection (.statement version entry.2) (Connection.statement entry.1))
      fun _ s => s = ⟨mode, ⟨before, some after⟩⟩ := by
    let Inv (done : List (Statement × Nat)) (s : Storage) : Prop :=
      ∃ content, Statement.execAll before (done.map Prod.fst) = .ok content ∧
        s = ⟨mode, ⟨before, some content⟩⟩
    refine (Proc.Triple.forM_done Inv ?_).weaken ?_ (fun _ => id) ?_ (fun _ _ => id)
    · intro done entry rest hsplit
      refine onConnection_certain ?_ ?_
      · rintro _ ⟨content, -, rfl⟩
        exact hbefore
      · rintro _ ⟨content, hcontent, rfl⟩
        have hall : statements = done.map Prod.fst ++ entry.1 :: rest.map Prod.fst := by
          rw [← List.map_cons, ← List.map_append, ← hsplit, List.zipIdx_map_fst]
        rw [hall, Statement.execAll_append] at hexec
        obtain ⟨content', hcontent', hexec⟩ := hexec
        obtain rfl : content = content' := Except.ok.inj (hcontent.symm.trans hcontent')
        obtain ⟨next, hnext, -⟩ := Statement.execAll_cons.mp hexec
        refine ⟨⟨before, some next⟩, ?_, ⟨next, ?_, rfl⟩, hbefore⟩
        · show (entry.1.exec content >>= fun content => _) = _
          rw [hnext]
          rfl
        · rw [List.map_append, Statement.execAll_append]
          exact ⟨content, hcontent, Statement.execAll_cons.mpr ⟨next, hnext, rfl⟩⟩
    · rintro _ rfl
      exact ⟨before, rfl, rfl⟩
    · rintro _ _ ⟨content, hcontent, rfl⟩
      rw [List.zipIdx_map_fst, hexec] at hcontent
      cases hcontent
      rfl
  refine Proc.Triple.bind hcommit fun _ => Proc.Triple.bind hbegin fun _ =>
    Proc.Triple.bind hloop fun _ => ?_
  refine onConnection_certain ?_ ?_
  · rintro _ rfl
    exact hbefore
  · rintro _ rfl
    exact ⟨_, rfl, rfl, hafter⟩

/-- The statement of `_migrate_v1_to_v2` that is durable at once. -/
def addActive : Statement := .addColumn "runtime_lease" (flag "active" (.integer 1))

/-- `_migrate_v1_to_v2` commits its first statement, and leaves the others to a transaction. -/
theorem executeEach_certain {halfway : Content} (hhalfway : addActive.exec before = .ok halfway)
    (hexec : Statement.execAll before (migration 1) = .ok after) (hbefore : D mode before)
    (hD : D mode halfway) :
    Proc.Certain ev (Durably D) (fun s => s = ⟨mode, ⟨before, none⟩⟩) (executeEach 1 (migration 1))
      fun _ => Viewing D mode after := by
  obtain ⟨first, hfirst, hexec⟩ := Statement.execAll_cons.mp hexec
  obtain rfl : halfway = first := Except.ok.inj (hhalfway.symm.trans hfirst)
  obtain ⟨updated, hupdated, hexec⟩ := Statement.execAll_cons.mp hexec
  obtain ⟨last, hlast, hexec⟩ := Statement.execAll_cons.mp hexec
  cases hexec
  show Proc.Certain ev _ _ (do
    onConnection (.statement 1 0) (Connection.execute addActive)
    onConnection (.statement 1 1) (Connection.execute (setSchemaVersion 2))
    onConnection (.statement 1 2) (Connection.execute (.setUserVersion 2))
    pure ()) _
  -- an `ALTER TABLE` outside a transaction commits at once
  have hadd : Proc.Certain ev (Durably D) (fun s => s = ⟨mode, ⟨before, none⟩⟩)
      (onConnection (.statement 1 0) (Connection.execute addActive))
      fun _ s => s = ⟨mode, ⟨halfway, none⟩⟩ := by
    refine onConnection_certain ?_ ?_
    · rintro _ rfl
      exact hbefore
    · rintro _ rfl
      refine ⟨⟨halfway, none⟩, ?_, rfl, hD⟩
      show (addActive.exec before >>= fun content => _) = _
      rw [hhalfway]
      rfl
  -- the first `UPDATE` opens a transaction
  have hupdate : Proc.Certain ev (Durably D) (fun s => s = ⟨mode, ⟨halfway, none⟩⟩)
      (onConnection (.statement 1 1) (Connection.execute (setSchemaVersion 2)))
      fun _ s => s = ⟨mode, ⟨halfway, some updated⟩⟩ := by
    refine onConnection_certain ?_ ?_
    · rintro _ rfl
      exact hD
    · rintro _ rfl
      refine ⟨⟨halfway, some updated⟩, ?_, rfl, hD⟩
      show ((setSchemaVersion 2).exec halfway >>= fun content => _) = _
      rw [hupdated]
      rfl
  -- which is still open after the last statement
  have hversion : Proc.Certain ev (Durably D) (fun s => s = ⟨mode, ⟨halfway, some updated⟩⟩)
      (onConnection (.statement 1 2) (Connection.execute (.setUserVersion 2)))
      fun _ => Viewing D mode after := by
    refine onConnection_certain ?_ ?_
    · rintro _ rfl
      exact hD
    · rintro _ rfl
      refine ⟨⟨halfway, some after⟩, ?_, ⟨rfl, rfl, hD⟩, hD⟩
      show ((Statement.setUserVersion 2).exec updated >>= fun content => _) = _
      rw [hlast]
      rfl
  exact Proc.Triple.bind hadd fun _ => Proc.Triple.bind hupdate fun _ =>
    Proc.Triple.bind hversion fun _ => Proc.Triple.pure fun _ => id

theorem requireMetadata_of_rows {version : Nat} {content : Content}
    (h : (content.relations.get? "schema_metadata").map (·.rows) = some [metadataRow version]) :
    requireMetadata version content = .ok () := by
  obtain ⟨relation, hget, hrows⟩ := Option.map_eq_some_iff.mp h
  have hmetadata : metadata content = .ok (some (.text schemaOwner, .integer version)) := by
    rw [metadata, hget]
    show Except.ok ((relation.rows.find? _).map _) = _
    rw [hrows]
    rfl
  rw [requireMetadata, hmetadata]
  exact require_eq_ok.mpr rfl

theorem checkMetadata_certain {point : Point} {version : Nat} {content : Content}
    (h : (content.relations.get? "schema_metadata").map (·.rows) = some [metadataRow version])
    {pre : Storage → Prop} (hpre : ∀ s, pre s → Viewing D mode content s) :
    Proc.Certain ev (Durably D) pre (checkMetadata point version) fun _ => pre := by
  refine Proc.Certain.read (fun s hs => (hpre s hs).durably) fun s hs => ⟨(), ?_, hs⟩
  rw [(hpre s hs).view_eq, requireMetadata_of_rows h]

end

/-! ## Migrations -/

/-- The files that the migrations from `root` may leave, told by `D`. -/
structure Covers (D : Option FileMode → Content → Prop) (mode : Option FileMode) (root : Content) :
    Prop where
  reached : ∀ version content, Reached root version content → D mode content
  halfway : root.userVersion = 1 → ∀ content, addActive.exec root = .ok content → D mode content

section

variable {D : Option FileMode → Content → Prop} {mode : Option FileMode} {root content : Content}
  {base version : Nat}

/-- The connection reads the content of a version, and of the first one without a transaction. -/
structure AtStep (D : Option FileMode → Content → Prop) (mode : Option FileMode) (root : Content)
    (version : Nat) (s : Storage) : Prop where
  view : ∃ content, Reached root version content ∧ Viewing D mode content s
  pending : version = 1 → s.connection.pending = none

theorem migrate_certain (hroot : AtVersion base root) (hbase : 1 ≤ base)
    (hcovers : Covers D mode root) (hle : version ≤ 7) :
    Proc.Certain ev (Durably D) (AtStep D mode root version) (migrate version)
      fun _ => AtStep D mode root (version + 1) := by
  intro s hs
  obtain ⟨content, hreached, hview⟩ := hs.view
  obtain ⟨after, hafter⟩ := hreached.exists_next hroot hbase hle
  have hnext := hreached.next hle hafter
  have hfrom := hreached.le
  rw [hroot.userVersion] at hfrom
  have hdone : ∀ s, Viewing D mode after s → AtStep D mode root (version + 1) s :=
    fun s h => ⟨⟨after, hnext, h⟩, fun heq => by omega⟩
  let pre (s : Storage) : Prop :=
    Viewing D mode content s ∧ (version = 1 → s.connection.pending = none)
  suffices hmigrate : Proc.Certain ev (Durably D) pre (migrate version)
      fun _ => AtStep D mode root (version + 1) from hmigrate s ⟨hview, hs.pending⟩
  refine Proc.Triple.bind (checkMetadata_certain
    (hreached.atVersion hroot hbase).metadata (fun s (h : pre s) => h.1)) fun _ => ?_
  -- the first migration runs statement by statement, the others as one script
  by_cases hone : version = 1
  · subst hone
    rw [if_pos rfl]
    have hversion : root.userVersion = 1 := by
      rw [hroot.userVersion]
      omega
    obtain rfl : root = content := (hversion ▸ Reached.start).unique hreached
    obtain ⟨halfway, hhalfway, -⟩ := Statement.execAll_cons.mp hafter
    refine (executeEach_certain hhalfway hafter (hcovers.reached 1 root hreached)
      (hcovers.halfway hversion halfway hhalfway)).weaken ?_ (fun _ => id) (fun _ => hdone)
      fun _ _ => id
    rintro ⟨mode', durable, pending⟩ ⟨hview, hpending⟩
    obtain rfl : pending = none := hpending rfl
    obtain rfl := hview.mode_eq
    obtain rfl := hview.view_eq
    rfl
  · rw [if_neg hone]
    refine (executescript_certain hafter (hcovers.reached version content hreached)
      (hcovers.reached _ after hnext)).weaken (fun _ h => h.1) (fun _ => id) ?_ fun _ _ => id
    rintro _ _ rfl
    exact hdone _ ⟨rfl, rfl, hcovers.reached _ after hnext⟩

/-- The migrations lead from any version to the last. -/
theorem upgrade_certain (hroot : AtVersion base root) (hbase : 1 ≤ base)
    (hcovers : Covers D mode root) {current : Nat} (hcurrent : current ≤ 8) :
    Proc.Certain ev (Durably D) (AtStep D mode root current) (upgrade current)
      fun _ => AtStep D mode root 8 := by
  -- the versions to come are those from `first`, which the current one has not passed
  let Inv (later : List Nat) (current : Nat) (s : Storage) : Prop :=
    AtStep D mode root current s ∧ current ≤ 8 ∧
      ∃ first ≤ current, later = List.range' first (8 - first)
  refine (Proc.Triple.foldlM Inv ?_ current).weaken ?_ (fun _ => id) ?_ fun _ _ => id
  · intro current version later s hs
    obtain ⟨hstep, hle, first, hfirst, hlater⟩ := hs
    have hlt : first < 8 := by
      by_contra hge
      rw [Nat.sub_eq_zero_of_le (Nat.le_of_not_lt hge)] at hlater
      cases hlater
    obtain ⟨rest, hrest⟩ : ∃ rest, 8 - first = rest + 1 := ⟨7 - first, by omega⟩
    rw [hrest, List.range'_succ] at hlater
    obtain ⟨rfl, rfl⟩ := List.cons.inj hlater
    have hrest : rest = 8 - (version + 1) := by omega
    by_cases hcurrent : current = version
    · subst hcurrent
      rw [if_pos rfl]
      refine Proc.Triple.bind (migrate_certain hroot hbase hcovers (by omega)) (fun _ => ?_) s hstep
      exact Proc.Triple.pure fun s h => ⟨h, hlt, current + 1, Nat.le_refl _, by rw [hrest]⟩
    · rw [if_neg hcurrent]
      exact ⟨hstep, hle, version + 1, by omega, by rw [hrest]⟩
  · intro s hs
    refine ⟨hs, hcurrent, 1, ?_, rfl⟩
    obtain ⟨content, hreached, -⟩ := hs.view
    have := hreached.le
    rw [hroot.userVersion] at this
    omega
  · rintro current' s ⟨hstep, hle, first, hfirst, hnil⟩
    have hfirst' : 8 - first = 0 := (List.range'_eq_nil_iff.mp hnil.symm)
    obtain rfl : current' = 8 := by omega
    exact hstep

theorem verifySchema_certain (h : AtVersion 8 content) :
    Proc.Certain ev (Durably D) (Viewing D mode content) verifySchema
      fun _ => Viewing D mode content := by
  have hread : Proc.Certain ev (Durably D) (Viewing D mode content) (readUserVersion .verifyVersion)
      fun version s => Viewing D mode content s ∧ version = 8 := by
    refine Proc.Certain.read (fun s hs => hs.durably) fun s hs => ⟨_, rfl, hs, ?_⟩
    rw [hs.view_eq, h.userVersion]
  refine Proc.Triple.bind hread fun version => Proc.Triple.bind
    (M := fun _ => Viewing D mode content) ?_ fun _ => checkMetadata_certain h.metadata fun _ => id
  refine Proc.Triple.ofExcept (fun _ _ _ hs => hs.1) fun e s herror hs => ?_
  rw [hs.2] at herror
  cases herror

/-- What remains when the tables are there. -/
theorem verify_commit_certain (h : AtVersion 8 content) (hafter : D mode content) :
    Proc.Certain ev (Durably D) (Viewing D mode content)
      (do verifySchema; onConnection .commit fun connection => .ok connection.commit)
      fun _ s => s = ⟨mode, ⟨content, none⟩⟩ := by
  refine Proc.Triple.bind (verifySchema_certain h) fun _ => onConnection_certain
    (fun s hs => hs.durably) fun s hs => ⟨_, rfl, ?_, ?_⟩
  · rw [Connection.commit, hs.view_eq, hs.mode_eq]
  · show D s.mode s.connection.view
    rw [hs.view_eq, hs.mode_eq]
    exact hafter

theorem readVersion_certain (hbefore : D mode content) :
    Proc.Certain ev (Durably D) (fun s => s = ⟨mode, ⟨content, none⟩⟩)
      (readUserVersion .readVersion)
      fun current s => s = ⟨mode, ⟨content, none⟩⟩ ∧ current = content.userVersion := by
  refine Proc.Certain.read ?_ ?_
  · rintro _ rfl
    exact hbefore
  · rintro _ rfl
    exact ⟨_, rfl, rfl, rfl⟩

/-- An empty file gets the current tables. -/
theorem bringUp_create (hbefore : D mode .empty) {created : Content}
    (hcreated : Statement.execAll .empty createSchema = .ok created) (hafter : D mode created) :
    Proc.Certain ev (Durably D) (fun s => s = ⟨mode, ⟨.empty, none⟩⟩) bringUp
      fun _ s => s = ⟨mode, ⟨created, none⟩⟩ := by
  obtain ⟨created', hcreated', hversion, -⟩ := createSchema_runs
  obtain rfl : created = created' := Except.ok.inj (hcreated.symm.trans hcreated')
  refine Proc.Triple.bind (readVersion_certain hbefore) fun current =>
    Proc.Triple.bind (M := fun _ => Viewing D mode created) ?_ fun _ =>
      verify_commit_certain hversion hafter
  rintro s ⟨rfl, rfl⟩
  refine (executescript_certain hcreated hbefore hafter).weaken ?_ (fun _ => id) ?_
    (fun _ _ => id) _ rfl
  · rintro _ rfl
    exact ⟨rfl, rfl, hbefore⟩
  · rintro _ _ rfl
    exact ⟨rfl, rfl, hafter⟩

/-- A file of an earlier version, or of the current one, is brought to the current one. -/
theorem bringUp_upgrade (hroot : AtVersion base root) (hbase : 1 ≤ base)
    (hcovers : Covers D mode root) (hcontent : Reached root version content) (hle : version ≤ 8) :
    Proc.Certain ev (Durably D) (fun s => s = ⟨mode, ⟨content, none⟩⟩) bringUp
      fun _ s => ∃ final, Reached root 8 final ∧ s = ⟨mode, ⟨final, none⟩⟩ := by
  have hversion := hcontent.atVersion hroot hbase
  have hfrom := hcontent.le
  rw [hroot.userVersion] at hfrom
  have hupgrade : Proc.Certain ev (Durably D) (AtStep D mode root version) (createOrUpgrade version)
      fun _ => AtStep D mode root 8 := by
    have hlast : ¬ version > schemaVersion := Nat.not_lt.mpr hle
    rw [createOrUpgrade, if_neg (by omega), if_neg hlast]
    exact Proc.Triple.bind (upgrade_certain hroot hbase hcovers hle)
      fun _ => Proc.Triple.pure fun _ => id
  refine Proc.Triple.bind (readVersion_certain (hcovers.reached _ _ hcontent)) fun current =>
    Proc.Triple.bind (M := fun _ => AtStep D mode root 8) ?_ fun _ => ?_
  · rintro s ⟨rfl, rfl⟩
    rw [hversion.userVersion]
    exact hupgrade _ ⟨⟨content, hcontent, rfl, rfl, hcovers.reached _ _ hcontent⟩, fun _ => rfl⟩
  · intro s hs
    obtain ⟨final, hfinal, hview⟩ := hs.view
    refine (verify_commit_certain (hfinal.atVersion hroot hbase)
      (hcovers.reached _ _ hfinal)).weaken (fun _ => id) (fun _ => id) ?_ (fun _ _ => id) s hview
    rintro _ _ rfl
    exact ⟨final, hfinal, rfl⟩

end

/-! ## Runs -/

/-- A file to start from: none, or one of ours with a valid content of some version. -/
inductive Start : Storage → Prop
  | absent : Start ⟨none, ⟨.empty, none⟩⟩
  | existing {version : Nat} {content : Content} (hfrom : 1 ≤ version) (hto : version ≤ 8)
      (hcontent : AtVersion version content) : Start ⟨some .ownerOnly, ⟨content, none⟩⟩

/-- The files that runs from a start may leave. -/
inductive Progress (created : FileMode) (start : Storage) : Option FileMode → Content → Prop
  | absent : start.mode = none → Progress created start none .empty
  /-- The file was made, and perhaps made ours alone. -/
  | fresh {mode : FileMode} : start.mode = none → mode = created ∨ mode = .ownerOnly →
      Progress created start (some mode) .empty
  | made {content : Content} : start.mode = none →
      Statement.execAll .empty createSchema = .ok content →
      Progress created start (some .ownerOnly) content
  | reached {version : Nat} {content : Content} : start.mode = some .ownerOnly →
      Reached start.connection.durable version content →
      Progress created start (some .ownerOnly) content
  /-- The first statement of `_migrate_v1_to_v2` is durable, and the others are not. -/
  | halfway {content : Content} : start.mode = some .ownerOnly →
      start.connection.durable.userVersion = 1 →
      addActive.exec start.connection.durable = .ok content →
      Progress created start (some .ownerOnly) content

/-- What an undisturbed run from a start ends with. -/
inductive Final (start : Storage) : Content → Prop
  | made {content : Content} : start.mode = none →
      Statement.execAll .empty createSchema = .ok content → Final start content
  | reached {content : Content} : start.mode = some .ownerOnly →
      Reached start.connection.durable 8 content → Final start content

/-- The lease already has the column that the migration from version 1 adds first. -/
def HasActive (content : Content) : Prop :=
  content.userVersion = 1 ∧ ∃ lease, content.relations.get? "runtime_lease" = some lease ∧
    "active" ∈ lease.definition.names

/-- No run comes to an end: the file is not ours alone, or half of the first migration was
lost. -/
def Stranded (storage : Storage) : Prop :=
  storage.mode = some .other ∨
    storage.mode = some .ownerOnly ∧ HasActive storage.connection.durable

section

variable {created : FileMode} {start storage : Storage}

theorem Final.unique {content content' : Content} (h : Final start content)
    (h' : Final start content') : content = content' := by
  cases h with
  | made hmode hcontent =>
    cases h' with
    | made _ hcontent' => exact Except.ok.inj (hcontent.symm.trans hcontent')
    | reached hmode' =>
      rw [hmode] at hmode'
      cases hmode'
  | reached hmode hcontent =>
    cases h' with
    | made hmode' =>
      rw [hmode] at hmode'
      cases hmode'
    | reached _ hcontent' => exact hcontent.unique hcontent'

/-- Only the statement that is lost adds the column. -/
theorem not_hasActive {version : Nat} {content : Content} (h : AtVersion version content) :
    ¬ HasActive content := by
  rintro ⟨hversion, lease, hlease, hactive⟩
  obtain rfl : version = 1 := h.userVersion.symm.trans hversion
  have hdefinition : ∃ schema : Schema, content.HasSchema schema ∧
      (schema.get? "runtime_lease").all (fun definition => decide ("active" ∉ definition.names)) =
        true := by
    rcases h.schema with hschema | hschema
    · exact ⟨_, hschema, by decide +kernel⟩
    · exact ⟨_, hschema, by decide +kernel⟩
  obtain ⟨schema, hschema, hall⟩ := hdefinition
  rw [← hschema "runtime_lease", hlease, Option.map_some, Option.all_some] at hall
  exact of_decide_eq_true hall hactive

theorem hasActive_halfway {content halfway : Content} (hversion : content.userVersion = 1)
    (hhalfway : addActive.exec content = .ok halfway) : HasActive halfway := by
  have happly := (Statement.exec_eq_ok.mp hhalfway).1
  obtain ⟨relation, hget, happly⟩ := bind_eq_ok.mp happly
  obtain ⟨⟨⟩, -, happly⟩ := bind_eq_ok.mp happly
  rw [pure_eq_ok] at happly
  subst happly
  have hlease : ∀ f : Relation → Relation,
      (content.relations.modify "runtime_lease" f).get? "runtime_lease" = some (f relation) := by
    intro f
    rw [Table.get?_modify, if_pos rfl, fetch_eq_ok.mp hget, Option.map_some]
  refine ⟨hversion, _, hlease _, ?_⟩
  simp [Definition.names, Definition.addColumn, flag]

theorem Start.existing_inv (hstart : Start start) (hmode : start.mode = some .ownerOnly) :
    ∃ version, 1 ≤ version ∧ version ≤ 8 ∧ AtVersion version start.connection.durable := by
  cases hstart with
  | absent => cases hmode
  | existing hfrom hto hcontent => exact ⟨_, hfrom, hto, hcontent⟩

/-- A file that is ours alone is brought to the current version. -/
theorem bringUp_certain {durable : Content} (hstart : Start start)
    (hprogress : Progress created start (some .ownerOnly) durable) (hnot : ¬ HasActive durable) :
    Proc.Certain ev (Durably (Progress created start))
      (fun s => s = ⟨some .ownerOnly, ⟨durable, none⟩⟩) bringUp
      fun _ s => ∃ final, Final start final ∧ s = ⟨some .ownerOnly, ⟨final, none⟩⟩ := by
  obtain ⟨created', hcreated, hversion, -⟩ := createSchema_runs
  cases hprogress with
  -- an empty file: the schema is created
  | fresh hmode =>
    refine (bringUp_create (.fresh hmode (.inr rfl)) hcreated (.made hmode hcreated)).weaken
      (fun _ => id) (fun _ => id) ?_ fun _ _ => id
    rintro _ _ rfl
    exact ⟨created', .made hmode hcreated, rfl⟩
  -- the schema was made by an earlier run and is current
  | made hmode hcontent =>
    obtain rfl : durable = created' := Except.ok.inj (hcontent.symm.trans hcreated)
    have hreached : Reached durable 8 durable := hversion.userVersion ▸ Reached.start
    have hcovers : Covers (Progress created start) (some .ownerOnly) durable := by
      refine ⟨fun version content hother => ?_, fun hone => ?_⟩
      · have hle := hother.le
        have hle' := hother.le_eight (Nat.le_of_eq hversion.userVersion)
        obtain rfl : version = 8 := by
          rw [hversion.userVersion] at hle
          omega
        obtain rfl : durable = content := hreached.unique hother
        exact .made hmode hcontent
      · rw [hversion.userVersion] at hone
        cases hone
    refine (bringUp_upgrade hversion (by omega) hcovers hreached (Nat.le_refl _)).weaken
      (fun _ => id) (fun _ => id) ?_ fun _ _ => id
    rintro _ _ ⟨final, hfinal, rfl⟩
    obtain rfl : durable = final := hreached.unique hfinal
    exact ⟨durable, .made hmode hcontent, rfl⟩
  -- an older schema: the migrations that are left run
  | reached hmode hcontent =>
    obtain ⟨version, hfrom, hto, hroot⟩ := hstart.existing_inv hmode
    have hcovers : Covers (Progress created start) (some .ownerOnly) start.connection.durable :=
      ⟨fun _ _ hother => .reached hmode hother, fun hone _ hhalfway => .halfway hmode hone hhalfway⟩
    have hle : _ ≤ 8 := hcontent.le_eight (hroot.userVersion ▸ hto)
    refine (bringUp_upgrade hroot hfrom hcovers hcontent hle).weaken (fun _ => id) (fun _ => id) ?_
      fun _ _ => id
    rintro _ _ ⟨final, hfinal, rfl⟩
    exact ⟨final, .reached hmode hfinal, rfl⟩
  | halfway hmode hone hhalfway => exact (hnot (hasActive_halfway hone hhalfway)).elim

/-- The file once it is made ours alone. -/
theorem Progress.protected {mode : Option FileMode} {durable : Content}
    (h : Progress created start mode durable) :
    Progress created start (some .ownerOnly) durable := by
  cases h with
  | absent hmode => exact .fresh hmode (.inr rfl)
  | fresh hmode _ => exact .fresh hmode (.inr rfl)
  | made hmode hcontent => exact .made hmode hcontent
  | reached hmode hcontent => exact .reached hmode hcontent
  | halfway hmode hone hhalfway => exact .halfway hmode hone hhalfway

/-- The file once `sqlite3.connect` has opened it. -/
theorem Progress.connected {mode : Option FileMode} {durable : Content}
    (h : Progress created start mode durable) :
    Progress created start (some (mode.getD created)) durable := by
  cases h with
  | absent hmode => exact .fresh hmode (.inl rfl)
  | fresh hmode hfresh => exact .fresh hmode hfresh
  | made hmode hcontent => exact .made hmode hcontent
  | reached hmode hcontent => exact .reached hmode hcontent
  | halfway hmode hone hhalfway => exact .halfway hmode hone hhalfway

/-- From a file that is not stranded a run comes to its end, unless something happens. -/
theorem initialize_certain (ev : Point → Event Raised) (hstart : Start start)
    (hprogress : Progress created start storage.mode storage.connection.durable)
    (hclosed : storage.connection.pending = none) (hnot : ¬ Stranded storage) :
    Proc.Certain ev (Durably (Progress created start)) (fun s => s = storage)
      (initializeRuntimeStorage created)
      fun _ s => ∃ final, Final start final ∧ s = ⟨some .ownerOnly, ⟨final, none⟩⟩ := by
  obtain ⟨mode, durable, pending⟩ := storage
  obtain rfl : pending = none := hclosed
  let D := Progress created start
  -- 1. whether there is a file
  have hinspect : Proc.Certain ev (Durably D) (fun s => s = ⟨mode, ⟨durable, none⟩⟩)
      (Proc.read .inspect fun storage => .ok storage.mode.isSome)
      fun existed s => s = ⟨mode, ⟨durable, none⟩⟩ ∧ existed = mode.isSome := by
    refine Proc.Certain.read ?_ ?_
    · rintro _ rfl
      exact hprogress
    · rintro _ rfl
      exact ⟨_, rfl, rfl, rfl⟩
  -- 2. it is opened, which creates one where there was none
  have hconnect : Proc.Certain ev (Durably D) (fun s => s = ⟨mode, ⟨durable, none⟩⟩)
      (connect created) fun _ s => s = ⟨some (mode.getD created), ⟨durable, none⟩⟩ := by
    refine Proc.Certain.step ?_ ?_
    · rintro _ rfl
      exact hprogress
    · rintro _ rfl
      exact ⟨(), _, rfl, rfl, hprogress.connected⟩
  -- 3. a new file is protected, an existing one must be
  have hprotect : Proc.Certain ev (Durably D)
      (fun s => s = ⟨some (mode.getD created), ⟨durable, none⟩⟩) (protect mode.isSome)
      fun _ s => s = ⟨some .ownerOnly, ⟨durable, none⟩⟩ := by
    cases mode with
    | none =>
      refine Proc.Certain.step ?_ ?_
      · rintro _ rfl
        exact hprogress.connected
      · rintro _ rfl
        exact ⟨(), _, rfl, rfl, hprogress.protected⟩
    | some mode =>
      cases mode with
      | ownerOnly => exact Proc.Triple.pure fun _ => id
      | other => exact (hnot (.inl rfl)).elim
  -- 4. the mode is checked
  have hvalidate : Proc.Certain ev (Durably D) (fun s => s = ⟨some .ownerOnly, ⟨durable, none⟩⟩)
      validateDatabaseMode fun _ s => s = ⟨some .ownerOnly, ⟨durable, none⟩⟩ := by
    refine Proc.Certain.read ?_ ?_
    · rintro _ rfl
      exact hprogress.protected
    · rintro _ rfl
      exact ⟨(), require_eq_ok.mpr rfl, rfl⟩
  -- 5. the schema is brought up, for the file is not stranded
  have hactive : ¬ HasActive durable := by
    intro hactive
    cases hprogress with
    | absent => cases hactive.1
    | fresh => cases hactive.1
    | made => exact hnot (.inr ⟨rfl, hactive⟩)
    | reached => exact hnot (.inr ⟨rfl, hactive⟩)
    | halfway => exact hnot (.inr ⟨rfl, hactive⟩)
  let post (s : Storage) : Prop :=
    ∃ final, Final start final ∧ s = ⟨some .ownerOnly, ⟨final, none⟩⟩
  have hopen : Proc.Certain ev (Durably D)
      (fun s => s = ⟨some (mode.getD created), ⟨durable, none⟩⟩)
      (Proc.onRaise (do protect mode.isSome; validateDatabaseMode; bringUp) close)
      fun _ => post :=
    Proc.Triple.onRaise (Proc.Triple.bind hprotect fun _ => Proc.Triple.bind hvalidate fun _ =>
      bringUp_certain hstart hprogress.protected hactive) fun _ => Proc.Triple.modify fun _ => id
  have hclose : Proc.Certain ev (Durably D) post close fun _ => post := by
    refine Proc.Triple.modify ?_
    rintro _ ⟨final, hfinal, rfl⟩
    exact ⟨final, hfinal, rfl⟩
  have hbody : Proc.Certain ev (Durably D) (fun s => s = ⟨mode, ⟨durable, none⟩⟩) (do
      connect created
      Proc.onRaise (do protect mode.isSome; validateDatabaseMode; bringUp) close
      close) fun _ => post :=
    Proc.Triple.bind hconnect fun _ => Proc.Triple.bind hopen fun _ => hclose
  refine Proc.Triple.bind hinspect fun existed => ?_
  rintro s ⟨rfl, rfl⟩
  exact Proc.Triple.tryExcept hbody (fun _ => Proc.Triple.raise fun _ h => h) _ rfl

/-- The statement of the first migration fails when the column is there. -/
theorem addActive_fails {content : Content} (h : HasActive content) :
    ∃ e, addActive.exec content = .error e := by
  cases hexec : addActive.exec content with
  | error e => exact ⟨e, rfl⟩
  | ok after =>
    obtain ⟨-, lease, hlease, hactive⟩ := h
    obtain ⟨relation, hget, happly⟩ := bind_eq_ok.mp (Statement.exec_eq_ok.mp hexec).1
    obtain ⟨⟨⟩, hfresh, -⟩ := bind_eq_ok.mp happly
    rw [fetch_eq_ok, hlease] at hget
    cases hget
    exact (require_eq_ok.mp hfresh hactive).elim

/-- A file whose lease has the column at version 1 is the one half of the migration leaves. -/
theorem Progress.hasActive {mode : Option FileMode} {durable : Content} (hstart : Start start)
    (h : Progress created start mode durable) (hactive : HasActive durable) :
    start.connection.durable.userVersion = 1 ∧
      (durable.relations.get? "schema_metadata").map (·.rows) = some [metadataRow 1] := by
  cases h with
  | absent => cases hactive.1
  | fresh => cases hactive.1
  | made hmode hcontent =>
    obtain ⟨content, hcontent', hversion, -⟩ := createSchema_runs
    obtain rfl : durable = content := Except.ok.inj (hcontent.symm.trans hcontent')
    exact (not_hasActive hversion hactive).elim
  | reached hmode hcontent =>
    obtain ⟨version, hfrom, -, hroot⟩ := hstart.existing_inv hmode
    exact (not_hasActive (hcontent.atVersion hroot hfrom) hactive).elim
  | halfway hmode hone hhalfway =>
    obtain ⟨version, -, -, hroot⟩ := hstart.existing_inv hmode
    obtain rfl : version = 1 := hroot.userVersion.symm.trans hone
    refine ⟨hone, ?_⟩
    rw [Statement.apply_rows (Statement.exec_eq_ok.mp hhalfway).1 (by decide)]
    exact hroot.metadata

/-- What an undisturbed run from a stranded file raises. -/
def strandedError (storage : Storage) : Raised :=
  if storage.mode = some .other then .invalidRuntimeDatabasePermissions
  else .runtimeStorageInitializationFailed

/-- A look at the file that succeeds. -/
theorem read_certain {α : Type} {point : Point} {f : Storage → Except Raised α} {a : α}
    (hf : f storage = .ok a) :
    Proc.Certain ev (fun s => s = storage) (fun s => s = storage) (Proc.read point f)
      fun b s => s = storage ∧ b = a := by
  refine Proc.Certain.read (fun _ => id) ?_
  rintro _ rfl
  exact ⟨a, hf, rfl, rfl⟩

/-- The first migration fails when the column is there. -/
theorem bringUp_fails {durable : Content} (hactive : HasActive durable)
    (hmetadata : (durable.relations.get? "schema_metadata").map (·.rows) = some [metadataRow 1])
    (hstorage : storage.connection = ⟨durable, none⟩) :
    Proc.Fails ev (fun s => s = storage) (fun s => s = storage) bringUp .underlying := by
  have hview : storage.connection.view = durable := by
    rw [hstorage]
    rfl
  -- the column exists, so the first statement fails
  have hstatement : Proc.Fails ev (fun s => s = storage) (fun s => s = storage)
      (executeEach 1 (migration 1)) .underlying := by
    refine Proc.Fails.bind (onConnection_fails (fun _ => id) ?_)
    rintro _ rfl
    obtain ⟨e, he⟩ := addActive_fails hactive
    refine ⟨e, ?_⟩
    rw [hstorage]
    show (addActive.exec durable >>= fun content => _) = _
    rw [he]
    rfl
  -- the metadata still says version 1
  have hmigrate : Proc.Fails ev (fun s => s = storage) (fun s => s = storage) (migrate 1)
      .underlying := by
    have hcheck : requireMetadata 1 storage.connection.view = .ok () := by
      rw [hview, requireMetadata_of_rows hmetadata]
    refine Proc.Fails.after (read_certain hcheck) fun _ => ?_
    rintro s ⟨rfl, -⟩
    exact hstatement _ rfl
  have hupgrade : Proc.Fails ev (fun s => s = storage) (fun s => s = storage) (createOrUpgrade 1)
      .underlying :=
    Proc.Fails.bind (Proc.Fails.bind (Proc.Fails.bind hmigrate))
  refine Proc.Fails.after (read_certain (congrArg _ (congrArg _ hview))) fun current => ?_
  rintro s ⟨rfl, rfl⟩
  rw [hactive.1]
  exact Proc.Fails.bind hupgrade _ rfl

/-- From a stranded file no run returns, and none changes the file. -/
theorem initialize_stranded (ev : Point → Event Raised) (hstart : Start start)
    (hprogress : Progress created start storage.mode storage.connection.durable)
    (hclosed : storage.connection.pending = none) (h : Stranded storage) :
    Proc.Fails ev (fun s => s = storage) (fun s => s = storage) (initializeRuntimeStorage created)
      (strandedError storage) := by
  have hmode : storage.mode.isSome = true := by
    rcases h with hmode | ⟨hmode, -⟩ <;> rw [hmode] <;> rfl
  have hsame : ({ storage with mode := some (storage.mode.getD created) } : Storage) = storage := by
    obtain ⟨mode, hsome⟩ := Option.isSome_iff_exists.mp hmode
    rw [hsome, Option.getD_some, ← hsome]
  have hconnect : Proc.Certain ev (fun s => s = storage) (fun s => s = storage) (connect created)
      fun _ s => s = storage := by
    refine Proc.Certain.step (fun _ => id) fun s hs => ?_
    rw [hs]
    exact ⟨(), _, rfl, hsame, hsame⟩
  have hrestarted : storage.restarted = storage := by
    obtain ⟨mode, durable, pending⟩ := storage
    obtain rfl : pending = none := hclosed
    rfl
  -- what the checks and the statements do; the rest of the program only passes it on
  obtain ⟨e, hwrap, hbody⟩ : ∃ e, wrap e = strandedError storage ∧
      Proc.Fails ev (fun s => s = storage) (fun s => s = storage)
        (do validateDatabaseMode; bringUp) e := by
    rcases h with hother | ⟨hours, hactive⟩
    · refine ⟨.invalidRuntimeDatabasePermissions, (if_pos hother).symm, Proc.Fails.bind ?_⟩
      refine Proc.Fails.read (fun _ => id) ?_
      rintro _ rfl
      rw [hother]
      rfl
    · refine ⟨.underlying, (if_neg (by rw [hours]; simp)).symm, ?_⟩
      obtain ⟨-, hmetadata⟩ := hprogress.hasActive hstart hactive
      have hvalid : require (storage.mode = some .ownerOnly)
          Raised.invalidRuntimeDatabasePermissions = .ok () := require_eq_ok.mpr hours
      refine Proc.Fails.after (read_certain hvalid) fun _ => ?_
      rintro s ⟨rfl, -⟩
      refine bringUp_fails hactive hmetadata ?_ _ rfl
      rw [← hclosed]
  have hprotected : Proc.Fails ev (fun s => s = storage) (fun s => s = storage)
      (do protect true; validateDatabaseMode; bringUp) e :=
    Proc.Fails.after (M := fun _ s => s = storage) (Proc.Triple.pure fun _ => id) fun _ => hbody
  have hopen : Proc.Fails ev (fun s => s = storage) (fun s => s = storage) (do
      connect created
      Proc.onRaise (do protect true; validateDatabaseMode; bringUp) close
      close) e := by
    refine Proc.Fails.after hconnect fun _ => Proc.Fails.bind (Proc.Fails.onRaise hprotected ?_)
    rintro _ rfl
    exact hrestarted
  refine Proc.Fails.after (read_certain (congrArg Except.ok hmode)) fun existed => ?_
  rintro s ⟨rfl, rfl⟩
  rw [← hwrap]
  exact Proc.Fails.tryExcept hopen _ rfl

/-! ## Any number of runs -/

/-- Runs from a start leave one of its files, and no transaction. -/
theorem progress_run (hstart : Start start) (hruns : ReflTransGen (Restart created) start storage) :
    Progress created start storage.mode storage.connection.durable ∧
      storage.connection.pending = none := by
  induction hruns with
  | refl =>
    cases hstart with
    | absent => exact ⟨.absent rfl, rfl⟩
    | existing => exact ⟨.reached rfl .start, rfl⟩
  | @tail before after _ hrun ih =>
    obtain ⟨hprogress, hclosed⟩ := ih
    obtain ⟨ev, rfl⟩ := hrun
    refine ⟨?_, rfl⟩
    by_cases hstranded : Stranded before
    · obtain ⟨-, hsame, -⟩ :=
        (initialize_stranded ev hstart hprogress hclosed hstranded).ends rfl
      rw [hsame]
      exact hprogress
    · refine (initialize_certain ev hstart hprogress hclosed hstranded).ends ?_ rfl
      rintro _ _ ⟨final, hfinal, rfl⟩
      cases hfinal with
      | made hmode hcontent => exact .made hmode hcontent
      | reached hmode hcontent => exact .reached hmode hcontent

/-- A start that can be stranded: a file the process would not make ours alone, or a file of
the first version. -/
def Fragile (created : FileMode) (start : Storage) : Prop :=
  start.mode = none ∧ created = .other ∨ start.connection.durable.userVersion = 1

theorem fragile_of_stranded (hstart : Start start)
    (hprogress : Progress created start storage.mode storage.connection.durable)
    (h : Stranded storage) : Fragile created start := by
  obtain ⟨mode, connection⟩ := storage
  rcases h with rfl | ⟨-, hactive⟩
  · generalize connection.durable = durable at hprogress
    cases hprogress with
    | fresh hmode hfresh => exact .inl ⟨hmode, hfresh.elim Eq.symm fun h => by cases h⟩
  · exact .inr (hprogress.hasActive hstart hactive).1

/-- The process stops at one step. -/
def stopping (point : Point) : Point → Event Raised :=
  fun other => if other = point then .crashes else .proceeds

theorem stopping_proceeds {point other : Point} (h : other ≠ point) :
    stopping point other = .proceeds := if_neg h

/-- A run of the first migration that stops after its first statement. -/
theorem initialize_halfway {durable halfway : Content} (hversion : AtVersion 1 durable)
    (hhalfway : addActive.exec durable = .ok halfway) :
    (initializeRuntimeStorage created (stopping (.statement 1 1))
        ⟨some .ownerOnly, ⟨durable, none⟩⟩).2 = ⟨some .ownerOnly, ⟨halfway, none⟩⟩ := by
  let start : Storage := ⟨some .ownerOnly, ⟨durable, none⟩⟩
  let stopped : Storage := ⟨some .ownerOnly, ⟨halfway, none⟩⟩
  let ev := stopping (.statement 1 1)
  -- no point before the second statement stops the run
  have hread : ∀ {α : Type} {point : Point} {f : Storage → Except Raised α} {a : α},
      point ≠ .statement 1 1 → f start = .ok a →
      Proc.Triple ev (fun s => s = stopped) (fun s => s = start) (Proc.read point f)
        (fun b s => s = start ∧ b = a) fun _ _ => False := by
    intro α point f a hpoint hf
    refine Proc.Triple.read_proceeds (stopping_proceeds hpoint) ?_
    rintro _ rfl
    exact ⟨a, hf, rfl, rfl⟩
  have hconnect : Proc.Triple ev (fun s => s = stopped) (fun s => s = start) (connect created)
      (fun _ s => s = start) fun _ _ => False := by
    refine Proc.Triple.step_proceeds (stopping_proceeds (by simp)) ?_
    rintro _ rfl
    exact ⟨(), _, rfl, rfl⟩
  -- the first statement commits, and the run stops before the second
  have hstatements : Proc.Triple ev (fun s => s = stopped) (fun s => s = start)
      (executeEach 1 (migration 1)) (fun _ _ => False) fun _ _ => False := by
    refine Proc.Triple.bind (M := fun _ s => s = stopped) ?_ fun _ => Proc.Triple.never ?_
    · refine onConnection_proceeds (stopping_proceeds (by simp)) ?_
      rintro _ rfl
      refine ⟨⟨halfway, none⟩, ?_, rfl⟩
      show (addActive.exec durable >>= fun content => _) = _
      rw [hhalfway]
      rfl
    · exact Proc.Triple.step_crashes (if_pos rfl) fun _ => id
  have hmigrate : Proc.Triple ev (fun s => s = stopped) (fun s => s = start) (migrate 1)
      (fun _ _ => False) fun _ _ => False := by
    have hmetadata := requireMetadata_of_rows hversion.metadata
    refine Proc.Triple.bind (hread (by simp) hmetadata) fun _ => ?_
    rintro s ⟨rfl, -⟩
    exact hstatements _ rfl
  -- nothing after it is reached
  have hupgrade : Proc.Triple ev (fun s => s = stopped) (fun s => s = start) (createOrUpgrade 1)
      (fun _ _ => False) fun _ _ => False :=
    Proc.Triple.never (Proc.Triple.never (Proc.Triple.never hmigrate))
  have hbringUp : Proc.Triple ev (fun s => s = stopped) (fun s => s = start) bringUp
      (fun _ _ => False) fun _ _ => False := by
    refine Proc.Triple.bind (hread (by simp) rfl) fun current => ?_
    rintro s ⟨rfl, rfl⟩
    have hone : start.connection.view.userVersion = 1 := hversion.userVersion
    rw [hone]
    exact Proc.Triple.never hupgrade _ rfl
  have hvalidate : Proc.Triple ev (fun s => s = stopped) (fun s => s = start)
      (do validateDatabaseMode; bringUp) (fun _ _ => False) fun _ _ => False := by
    refine Proc.Triple.bind (hread (a := ()) (by simp) (require_eq_ok.mpr rfl)) fun _ => ?_
    rintro s ⟨rfl, -⟩
    exact hbringUp _ rfl
  have hopen : Proc.Triple ev (fun s => s = stopped) (fun s => s = start)
      (Proc.onRaise (do protect true; validateDatabaseMode; bringUp) close) (fun _ _ => False)
      fun _ _ => False :=
    Proc.Triple.onRaise (Proc.Triple.bind (M := fun _ s => s = start) (Proc.Triple.pure fun _ => id)
      fun _ => hvalidate) fun _ _ hfalse => hfalse.elim
  have hrun : Proc.Triple ev (fun s => s = stopped) (fun s => s = start)
      (initializeRuntimeStorage created) (fun _ _ => False) fun _ _ => False := by
    refine Proc.Triple.bind (hread (by simp) rfl) fun existed => ?_
    rintro s ⟨rfl, rfl⟩
    exact Proc.Triple.tryExcept (Proc.Triple.bind hconnect fun _ => Proc.Triple.never hopen)
      (fun _ _ hfalse => hfalse.elim) _ rfl
  exact hrun.stops rfl

/-- The database is initialized: its version is the current one, it has every row of the start,
and no consumer of an earlier version has an owner of its result. -/
structure Initialized (start final : Storage) : Prop where
  mode : final.mode = some .ownerOnly
  closed : final.connection.pending = none
  atVersion : AtVersion 8 final.connection.durable
  preserved : Preserved "schema_version" start.connection.durable final.connection.durable
  owners : start.connection.durable.userVersion ≤ 7 → ∃ consumers,
    final.connection.durable.relations.get? "single_flight_consumers" = some consumers ∧
      ∀ row ∈ consumers.rows, row.get "result_owner_id" = .null

/-- What an undisturbed run from the start ends with. -/
theorem Final.initialized {final : Content} (hstart : Start start) (h : Final start final) :
    Initialized start ⟨some .ownerOnly, ⟨final, none⟩⟩ := by
  cases h with
  | made hmode hcontent =>
    obtain ⟨content, hcontent', hversion, hconsumers⟩ := createSchema_runs
    obtain rfl : final = content := Except.ok.inj (hcontent.symm.trans hcontent')
    refine ⟨rfl, rfl, hversion, ?_, fun _ => ?_⟩
    · cases hstart with
      | absent =>
        intro name relation hget
        cases hget
      | existing => cases hmode
    · obtain ⟨consumers, hget, hrows⟩ := Option.map_eq_some_iff.mp hconsumers
      refine ⟨consumers, hget, fun row hrow => ?_⟩
      rw [hrows] at hrow
      cases hrow
  | reached hmode hcontent =>
    obtain ⟨version, hfrom, -, hroot⟩ := hstart.existing_inv hmode
    exact ⟨rfl, rfl, hcontent.atVersion hroot hfrom, hcontent.preserved hroot hfrom,
      fun hearlier => hcontent.owners hroot hfrom (hroot.userVersion ▸ hearlier)⟩

theorem undisturbed_undisturbed : Proc.Undisturbed undisturbed := fun _ => rfl

/-- An undisturbed run from a file that is not stranded. -/
theorem initialize_returns (hstart : Start start)
    (hruns : ReflTransGen (Restart created) start storage) (hnot : ¬ Stranded storage) :
    ∃ final, Final start final ∧ initializeRuntimeStorage created undisturbed storage =
      (.ok (), ⟨some .ownerOnly, ⟨final, none⟩⟩) := by
  obtain ⟨hprogress, hclosed⟩ := progress_run hstart hruns
  obtain ⟨⟨⟩, _, hrun, final, hfinal, rfl⟩ :=
    (initialize_certain undisturbed hstart hprogress hclosed hnot).returns undisturbed_undisturbed rfl
  exact ⟨final, hfinal, hrun⟩

theorem Start.not_stranded (hstart : Start start) : ¬ Stranded start := by
  cases hstart with
  | absent => rintro (h | ⟨h, -⟩) <;> cases h
  | existing hfrom hto hcontent =>
    rintro (h | ⟨-, hactive⟩)
    · cases h
    · exact not_hasActive hcontent hactive

/-- A fragile start can be stranded by one run. -/
theorem strandable (hstart : Start start) (hfragile : Fragile created start) :
    ∃ storage, ReflTransGen (Restart created) start storage ∧ Stranded storage := by
  rcases hfragile with ⟨hmode, rfl⟩ | hone
  · cases hstart with
    | absent =>
      exact ⟨⟨some .other, ⟨.empty, none⟩⟩, .single ⟨stopping .chmod, rfl⟩, .inl rfl⟩
    | existing => cases hmode
  · cases hstart with
    | absent => cases hone
    | @existing version durable hfrom hto hcontent =>
      obtain rfl : version = 1 := hcontent.userVersion.symm.trans hone
      obtain ⟨after, hafter⟩ := migration_runs hcontent (Nat.le_refl 1) (by omega)
      obtain ⟨halfway, hhalfway, -⟩ := Statement.execAll_cons.mp hafter
      refine ⟨⟨some .ownerOnly, ⟨halfway, none⟩⟩, .single ⟨stopping (.statement 1 1), ?_⟩,
        .inr ⟨rfl, hasActive_halfway hone hhalfway⟩⟩
      rw [initialize_halfway hcontent hhalfway]
      rfl

/-- **Which interrupted initializations resume.** However many runs were stopped or failed
before, a run that nothing disturbs ends as it would have from the start, with every row of the
start; this holds of all runs exactly when the start is not fragile. -/
theorem initialization_resumes_iff (created : FileMode) {start : Storage} (hstart : Start start) :
    (∀ storage, ReflTransGen (Restart created) start storage →
      ∃ final, initializeRuntimeStorage created undisturbed storage = (.ok (), final) ∧
        initializeRuntimeStorage created undisturbed start = (.ok (), final) ∧
        Initialized start final) ↔ ¬ Fragile created start := by
  constructor
  · intro hall hfragile
    obtain ⟨storage, hruns, hstranded⟩ := strandable hstart hfragile
    obtain ⟨hprogress, hclosed⟩ := progress_run hstart hruns
    obtain ⟨final, hrun, -⟩ := hall storage hruns
    obtain ⟨hnever, -⟩ :=
      (initialize_stranded undisturbed hstart hprogress hclosed hstranded).ends rfl
    exact hnever () (congrArg Prod.fst hrun)
  · intro hfragile storage hruns
    obtain ⟨hprogress, hclosed⟩ := progress_run hstart hruns
    obtain ⟨final, hfinal, hrun⟩ := initialize_returns hstart hruns fun hstranded =>
      hfragile (fragile_of_stranded hstart hprogress hstranded)
    obtain ⟨final', hfinal', hrun'⟩ := initialize_returns hstart .refl hstart.not_stranded
    obtain rfl := hfinal.unique hfinal'
    exact ⟨_, hrun, hrun', hfinal.initialized hstart⟩

/-- A run that stopped before `os.chmod`, of a process that makes files its own. -/
theorem absent_resumes : ∃ final,
    initializeRuntimeStorage .ownerOnly undisturbed ⟨some .ownerOnly, ⟨.empty, none⟩⟩ =
        (.ok (), final) ∧
      Initialized ⟨none, ⟨.empty, none⟩⟩ final := by
  have hstable : ¬ Fragile .ownerOnly ⟨none, ⟨.empty, none⟩⟩ := by
    rintro (⟨-, h⟩ | h) <;> cases h
  obtain ⟨final, hrun, -, hfinal⟩ := (initialization_resumes_iff .ownerOnly .absent).mpr hstable _
    (.single ⟨stopping .chmod, rfl⟩)
  exact ⟨final, hrun, hfinal⟩

/-- **A stranded file stays.** A run from a file that others have left returns when nothing
disturbs it, and then the database is initialized, or else the file is stranded: no run
returns, none changes it, and an undisturbed one says why. -/
theorem initialization_stranded_iff (created : FileMode) {start storage : Storage}
    (hstart : Start start) (hruns : ReflTransGen (Restart created) start storage) :
    (Stranded storage ↔
      (initializeRuntimeStorage created undisturbed storage).1 = .raised (strandedError storage)) ∧
    (Stranded storage → ∀ ev, (initializeRuntimeStorage created ev storage).1 ≠ .ok () ∧
      (initializeRuntimeStorage created ev storage).2 = storage) ∧
    (¬ Stranded storage → ∃ final,
      initializeRuntimeStorage created undisturbed storage = (.ok (), final) ∧
        Initialized start final) := by
  obtain ⟨hprogress, hclosed⟩ := progress_run hstart hruns
  have hreturns : ¬ Stranded storage → ∃ final,
      initializeRuntimeStorage created undisturbed storage = (.ok (), final) ∧
        Initialized start final := by
    intro hnot
    obtain ⟨final, hfinal, hrun⟩ := initialize_returns hstart hruns hnot
    exact ⟨_, hrun, hfinal.initialized hstart⟩
  refine ⟨⟨fun hstranded => ?_, fun hraised => ?_⟩, fun hstranded ev => ?_, hreturns⟩
  · exact ((initialize_stranded undisturbed hstart hprogress hclosed hstranded).ends rfl).2.2
      undisturbed_undisturbed
  · by_contra hnot
    obtain ⟨final, hrun, -⟩ := hreturns hnot
    rw [hrun] at hraised
    cases hraised
  · obtain ⟨hnever, hsame, -⟩ :=
      (initialize_stranded ev hstart hprogress hclosed hstranded).ends rfl
    exact ⟨hnever (), hsame⟩

/-- The same run, of a process that leaves its files open to others. -/
theorem absent_stranded :
    (initializeRuntimeStorage .other undisturbed ⟨some .other, ⟨.empty, none⟩⟩).1 =
      .raised .invalidRuntimeDatabasePermissions :=
  (initialization_stranded_iff .other .absent (.single ⟨stopping .chmod, rfl⟩)).1.mp (.inl rfl)

end

end StockResearch.Requests.Initialization
