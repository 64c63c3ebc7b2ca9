import Mathlib.Logic.Relation
import StockResearch.Lib.Crash
import StockResearch.Requests.SchemaMigrations

/-!
# Initialization of the runtime database

`initialize_runtime_storage` on a database file that may be absent, new or of an earlier
version. Each statement is a step, at which the process may stop; what was not committed
is then lost. A statement outside a transaction is durable at once, and `executescript`
commits a pending transaction before its own.

- `initializeRuntimeStorage`: the program; `Restart`: one run of it, however it ended.
- `Reached`: what the migrations make of a content, by version.
- `createSchema_runs`: what `_create_schema` makes of an empty file.
-/

namespace StockResearch.Requests.Initialization

open Sql

/-! ## The program -/

/-- The permissions of the database file. -/
inductive FileMode where
  /-- `0o600`, and the file is ours. -/
  | ownerOnly
  | other
deriving DecidableEq

/-- The database file, if there is one, and the connection to it. -/
structure Storage where
  mode : Option FileMode
  connection : Connection
deriving DecidableEq

/-- The process is gone, and an open transaction with it. -/
def Storage.restarted (storage : Storage) : Storage :=
  { storage with connection := storage.connection.closed }

inductive Raised where
  /-- `RuntimeStorageError("invalid_runtime_database_permissions")` -/
  | invalidRuntimeDatabasePermissions
  /-- `RuntimeStorageError("unsupported_runtime_schema")` -/
  | unsupportedRuntimeSchema
  /-- `RuntimeStorageError("runtime_schema_metadata_mismatch")` -/
  | runtimeSchemaMetadataMismatch
  /-- `RuntimeStorageError("runtime_storage_initialization_failed")` -/
  | runtimeStorageInitializationFailed
  /-- `sqlite3.Error`, `OSError`, `TypeError` or `ValueError` -/
  | underlying
deriving DecidableEq

/-- The steps; those of a script are told apart by the version it starts from. -/
inductive Point where
  | inspect
  | connect
  | chmod
  | validateMode
  | readVersion
  | readMetadata (version : Nat)
  | commitPending (version : Nat)
  | begin (version : Nat)
  | statement (version index : Nat)
  | commitScript (version : Nat)
  | verifyVersion
  | verifyMetadata
  | commit
deriving DecidableEq

abbrev Init := Proc Point Raised Storage

/-- A step of the connection. -/
def onConnection (point : Point) (f : Connection → Except SqlError Connection) : Init Unit :=
  .step point fun storage =>
    match f storage.connection with
    | .ok connection => .ok ((), { storage with connection := connection })
    | .error _ => .error .underlying

/-- `sqlite3.connect`: a file that is not there is created, with the mode the process gives it. -/
def connect (created : FileMode) : Init Unit :=
  .step .connect fun storage =>
    .ok ((), { storage with mode := some (storage.mode.getD created) })

/-- `os.chmod(database_path, 0o600)` -/
def chmod : Init Unit :=
  .step .chmod fun storage => .ok ((), { storage with mode := some .ownerOnly })

/-- `_validate_database_mode` -/
def validateDatabaseMode : Init Unit :=
  .read .validateMode fun storage =>
    require (storage.mode = some .ownerOnly) .invalidRuntimeDatabasePermissions

/-- `PRAGMA user_version` -/
def readUserVersion (point : Point) : Init Nat :=
  .read point fun storage => .ok storage.connection.view.userVersion

/-- `SELECT schema_owner, schema_version FROM schema_metadata WHERE singleton = 1` -/
def metadata (content : Content) : Except Raised (Option (Value × Value)) := do
  let relation ← fetch (content.relations.get? "schema_metadata") .underlying
  let row := relation.rows.find? fun row => decide (row.get "singleton" = .integer 1)
  pure (row.map fun row => (row.get "schema_owner", row.get "schema_version"))

/-- The metadata must be `(_SCHEMA_OWNER, version)`. -/
def requireMetadata (version : Nat) (content : Content) : Except Raised Unit := do
  let found ← metadata content
  require (found = some (.text schemaOwner, .integer version)) .runtimeSchemaMetadataMismatch

def checkMetadata (point : Point) (version : Nat) : Init Unit :=
  .read point fun storage => requireMetadata version storage.connection.view

/-- `connection.executescript` of a script that begins and commits a transaction. -/
def executescript (version : Nat) (statements : List Statement) : Init Unit := do
  onConnection (.commitPending version) fun connection => .ok connection.commit
  onConnection (.begin version) Connection.begin
  statements.zipIdx.forM fun entry =>
    onConnection (.statement version entry.2) (Connection.statement entry.1)
  onConnection (.commitScript version) fun connection => .ok connection.commit

/-- The statements of `_migrate_v1_to_v2`, each by `connection.execute`. -/
def executeEach (version : Nat) (statements : List Statement) : Init Unit :=
  statements.zipIdx.forM fun entry =>
    onConnection (.statement version entry.2) (Connection.execute entry.1)

/-- `_migrate_v1_to_v2` to `_migrate_v7_to_v8` -/
def migrate (version : Nat) : Init Unit := do
  checkMetadata (.readMetadata version) version
  if version = 1 then executeEach version (migration version)
  else executescript version (migration version)

/-- The migrations, each when the version so far is its own. -/
def upgrade (current : Nat) : Init Nat :=
  [1, 2, 3, 4, 5, 6, 7].foldlM (fun current version => do
    if current = version then
      migrate version
      pure (version + 1)
    else pure current) current

/-- `_verify_schema` -/
def verifySchema : Init Unit := do
  let version ← readUserVersion .verifyVersion
  Proc.ofExcept (require (version = schemaVersion) .unsupportedRuntimeSchema)
  checkMetadata .verifyMetadata schemaVersion

/-- `rollback()` and `close()` -/
def close : Init Unit := .modify Storage.restarted

/-- What is done to a database of the version `current`. -/
def createOrUpgrade (current : Nat) : Init Unit :=
  if current = 0 then executescript 0 createSchema
  else if current > schemaVersion then Proc.raise .unsupportedRuntimeSchema
  else do
    let _ ← upgrade current
    pure ()

/-- `with connection:`, up to its commit. -/
def bringUp : Init Unit := do
  let current ← readUserVersion .readVersion
  createOrUpgrade current
  verifySchema
  onConnection .commit fun connection => .ok connection.commit

/-- `except RuntimeStorageError: raise`, and any other becomes one. -/
def wrap : Raised → Raised
  | .underlying => .runtimeStorageInitializationFailed
  | error => error

/-- A file that was not there is made ours alone. -/
def protect (existed : Bool) : Init Unit := if existed then pure () else chmod

/-- `initialize_runtime_storage`; `created` is the mode of a file that `sqlite3.connect` makes. -/
def initializeRuntimeStorage (created : FileMode) : Init Unit := do
  let existed ← Proc.read .inspect fun storage => .ok storage.mode.isSome
  Proc.tryExcept (do
    connect created
    Proc.onRaise (do
      protect existed
      validateDatabaseMode
      bringUp) close
    close) fun error => Proc.raise (wrap error)

/-- A run, and the end of its process. -/
def Restart (created : FileMode) (before after : Storage) : Prop :=
  ∃ ev, after = (initializeRuntimeStorage created ev before).2.restarted

/-- The events of a run that nothing disturbs. -/
def undisturbed : Point → Event Raised := fun _ => .proceeds

/-! ## Contents along the migrations -/

/-- What the migrations make of a content, by version. -/
inductive Reached (start : Content) : Nat → Content → Prop
  | start : Reached start start.userVersion start
  | next {version : Nat} {content after : Content} : Reached start version content →
      version ≤ 7 → Statement.execAll content (migration version) = .ok after →
      Reached start (version + 1) after

namespace Reached

variable {root content content' : Content} {base version : Nat}

theorem le (h : Reached root version content) : root.userVersion ≤ version := by
  induction h with
  | start => exact Nat.le_refl _
  | next _ _ _ ih => omega

theorem le_eight (h : Reached root version content) (hroot : root.userVersion ≤ 8) :
    version ≤ 8 := by
  cases h with
  | start => exact hroot
  | next _ hle _ => exact Nat.succ_le_succ hle

theorem atVersion (h : Reached root version content) (hroot : AtVersion base root)
    (hbase : 1 ≤ base) : AtVersion version content := by
  induction h with
  | start => exact hroot.userVersion ▸ hroot
  | next hreached hle hexec ih =>
    have hfrom := hreached.le
    rw [hroot.userVersion] at hfrom
    exact migration_atVersion ih (by omega) hle hexec

/-- There is one content for each version. -/
theorem unique (h : Reached root version content) (h' : Reached root version content') :
    content = content' := by
  induction h generalizing content' with
  | start =>
    generalize hversion : root.userVersion = version at h'
    cases h' with
    | start => rfl
    | next hreached =>
      have := hreached.le
      omega
  | @next version middle after hreached hle hexec ih =>
    generalize hnext : version + 1 = next at h'
    cases h' with
    | start =>
      have := hreached.le
      omega
    | @next version' middle' after' hreached' hle' hexec' =>
      obtain rfl : version = version' := by omega
      rw [ih hreached', hexec'] at hexec
      exact (Except.ok.inj hexec).symm

theorem preserved (h : Reached root version content) (hroot : AtVersion base root)
    (hbase : 1 ≤ base) : Preserved "schema_version" root content := by
  induction h with
  | start => exact Preserved.refl root
  | next hreached hle hexec ih =>
    have hfrom := hreached.le
    rw [hroot.userVersion] at hfrom
    exact ih.trans (migration_preserved (hreached.atVersion hroot hbase) (by omega) hle hexec)

/-- The next content is there. -/
theorem exists_next (h : Reached root version content) (hroot : AtVersion base root)
    (hbase : 1 ≤ base) (hle : version ≤ 7) :
    ∃ after, Statement.execAll content (migration version) = .ok after := by
  have hfrom := h.le
  rw [hroot.userVersion] at hfrom
  exact migration_runs (h.atVersion hroot hbase) (by omega) hle

/-- No copied consumer has an owner of its result. -/
theorem owners (h : Reached root 8 content) (hroot : AtVersion base root) (hbase : 1 ≤ base)
    (hearlier : base ≤ 7) : ∃ consumers,
      content.relations.get? "single_flight_consumers" = some consumers ∧
      ∀ row ∈ consumers.rows, row.get "result_owner_id" = .null := by
  generalize hversion : 8 = version at h
  cases h with
  | start =>
    have := hroot.userVersion
    omega
  | @next version middle after hreached hle hexec =>
    obtain rfl : version = 7 := by omega
    obtain ⟨last, hlast, -, hconsumers⟩ := migration_last (hreached.atVersion hroot hbase)
    have hexec : Statement.execAll middle (migration 7) = .ok content := hexec
    rw [hlast] at hexec
    cases hexec
    exact hconsumers

end Reached

/-! ## The created schema -/

/-- The tables that `createSchema` declares. -/
def createdSchema : Schema := createSchema.foldl Statement.alter .empty

theorem mem_createdSchema (entry : String × Definition) :
    entry ∈ createdSchema.rows ↔ entry ∈ (withoutActiveDefault (schemaAt 8)).rows := by
  have hleft : ∀ entry ∈ createdSchema.rows, entry ∈ (withoutActiveDefault (schemaAt 8)).rows := by
    decide +kernel
  have hright : ∀ entry ∈ (withoutActiveDefault (schemaAt 8)).rows, entry ∈ createdSchema.rows := by
    decide +kernel
  exact ⟨hleft entry, hright entry⟩

theorem empty_valid : Content.empty.Valid := by
  intro entry hentry
  cases hentry

/-- What `createSchema` makes. -/
theorem createSchema_result :
    (Statement.execAll .empty createSchema).toOption.map (·.userVersion) = some 8 ∧
    (Statement.execAll .empty createSchema).toOption.bind
      (fun created => (created.relations.get? "schema_metadata").map (·.rows)) =
        some [metadataRow 8] ∧
    (Statement.execAll .empty createSchema).toOption.bind
      (fun created => (created.relations.get? "single_flight_consumers").map (·.rows)) =
        some [] := by
  refine ⟨?_, ?_, ?_⟩ <;> decide +kernel

/-- The content `createSchema` makes, with no consumers in it. -/
theorem createSchema_runs : ∃ created, Statement.execAll .empty createSchema = .ok created ∧
    AtVersion 8 created ∧
    (created.relations.get? "single_flight_consumers").map (·.rows) = some [] := by
  obtain ⟨hversion, hmetadata, hconsumers⟩ := createSchema_result
  cases hexec : Statement.execAll .empty createSchema with
  | error e =>
    rw [hexec] at hversion
    cases hversion
  | ok created =>
    rw [hexec] at hversion hmetadata hconsumers
    have hschema : created.HasSchema createdSchema :=
      Statement.execAll_hasSchema (fun _ => rfl) hexec
    have hversion := Option.some.inj hversion
    refine ⟨created, rfl, ⟨hversion, .inr fun name => ?_, hmetadata, ?_⟩, hconsumers⟩
    · refine (hschema name).trans (Option.ext fun definition => ?_)
      rw [← Table.mem_rows_iff, ← Table.mem_rows_iff, mem_createdSchema]
    · exact Statement.execAll_valid empty_valid hexec

end StockResearch.Requests.Initialization
