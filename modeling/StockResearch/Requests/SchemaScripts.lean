import StockResearch.Lib.SqlConstraints

/-!
# The schema and its migrations

The statements of `_create_schema` and of the seven migrations, as the source lists
them. The schema of a version is what the migrations up to it make of the tables of
version 1.

- `createSchema`, `migration`: the statements.
- `schemaAt`: the schema of a version; `AtVersion`: a valid content of it.
-/

namespace StockResearch.Requests.Initialization

open Sql

/-! ## Columns -/

/-- `TEXT NOT NULL` -/
def required (name : String) : Column := { name := name, notNull := true }

/-- A column that may be null, or the primary key. -/
def nullable (name : String) : Column := { name := name }

/-- `INTEGER NOT NULL CHECK (name >= bound)` -/
def atLeast (name : String) (bound : Int) : Column :=
  { name := name, notNull := true, check := some (.atLeast name bound) }

/-- `TEXT NOT NULL CHECK (name IN (…))` -/
def oneOf (name : String) (values : List String) : Column :=
  { name := name, notNull := true, check := some (.isIn name (values.map .text)) }

/-- `INTEGER NOT NULL DEFAULT … CHECK (name IN (0, 1))` -/
def flag (name : String) (default : Value) : Column :=
  { name := name, notNull := true, default := default
    check := some (.isIn name [.integer 0, .integer 1]) }

/-- `INTEGER PRIMARY KEY CHECK (singleton = 1)` -/
def singleton : Column := { name := "singleton", check := some (.equals "singleton" (.integer 1)) }

/-- `column REFERENCES parent(parentColumn)` -/
def referring (column parent parentColumn : String) : ForeignKey := ⟨[column], parent, [parentColumn]⟩

/-- `logical_request_id … REFERENCES logical_requests(logical_request_id)` -/
def toLogicalRequest : ForeignKey :=
  referring "logical_request_id" "logical_requests" "logical_request_id"

/-! ## Tables -/

def schemaMetadata : Definition where
  columns := [singleton, required "schema_owner", atLeast "schema_version" 1]
  primaryKey := ["singleton"]

def logicalRequests : Definition where
  columns := [nullable "logical_request_id", required "task_id", required "source_id",
    required "operation", required "request_fingerprint", atLeast "source_approval_version" 1,
    atLeast "source_profile_version" 1, nullable "credential_scope_alias", required "egress_scope",
    required "created_at", oneOf "state" ["queued", "cancelled", "succeeded", "failed"]]
  primaryKey := ["logical_request_id"]

/-- Before version 7. -/
def physicalAttempts : Definition where
  columns := [nullable "physical_attempt_id", required "logical_request_id",
    atLeast "sequence_number" 1, atLeast "lease_generation" 1, required "created_at",
    oneOf "state" ["reserved", "started", "succeeded", "failed", "unknown"]]
  primaryKey := ["physical_attempt_id"]
  unique := [["logical_request_id", "sequence_number"]]
  foreignKeys := [toLogicalRequest]

def rawEligible : Column := flag "raw_eligible" (.integer 0)

def logicalResults : Definition where
  columns := [nullable "logical_request_id",
    oneOf "outcome" ["succeeded", "failed", "cancelled", "unknown"], required "completed_at",
    nullable "error_code"]
  primaryKey := ["logical_request_id"]
  foreignKeys := [toLogicalRequest]

/-- Of version 1. -/
def runtimeLease : Definition where
  columns := [singleton, required "owner_token", atLeast "generation" 1, required "acquired_at",
    required "heartbeat_at", required "expires_at"]
  primaryKey := ["singleton"]

def queueEntries : Definition where
  columns := [nullable "logical_request_id", required "rate_domain", required "task_id",
    required "enqueued_at", oneOf "state" ["queued", "dequeued", "rejected", "cancelled"],
    nullable "dequeued_at"]
  primaryKey := ["logical_request_id"]
  foreignKeys := [toLogicalRequest]

def providerQueueCursors : Definition where
  columns := [nullable "rate_domain", required "last_task_id"]
  primaryKey := ["rate_domain"]

def queueEvents : Definition where
  columns := [nullable "event_id", required "logical_request_id",
    oneOf "event_type" ["requested", "queued", "dequeued", "rejected"], required "occurred_at",
    nullable "reason"]
  primaryKey := ["event_id"]
  foreignKeys := [toLogicalRequest]

def gateState : Definition where
  columns := [required "scope", required "key_alias", atLeast "active_count" 0,
    nullable "last_started_at", nullable "cooldown_until"]
  primaryKey := ["scope", "key_alias"]

def gateReservations : Definition where
  columns := [nullable "reservation_id", required "physical_attempt_id",
    required "logical_request_id", atLeast "lease_generation" 1, required "acquired_at",
    oneOf "state" ["active", "released", "recovered"]]
  primaryKey := ["reservation_id"]
  unique := [["physical_attempt_id"]]
  foreignKeys := [referring "physical_attempt_id" "physical_attempts" "physical_attempt_id",
    toLogicalRequest]

def gateReservationScopes : Definition where
  columns := [required "reservation_id", required "scope", required "key_alias"]
  primaryKey := ["reservation_id", "scope"]
  foreignKeys := [referring "reservation_id" "gate_reservations" "reservation_id",
    ⟨["scope", "key_alias"], "gate_state", ["scope", "key_alias"]⟩]

def gateStarts : Definition where
  columns := [nullable "start_id", required "reservation_id", required "scope",
    required "key_alias", required "started_at"]
  primaryKey := ["start_id"]
  foreignKeys := [referring "reservation_id" "gate_reservations" "reservation_id"]

def gateEvents : Definition where
  columns := [nullable "event_id", required "logical_request_id", nullable "reservation_id",
    nullable "scope", nullable "key_alias", required "event_type", required "occurred_at",
    nullable "reason"]
  primaryKey := ["event_id"]
  foreignKeys := [toLogicalRequest]

def singleFlights : Definition where
  columns := [nullable "request_fingerprint", required "leader_logical_request_id",
    oneOf "state" ["active", "terminal"]]
  primaryKey := ["request_fingerprint"]
  foreignKeys := [referring "leader_logical_request_id" "logical_requests" "logical_request_id"]

/-- The columns of a consumer before version 8. -/
def consumerColumns (states : List String) : List Column :=
  [nullable "logical_request_id", required "request_fingerprint", oneOf "role" ["leader", "follower"],
    oneOf "state" states, oneOf "cache_decision" ["disabled", "not_applicable"],
    required "rate_domain", required "joined_at"]

def toSingleFlight : ForeignKey :=
  referring "request_fingerprint" "single_flights" "request_fingerprint"

/-- Before version 8. -/
def singleFlightConsumers : Definition where
  columns := consumerColumns ["active", "cancelled"]
  primaryKey := ["logical_request_id"]
  foreignKeys := [toLogicalRequest, toSingleFlight]

def singleFlightConsumersV8 : Definition where
  columns := consumerColumns ["active", "cancelled", "completed"] ++ [nullable "result_owner_id"]
  primaryKey := ["logical_request_id"]
  foreignKeys := [toLogicalRequest, toSingleFlight,
    referring "result_owner_id" "logical_requests" "logical_request_id"]
  checks := [.or (.and (.equals "state" (.text "completed")) (.isNotNull "result_owner_id"))
    (.and (.differs "state" (.text "completed")) (.isNull "result_owner_id"))]

def admissionEvents : Definition where
  columns := [nullable "event_id", required "logical_request_id", required "event_type",
    required "occurred_at", nullable "reason"]
  primaryKey := ["event_id"]
  foreignKeys := [toLogicalRequest]

def rawPublications : Definition where
  columns := [nullable "publication_id", required "task_id", required "logical_request_id",
    required "physical_attempt_id", required "source_id", required "operation",
    required "content_sha256", atLeast "byte_count" 0, required "media_type", required "encoding",
    required "raw_schema_id", atLeast "raw_schema_version" 1, atLeast "publication_generation" 1,
    nullable "relative_path", oneOf "state" ["staging", "committed", "reconciliation_required", "failed"],
    required "created_at", nullable "committed_at"]
  primaryKey := ["publication_id"]
  unique := [["physical_attempt_id"]]
  foreignKeys := [toLogicalRequest,
    referring "physical_attempt_id" "physical_attempts" "physical_attempt_id"]

/-! ## Scripts -/

/-- `SCHEMA_VERSION` -/
def schemaVersion : Nat := 8

/-- `_SCHEMA_OWNER` -/
def schemaOwner : String := "production-request-coordinator"

/-- `_create_schema` -/
def createSchema : List Statement :=
  [.createTable "schema_metadata" schemaMetadata,
    .insertValues "schema_metadata" [.integer 1, .text schemaOwner, .integer 8],
    .createTable "logical_requests" logicalRequests,
    .createTable "physical_attempts" (physicalAttempts.addColumn rawEligible),
    .createTable "logical_results" logicalResults,
    .createTable "runtime_lease" (runtimeLease.addColumn (flag "active" .null)),
    .createTable "queue_entries" queueEntries,
    .createTable "provider_queue_cursors" providerQueueCursors,
    .createTable "queue_events" queueEvents,
    .createTable "gate_state" gateState,
    .createTable "gate_reservations" gateReservations,
    .createTable "gate_reservation_scopes" gateReservationScopes,
    .createTable "gate_starts" gateStarts,
    .createTable "gate_events" gateEvents,
    .createTable "single_flights" singleFlights,
    .createTable "single_flight_consumers" singleFlightConsumersV8,
    .createTable "admission_events" admissionEvents,
    .createTable "raw_publications" rawPublications,
    .setUserVersion 8]

/-- `UPDATE schema_metadata SET schema_version = … WHERE singleton = 1` -/
def setSchemaVersion (version : Nat) : Statement :=
  .update "schema_metadata" "schema_version" (.integer version) (.equals "singleton" (.integer 1))

/-- `_migrate_v1_to_v2` -/
def migrateV1ToV2 : List Statement :=
  [.addColumn "runtime_lease" (flag "active" (.integer 1)), setSchemaVersion 2, .setUserVersion 2]

/-- `_migrate_v2_to_v3` -/
def migrateV2ToV3 : List Statement :=
  [.createTable "queue_entries" queueEntries,
    .createTable "provider_queue_cursors" providerQueueCursors,
    .createTable "queue_events" queueEvents, setSchemaVersion 3, .setUserVersion 3]

/-- `_migrate_v3_to_v4` -/
def migrateV3ToV4 : List Statement :=
  [.createTable "gate_state" gateState, .createTable "gate_reservations" gateReservations,
    .createTable "gate_reservation_scopes" gateReservationScopes,
    .createTable "gate_starts" gateStarts, .createTable "gate_events" gateEvents,
    setSchemaVersion 4, .setUserVersion 4]

/-- `_migrate_v4_to_v5` -/
def migrateV4ToV5 : List Statement :=
  [.createTable "single_flights" singleFlights,
    .createTable "single_flight_consumers" singleFlightConsumers,
    .createTable "admission_events" admissionEvents, setSchemaVersion 5, .setUserVersion 5]

/-- `_migrate_v5_to_v6` -/
def migrateV5ToV6 : List Statement :=
  [.createTable "raw_publications" rawPublications, setSchemaVersion 6, .setUserVersion 6]

/-- `_migrate_v6_to_v7` -/
def migrateV6ToV7 : List Statement :=
  [.addColumn "physical_attempts" rawEligible,
    .update "physical_attempts" "raw_eligible" (.integer 1) (.equals "state" (.text "succeeded")),
    setSchemaVersion 7, .setUserVersion 7]

/-- `_migrate_v7_to_v8` -/
def migrateV7ToV8 : List Statement :=
  [.createTable "single_flight_consumers_v8" singleFlightConsumersV8,
    .insertSelect "single_flight_consumers_v8"
      ["logical_request_id", "request_fingerprint", "role", "state", "cache_decision", "rate_domain",
        "joined_at"] "single_flight_consumers",
    .dropTable "single_flight_consumers",
    .renameTable "single_flight_consumers_v8" "single_flight_consumers", setSchemaVersion 8,
    .setUserVersion 8]

/-- The migration from a version to the next. -/
def migration : Nat → List Statement
  | 1 => migrateV1ToV2
  | 2 => migrateV2ToV3
  | 3 => migrateV3ToV4
  | 4 => migrateV4ToV5
  | 5 => migrateV5ToV6
  | 6 => migrateV6ToV7
  | 7 => migrateV7ToV8
  | _ => []

/-! ## Contents of a version -/

/-- The tables of version 1. -/
def baseSchema : Schema :=
  ⟨[("schema_metadata", schemaMetadata), ("logical_requests", logicalRequests),
    ("physical_attempts", physicalAttempts), ("logical_results", logicalResults),
    ("runtime_lease", runtimeLease)], by decide⟩

/-- The tables of a version: what the migrations make of those of version 1. -/
def schemaAt : Nat → Schema
  | 0 => baseSchema
  | version + 1 => (migration version).foldl Statement.alter (schemaAt version)

/-- `_create_schema` declares `active` without the default that the migration gives it. -/
def withoutActiveDefault (schema : Schema) : Schema :=
  schema.modify "runtime_lease" fun definition =>
    { definition with columns := definition.columns.map fun column =>
        if column.name = "active" then { column with default := .null } else column }

/-- The row of `schema_metadata`. -/
def metadataRow (version : Nat) : Row :=
  [("singleton", .integer 1), ("schema_owner", .text schemaOwner),
    ("schema_version", .integer version)]

/-- A valid content of a schema version. -/
structure AtVersion (version : Nat) (content : Content) : Prop where
  userVersion : content.userVersion = version
  schema : content.HasSchema (schemaAt version) ∨
    content.HasSchema (withoutActiveDefault (schemaAt version))
  metadata : (content.relations.get? "schema_metadata").map (·.rows) = some [metadataRow version]
  valid : content.Valid

end StockResearch.Requests.Initialization
