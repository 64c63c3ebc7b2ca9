import Mathlib.Tactic.IntervalCases
import StockResearch.Requests.SchemaScripts

/-!
# What the migrations do

Every migration runs on every valid content of its version, makes a valid content of
the next, and keeps every row. The first six are runnable and keep rows by what they
declare; the last copies a table, which is looked at row by row.

- `migration_runs`, `migration_atVersion`, `migration_preserved`: one migration.
- `migration_last`: the last one, and the owners of the results it leaves.
-/

namespace StockResearch.Requests.Initialization

open Sql

variable {version : Nat} {content after : Content}

/-! ## The end of every script -/

/-- Every migration ends by writing its version twice. -/
theorem migration_ending (hfrom : 1 ≤ version) (hto : version ≤ 7) :
    ∃ body, migration version =
        body ++ [setSchemaVersion (version + 1), .setUserVersion (version + 1)] ∧
      ∀ statement ∈ body, statement.leaves "schema_metadata" = true := by
  refine ⟨(migration version).dropLast.dropLast, ?_⟩
  interval_cases version <;> decide +kernel

/-- The script leaves both versions at the next. -/
theorem execAll_versions {body : List Statement} {next : Nat}
    (hbody : ∀ statement ∈ body, statement.leaves "schema_metadata" = true)
    (hmetadata : (content.relations.get? "schema_metadata").map (·.rows) =
      some [metadataRow version])
    (hexec : Statement.execAll content (body ++ [setSchemaVersion next, .setUserVersion next]) =
      .ok after) :
    after.userVersion = next ∧
      (after.relations.get? "schema_metadata").map (·.rows) = some [metadataRow next] := by
  obtain ⟨middle, hfirst, hsecond⟩ := Statement.execAll_append.mp hexec
  have hrows := Statement.execAll_rows hfirst hbody
  rw [hmetadata] at hrows
  obtain ⟨updated, hupdate, hsecond⟩ := Statement.execAll_cons.mp hsecond
  obtain ⟨final, hversion, hsecond⟩ := Statement.execAll_cons.mp hsecond
  cases hsecond
  have happly := (Statement.exec_eq_ok.mp hversion).1
  cases happly
  have happly := (Statement.exec_eq_ok.mp hupdate).1
  obtain ⟨⟨⟩, -, happly⟩ := bind_eq_ok.mp happly
  cases happly
  refine ⟨rfl, ?_⟩
  obtain ⟨relation, hget, hrows⟩ := Option.map_eq_some_iff.mp hrows
  show ((middle.relations.modify "schema_metadata" _).get? "schema_metadata").map (·.rows) = _
  rw [Table.get?_modify, if_pos rfl, hget]
  show some (relation.rows.map _) = _
  rw [hrows]
  rfl

/-! ## Schemas -/

/-- The schema a migration leaves is that of the next version. -/
theorem AtVersion.schema_next (h : AtVersion version content) (hfrom : 1 ≤ version)
    (hto : version ≤ 7) (hexec : Statement.execAll content (migration version) = .ok after) :
    after.HasSchema (schemaAt (version + 1)) ∨
      after.HasSchema (withoutActiveDefault (schemaAt (version + 1))) := by
  rcases h.schema with hschema | hschema
  · exact .inl (Statement.execAll_hasSchema hschema hexec)
  · have hnext := Statement.execAll_hasSchema hschema hexec
    have hcases :
        (migration version).foldl Statement.alter (withoutActiveDefault (schemaAt version)) =
          schemaAt (version + 1) ∨
        (migration version).foldl Statement.alter (withoutActiveDefault (schemaAt version)) =
          withoutActiveDefault (schemaAt (version + 1)) := by
      interval_cases version <;> decide +kernel
    rcases hcases with heq | heq
    · exact .inl (heq ▸ hnext)
    · exact .inr (heq ▸ hnext)

/-- **A migration makes a valid content of the next version.** -/
theorem migration_atVersion (h : AtVersion version content) (hfrom : 1 ≤ version)
    (hto : version ≤ 7) (hexec : Statement.execAll content (migration version) = .ok after) :
    AtVersion (version + 1) after := by
  obtain ⟨body, hbody, hleaves⟩ := migration_ending hfrom hto
  have hversions := execAll_versions hleaves h.metadata (hbody ▸ hexec)
  exact ⟨hversions.1, h.schema_next hfrom hto hexec, hversions.2,
    Statement.execAll_valid h.valid hexec⟩

/-! ## The first six migrations -/

theorem migration_runs_early (h : AtVersion version content) (hfrom : 1 ≤ version)
    (hto : version ≤ 6) : ∃ after, Statement.execAll content (migration version) = .ok after := by
  have hrunnable : Statement.RunnableAll (schemaAt version) (migration version) ∧
      Statement.RunnableAll (withoutActiveDefault (schemaAt version)) (migration version) := by
    interval_cases version <;> decide +kernel
  rcases h.schema with hschema | hschema
  · exact hrunnable.1.execAll h.valid hschema
  · exact hrunnable.2.execAll h.valid hschema

theorem migration_preserved_early (h : AtVersion version content) (hfrom : 1 ≤ version)
    (hto : version ≤ 6) (hexec : Statement.execAll content (migration version) = .ok after) :
    Preserved "schema_version" content after := by
  have hkeeps : (∀ statement ∈ migration version,
        Preserved.Keeps (schemaAt version) "schema_version" statement) ∧
      ∀ statement ∈ migration version,
        Preserved.Keeps (withoutActiveDefault (schemaAt version)) "schema_version" statement := by
    interval_cases version <;> decide +kernel
  rcases h.schema with hschema | hschema
  · exact (Preserved.refl content).execAll hschema hkeeps.1 hexec
  · exact (Preserved.refl content).execAll hschema hkeeps.2 hexec

/-! ## The last migration -/

/-- The columns the last migration copies. -/
def copiedColumns : List String :=
  ["logical_request_id", "request_fingerprint", "role", "state", "cache_decision", "rate_domain",
    "joined_at"]

/-- The owner of a copied consumer's result. -/
theorem selected_resultOwner (row : Row) :
    (Statement.selected singleFlightConsumersV8 copiedColumns row).get "result_owner_id" = .null :=
  rfl

/-- A copied cell. -/
theorem selected_copied {row : Row} {column : String} (h : column ∈ copiedColumns) :
    (Statement.selected singleFlightConsumersV8 copiedColumns row).get column = row.get column := by
  have hnames : copiedColumns ⊆ singleFlightConsumersV8.names := by decide
  exact Statement.get_selected (hnames h) h

/-- The state of a consumer of an earlier version is none that has an owner. -/
theorem not_completed {row : Row} (h : singleFlightConsumers.Admits row) :
    row.get "state" = .text "active" ∨ row.get "state" = .text "cancelled" := by
  have hnull : row.get "state" ≠ .null :=
    h.notNull (oneOf "state" ["active", "cancelled"]) (by decide) rfl
  have hstate := h.conditions (.isIn "state" [.text "active", .text "cancelled"]) (by decide)
  rw [Condition.eval] at hstate
  cases hvalue : row.get "state" with
  | null => exact absurd hvalue hnull
  | integer n =>
    rw [hvalue] at hstate
    exact absurd rfl hstate
  | text s =>
    rw [hvalue] at hstate
    by_contra hnone
    refine hstate ?_
    show some (decide (Value.text s ∈ [Value.text "active", .text "cancelled"])) = some false
    rw [not_or] at hnone
    simp [hnone.1, hnone.2]

/-- Consumers may be copied into the table of version 8. -/
theorem copies_consumers :
    Statement.Copies copiedColumns singleFlightConsumers singleFlightConsumersV8 where
  keys := by decide
  references := by
    intro key hkey
    have hcases : key = toLogicalRequest ∨ key = toSingleFlight ∨
        key = referring "result_owner_id" "logical_requests" "logical_request_id" := by
      simpa [singleFlightConsumersV8] using hkey
    rcases hcases with rfl | rfl | rfl
    · exact .inl (by decide)
    · exact .inl (by decide)
    · refine .inr fun row => ?_
      rfl
  admits row h := by
    refine ⟨?_, ?_, ?_⟩
    · rfl
    · -- a required column is copied from one that was required
      intro column hcolumn hnotNull
      have hcopied : column.name ∈ copiedColumns ∧
          ∃ old ∈ singleFlightConsumers.columns, old.name = column.name ∧ old.notNull = true := by
        revert hnotNull
        revert column
        decide
      obtain ⟨hmem, old, hold, hname, hrequired⟩ := hcopied
      rw [selected_copied hmem, ← hname]
      exact h.notNull old hold hrequired
    · -- the new conditions hold because no copied row is completed
      intro condition hcondition
      have hcases : condition ∈ singleFlightConsumers.conditions ∧
            condition.columns ⊆ copiedColumns ∨
          condition = .isIn "state" [.text "active", .text "cancelled", .text "completed"] ∨
          condition = .or (.and (.equals "state" (.text "completed")) (.isNotNull "result_owner_id"))
            (.and (.differs "state" (.text "completed")) (.isNull "result_owner_id")) := by
        revert condition
        decide
      have hstate : (Statement.selected singleFlightConsumersV8 copiedColumns row).get "state" =
          row.get "state" := selected_copied (by decide)
      rcases hcases with ⟨hold, hcolumns⟩ | rfl | rfl
      · rw [Condition.eval_congr fun column hcolumn => selected_copied (hcolumns hcolumn)]
        exact h.conditions condition hold
      · rw [Condition.eval, hstate]
        rcases not_completed h with heq | heq
        · rw [heq]
          decide
        · rw [heq]
          decide
      · simp only [Condition.eval, hstate, selected_resultOwner]
        rcases not_completed h with heq | heq
        · simp [heq, Condition.compare, Condition.conjoin, Condition.disjoin]
        · simp [heq, Condition.compare, Condition.conjoin, Condition.disjoin]

/-- The first half of the last migration: the copy. -/
def copyConsumers : List Statement :=
  [.createTable "single_flight_consumers_v8" singleFlightConsumersV8,
    .insertSelect "single_flight_consumers_v8" copiedColumns "single_flight_consumers"]

/-- Its second half: the copy takes the place of the table. -/
def replaceConsumers : List Statement :=
  [.dropTable "single_flight_consumers",
    .renameTable "single_flight_consumers_v8" "single_flight_consumers"]

/-- The tables of version 7. -/
def IsSchema7 (schema : Schema) : Prop :=
  schema = schemaAt 7 ∨ schema = withoutActiveDefault (schemaAt 7)

theorem AtVersion.schema7 (h : AtVersion 7 content) :
    ∃ schema, IsSchema7 schema ∧ content.HasSchema schema := by
  rcases h.schema with hschema | hschema
  · exact ⟨_, .inl rfl, hschema⟩
  · exact ⟨_, .inr rfl, hschema⟩

/-- The content with the copy beside the table. -/
theorem copyConsumers_exec {schema : Schema} (h7 : IsSchema7 schema)
    (hschema : content.HasSchema schema) (hvalid : content.Valid) : ∃ consumers copied,
      content.relations.get? "single_flight_consumers" = some consumers ∧
      Statement.execAll content copyConsumers = .ok copied ∧
      ∀ name, copied.relations.get? name =
        if name = "single_flight_consumers_v8" then
          some ⟨singleFlightConsumersV8,
            consumers.rows.map (Statement.selected singleFlightConsumersV8 copiedColumns)⟩
        else content.relations.get? name := by
  have hfree : schema.get? "single_flight_consumers_v8" = none := by
    rcases h7 with rfl | rfl <;> decide +kernel
  have hdefinition : schema.get? "single_flight_consumers" = some singleFlightConsumers := by
    rcases h7 with rfl | rfl <;> decide +kernel
  obtain ⟨consumers, hconsumers, hold⟩ := hschema.exists_relation hdefinition
  have hcreate := Statement.exec_createTable hvalid hschema hfree singleFlightConsumersV8
  have habsent := hschema.free hfree
  let created : Content := { content with
    relations := content.relations.insert "single_flight_consumers_v8"
      ⟨singleFlightConsumersV8, []⟩ }
  -- the new table stands beside the old ones
  have hget : ∀ name, created.relations.get? name =
      if name = "single_flight_consumers_v8" then some ⟨singleFlightConsumersV8, []⟩
      else content.relations.get? name := Table.get?_insert habsent _
  have hinsert := Statement.exec_insertSelect (Statement.exec_eq_ok.mp hcreate).2
    ((hget "single_flight_consumers").trans hconsumers) (hget "single_flight_consumers_v8") rfl
    (hold ▸ copies_consumers)
  refine ⟨consumers, _, hconsumers,
    Statement.execAll_cons.mpr ⟨created, hcreate, Statement.execAll_cons.mpr ⟨_, hinsert, rfl⟩⟩, ?_⟩
  intro name
  show Table.get? (created.relations.modify "single_flight_consumers_v8" _) name = _
  rw [Table.get?_modify, hget]
  split
  · rfl
  · rfl

/-- Dropping the table and renaming the copy. -/
theorem replaceConsumers_get? {copied replaced : Content} {copy : Relation}
    (hcopy : copied.relations.get? "single_flight_consumers_v8" = some copy)
    (hunreferred : ∀ other found, copied.relations.get? other = some found →
      ∀ key ∈ found.definition.foreignKeys,
        key.parent ≠ "single_flight_consumers_v8" ∧ key.parent ≠ "single_flight_consumers")
    (hexec : Statement.execAll copied replaceConsumers = .ok replaced) (name : String) :
    replaced.relations.get? name =
      if name = "single_flight_consumers" then some copy
      else if name = "single_flight_consumers_v8" then none
      else copied.relations.get? name := by
  obtain ⟨dropped, hdrop, hexec⟩ := Statement.execAll_cons.mp hexec
  obtain ⟨renamed, hrename, hexec⟩ := Statement.execAll_cons.mp hexec
  cases hexec
  obtain ⟨hdropped, hvalid'⟩ := Statement.exec_eq_ok.mp hdrop
  obtain ⟨⟨⟩, -, hdropped⟩ := bind_eq_ok.mp hdropped
  rw [pure_eq_ok] at hdropped
  subst hdropped
  have hget : ∀ other, Table.get? (copied.relations.deleteWhere fun key _ =>
      decide (key = "single_flight_consumers")) other =
        if other = "single_flight_consumers" then none else copied.relations.get? other :=
    Table.get?_deleteKey _ _
  -- nothing refers to either table, so the copy takes the name
  obtain ⟨renamed', happly, -, -, hrenamed⟩ := hvalid'.rename
    ((hget "single_flight_consumers_v8").trans hcopy) ((hget "single_flight_consumers").trans rfl)
    (fun other found hother key hkey => by
      rw [hget] at hother
      split at hother
      · cases hother
      · exact hunreferred other found hother key hkey)
  rw [(Statement.exec_eq_ok.mp hrename).1] at happly
  cases happly
  rw [hrenamed, hget]
  split
  · rfl
  · rfl

/-- The schema after the copy. -/
theorem copyConsumers_schema {schema : Schema} (h7 : IsSchema7 schema) :
    Statement.RunnableAll (copyConsumers.foldl Statement.alter schema)
        (replaceConsumers ++ [setSchemaVersion 8, .setUserVersion 8]) ∧
      Schema.Unreferred (copyConsumers.foldl Statement.alter schema) "single_flight_consumers_v8" ∧
      Schema.Unreferred (copyConsumers.foldl Statement.alter schema) "single_flight_consumers" := by
  rcases h7 with rfl | rfl <;> decide +kernel

/-- What the last migration makes of a content: it runs, keeps every row, and leaves no copied
consumer an owner of its result. -/
theorem migration_last (h : AtVersion 7 content) :
    ∃ after, Statement.execAll content (migration 7) = .ok after ∧
      Preserved "schema_version" content after ∧
      ∃ consumers, after.relations.get? "single_flight_consumers" = some consumers ∧
        ∀ row ∈ consumers.rows, row.get "result_owner_id" = .null := by
  obtain ⟨schema, h7, hschema⟩ := h.schema7
  obtain ⟨consumers, copied, hconsumers, hcopy, hget⟩ := copyConsumers_exec h7 hschema h.valid
  obtain ⟨hrunnable, hunreferred, hunreferred'⟩ := copyConsumers_schema h7
  have hvalid := Statement.execAll_valid h.valid hcopy
  have hschema' := Statement.execAll_hasSchema hschema hcopy
  obtain ⟨after, hafter⟩ := hrunnable.execAll hvalid hschema'
  obtain ⟨replaced, hreplace, hversions⟩ := Statement.execAll_append.mp hafter
  have hreplaced := replaceConsumers_get? (hget _)
    (fun other found hother key hkey =>
      ⟨hunreferred _ (hschema'.mem_rows hother) key hkey,
        hunreferred' _ (hschema'.mem_rows hother) key hkey⟩) hreplace
  -- the copy is the table now, and nothing else has changed
  have hkept : Preserved "schema_version" content replaced := by
    intro name relation hrelation
    by_cases hname : name = "single_flight_consumers"
    · subst hname
      rw [hconsumers] at hrelation
      cases hrelation
      have hnames : consumers.definition = singleFlightConsumers := by
        refine hschema.definition_eq hconsumers ?_
        rcases h7 with rfl | rfl <;> decide +kernel
      refine ⟨_, (hreplaced _).trans (if_pos rfl), ?_, ?_⟩
      · rw [hnames]
        show singleFlightConsumers.names ⊆ singleFlightConsumersV8.names
        decide
      · rw [hnames, List.forall₂_map_right_iff]
        refine List.forall₂_same.mpr fun row _ column hcolumn _ => ?_
        exact selected_copied hcolumn
    · have hother : name ≠ "single_flight_consumers_v8" := by
        rintro rfl
        have hfree : schema.get? "single_flight_consumers_v8" = none := by
          rcases h7 with rfl | rfl <;> decide +kernel
        rw [hschema.free hfree] at hrelation
        cases hrelation
      refine ⟨relation, ?_, List.Subset.refl _, List.forall₂_same.mpr fun _ _ _ _ _ => rfl⟩
      rw [hreplaced, if_neg hname, if_neg hother, hget, if_neg hother]
      exact hrelation
  refine ⟨after, Statement.execAll_append.mpr ⟨copied, hcopy, hafter⟩,
    hkept.execAll hschema ?_ hversions, ?_⟩
  · intro statement hstatement
    rcases List.mem_cons.mp hstatement with rfl | hstatement
    · exact .inl rfl
    · rw [List.mem_singleton.mp hstatement]
      trivial
  · -- the version number is set after the rows were copied
    have hrows : (after.relations.get? "single_flight_consumers").map (·.rows) = _ :=
      Statement.execAll_rows hversions (by decide)
    rw [hreplaced, if_pos rfl] at hrows
    obtain ⟨relation, hrelation, hsame⟩ := Option.map_eq_some_iff.mp hrows
    refine ⟨relation, hrelation, ?_⟩
    intro row hrow
    rw [hsame] at hrow
    obtain ⟨row', -, rfl⟩ := List.mem_map.mp hrow
    exact selected_resultOwner row'

/-! ## Every migration -/

theorem migration_runs (h : AtVersion version content) (hfrom : 1 ≤ version) (hto : version ≤ 7) :
    ∃ after, Statement.execAll content (migration version) = .ok after := by
  rcases Nat.lt_or_eq_of_le hto with hlt | rfl
  · exact migration_runs_early h hfrom (Nat.le_of_lt_succ hlt)
  · obtain ⟨after, hafter, -⟩ := migration_last h
    exact ⟨after, hafter⟩

theorem migration_preserved (h : AtVersion version content) (hfrom : 1 ≤ version)
    (hto : version ≤ 7) (hexec : Statement.execAll content (migration version) = .ok after) :
    Preserved "schema_version" content after := by
  rcases Nat.lt_or_eq_of_le hto with hlt | rfl
  · exact migration_preserved_early h hfrom (Nat.le_of_lt_succ hlt) hexec
  · obtain ⟨after', hafter, hkept, -⟩ := migration_last h
    rw [hexec] at hafter
    cases hafter
    exact hkept

end StockResearch.Requests.Initialization
