import StockResearch.Lib.Outcome
import StockResearch.Lib.Table

/-!
# Relational contents and statements

The part of SQLite that a schema migration uses: relations with their constraints,
the statements that change them, and a connection of Python's `sqlite3` in its legacy
transaction mode.

- `Definition`, `Relation`, `Content`: declared tables, their rows, and a database.
- `Content.Valid`: every constraint holds, foreign keys included.
- `Statement.exec`: what a statement does. It fails when a constraint would not hold
  afterwards; on valid contents these are the constraints it would itself break.
- `Connection`: the durable content and the one of an open transaction.
-/

namespace StockResearch.Sql

/-! ## Rows -/

inductive Value where
  | null
  | integer (n : Int)
  | text (s : String)
deriving DecidableEq

/-- The cells of a row, by column. -/
abbrev Row := List (String × Value)

namespace Row

def get (row : Row) (column : String) : Value := (row.lookup column).getD .null

def set (row : Row) (column : String) (value : Value) : Row :=
  row.map fun cell => if cell.1 = column then (cell.1, value) else cell

/-- The cells of some columns, unless one of them is null. -/
def project (columns : List String) (row : Row) : Option (List Value) :=
  if ∀ column ∈ columns, row.get column ≠ .null then some (columns.map row.get) else none

theorem get_append_of_ne {row : Row} {name column : String} {value : Value} (h : column ≠ name) :
    get (row ++ [(name, value)]) column = row.get column := by
  have hsingle : List.lookup column [(name, value)] = none := by
    rw [List.lookup_cons, beq_eq_false_iff_ne.mpr h]
    rfl
  rw [get, get, List.lookup_append, hsingle, Option.or_none]

theorem get_append_self {row : Row} {name : String} {value : Value}
    (h : name ∉ row.map Prod.fst) : get (row ++ [(name, value)]) name = value := by
  have hnone : row.lookup name = none := by
    rw [List.lookup_eq_none_iff]
    intro cell hcell
    rw [bne_iff_ne]
    rintro rfl
    exact h (List.mem_map_of_mem hcell)
  rw [get, List.lookup_append, hnone, Option.none_or, List.lookup_cons_self]
  rfl

theorem get_set_of_ne {row : Row} {name column : String} {value : Value} (h : column ≠ name) :
    (row.set name value).get column = row.get column := by
  induction row with
  | nil => rfl
  | cons cell row ih =>
    obtain ⟨key, old⟩ := cell
    simp only [get, set, List.map_cons] at ih ⊢
    by_cases hkey : column = key
    · subst hkey
      rw [if_neg h, List.lookup_cons_self, List.lookup_cons_self]
    · have hbeq : (column == key) = false := beq_eq_false_iff_ne.mpr hkey
      split
      · rw [List.lookup_cons, List.lookup_cons, hbeq]
        exact ih
      · rw [List.lookup_cons, List.lookup_cons, hbeq]
        exact ih

theorem get_set_self {row : Row} {name : String} {value : Value} (h : name ∈ row.map Prod.fst) :
    (row.set name value).get name = value := by
  induction row with
  | nil => cases h
  | cons cell row ih =>
    obtain ⟨key, old⟩ := cell
    simp only [get, set, List.map_cons] at ih ⊢
    by_cases hkey : name = key
    · subst hkey
      rw [if_pos rfl, List.lookup_cons_self]
      rfl
    · have hbeq : (name == key) = false := beq_eq_false_iff_ne.mpr hkey
      rw [if_neg fun heq => hkey heq.symm, List.lookup_cons, hbeq]
      exact ih ((List.mem_cons.mp h).resolve_left hkey)

@[simp] theorem names_set (row : Row) (name : String) (value : Value) :
    (row.set name value).map Prod.fst = row.map Prod.fst := by
  rw [set, List.map_map]
  refine List.map_congr_left fun cell _ => ?_
  simp only [Function.comp_apply]
  split <;> rfl

theorem project_congr {columns : List String} {row row' : Row}
    (h : ∀ column ∈ columns, row.get column = row'.get column) :
    row.project columns = row'.project columns := by
  have hcells : columns.map row.get = columns.map row'.get := List.map_congr_left h
  have hnull : (∀ column ∈ columns, row.get column ≠ .null) ↔
      ∀ column ∈ columns, row'.get column ≠ .null :=
    forall₂_congr fun column hcolumn => by rw [h column hcolumn]
  simp only [project, hcells, hnull]

end Row

/-! ## Conditions -/

/-- The conditions of `CHECK` and `WHERE`. -/
inductive Condition where
  | isIn (column : String) (values : List Value)
  | atLeast (column : String) (bound : Int)
  | equals (column : String) (value : Value)
  | differs (column : String) (value : Value)
  | isNull (column : String)
  | isNotNull (column : String)
  | and (a b : Condition)
  | or (a b : Condition)
deriving DecidableEq

namespace Condition

/-- A comparison with null is unknown. -/
def compare (cell : Value) (test : Value → Bool) : Option Bool :=
  match cell with
  | .null => none
  | value => some (test value)

def conjoin : Option Bool → Option Bool → Option Bool
  | some false, _ | _, some false => some false
  | some true, some true => some true
  | _, _ => none

def disjoin : Option Bool → Option Bool → Option Bool
  | some true, _ | _, some true => some true
  | some false, some false => some false
  | _, _ => none

/-- In three-valued logic; texts come after integers. -/
def eval (row : Row) : Condition → Option Bool
  | isIn column values => compare (row.get column) fun value => decide (value ∈ values)
  | atLeast column bound => compare (row.get column) fun
    | .integer n => decide (bound ≤ n)
    | _ => true
  | equals column value => compare (row.get column) fun cell => decide (cell = value)
  | differs column value => compare (row.get column) fun cell => decide (cell ≠ value)
  | isNull column => some (decide (row.get column = .null))
  | isNotNull column => some (decide (row.get column ≠ .null))
  | and a b => conjoin (a.eval row) (b.eval row)
  | or a b => disjoin (a.eval row) (b.eval row)

/-- The columns a condition reads. -/
def columns : Condition → List String
  | isIn column _ | atLeast column _ | equals column _ | differs column _ | isNull column
  | isNotNull column => [column]
  | and a b | or a b => a.columns ++ b.columns

theorem eval_congr {row row' : Row} {condition : Condition}
    (h : ∀ column ∈ condition.columns, row.get column = row'.get column) :
    condition.eval row = condition.eval row' := by
  induction condition with
  | isIn column | atLeast column | equals column | differs column | isNull column
  | isNotNull column => simp only [eval, h column (List.mem_singleton_self column)]
  | and a b iha ihb | or a b iha ihb =>
    rw [eval, eval, iha fun column hcolumn => h column (List.mem_append_left _ hcolumn),
      ihb fun column hcolumn => h column (List.mem_append_right _ hcolumn)]

/-- The condition holds of every row with this value under this column. -/
def heldBy (column : String) (value : Value) : Condition → Bool
  | isIn other values => decide (other = column ∧ value ≠ .null ∧ value ∈ values)
  | atLeast other bound => decide (other = column) && match value with
    | .integer n => decide (bound ≤ n)
    | _ => false
  | _ => false

theorem eval_of_heldBy {row : Row} {column : String} {value : Value} {condition : Condition}
    (h : condition.heldBy column value = true) (hrow : row.get column = value) :
    condition.eval row = some true := by
  cases condition with
  | isIn other values =>
    obtain ⟨rfl, hnull, hmem⟩ := of_decide_eq_true h
    rw [eval, hrow]
    cases value with
    | null => exact absurd rfl hnull
    | integer n => exact congrArg some (decide_eq_true hmem)
    | text s => exact congrArg some (decide_eq_true hmem)
  | atLeast other bound =>
    obtain ⟨hother, hbound⟩ := Bool.and_eq_true_iff.mp h
    obtain rfl := of_decide_eq_true hother
    rw [eval, hrow]
    cases value with
    | integer n => exact congrArg some hbound
    | null | text => cases hbound
  | equals | differs | isNull | isNotNull | and | or => cases h

end Condition

/-! ## Definitions -/

structure Column where
  name : String
  notNull : Bool := false
  default : Value := .null
  check : Option Condition := none
deriving DecidableEq

structure ForeignKey where
  columns : List String
  parent : String
  parentColumns : List String
deriving DecidableEq

/-- A declared table. -/
structure Definition where
  columns : List Column
  primaryKey : List String
  unique : List (List String) := []
  foreignKeys : List ForeignKey := []
  checks : List Condition := []
deriving DecidableEq

namespace Definition

def names (definition : Definition) : List String := definition.columns.map (·.name)

/-- The column lists no two rows may agree on. -/
def keys (definition : Definition) : List (List String) := definition.primaryKey :: definition.unique

/-- All `CHECK` constraints. -/
def conditions (definition : Definition) : List Condition :=
  definition.columns.filterMap (·.check) ++ definition.checks

/-- The row has the declared columns, `NOT NULL` holds, and no `CHECK` fails. -/
structure Admits (definition : Definition) (row : Row) : Prop where
  names : row.map Prod.fst = definition.names
  notNull : ∀ column ∈ definition.columns, column.notNull = true → row.get column.name ≠ .null
  conditions : ∀ condition ∈ definition.conditions, condition.eval row ≠ some false

instance (definition : Definition) (row : Row) : Decidable (definition.Admits row) :=
  decidable_of_iff (row.map Prod.fst = definition.names ∧
    (∀ column ∈ definition.columns, column.notNull = true → row.get column.name ≠ .null) ∧
    ∀ condition ∈ definition.conditions, condition.eval row ≠ some false)
    ⟨fun ⟨h, h', h''⟩ => ⟨h, h', h''⟩, fun ⟨h, h', h''⟩ => ⟨h, h', h''⟩⟩

/-- `ALTER TABLE … ADD COLUMN` -/
def addColumn (definition : Definition) (column : Column) : Definition :=
  { definition with columns := definition.columns ++ [column] }

/-- The condition says nothing about a cell, or the cell meets it. -/
def Allows (definition : Definition) (column : String) (value : Value) : Prop :=
  ∀ condition ∈ definition.conditions,
    column ∉ condition.columns ∨ condition.heldBy column value = true

instance (definition : Definition) (column : String) (value : Value) :
    Decidable (definition.Allows column value) :=
  inferInstanceAs (Decidable (∀ condition ∈ definition.conditions,
    column ∉ condition.columns ∨ condition.heldBy column value = true))

/-- A cell may be set to a value that is not null and that every condition allows. -/
theorem Admits.set {definition : Definition} {row : Row} {column : String} {value : Value}
    (h : definition.Admits row) (hcolumn : column ∈ definition.names) (hvalue : value ≠ .null)
    (hallows : definition.Allows column value) : definition.Admits (row.set column value) := by
  have hself : (row.set column value).get column = value := by
    refine Row.get_set_self ?_
    rw [h.names]
    exact hcolumn
  refine ⟨by rw [Row.names_set, h.names], ?_, ?_⟩
  · intro other hother hnotNull
    by_cases heq : other.name = column
    · rw [heq, hself]
      exact hvalue
    · rw [Row.get_set_of_ne heq]
      exact h.notNull other hother hnotNull
  · intro condition hcondition
    rcases hallows condition hcondition with hunread | hheld
    · have hsame : ∀ other ∈ condition.columns, (row.set column value).get other = row.get other := by
        intro other hother
        refine Row.get_set_of_ne ?_
        rintro rfl
        exact hunread hother
      rw [Condition.eval_congr hsame]
      exact h.conditions condition hcondition
    · rw [Condition.eval_of_heldBy hheld hself]
      nofun

/-- A new column, with a default that it admits itself, and that no condition reads yet. -/
structure Extensible (definition : Definition) (column : Column) : Prop where
  fresh : column.name ∉ definition.names
  default : column.notNull = true → column.default ≠ .null
  check : ∀ condition, column.check = some condition →
    condition.heldBy column.name column.default = true
  unread : ∀ condition ∈ definition.conditions, column.name ∉ condition.columns

instance (definition : Definition) (column : Column) : Decidable (definition.Extensible column) :=
  decidable_of_iff (column.name ∉ definition.names ∧
    (column.notNull = true → column.default ≠ .null) ∧
    (∀ condition ∈ column.check, condition.heldBy column.name column.default = true) ∧
    ∀ condition ∈ definition.conditions, column.name ∉ condition.columns)
    ⟨fun ⟨h, h', h'', h'''⟩ => ⟨h, h', h'', h'''⟩, fun ⟨h, h', h'', h'''⟩ => ⟨h, h', h'', h'''⟩⟩

theorem Admits.addColumn {definition : Definition} {row : Row} {column : Column}
    (h : definition.Admits row) (hcolumn : definition.Extensible column) :
    (definition.addColumn column).Admits (row ++ [(column.name, column.default)]) := by
  have hself : Row.get (row ++ [(column.name, column.default)]) column.name = column.default := by
    refine Row.get_append_self ?_
    rw [h.names]
    exact hcolumn.fresh
  refine ⟨?_, ?_, ?_⟩
  · rw [List.map_append, h.names, Definition.names, Definition.names, Definition.addColumn,
      List.map_append]
    rfl
  · -- an old column keeps its cell, the new one has its default
    intro other hother hnotNull
    rcases List.mem_append.mp hother with hold | hnew
    · have hne : other.name ≠ column.name := by
        intro heq
        have hfresh := hcolumn.fresh
        rw [← heq] at hfresh
        exact hfresh (List.mem_map_of_mem hold)
      rw [Row.get_append_of_ne hne]
      exact h.notNull other hold hnotNull
    · obtain rfl := List.mem_singleton.mp hnew
      rw [hself]
      exact hcolumn.default hnotNull
  · -- the old conditions do not read the new column, its own is met by the default
    intro condition hcondition
    have hcases : condition ∈ definition.conditions ∨ column.check = some condition := by
      simp only [Definition.conditions, Definition.addColumn, List.filterMap_append,
        List.mem_append, List.mem_filterMap, List.mem_singleton, exists_eq_left] at hcondition ⊢
      exact or_right_comm.mp hcondition
    rcases hcases with hold | hnew
    · have hsame : ∀ other ∈ condition.columns,
          Row.get (row ++ [(column.name, column.default)]) other = row.get other := by
        intro other hother
        refine Row.get_append_of_ne ?_
        rintro rfl
        exact hcolumn.unread condition hold hother
      rw [Condition.eval_congr hsame]
      exact h.conditions condition hold
    · rw [Condition.eval_of_heldBy (hcolumn.check condition hnew) hself]
      decide

/-- References to a renamed table follow it. -/
def renameParent (old new : String) (definition : Definition) : Definition :=
  { definition with foreignKeys := definition.foreignKeys.map fun key =>
      if key.parent = old then { key with parent := new } else key }

end Definition

/-! ## Contents -/

structure Relation where
  definition : Definition
  rows : List Row
deriving DecidableEq

/-- A database: `PRAGMA user_version` and the relations by name. -/
structure Content where
  userVersion : Nat
  relations : Table String Relation
deriving DecidableEq

namespace Content

/-- A file just created. -/
def empty : Content := ⟨0, .empty⟩

/-- The values under some columns of a relation, by row; of none, if there is none. -/
def keyValues (content : Content) (name : String) (columns : List String) : List (List Value) :=
  match content.relations.get? name with
  | some relation => relation.rows.filterMap (Row.project columns)
  | none => []

end Content

/-- The constraints of one relation: rows, keys and references. -/
structure Relation.Valid (content : Content) (relation : Relation) : Prop where
  rows : ∀ row ∈ relation.rows, relation.definition.Admits row
  keys : ∀ key ∈ relation.definition.keys, (relation.rows.filterMap (Row.project key)).Nodup
  references : ∀ key ∈ relation.definition.foreignKeys,
    ∀ values ∈ relation.rows.filterMap (Row.project key.columns),
      values ∈ content.keyValues key.parent key.parentColumns

instance (content : Content) (relation : Relation) : Decidable (relation.Valid content) :=
  decidable_of_iff ((∀ row ∈ relation.rows, relation.definition.Admits row) ∧
    (∀ key ∈ relation.definition.keys, (relation.rows.filterMap (Row.project key)).Nodup) ∧
    ∀ key ∈ relation.definition.foreignKeys,
      ∀ values ∈ relation.rows.filterMap (Row.project key.columns),
        values ∈ content.keyValues key.parent key.parentColumns)
    ⟨fun ⟨h, h', h''⟩ => ⟨h, h', h''⟩, fun ⟨h, h', h''⟩ => ⟨h, h', h''⟩⟩

/-- Every constraint holds. -/
def Content.Valid (content : Content) : Prop :=
  ∀ entry ∈ content.relations.rows, entry.2.Valid content

instance (content : Content) : Decidable content.Valid :=
  inferInstanceAs (Decidable (∀ entry ∈ content.relations.rows, entry.2.Valid content))

/-! ## Statements -/

inductive SqlError where
  | noSuchTable (name : String)
  | tableExists (name : String)
  | duplicateColumn (name : String)
  | constraint
  | transaction
deriving DecidableEq

inductive Statement where
  | createTable (name : String) (definition : Definition)
  | addColumn (name : String) (column : Column)
  | dropTable (name : String)
  | renameTable (old new : String)
  | insertValues (name : String) (values : List Value)
  | insertSelect (target : String) (columns : List String) (source : String)
  | update (name : String) (column : String) (value : Value) (condition : Condition)
  | setUserVersion (version : Nat)
deriving DecidableEq

namespace Statement

/-- The statements before which `sqlite3` opens a transaction. -/
def modifiesRows : Statement → Bool
  | insertValues .. | insertSelect .. | update .. => true
  | _ => false

/-- The row `INSERT … SELECT` makes: the selected cells, and defaults elsewhere. -/
def selected (definition : Definition) (columns : List String) (row : Row) : Row :=
  definition.columns.map fun column =>
    (column.name, if column.name ∈ columns then row.get column.name else column.default)

/-- `UPDATE` of one row. -/
def updated (column : String) (value : Value) (condition : Condition) (row : Row) : Row :=
  if condition.eval row = some true then row.set column value else row

/-- The content a statement makes, whether or not constraints hold in it. -/
def apply (content : Content) : Statement → Except SqlError Content
  | createTable name definition => do
    require (content.relations.get? name = none) (.tableExists name)
    pure { content with relations := content.relations.insert name ⟨definition, []⟩ }
  | addColumn name column => do
    let relation ← fetch (content.relations.get? name) (.noSuchTable name)
    require (column.name ∉ relation.definition.names) (.duplicateColumn column.name)
    pure { content with relations := content.relations.modify name fun relation =>
      { definition := relation.definition.addColumn column
        rows := relation.rows.map (· ++ [(column.name, column.default)]) } }
  | dropTable name => do
    require (content.relations.get? name ≠ none) (.noSuchTable name)
    pure { content with relations := content.relations.deleteWhere fun key _ => decide (key = name) }
  | renameTable old new => do
    let relation ← fetch (content.relations.get? old) (.noSuchTable old)
    require (content.relations.get? new = none) (.tableExists new)
    let others := content.relations.deleteWhere fun key _ => decide (key = old)
    let rename (relation : Relation) : Relation :=
      { relation with definition := relation.definition.renameParent old new }
    pure { content with relations := (others.insert new relation).updateWhere (fun _ _ => true) rename }
  | insertValues name values => do
    require (content.relations.get? name ≠ none) (.noSuchTable name)
    pure { content with relations := content.relations.modify name fun relation =>
      { relation with rows := relation.rows ++ [relation.definition.names.zip values] } }
  | insertSelect target columns source => do
    let from' ← fetch (content.relations.get? source) (.noSuchTable source)
    require (content.relations.get? target ≠ none) (.noSuchTable target)
    pure { content with relations := content.relations.modify target fun relation =>
      { relation with
        rows := relation.rows ++ from'.rows.map (selected relation.definition columns) } }
  | update name column value condition => do
    require (content.relations.get? name ≠ none) (.noSuchTable name)
    pure { content with relations := content.relations.modify name fun relation =>
      { relation with rows := relation.rows.map (updated column value condition) } }
  | setUserVersion version => pure { content with userVersion := version }

/-- One statement. -/
def exec (statement : Statement) (content : Content) : Except SqlError Content := do
  let content ← statement.apply content
  require content.Valid .constraint
  pure content

/-- Statements one after the other. -/
def execAll (content : Content) (statements : List Statement) : Except SqlError Content :=
  statements.foldlM (fun content statement => statement.exec content) content

end Statement

/-! ## Connections -/

/-- What is on disk, and what an open transaction has written. -/
structure Connection where
  durable : Content
  pending : Option Content
deriving DecidableEq

namespace Connection

/-- What the connection reads. -/
def view (connection : Connection) : Content := connection.pending.getD connection.durable

/-- A statement in the open transaction, or else one that is durable at once. -/
def statement (statement : Statement) (connection : Connection) : Except SqlError Connection := do
  let content ← statement.exec connection.view
  pure (if connection.pending.isSome then { connection with pending := some content }
    else { connection with durable := content })

/-- `execute`: a statement that modifies rows opens a transaction. -/
def execute (statement : Statement) (connection : Connection) : Except SqlError Connection :=
  if statement.modifiesRows then
    ({ connection with pending := some connection.view } : Connection).statement statement
  else connection.statement statement

/-- `BEGIN` -/
def begin (connection : Connection) : Except SqlError Connection :=
  if connection.pending.isSome then .error .transaction
  else .ok { connection with pending := some connection.durable }

/-- `commit()`: nothing to do without a transaction. -/
def commit (connection : Connection) : Connection := ⟨connection.view, none⟩

/-- The process stopped or closed the connection: an open transaction is rolled back. -/
def closed (connection : Connection) : Connection := ⟨connection.durable, none⟩

end Connection

end StockResearch.Sql
