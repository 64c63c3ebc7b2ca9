import StockResearch.Lib.Related
import StockResearch.Lib.Sql

/-!
# Statements on valid contents

Which changes keep every constraint, and so which statements a valid content takes.
What a statement does to the declared tables depends on them alone: a schema is
followed through a script without looking at rows.

- `Content.Valid.create`, `.replace`, `.alter`, `.drop`, `.rename`: changes that keep
  constraints.
- `Statement.alter`, `Content.HasSchema`: schemas.
- `Preserved`: every row is still there, with its cells.
- `Statement.Copies`: tables between which rows may be copied.
-/

namespace StockResearch.Sql

/-! ## Constraints -/

theorem Content.valid_iff {content : Content} : content.Valid ↔
    ∀ name relation, content.relations.get? name = some relation → relation.Valid content :=
  ⟨fun h name relation hget => h (name, relation) (Table.mem_rows_iff.mpr hget),
    fun h entry hentry => h entry.1 entry.2 (Table.mem_rows_iff.mp hentry)⟩

/-- A relation stays valid while the values it refers to stay. -/
theorem Relation.Valid.mono {content content' : Content} {relation : Relation}
    (h : relation.Valid content)
    (hvalues : ∀ key ∈ relation.definition.foreignKeys,
      content.keyValues key.parent key.parentColumns ⊆
        content'.keyValues key.parent key.parentColumns) : relation.Valid content' :=
  ⟨h.rows, h.keys, fun key hkey values hvalue => hvalues key hkey (h.references key hkey values hvalue)⟩

namespace Content

theorem keyValues_of_get? {content : Content} {name : String} {relation : Relation}
    (h : content.relations.get? name = some relation) (columns : List String) :
    content.keyValues name columns = relation.rows.filterMap (Row.project columns) := by
  rw [keyValues, h]

theorem keyValues_congr {content content' : Content} {name : String}
    (h : content'.relations.get? name = content.relations.get? name) (columns : List String) :
    content'.keyValues name columns = content.keyValues name columns := by
  rw [keyValues, keyValues, h]

namespace Valid

variable {content : Content} {name : String} {relation : Relation}

theorem get (h : content.Valid) (hget : content.relations.get? name = some relation) :
    relation.Valid content := valid_iff.mp h name relation hget

theorem setUserVersion (h : content.Valid) (version : Nat) :
    Content.Valid { content with userVersion := version } :=
  fun entry hentry => (h entry hentry).mono fun _ _ => fun _ => id

/-- A new table has no rows. -/
theorem create (h : content.Valid) (hfree : content.relations.get? name = none)
    (definition : Definition) :
    Content.Valid { content with relations := content.relations.insert name ⟨definition, []⟩ } := by
  rw [valid_iff]
  intro other found hother
  rw [Table.get?_insert hfree] at hother
  split at hother
  · cases hother
    exact ⟨by simp, fun _ _ => List.nodup_nil, by simp⟩
  · refine (h.get hother).mono fun key _ values hvalues => ?_
    by_cases hparent : key.parent = name
    · rw [hparent, keyValues, hfree] at hvalues
      cases hvalues
    · rwa [keyValues_congr ((Table.get?_insert hfree _ _).trans (if_neg hparent))]

/-- A relation may change when the values others refer to stay. -/
theorem replace (h : content.Valid) (hget : content.relations.get? name = some relation)
    {f : Relation → Relation}
    (hvalid : (f relation).Valid { content with relations := content.relations.modify name f })
    (hparents : ∀ other found, content.relations.get? other = some found →
      ∀ key ∈ found.definition.foreignKeys, key.parent = name →
        relation.rows.filterMap (Row.project key.parentColumns) ⊆
          (f relation).rows.filterMap (Row.project key.parentColumns)) :
    Content.Valid { content with relations := content.relations.modify name f } := by
  rw [valid_iff]
  intro other found hother
  have hnew : (content.relations.modify name f).get? name = some (f relation) := by
    rw [Table.get?_modify, if_pos rfl, hget]
    rfl
  rw [Table.get?_modify] at hother
  split at hother
  · rename_i hname
    rw [hname, hget, Option.map_some, Option.some.injEq] at hother
    subst hother
    exact hvalid
  · refine (h.get hother).mono fun key hkey values hvalues => ?_
    by_cases hparent : key.parent = name
    · rw [hparent, keyValues_of_get? hget] at hvalues
      rw [hparent, keyValues_of_get? hnew]
      exact hparents other found hother key hkey hparent hvalues
    · rwa [keyValues_congr ((Table.get?_modify ..).trans (if_neg hparent))]

/-- A change to one column that no key and no reference reads. -/
theorem alter (h : content.Valid) (hget : content.relations.get? name = some relation)
    {f : Relation → Relation} {g : Row → Row} (column : String)
    (hrows : (f relation).rows = relation.rows.map g)
    (hkeys : (f relation).definition.keys = relation.definition.keys)
    (hforeign : (f relation).definition.foreignKeys = relation.definition.foreignKeys)
    (hcells : ∀ row ∈ relation.rows, ∀ other ≠ column, (g row).get other = row.get other)
    (hadmits : ∀ row ∈ relation.rows, (f relation).definition.Admits (g row))
    (hunkeyed : ∀ key ∈ relation.definition.keys, column ∉ key)
    (hunreferring : ∀ key ∈ relation.definition.foreignKeys, column ∉ key.columns)
    (hunreferred : ∀ other found, content.relations.get? other = some found →
      ∀ key ∈ found.definition.foreignKeys, key.parent = name → column ∉ key.parentColumns) :
    Content.Valid { content with relations := content.relations.modify name f } := by
  -- columns without the changed one project as before
  have hproject : ∀ columns, column ∉ columns →
      (f relation).rows.filterMap (Row.project columns) =
        relation.rows.filterMap (Row.project columns) := by
    intro columns hcolumns
    rw [hrows, List.filterMap_map]
    refine List.filterMap_congr fun row hrow => Row.project_congr fun other hother => ?_
    exact hcells row hrow other fun heq => hcolumns (heq ▸ hother)
  have hold := h.get hget
  -- so whoever refers to this table finds what it refers to
  have hparents : ∀ other found, content.relations.get? other = some found →
      ∀ key ∈ found.definition.foreignKeys, key.parent = name →
        relation.rows.filterMap (Row.project key.parentColumns) ⊆
          (f relation).rows.filterMap (Row.project key.parentColumns) := by
    intro other found hother key hkey hparent
    rw [hproject _ (hunreferred other found hother key hkey hparent)]
    exact fun _ => id
  refine h.replace hget ⟨?_, ?_, ?_⟩ hparents
  · rw [hrows]
    intro row hrow
    obtain ⟨old, hmem, rfl⟩ := List.mem_map.mp hrow
    exact hadmits old hmem
  · rw [hkeys]
    intro key hkey
    rw [hproject key (hunkeyed key hkey)]
    exact hold.keys key hkey
  · rw [hforeign]
    intro key hkey values hvalues
    rw [hproject _ (hunreferring key hkey)] at hvalues
    have hfound := hold.references key hkey values hvalues
    by_cases hparent : key.parent = name
    · rw [hparent, keyValues_of_get? hget] at hfound
      have hnew : (content.relations.modify name f).get? name = some (f relation) := by
        rw [Table.get?_modify, if_pos rfl, hget]
        rfl
      rw [hparent, keyValues_of_get? hnew]
      exact hparents name relation hget key hkey hparent hfound
    · rwa [keyValues_congr ((Table.get?_modify ..).trans (if_neg hparent))]

/-- A table that nothing refers to can be dropped. -/
theorem drop (h : content.Valid)
    (hunreferred : ∀ other found, content.relations.get? other = some found →
      ∀ key ∈ found.definition.foreignKeys, key.parent ≠ name) :
    Content.Valid { content with
      relations := content.relations.deleteWhere fun key _ => decide (key = name) } := by
  rw [valid_iff]
  intro other found hother
  rw [Table.get?_deleteKey] at hother
  split at hother
  · cases hother
  · refine (h.get hother).mono fun key hkey values hvalues => ?_
    rwa [keyValues_congr ((Table.get?_deleteKey ..).trans
      (if_neg (hunreferred other found hother key hkey)))]

/-- A table that nothing refers to, by its old name or its new one, can be renamed. -/
theorem rename (h : content.Valid) {old new : String}
    (hold : content.relations.get? old = some relation)
    (hnew : content.relations.get? new = none)
    (hunreferred : ∀ other found, content.relations.get? other = some found →
      ∀ key ∈ found.definition.foreignKeys, key.parent ≠ old ∧ key.parent ≠ new) :
    ∃ renamed : Content, Statement.apply content (.renameTable old new) = .ok renamed ∧
      renamed.Valid ∧ renamed.userVersion = content.userVersion ∧
      ∀ name, renamed.relations.get? name =
        if name = new then some relation else if name = old then none
        else content.relations.get? name := by
  let others := content.relations.deleteWhere fun key _ => decide (key = old)
  let follow (relation : Relation) : Relation :=
    { relation with definition := relation.definition.renameParent old new }
  have hfollow : ∀ other found, content.relations.get? other = some found → follow found = found := by
    intro other found hother
    have hkeys : (found.definition.foreignKeys.map fun key =>
        if key.parent = old then { key with parent := new } else key) =
          found.definition.foreignKeys := by
      refine (List.map_congr_left fun key hkey => ?_).trans (List.map_id _)
      rw [if_neg (hunreferred other found hother key hkey).1]
      rfl
    simp only [follow, Definition.renameParent, hkeys]
  have hfree : others.get? new = none := by
    rw [Table.get?_deleteKey]
    split
    · rfl
    · exact hnew
  have hget : ∀ name, ((others.insert new relation).updateWhere (fun _ _ => true) follow).get? name =
      if name = new then some relation else if name = old then none
      else content.relations.get? name := by
    intro name
    rw [Table.get?_updateWhere, Table.get?_insert hfree, Table.get?_deleteKey]
    simp only [if_true]
    by_cases hname : name = new
    · rw [if_pos hname, Option.map_some, hfollow old relation hold]
    · rw [if_neg hname]
      by_cases hname : name = old
      · rw [if_pos hname, Option.map_none]
      · rw [if_neg hname]
        cases hfound : content.relations.get? name with
        | none => rfl
        | some found => rw [Option.map_some, hfollow name found hfound]
  refine ⟨{ content with
    relations := (others.insert new relation).updateWhere (fun _ _ => true) follow }, ?_, ?_, rfl, hget⟩
  · rw [Statement.apply, hold]
    simp only [hnew]
    rfl
  · -- every relation is one of before, and what it refers to has kept its name
    have hvalues : ∀ other found, content.relations.get? other = some found →
        found.Valid { content with
          relations := (others.insert new relation).updateWhere (fun _ _ => true) follow } := by
      intro other found hother
      refine (h.get hother).mono fun key hkey values hvalues => ?_
      obtain ⟨hne, hne'⟩ := hunreferred other found hother key hkey
      rwa [keyValues_congr ((hget key.parent).trans ((if_neg hne').trans (if_neg hne)))]
    rw [valid_iff]
    intro name found hfound
    rw [hget] at hfound
    split at hfound
    · cases hfound
      exact hvalues old relation hold
    · split at hfound
      · cases hfound
      · exact hvalues name found hfound

end Valid

end Content

/-! ## Schemas -/

/-- The declared tables. -/
abbrev Schema := Table String Definition

def Content.HasSchema (content : Content) (schema : Schema) : Prop :=
  ∀ name, (content.relations.get? name).map (·.definition) = schema.get? name

namespace Statement

/-- What a statement does to the declared tables. -/
def alter (schema : Schema) : Statement → Schema
  | createTable name definition => schema.insert name definition
  | addColumn name column => schema.modify name fun definition => definition.addColumn column
  | dropTable name => schema.deleteWhere fun key _ => decide (key = name)
  | renameTable old new =>
    match schema.get? old with
    | some definition => ((schema.deleteWhere fun key _ => decide (key = old)).insert new
        definition).updateWhere (fun _ _ => true) fun definition => definition.renameParent old new
    | none => schema
  | insertValues .. | insertSelect .. | update .. | setUserVersion .. => schema

variable {content after : Content} {schema : Schema} {statement : Statement}

theorem hasSchema_modify (h : content.HasSchema schema) {name : String} {f : Relation → Relation}
    {g : Definition → Definition} (hdefinition : ∀ relation, (f relation).definition = g relation.definition) :
    Content.HasSchema { content with relations := content.relations.modify name f }
      (schema.modify name g) := by
  intro other
  rw [Table.get?_modify, Table.get?_modify, ← h other]
  split
  · cases content.relations.get? other with
    | none => rfl
    | some relation => exact congrArg some (hdefinition relation)
  · rfl

theorem hasSchema_rows (h : content.HasSchema schema) {name : String} {f : Relation → Relation}
    (hdefinition : ∀ relation, (f relation).definition = relation.definition) :
    Content.HasSchema { content with relations := content.relations.modify name f } schema := by
  intro other
  rw [Table.get?_modify, ← h other]
  split
  · cases content.relations.get? other with
    | none => rfl
    | some relation => exact congrArg some (hdefinition relation)
  · rfl

/-- The schema a statement leaves. -/
theorem apply_hasSchema (h : content.HasSchema schema) (happly : statement.apply content = .ok after) :
    after.HasSchema (statement.alter schema) := by
  cases statement with
  | createTable name definition =>
    obtain ⟨⟨⟩, hfree, happly⟩ := bind_eq_ok.mp happly
    rw [pure_eq_ok] at happly
    subst happly
    have hfree := require_eq_ok.mp hfree
    have hfree' : schema.get? name = none := by rw [← h name, hfree]; rfl
    intro other
    rw [alter, Table.get?_insert hfree, Table.get?_insert hfree', ← h other]
    split <;> rfl
  | addColumn name column =>
    obtain ⟨relation, -, happly⟩ := bind_eq_ok.mp happly
    obtain ⟨⟨⟩, -, happly⟩ := bind_eq_ok.mp happly
    rw [pure_eq_ok] at happly
    subst happly
    exact hasSchema_modify h fun _ => rfl
  | dropTable name =>
    obtain ⟨⟨⟩, -, happly⟩ := bind_eq_ok.mp happly
    rw [pure_eq_ok] at happly
    subst happly
    intro other
    rw [alter, Table.get?_deleteKey, Table.get?_deleteKey, ← h other]
    split <;> rfl
  -- the row under the old name moves, and the references follow it
  | renameTable old new =>
    obtain ⟨relation, hold, happly⟩ := bind_eq_ok.mp happly
    obtain ⟨⟨⟩, hfree, happly⟩ := bind_eq_ok.mp happly
    rw [pure_eq_ok] at happly
    subst happly
    rw [fetch_eq_ok] at hold
    have hfree := require_eq_ok.mp hfree
    have hold' : schema.get? old = some relation.definition := by rw [← h old, hold]; rfl
    have hfree : (content.relations.deleteWhere fun key _ => decide (key = old)).get? new = none := by
      rw [Table.get?_deleteKey, hfree, ite_self]
    have hfree' : (schema.deleteWhere fun key _ => decide (key = old)).get? new = none := by
      rw [Table.get?_deleteKey, ← h new]
      split
      · rfl
      · rw [Option.map_eq_none_iff]
        rwa [Table.get?_deleteKey, if_neg ‹_›] at hfree
    intro other
    simp only [alter, hold', Table.get?_updateWhere, Table.get?_insert hfree,
      Table.get?_insert hfree', Table.get?_deleteKey, ← h other, if_true]
    split
    · rfl
    · split
      · rfl
      · cases content.relations.get? other <;> rfl
  | insertValues name values =>
    obtain ⟨⟨⟩, -, happly⟩ := bind_eq_ok.mp happly
    rw [pure_eq_ok] at happly
    subst happly
    exact hasSchema_rows h fun _ => rfl
  | insertSelect target columns source =>
    obtain ⟨relation, -, happly⟩ := bind_eq_ok.mp happly
    obtain ⟨⟨⟩, -, happly⟩ := bind_eq_ok.mp happly
    rw [pure_eq_ok] at happly
    subst happly
    exact hasSchema_rows h fun _ => rfl
  | update name column value condition =>
    obtain ⟨⟨⟩, -, happly⟩ := bind_eq_ok.mp happly
    rw [pure_eq_ok] at happly
    subst happly
    exact hasSchema_rows h fun _ => rfl
  | setUserVersion version =>
    rw [apply, pure_eq_ok] at happly
    subst happly
    exact h

end Statement

/-! ## Statements on valid contents -/

/-- No key and no reference reads the column. -/
def Schema.Unkeyed (schema : Schema) (name column : String) : Prop :=
  ∀ entry ∈ schema.rows,
    (entry.1 = name → (∀ key ∈ entry.2.keys, column ∉ key) ∧
      ∀ key ∈ entry.2.foreignKeys, column ∉ key.columns) ∧
    ∀ key ∈ entry.2.foreignKeys, key.parent = name → column ∉ key.parentColumns

instance (schema : Schema) (name column : String) : Decidable (schema.Unkeyed name column) :=
  inferInstanceAs (Decidable (∀ entry ∈ schema.rows, _ ∧ _))

/-- No reference goes to the table. -/
def Schema.Unreferred (schema : Schema) (name : String) : Prop :=
  ∀ entry ∈ schema.rows, ∀ key ∈ entry.2.foreignKeys, key.parent ≠ name

instance (schema : Schema) (name : String) : Decidable (schema.Unreferred name) :=
  inferInstanceAs (Decidable (∀ entry ∈ schema.rows, ∀ key ∈ entry.2.foreignKeys, key.parent ≠ name))

namespace Content.HasSchema

variable {content : Content} {schema : Schema} {name : String} {relation : Relation}
  {definition : Definition}

theorem definition_eq (h : content.HasSchema schema) (hget : content.relations.get? name = some relation)
    (hdefinition : schema.get? name = some definition) : relation.definition = definition := by
  have heq := h name
  rw [hget, hdefinition] at heq
  exact Option.some.inj heq

theorem exists_relation (h : content.HasSchema schema)
    (hdefinition : schema.get? name = some definition) :
    ∃ relation, content.relations.get? name = some relation ∧ relation.definition = definition :=
  Option.map_eq_some_iff.mp ((h name).trans hdefinition)

theorem free (h : content.HasSchema schema) (hfree : schema.get? name = none) :
    content.relations.get? name = none :=
  Option.map_eq_none_iff.mp ((h name).trans hfree)

theorem mem_rows (h : content.HasSchema schema) (hget : content.relations.get? name = some relation) :
    (name, relation.definition) ∈ schema.rows := by
  rw [Table.mem_rows_iff, ← h name, hget]
  rfl

end Content.HasSchema

namespace Statement

variable {content after : Content} {schema : Schema} {statement : Statement}
  {statements : List Statement} {name column : String} {definition : Definition}

theorem exec_of_valid (happly : statement.apply content = .ok after) (hvalid : after.Valid) :
    statement.exec content = .ok after := by
  have hrequire : require after.Valid SqlError.constraint = .ok () := require_eq_ok.mpr hvalid
  rw [exec, happly]
  show (require after.Valid SqlError.constraint >>= fun _ => pure after) = _
  rw [hrequire]
  rfl

theorem exec_eq_ok :
    statement.exec content = .ok after ↔ statement.apply content = .ok after ∧ after.Valid := by
  constructor
  · intro h
    obtain ⟨content', happly, h⟩ := bind_eq_ok.mp h
    obtain ⟨⟨⟩, hvalid, h⟩ := bind_eq_ok.mp h
    rw [pure_eq_ok] at h
    subst h
    exact ⟨happly, require_eq_ok.mp hvalid⟩
  · exact fun h => exec_of_valid h.1 h.2

theorem execAll_cons :
    execAll content (statement :: statements) = .ok after ↔
      ∃ next, statement.exec content = .ok next ∧ execAll next statements = .ok after := by
  rw [execAll, List.foldlM_cons, bind_eq_ok]
  rfl

/-- The schema a script leaves. -/
theorem execAll_hasSchema (h : content.HasSchema schema) (hexec : execAll content statements = .ok after) :
    after.HasSchema (statements.foldl alter schema) := by
  induction statements generalizing content schema with
  | nil =>
    cases hexec
    exact h
  | cons statement statements ih =>
    obtain ⟨next, hstatement, hexec⟩ := execAll_cons.mp hexec
    exact ih (apply_hasSchema h (exec_eq_ok.mp hstatement).1) hexec

/-- Constraints hold after a script. -/
theorem execAll_valid (h : content.Valid) (hexec : execAll content statements = .ok after) :
    after.Valid := by
  induction statements generalizing content with
  | nil =>
    cases hexec
    exact h
  | cons statement statements ih =>
    obtain ⟨next, hstatement, hexec⟩ := execAll_cons.mp hexec
    exact ih (exec_eq_ok.mp hstatement).2 hexec

theorem exec_createTable (h : content.Valid) (hschema : content.HasSchema schema)
    (hfree : schema.get? name = none) (definition : Definition) :
    exec (.createTable name definition) content =
      .ok { content with relations := content.relations.insert name ⟨definition, []⟩ } := by
  have hfree := hschema.free hfree
  refine exec_of_valid ?_ (h.create hfree definition)
  rw [apply]
  simp only [hfree]
  rfl

theorem exec_addColumn (h : content.Valid) (hschema : content.HasSchema schema) {column : Column}
    (hdefinition : schema.get? name = some definition) (hcolumn : definition.Extensible column)
    (hunkeyed : schema.Unkeyed name column.name) :
    exec (.addColumn name column) content =
      .ok { content with relations := content.relations.modify name fun relation =>
        { definition := relation.definition.addColumn column
          rows := relation.rows.map (· ++ [(column.name, column.default)]) } } := by
  obtain ⟨relation, hget, rfl⟩ := hschema.exists_relation hdefinition
  have hkeys := hunkeyed _ (hschema.mem_rows hget)
  refine exec_of_valid ?_ (h.alter hget column.name rfl rfl rfl ?_ ?_ (hkeys.1 rfl).1 (hkeys.1 rfl).2 ?_)
  · have hfresh : require (column.name ∉ relation.definition.names)
        (SqlError.duplicateColumn column.name) = .ok () := require_eq_ok.mpr hcolumn.fresh
    rw [apply, hget]
    show (require (column.name ∉ relation.definition.names)
      (SqlError.duplicateColumn column.name) >>= _) = _
    rw [hfresh]
    rfl
  · exact fun _ _ other hother => Row.get_append_of_ne hother
  · exact fun row hrow => ((h.get hget).rows row hrow).addColumn hcolumn
  · exact fun other found hother => (hunkeyed _ (hschema.mem_rows hother)).2

theorem exec_update (h : content.Valid) (hschema : content.HasSchema schema) {value : Value}
    (hdefinition : schema.get? name = some definition) (hcolumn : column ∈ definition.names)
    (hvalue : value ≠ .null) (hallows : definition.Allows column value)
    (hunkeyed : schema.Unkeyed name column) (condition : Condition) :
    exec (.update name column value condition) content =
      .ok { content with relations := content.relations.modify name fun relation =>
        { relation with rows := relation.rows.map (updated column value condition) } } := by
  obtain ⟨relation, hget, rfl⟩ := hschema.exists_relation hdefinition
  have hkeys := hunkeyed _ (hschema.mem_rows hget)
  refine exec_of_valid ?_ (h.alter hget column rfl rfl rfl ?_ ?_ (hkeys.1 rfl).1 (hkeys.1 rfl).2 ?_)
  · rw [apply]
    simp only [hget]
    rfl
  · intro row _ other hother
    unfold updated
    split
    · exact Row.get_set_of_ne hother
    · rfl
  · intro row hrow
    have hadmits := (h.get hget).rows row hrow
    unfold updated
    split
    · exact hadmits.set hcolumn hvalue hallows
    · exact hadmits
  · exact fun other found hother => (hunkeyed _ (hschema.mem_rows hother)).2

theorem exec_setUserVersion (h : content.Valid) (version : Nat) :
    exec (.setUserVersion version) content = .ok { content with userVersion := version } :=
  exec_of_valid rfl (h.setUserVersion version)

/-- A valid content takes the statement, whatever its rows. -/
def Runnable (schema : Schema) : Statement → Prop
  | createTable name _ => schema.get? name = none
  | addColumn name column => (schema.get? name).any (fun definition =>
      decide (definition.Extensible column)) = true ∧ schema.Unkeyed name column.name
  | dropTable name => schema.get? name ≠ none ∧ schema.Unreferred name
  | renameTable old new => schema.get? old ≠ none ∧ schema.get? new = none ∧
      schema.Unreferred old ∧ schema.Unreferred new
  | update name column value _ => (schema.get? name).any (fun definition =>
      decide (column ∈ definition.names ∧ definition.Allows column value)) = true ∧
      value ≠ .null ∧ schema.Unkeyed name column
  | setUserVersion _ => True
  | insertValues .. | insertSelect .. => False

instance (schema : Schema) (statement : Statement) : Decidable (statement.Runnable schema) := by
  cases statement <;> (unfold Runnable; infer_instance)

/-- A valid content takes the script, whatever its rows. -/
def RunnableAll : Schema → List Statement → Prop
  | _, [] => True
  | schema, statement :: statements =>
    statement.Runnable schema ∧ RunnableAll (statement.alter schema) statements

instance RunnableAll.decidable :
    ∀ (schema : Schema) (statements : List Statement), Decidable (RunnableAll schema statements)
  | _, [] => inferInstanceAs (Decidable True)
  | schema, statement :: statements =>
    have := RunnableAll.decidable (statement.alter schema) statements
    inferInstanceAs (Decidable (statement.Runnable schema ∧ RunnableAll _ statements))

theorem Runnable.exec (h : statement.Runnable schema) (hvalid : content.Valid)
    (hschema : content.HasSchema schema) : ∃ after, statement.exec content = .ok after := by
  cases statement with
  | createTable name definition => exact ⟨_, exec_createTable hvalid hschema h definition⟩
  | addColumn name column =>
    obtain ⟨hcolumn, hunkeyed⟩ := h
    obtain ⟨definition, hdefinition, hcolumn⟩ := (Option.any_eq_true ..).mp hcolumn
    exact ⟨_, exec_addColumn hvalid hschema hdefinition (of_decide_eq_true hcolumn) hunkeyed⟩
  | dropTable name =>
    obtain ⟨hexists, hunreferred⟩ := h
    obtain ⟨definition, hdefinition⟩ := Option.ne_none_iff_exists'.mp hexists
    obtain ⟨relation, hget, -⟩ := hschema.exists_relation hdefinition
    refine ⟨_, exec_of_valid ?_ (hvalid.drop fun other found hother =>
      hunreferred _ (hschema.mem_rows hother))⟩
    rw [apply]
    simp only [hget]
    rfl
  | renameTable old new =>
    obtain ⟨hexists, hfree, hold, hnew⟩ := h
    obtain ⟨definition, hdefinition⟩ := Option.ne_none_iff_exists'.mp hexists
    obtain ⟨relation, hget, -⟩ := hschema.exists_relation hdefinition
    obtain ⟨renamed, happly, hrenamed, -⟩ := hvalid.rename hget (hschema.free hfree)
      fun other found hother key hkey =>
        ⟨hold _ (hschema.mem_rows hother) key hkey, hnew _ (hschema.mem_rows hother) key hkey⟩
    exact ⟨renamed, exec_of_valid happly hrenamed⟩
  | update name column value condition =>
    obtain ⟨hcolumn, hvalue, hunkeyed⟩ := h
    obtain ⟨definition, hdefinition, hcolumn⟩ := (Option.any_eq_true ..).mp hcolumn
    obtain ⟨hmem, hallows⟩ := of_decide_eq_true hcolumn
    exact ⟨_, exec_update hvalid hschema hdefinition hmem hvalue hallows hunkeyed condition⟩
  | setUserVersion version => exact ⟨_, exec_setUserVersion hvalid version⟩
  -- these depend on the rows, so that no schema makes them run
  | insertValues | insertSelect => exact h.elim

theorem RunnableAll.execAll (h : RunnableAll schema statements) (hvalid : content.Valid)
    (hschema : content.HasSchema schema) : ∃ after, execAll content statements = .ok after := by
  induction statements generalizing content schema with
  | nil => exact ⟨content, rfl⟩
  | cons statement statements ih =>
    obtain ⟨next, hnext⟩ := h.1.exec hvalid hschema
    have hdone := exec_eq_ok.mp hnext
    obtain ⟨after, hafter⟩ := ih h.2 hdone.2 (apply_hasSchema hschema hdone.1)
    exact ⟨after, execAll_cons.mpr ⟨next, hnext, hafter⟩⟩

/-- The statement names another table. -/
def leaves (name : String) : Statement → Bool
  | createTable other _ | addColumn other _ | dropTable other | insertValues other _
  | insertSelect other _ _ | update other _ _ _ => decide (name ≠ other)
  | renameTable old new => decide (name ≠ old ∧ name ≠ new)
  | setUserVersion _ => true

/-- A table keeps its rows unless the statement names it. -/
theorem apply_rows (h : statement.apply content = .ok after) (hleaves : statement.leaves name = true) :
    (after.relations.get? name).map (·.rows) = (content.relations.get? name).map (·.rows) := by
  have hmodify : ∀ {other : String} {f : Relation → Relation}, name ≠ other →
      ((content.relations.modify other f).get? name).map (·.rows) =
        (content.relations.get? name).map (·.rows) := by
    intro other f hne
    rw [Table.get?_modify, if_neg hne]
  cases statement with
  | createTable other definition =>
    obtain ⟨⟨⟩, hfree, h⟩ := bind_eq_ok.mp h
    cases h
    rw [Table.get?_insert (require_eq_ok.mp hfree), if_neg (of_decide_eq_true hleaves)]
  | addColumn other column =>
    obtain ⟨relation, -, h⟩ := bind_eq_ok.mp h
    obtain ⟨⟨⟩, -, h⟩ := bind_eq_ok.mp h
    cases h
    exact hmodify (of_decide_eq_true hleaves)
  | dropTable other =>
    obtain ⟨⟨⟩, -, h⟩ := bind_eq_ok.mp h
    cases h
    rw [Table.get?_deleteKey, if_neg (of_decide_eq_true hleaves)]
  -- references to the table are rewritten in the definitions only
  | renameTable old new =>
    obtain ⟨hold, hnew⟩ := of_decide_eq_true hleaves
    obtain ⟨relation, -, h⟩ := bind_eq_ok.mp h
    obtain ⟨⟨⟩, hfree, h⟩ := bind_eq_ok.mp h
    cases h
    have hfree : (content.relations.deleteWhere fun key _ => decide (key = old)).get? new = none := by
      rw [Table.get?_deleteKey, require_eq_ok.mp hfree, ite_self]
    simp only [Table.get?_updateWhere, Table.get?_insert hfree, Table.get?_deleteKey, if_neg hnew,
      if_neg hold, if_true]
    cases content.relations.get? name <;> rfl
  | insertValues other values =>
    obtain ⟨⟨⟩, -, h⟩ := bind_eq_ok.mp h
    cases h
    exact hmodify (of_decide_eq_true hleaves)
  | insertSelect other columns source =>
    obtain ⟨relation, -, h⟩ := bind_eq_ok.mp h
    obtain ⟨⟨⟩, -, h⟩ := bind_eq_ok.mp h
    cases h
    exact hmodify (of_decide_eq_true hleaves)
  | update other column value condition =>
    obtain ⟨⟨⟩, -, h⟩ := bind_eq_ok.mp h
    cases h
    exact hmodify (of_decide_eq_true hleaves)
  | setUserVersion version =>
    cases h
    rfl

theorem execAll_rows (h : execAll content statements = .ok after)
    (hleaves : ∀ statement ∈ statements, statement.leaves name = true) :
    (after.relations.get? name).map (·.rows) = (content.relations.get? name).map (·.rows) := by
  induction statements generalizing content with
  | nil =>
    cases h
    rfl
  | cons statement statements ih =>
    obtain ⟨next, hnext, h⟩ := execAll_cons.mp h
    rw [ih h fun other hother => hleaves other (List.mem_cons_of_mem _ hother)]
    exact apply_rows (exec_eq_ok.mp hnext).1 (hleaves statement List.mem_cons_self)

theorem execAll_append {first second : List Statement} :
    execAll content (first ++ second) = .ok after ↔
      ∃ next, execAll content first = .ok next ∧ execAll next second = .ok after := by
  rw [execAll, List.foldlM_append, bind_eq_ok]
  rfl

end Statement

/-! ## Preservation -/

/-- Every relation is still there with its rows in order, and every cell of theirs but
those under the column `free`. -/
def Preserved (free : String) (content after : Content) : Prop :=
  ∀ name relation, content.relations.get? name = some relation →
    ∃ relation', after.relations.get? name = some relation' ∧
      relation.definition.names ⊆ relation'.definition.names ∧
      List.Forall₂ (fun row row' : Row => ∀ column ∈ relation.definition.names, column ≠ free →
        row'.get column = row.get column) relation.rows relation'.rows

namespace Preserved

variable {free : String} {a b c : Content}

theorem refl (content : Content) : Preserved free content content := fun _ relation hget =>
  ⟨relation, hget, fun _ => id, List.forall₂_same.mpr fun _ _ _ _ _ => rfl⟩

theorem trans (hab : Preserved free a b) (hbc : Preserved free b c) : Preserved free a c := by
  intro name relation hget
  obtain ⟨relation', hget', hnames, hrows⟩ := hab name relation hget
  obtain ⟨relation'', hget'', hnames', hrows'⟩ := hbc name relation' hget'
  refine ⟨relation'', hget'', fun _ hmem => hnames' (hnames hmem), forall₂_comp ?_ hrows hrows'⟩
  intro row row' row'' h h' column hcolumn hfree
  rw [h' column (hnames hcolumn) hfree, h column hcolumn hfree]

/-- Relations that stay as they are. -/
theorem of_get? (hab : Preserved free a b)
    (h : ∀ name relation, b.relations.get? name = some relation →
      c.relations.get? name = some relation) : Preserved free a c := by
  intro name relation hget
  obtain ⟨relation', hget', hkept⟩ := hab name relation hget
  exact ⟨relation', h name relation' hget', hkept⟩

/-- A change of one relation to cells that were not there at first. -/
theorem modify (hab : Preserved free a b) {name : String} {f : Relation → Relation} {g : Row → Row}
    (hrows : ∀ relation, (f relation).rows = relation.rows.map g)
    (hnames : ∀ relation, relation.definition.names ⊆ (f relation).definition.names)
    (hcells : ∀ relation, a.relations.get? name = some relation →
      ∀ column ∈ relation.definition.names, column ≠ free →
        ∀ row, (g row).get column = row.get column) :
    Preserved free a { b with relations := b.relations.modify name f } := by
  intro other relation hget
  obtain ⟨relation', hget', hsub, hkept⟩ := hab other relation hget
  by_cases hother : other = name
  · subst hother
    refine ⟨f relation', ?_, fun _ hmem => hnames relation' (hsub hmem), ?_⟩
    · rw [Table.get?_modify, if_pos rfl, hget']
      rfl
    · rw [hrows, List.forall₂_map_right_iff]
      refine hkept.imp fun row row' h column hcolumn hfree => ?_
      rw [hcells relation hget column hcolumn hfree, h column hcolumn hfree]
  · refine ⟨relation', ?_, hsub, hkept⟩
    rw [Table.get?_modify, if_neg hother]
    exact hget'

/-- The statement keeps the cells of the tables of `old`. -/
def Keeps (old : Schema) (free : String) : Statement → Prop
  | .createTable .. | .setUserVersion _ => True
  | .addColumn name column => (old.get? name).all (fun definition =>
      decide (column.name ∉ definition.names)) = true
  | .update name column _ _ => column = free ∨ (old.get? name).all (fun definition =>
      decide (column ∉ definition.names)) = true
  | _ => False

instance (old : Schema) (free : String) (statement : Statement) :
    Decidable (Keeps old free statement) := by
  cases statement <;> (unfold Keeps; infer_instance)

theorem exec {old : Schema} {statement : Statement} (hab : Preserved free a b)
    (hold : a.HasSchema old) (hkeeps : Keeps old free statement)
    (hexec : statement.exec b = .ok c) : Preserved free a c := by
  have happly := (Statement.exec_eq_ok.mp hexec).1
  -- a column the old schema does not have is in none of its rows
  have hunnamed : ∀ {name column : String},
      (old.get? name).all (fun definition => decide (column ∉ definition.names)) = true →
      ∀ relation, a.relations.get? name = some relation → column ∉ relation.definition.names := by
    intro name column hall relation hget
    have hdefinition := hold name
    rw [hget] at hdefinition
    rw [← hdefinition, Option.map_some, Option.all_some] at hall
    exact of_decide_eq_true hall
  cases statement with
  | createTable name definition =>
    obtain ⟨⟨⟩, hfree, happly⟩ := bind_eq_ok.mp happly
    cases happly
    have hfree := require_eq_ok.mp hfree
    refine hab.of_get? fun other relation hget => ?_
    rw [Table.get?_insert hfree, if_neg]
    · exact hget
    · rintro rfl
      rw [hfree] at hget
      cases hget
  -- the new cell stands behind the old ones
  | addColumn name column =>
    obtain ⟨relation, -, happly⟩ := bind_eq_ok.mp happly
    obtain ⟨⟨⟩, -, happly⟩ := bind_eq_ok.mp happly
    cases happly
    refine hab.modify (fun _ => rfl) (fun relation other hother => ?_) ?_
    · simp only [Definition.names, Definition.addColumn, List.map_append]
      exact List.mem_append_left _ hother
    · intro relation hget other hother _ row
      refine Row.get_append_of_ne ?_
      rintro rfl
      exact hunnamed hkeeps relation hget hother
  -- the column that is set is free, or is not one of the old ones
  | update name column value condition =>
    obtain ⟨⟨⟩, -, happly⟩ := bind_eq_ok.mp happly
    cases happly
    refine hab.modify (fun _ => rfl) (fun _ _ => id) ?_
    intro relation hget other hother hfree row
    unfold Statement.updated
    split
    · refine Row.get_set_of_ne ?_
      rintro rfl
      rcases hkeeps with heq | hall
      · exact hfree heq
      · exact hunnamed hall relation hget hother
    · rfl
  | setUserVersion version =>
    cases happly
    exact hab
  | dropTable | renameTable | insertValues | insertSelect => exact hkeeps.elim

theorem execAll {old : Schema} {statements : List Statement} (hab : Preserved free a b)
    (hold : a.HasSchema old) (hkeeps : ∀ statement ∈ statements, Keeps old free statement)
    (hexec : Statement.execAll b statements = .ok c) : Preserved free a c := by
  induction statements generalizing b with
  | nil =>
    cases hexec
    exact hab
  | cons statement statements ih =>
    obtain ⟨next, hnext, hexec⟩ := Statement.execAll_cons.mp hexec
    exact ih (hab.exec hold (hkeeps statement List.mem_cons_self) hnext)
      (fun other hother => hkeeps other (List.mem_cons_of_mem _ hother)) hexec

end Preserved

/-! ## Copies -/

namespace Statement

variable {content after : Content} {target source : String} {columns : List String}

/-- A selected cell is the cell it was selected from. -/
theorem get_selected {definition : Definition} {row : Row} {column : String}
    (hcolumn : column ∈ definition.names) (hselected : column ∈ columns) :
    (selected definition columns row).get column = row.get column := by
  have hlookup : ∀ cols : List Column, column ∈ cols.map (·.name) →
      List.lookup column (cols.map fun c =>
        (c.name, if c.name ∈ columns then row.get c.name else c.default)) =
          some (row.get column) := by
    intro cols
    induction cols with
    | nil =>
      intro hmem
      cases hmem
    | cons c cols ih =>
      intro hmem
      rw [List.map_cons, List.lookup_cons]
      by_cases hname : column = c.name
      · subst hname
        rw [beq_self_eq_true, if_pos hselected]
      · rw [beq_eq_false_iff_ne.mpr hname]
        exact ih ((List.mem_cons.mp hmem).resolve_left hname)
  rw [Row.get, selected, hlookup definition.columns hcolumn]
  rfl

/-- The cells of some selected columns. -/
theorem project_selected {definition : Definition} {row : Row} {key : List String}
    (hnames : key ⊆ definition.names) (hkey : key ⊆ columns) :
    Row.project key (selected definition columns row) = Row.project key row :=
  Row.project_congr fun _ hcolumn => get_selected (hnames hcolumn) (hkey hcolumn)

theorem filterMap_project_selected {definition : Definition} {rows : List Row} {key : List String}
    (hnames : key ⊆ definition.names) (hkey : key ⊆ columns) :
    (rows.map (selected definition columns)).filterMap (Row.project key) =
      rows.filterMap (Row.project key) := by
  rw [List.filterMap_map]
  exact List.filterMap_congr fun row _ => project_selected hnames hkey

/-- What a copy asks of its two tables: rows that are admitted, keys and references that are
copied with their cells, and references of the copy that are null. -/
structure Copies (columns : List String) (old new : Definition) : Prop where
  keys : ∀ key ∈ new.keys, key ∈ old.keys ∧ key ⊆ new.names ∧ key ⊆ columns
  references : ∀ key ∈ new.foreignKeys,
    (key ∈ old.foreignKeys ∧ key.columns ⊆ new.names ∧ key.columns ⊆ columns) ∨
      ∀ row, Row.project key.columns (selected new columns row) = none
  admits : ∀ row, old.Admits row → new.Admits (selected new columns row)

/-- A table may be copied into one that has no rows yet. -/
theorem exec_insertSelect (h : content.Valid) {from' to' : Relation}
    (hsource : content.relations.get? source = some from')
    (htarget : content.relations.get? target = some to') (hempty : to'.rows = [])
    (hcopies : Copies columns from'.definition to'.definition) :
    exec (.insertSelect target columns source) content =
      .ok { content with relations := content.relations.modify target fun relation =>
        { relation with
          rows := relation.rows ++ from'.rows.map (selected relation.definition columns) } } := by
  refine exec_of_valid ?_ (h.replace htarget ?_ ?_)
  · rw [apply, hsource, htarget]
    rfl
  · -- the copied rows
    have hrows : ({ to' with
        rows := to'.rows ++ from'.rows.map (selected to'.definition columns) } : Relation).rows =
          from'.rows.map (selected to'.definition columns) := by
      show to'.rows ++ _ = _
      rw [hempty, List.nil_append]
    have hold := h.get hsource
    refine ⟨?_, ?_, ?_⟩
    · rw [hrows]
      intro row hrow
      obtain ⟨row', hrow', rfl⟩ := List.mem_map.mp hrow
      exact hcopies.admits row' (hold.rows row' hrow')
    · rw [hrows]
      intro key hkey
      obtain ⟨hkey', hnames, hcolumns⟩ := hcopies.keys key hkey
      rw [filterMap_project_selected hnames hcolumns]
      exact hold.keys key hkey'
    · rw [hrows]
      intro key hkey values hvalues
      -- values stay where they are: the target only gains rows
      have hstays : content.keyValues key.parent key.parentColumns ⊆
          Content.keyValues { content with relations := content.relations.modify target fun relation =>
            { relation with
              rows := relation.rows ++ from'.rows.map (selected relation.definition columns) } }
            key.parent key.parentColumns := by
        by_cases hparent : key.parent = target
        · rw [hparent, Content.keyValues_of_get? htarget, hempty]
          exact List.nil_subset _
        · intro value hvalue
          rwa [Content.keyValues_congr ((Table.get?_modify ..).trans (if_neg hparent))]
      rcases hcopies.references key hkey with ⟨hkey', hnames, hcolumns⟩ | hnull
      · rw [filterMap_project_selected hnames hcolumns] at hvalues
        exact hstays (hold.references key hkey' values hvalues)
      · obtain ⟨row, hrow, hvalue⟩ := List.mem_filterMap.mp hvalues
        obtain ⟨row', -, rfl⟩ := List.mem_map.mp hrow
        rw [hnull row'] at hvalue
        cases hvalue
  · intro other found _ key _ _ values hvalues
    rw [hempty] at hvalues
    cases hvalues

end Statement

end StockResearch.Sql
