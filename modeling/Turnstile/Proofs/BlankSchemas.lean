import Turnstile.Proofs.DefaultSchemas
import Turnstile.Proofs.QueryVerdicts
import Turnstile.Proofs.StoredNames

namespace Turnstile

section
variable {α : Type} [Filed α] {f : α → α} (keeps : ∀ r, Filed.number (f r) = Filed.number r)
include keeps

theorem fileRow_map (row : α) (rows : List α) :
    fileRow (f row) (rows.map f) = (fileRow row rows).map f := by
  induction rows with
  | nil => rfl
  | cons r rows ih =>
    simp only [fileRow, List.map_cons, keeps, ih]
    split
    · rfl
    · split <;> rfl

theorem Ledger.put_map (l : Ledger α) (row : α) :
    (l.map f keeps).put (f row) = (l.put row).map f keeps :=
  Ledger.ext (fileRow_map keeps row l.rows)

theorem Ledger.putNew_map (l : Ledger α) (row : α) :
    (l.map f keeps).putNew (f row) = (l.putNew row).map f keeps := by
  unfold putNew has
  rw [find?_map, keeps, Option.isSome_map]
  split
  · rfl
  · exact put_map keeps l row

theorem Ledger.filter_map (l : Ledger α) {p q : α → Bool} (h : ∀ r, p (f r) = q r) :
    (l.map f keeps).filter p = (l.filter q).map f keeps := by
  apply Ledger.ext
  simp only [Ledger.filter, Ledger.map, List.filter_map, Function.comp_def, h]

end

namespace Datasource

/-- The same datasource with no schema in place of an empty one. -/
def unblanked (d : Datasource) : Datasource := { d with schema := d.namedSchema }

variable (d : Datasource) (db : Database)

theorem number_unblanked : Filed.number d.unblanked = Filed.number d := rfl

def unblankAll (l : Ledger Datasource) : Ledger Datasource := l.map unblanked number_unblanked

@[simp] theorem namedSchema_unblanked : d.unblanked.namedSchema = d.namedSchema := by
  simp [unblanked, namedSchema, Option.filter_filter]

@[simp] theorem displayName_unblanked : d.unblanked.displayName = d.displayName := by
  rw [displayName, namedSchema_unblanked]
  rfl

@[simp] theorem resourceName_unblanked : d.unblanked.resourceName db = d.resourceName db := rfl

@[simp] theorem schemaResourceName_unblanked :
    d.unblanked.schemaResourceName db = d.schemaResourceName db := by
  rw [schemaResourceName, namedSchema_unblanked]
  rfl

end Datasource

namespace Catalog
variable (c : Catalog)

def unblanked : Catalog :=
  { c with datasources := Datasource.unblankAll c.datasources }

@[simp] theorem rows_unblanked :
    c.unblanked.datasources.rows = c.datasources.rows.map Datasource.unblanked := rfl

theorem datasource?_unblanked (id : DatasourceId) :
    c.unblanked.datasource? id = (c.datasource? id).map Datasource.unblanked :=
  c.datasources.find?_map Datasource.unblanked Datasource.number_unblanked id.number

theorem putDatasource_unblanked (row : Datasource) :
    c.unblanked.putDatasource row.unblanked = (c.putDatasource row).unblanked := by
  have hput : c.unblanked.datasources.put row.unblanked =
      Datasource.unblankAll (c.datasources.put row) :=
    c.datasources.put_map Datasource.number_unblanked row
  unfold putDatasource
  rw [hput]
  rfl

theorem ensurePermission_unblanked (name : String) : c.unblanked.ensurePermission name =
    ((c.ensurePermission name).1, (c.ensurePermission name).2.unblanked) := by
  have hfound : c.unblanked.permissionNamed? name = c.permissionNamed? name := rfl
  unfold ensurePermission
  rw [hfound]
  split <;> rfl

theorem ensureResource_unblanked (name : String) : c.unblanked.ensureResource name =
    ((c.ensureResource name).1, (c.ensureResource name).2.unblanked) := by
  have hfound : c.unblanked.resourceNamed? name = c.resourceNamed? name := rfl
  unfold ensureResource
  rw [hfound]
  split <;> rfl

theorem ensurePair_unblanked (permission resource : String) :
    (c.unblanked.ensurePair permission resource).2 =
      (c.ensurePair permission resource).2.unblanked := by
  have hfound : ∀ (c : Catalog) p r, c.unblanked.pairOf? p r = c.pairOf? p r := fun _ _ _ => rfl
  simp only [ensurePair, ensurePermission_unblanked, ensureResource_unblanked, hfound]
  split <;> rfl

/-- The derived names read an empty schema as none. -/
theorem settle_unblanked (db : Database) (d : Datasource) :
    c.unblanked.settle db d.unblanked = (c.settle db d).unblanked := by
  have hnamed : d.unblanked.named db = (d.named db).unblanked := by
    rw [Datasource.named, Datasource.schemaResourceName_unblanked]
    rfl
  unfold settle
  simp only [hnamed, putDatasource_unblanked, Datasource.resourceName_unblanked,
    Datasource.schemaResourceName_unblanked, ensurePair_unblanked]
  split <;> rfl

end Catalog

namespace PermissionSync
open Catalog

theorem datasource_unblanked (id : DatasourceId) (c : Catalog) :
    datasource id c.unblanked = (datasource id c).map Catalog.unblanked := by
  cases hd : c.datasource? id with
  | none =>
    have hd' : c.unblanked.datasource? id = none := by rw [datasource?_unblanked, hd]; rfl
    simp only [datasource, hd, hd']
    rfl
  | some d =>
    have hd' : c.unblanked.datasource? id = some d.unblanked := by
      rw [datasource?_unblanked, hd]
      rfl
    cases hdb : d.databaseId.bind c.database? with
    | none =>
      rw [sync_orphan hd hdb, sync_orphan hd' hdb]
      rfl
    | some db =>
      rw [sync_datasource hd hdb, sync_datasource hd' hdb, settle_unblanked]
      rfl

theorem children_unblanked (ds : List Datasource) (c : Catalog) :
    (ds.map Datasource.unblanked).foldlM (fun c d => datasource d.id c) c.unblanked =
      (ds.foldlM (fun c d => datasource d.id c) c).map Catalog.unblanked := by
  induction ds generalizing c with
  | nil => rfl
  | cons d ds ih =>
    simp only [List.map_cons, List.foldlM_cons]
    have hd : datasource d.unblanked.id c.unblanked = (datasource d.id c).map Catalog.unblanked :=
      datasource_unblanked d.id c
    rw [hd]
    cases datasource d.id c with
    | error e => rfl
    | ok next => exact ih next

theorem database_unblanked (id : DatabaseId) (c : Catalog) :
    database id c.unblanked = (database id c).map Catalog.unblanked := by
  have hfound : c.unblanked.database? id = c.database? id := rfl
  unfold database
  rw [hfound]
  cases c.database? id with
  | none => rfl
  | some db =>
    simp only [ensurePair_unblanked]
    generalize (c.ensurePair PermissionName.databaseAccess db.resourceName).2 = paired
    have hset : paired.unblanked.setDatabasePerm id db.resourceName =
        (paired.setDatabasePerm id db.resourceName).map Catalog.unblanked := by
      have hfound : paired.unblanked.database? id = paired.database? id := rfl
      unfold setDatabasePerm
      rw [hfound]
      cases paired.database? id <;> rfl
    rw [hset]
    split
    · rfl
    · cases paired.setDatabasePerm id db.resourceName with
      | error e => rfl
      | ok mended =>
        have hchildren : mended.unblanked.datasources.rows.filter (·.databaseId == some id) =
            (mended.datasources.rows.filter (·.databaseId == some id)).map
              Datasource.unblanked := by
          simp only [rows_unblanked, List.filter_map]
          rfl
        simp only [bind, Except.bind, Except.map, hchildren]
        exact children_unblanked _ mended

/-- The hooks cannot tell an empty schema from none. -/
theorem hook_unblanked (w : Written) (c : Catalog) :
    hook w c.unblanked = (hook w c).map Catalog.unblanked := by
  cases w with
  | database id => exact database_unblanked id c
  | datasource id => exact datasource_unblanked id c

end PermissionSync

namespace Store
variable (s : Store)

def unblanked : Store := { s with catalog := s.catalog.unblanked }

theorem transact_unblanked {f g : Catalog → Except StoreError Catalog}
    (h : ∀ c, g c.unblanked = (f c).map Catalog.unblanked) :
    (s.unblanked.transact id fun c => (g c).map ((), ·)).map (·.2) =
      ((s.transact id fun c => (f c).map ((), ·)).map (·.2)).map unblanked := by
  obtain ⟨catalog, hooks, poisoned⟩ := s
  cases poisoned with
  | true => rfl
  | false =>
    have hg : g catalog.unblanked = (f catalog).map Catalog.unblanked := h catalog
    simp only [transact, read, unblanked, Bool.false_eq_true, ↓reduceIte, hg]
    cases f catalog <;> rfl

theorem saves_unblanked (hooks : s.hooks = standard.hooks) :
    (∀ row, s.unblanked.saveDatabase row = (s.saveDatabase row).map unblanked) ∧
    ∀ row, s.unblanked.saveDatasource row.unblanked = (s.saveDatasource row).map unblanked := by
  have hrun : ∀ w (c : Catalog), runHooks s.hooks w c.unblanked =
      (runHooks s.hooks w c).map Catalog.unblanked := by
    intro w c
    have hone : ∀ c, runHooks s.hooks w c = PermissionSync.hook w c := by
      intro c
      rw [hooks]
      exact bind_pure _
    rw [hone, hone, PermissionSync.hook_unblanked]
  constructor
  · intro row
    exact s.transact_unblanked fun c => hrun (.database row.id) (c.putDatabase row)
  · intro row
    refine s.transact_unblanked fun c => ?_
    rw [Catalog.putDatasource_unblanked]
    exact hrun (.datasource row.id) (c.putDatasource row)

/-- Two stores save what differs in no more than an empty schema in place of none with the same
outcome, but for that. -/
structure SavesAlike (s t : Store) : Prop where
  databases : ∀ row, (s.saveDatabase row).map unblanked = (t.saveDatabase row).map unblanked
  datasources : ∀ d e : Datasource, d.unblanked = e.unblanked →
    (s.saveDatasource d).map unblanked = (t.saveDatasource e).map unblanked

theorem savesAlike {s t : Store} (hooks : s.hooks = standard.hooks)
    (h : s.unblanked = t.unblanked) : SavesAlike s t := by
  have hooks' : t.hooks = standard.hooks := by
    rw [← hooks]
    exact (congrArg Store.hooks h).symm
  constructor
  · intro row
    rw [← (s.saves_unblanked hooks).1, ← (t.saves_unblanked hooks').1, h]
  · intro d e hd
    rw [← (s.saves_unblanked hooks).2, ← (t.saves_unblanked hooks').2, h, hd]

end Store

namespace Viewer
variable (v : Viewer)

def unblanked : Viewer := { v with catalog := v.catalog.unblanked }

@[simp] theorem catalog_unblanked : v.unblanked.catalog = v.catalog.unblanked := rfl

theorem probe_unblanked (d : Datasource) : v.unblanked.probe d.unblanked = v.probe d := by
  funext p
  cases p <;> rfl

theorem requireDatasource_unblanked (d : Datasource) :
    v.unblanked.requireAccess (.datasource d.unblanked) = v.requireAccess (.datasource d) := by
  simp only [requireAccess, canAccessDatasource, grantingProbe?, probe_unblanked,
    Denial.datasource, Datasource.displayName_unblanked]
  rfl

theorem reachesTable_unblanked (db : Database) (t : Table) :
    v.unblanked.reachesTable db t = v.reachesTable db t := by
  have hfound : v.unblanked.catalog.datasourcesNamed db.id t.name t.schema =
      (v.catalog.datasourcesNamed db.id t.name t.schema).map Datasource.unblanked := by
    simp only [Catalog.datasourcesNamed, catalog_unblanked, Catalog.rows_unblanked,
      List.filter_map, Function.comp_def, Datasource.namedSchema_unblanked]
    rfl
  unfold reachesTable
  rw [hfound, List.any_map]
  rfl

theorem requireTables_unblanked (db : Database) (ts : List Table) :
    v.unblanked.requireTables db ts = v.requireTables db ts := by
  simp only [requireTables, reachesTable_unblanked]
  rfl

theorem requireTable_unblanked (db : Database) (t : Table) :
    v.unblanked.requireAccess (.table db t) = v.requireAccess (.table db t) := by
  simp only [requireAccess, requireTables_unblanked]
  rfl

theorem requireQuery_unblanked (db : Database) (sql : String) (schema : Option String) :
    v.unblanked.requireAccess (.query db sql schema) = v.requireAccess (.query db sql schema) := by
  simp only [requireAccess, requireTables_unblanked]
  rfl

theorem listsTable_unblanked (db : Database) (schema : Option String) (t : Table) :
    v.unblanked.listsTable db schema t = v.listsTable db schema t := by
  simp only [listsTable, catalog_unblanked, Catalog.rows_unblanked, List.any_map,
    Function.comp_def, Datasource.namedSchema_unblanked]
  rfl

theorem reachableTables_unblanked (db : Database) (ts : List Table) (schema : Option String) :
    v.unblanked.reachableTables db ts schema = v.reachableTables db ts schema := by
  simp only [reachableTables, funext (v.listsTable_unblanked db schema)]
  rfl

theorem holdsDatasourceIn_unblanked (db : Database) (s : String) :
    v.unblanked.holdsDatasourceIn db s = v.holdsDatasourceIn db s := by
  simp only [holdsDatasourceIn, catalog_unblanked, Catalog.rows_unblanked, List.any_map,
    Function.comp_def, Datasource.namedSchema_unblanked]
  rfl

theorem reachableSchemas_unblanked (db : Database) (schemas : List String) (hierarchical : Bool) :
    v.unblanked.reachableSchemas db schemas hierarchical =
      v.reachableSchemas db schemas hierarchical := by
  simp only [reachableSchemas, holdsDatasourceIn_unblanked]
  rfl

theorem addDatasourcesOf_unblanked (found : Ledger Datasource) (db : Database) :
    v.unblanked.addDatasourcesOf (Datasource.unblankAll found) db =
      Datasource.unblankAll (v.addDatasourcesOf found db) := by
  have hrows : v.unblanked.catalog.datasources.rows.filter (·.databaseId == some db.id) =
      (v.catalog.datasources.rows.filter (·.databaseId == some db.id)).map
        Datasource.unblanked := List.filter_map
  unfold addDatasourcesOf
  rw [hrows, List.foldl_map]
  exact List.foldl_hom Datasource.unblankAll fun l d =>
    Ledger.putNew_map Datasource.number_unblanked l d

theorem datasources_unblanked :
    v.unblanked.datasources = v.datasources.map Datasource.unblanked := by
  have hheld : v.unblanked.catalog.datasources.filter v.unblanked.holdsNamed =
      Datasource.unblankAll (v.catalog.datasources.filter v.holdsNamed) :=
    Ledger.filter_map _ _ fun _ => rfl
  unfold datasources
  rw [hheld]
  exact congrArg Ledger.rows (List.foldl_hom Datasource.unblankAll v.addDatasourcesOf_unblanked)

/-- Two principals get the same answers about datasources that differ in no more than an empty
schema in place of none, the same answers about tables and queries, and the same lists. -/
structure AnswersAlike (v w : Viewer) : Prop where
  probes : ∀ d e : Datasource, d.unblanked = e.unblanked → v.probe d = w.probe e
  datasources : ∀ d e : Datasource, d.unblanked = e.unblanked →
    v.requireAccess (.datasource d) = w.requireAccess (.datasource e)
  tables : ∀ db t, v.requireAccess (.table db t) = w.requireAccess (.table db t)
  queries : ∀ db sql schema,
    v.requireAccess (.query db sql schema) = w.requireAccess (.query db sql schema)
  listedTables : ∀ db ts schema, v.reachableTables db ts schema = w.reachableTables db ts schema
  listedSchemas : ∀ db schemas hierarchical,
    v.reachableSchemas db schemas hierarchical = w.reachableSchemas db schemas hierarchical
  listed : v.datasources.map Datasource.unblanked = w.datasources.map Datasource.unblanked

theorem answersAlike {v w : Viewer} (h : v.unblanked = w.unblanked) : AnswersAlike v w where
  probes d e hd := by rw [← v.probe_unblanked, ← w.probe_unblanked, h, hd]
  datasources d e hd := by
    rw [← v.requireDatasource_unblanked, ← w.requireDatasource_unblanked, h, hd]
  tables db t := by rw [← v.requireTable_unblanked, ← w.requireTable_unblanked, h]
  queries db sql schema := by
    rw [← v.requireQuery_unblanked, ← w.requireQuery_unblanked, h]
  listedTables db ts schema := by
    rw [← v.reachableTables_unblanked, ← w.reachableTables_unblanked, h]
  listedSchemas db schemas hierarchical := by
    rw [← v.reachableSchemas_unblanked, ← w.reachableSchemas_unblanked, h]
  listed := by rw [← v.datasources_unblanked, ← w.datasources_unblanked, h]

variable {v} {db : Database} {name : String} {schema : Option String}

/-- A datasource of the database, over a table of that name, is held directly. -/
def HoldsOver (v : Viewer) (db : Database) (name : String) : Prop :=
  ∃ d ∈ v.catalog.datasources.rows, d.databaseId = some db.id ∧ d.tableName = name ∧
    v.probe d .directGrant = true

/-- A datasource of the database, over a table of that name outside every schema, is held directly
or by its schema. -/
def ListsOver (v : Viewer) (db : Database) (name : String) : Prop :=
  ∃ d ∈ v.catalog.datasources.rows, d.databaseId = some db.id ∧ d.tableName = name ∧
    d.namedSchema = none ∧ (v.probe d .schemaGrant = true ∨ v.probe d .directGrant = true)

/-- A stored datasource never goes by the empty schema, so a table that is asked for with it meets
none. -/
theorem namedSchema_ne_blank (d : Datasource) : d.namedSchema ≠ some "" := by
  intro h
  simpa using (Option.filter_eq_some_iff.mp h).2

/-- With an empty schema a table has neither a schema to hold nor a datasource over it: only the
whole database opens it. -/
theorem canAccessTable_blank :
    v.canAccessTable db ⟨some "", name⟩ = v.canAccessDatabase db := by
  have hnone : v.catalog.datasourcesNamed db.id name (some "") = [] := by
    simp [Catalog.datasourcesNamed, namedSchema_ne_blank]
  have hschema : ResourceName.schema db.name (some "") = none := rfl
  simp [canAccessTable, reachesTable, hnone, hschema]

theorem canAccessTable_plain_iff : v.canAccessTable db ⟨none, name⟩ = true ↔
    v.canAccessDatabase db = true ∨ v.HoldsOver db name := by
  have hschema : ResourceName.schema db.name none = none := rfl
  simp [canAccessTable, reachesTable, hschema, Catalog.datasourcesNamed, HoldsOver, probe,
    and_assoc]

/-- Under a fallback schema the listing does not look at the table's own. -/
theorem keepsTable_of_fallback (h : schema.filter (· ≠ "") ≠ none) (own own' : Option String) :
    v.keepsTable db schema ⟨own, name⟩ = v.keepsTable db schema ⟨own', name⟩ := by
  obtain ⟨s, hs⟩ := Option.ne_none_iff_exists'.mp h
  simp only [keepsTable, listsTable, hs]

theorem keepsTable_blank (h : schema.filter (· ≠ "") = none) :
    v.keepsTable db schema ⟨some "", name⟩ = v.canAccessDatabase db := by
  have hlists : v.listsTable db schema ⟨some "", name⟩ = false := by
    rw [Bool.eq_false_iff]
    intro hlists
    obtain ⟨d, _, _, _, hblank, _⟩ := listsTable_iff.mp hlists
    rw [schemaListed, h] at hblank
    exact namedSchema_ne_blank d hblank
  have hschema : ResourceName.schema db.name schema = none := by
    rw [ResourceName.schema, h]
    rfl
  simp [keepsTable, hschema, hlists]

theorem keepsTable_plain_iff (h : schema.filter (· ≠ "") = none) :
    v.keepsTable db schema ⟨none, name⟩ = true ↔
      v.canAccessDatabase db = true ∨ v.ListsOver db name := by
  have hschema : ResourceName.schema db.name schema = none := by
    rw [ResourceName.schema, h]
    rfl
  have hlists : v.listsTable db schema ⟨none, name⟩ = true ↔ v.ListsOver db name := by
    rw [listsTable_iff, schemaListed, h]
    rfl
  simp [keepsTable, hschema, hlists]

/-- The two answers differ just for those who hold a datasource over the table and not the whole
database. -/
theorem canAccessTable_blank_eq_iff :
    v.canAccessTable db ⟨some "", name⟩ = v.canAccessTable db ⟨none, name⟩ ↔
      v.canAccessDatabase db = true ∨ ¬ v.HoldsOver db name := by
  rw [canAccessTable_blank, Bool.eq_iff_iff, canAccessTable_plain_iff]
  tauto

/-- Even two refusals differ, since they name the table. -/
theorem requireTable_blank_eq_iff :
    v.requireAccess (.table db ⟨some "", name⟩) = v.requireAccess (.table db ⟨none, name⟩) ↔
      v.canAccessDatabase db = true := by
  constructor
  · intro h
    rw [requireTable_eq, requireTable_eq, canAccessTable_blank] at h
    cases hdb : v.canAccessDatabase db with
    | true => rfl
    | false =>
      rw [hdb] at h
      cases hplain : v.canAccessTable db ⟨none, name⟩ with
      | true => simp [hplain] at h
      | false =>
        -- Both are refused, with texts that name `.name` and `name`.
        have hnames : (Denial.tables [⟨some "", name⟩] v.settings.instructionsLink).extra.lookup
            "tables" =
              (Denial.tables [⟨none, name⟩] v.settings.instructionsLink).extra.lookup "tables" := by
          simp only [hplain, Bool.false_eq_true, ↓reduceIte, Except.error.injEq,
            AccessError.tablesDenied.injEq] at h
          rw [h]
        rw [Denial.lookup_tables, Denial.lookup_tables] at hnames
        simp [Json.toJson, Json.Value.ofString, Table.text] at hnames
  · intro h
    simp [requireAccess, h]

/-- A fallback schema stands in for both, so the lists differ only where there is none. -/
theorem mem_reachableTables_blank_iff {ts : List Table} (hblank : ⟨some "", name⟩ ∈ ts)
    (hplain : ⟨none, name⟩ ∈ ts) :
    ((⟨some "", name⟩ ∈ v.reachableTables db ts schema ↔
        ⟨none, name⟩ ∈ v.reachableTables db ts schema) ↔
      v.canAccessDatabase db = true ∨ schema.filter (· ≠ "") ≠ none ∨ ¬ v.ListsOver db name) := by
  simp only [reachableTables_eq_filter, List.mem_filter, hblank, hplain, true_and]
  by_cases hfallback : schema.filter (· ≠ "") = none
  · rw [keepsTable_blank hfallback, keepsTable_plain_iff hfallback]
    tauto
  · rw [keepsTable_of_fallback hfallback (some "") none]
    exact iff_of_true Iff.rfl (.inr (.inl hfallback))

/-- How a table that is asked for with the empty schema compares with the one without a schema. -/
structure BlankTable (v : Viewer) (db : Database) (name : String) : Prop where
  answered :
    v.requireAccess (.table db ⟨some "", name⟩) = v.requireAccess (.table db ⟨none, name⟩) ↔
      v.canAccessDatabase db = true
  opened : v.canAccessTable db ⟨some "", name⟩ = v.canAccessTable db ⟨none, name⟩ ↔
    v.canAccessDatabase db = true ∨ ¬ v.HoldsOver db name
  listed : ∀ ts fallback, ⟨some "", name⟩ ∈ ts → ⟨none, name⟩ ∈ ts →
    ((⟨some "", name⟩ ∈ v.reachableTables db ts fallback ↔
        ⟨none, name⟩ ∈ v.reachableTables db ts fallback) ↔
      v.canAccessDatabase db = true ∨ fallback.filter (· ≠ "") ≠ none ∨ ¬ v.ListsOver db name)

end Viewer

/-- How a text is extracted with an empty schema for its unqualified names, and with schema `s`. -/
structure Sql.DefaultFilled (sql s : String) : Prop where
  blank : extract sql (some "") = extract sql none
  filled : extract sql (some s) =
      (extract sql none).map (fun ts => .ofList (ts.rows.map (Table.under (some s)))) ↔
    PlainlyQualified sql
  qualified : (∀ ts, extract sql (some s) = some ts → ∀ t ∈ ts.rows, t.schema ≠ none) ↔
    PlainlyQualified sql

/-- A datasource stored with an empty schema goes by the names of one without a schema, and all who
ask get the same answers, whatever is saved further on. A table asked for with an empty schema gets
the answer of one without a schema only from those who may read the whole database. It is open alike
if no datasource over the table is held, and is listed alike also under a fallback schema. In a text
the schema stands wherever none is, unless a name is qualified by the empty name. -/
theorem blank_schema_as_none_iff (v : Viewer) (s : Store)
    (hooks : s.hooks = Store.standard.hooks) :
    (∀ d e : Datasource, d.unblanked = e.unblanked → d.displayName = e.displayName ∧
      ∀ db, d.resourceName db = e.resourceName db ∧
        d.schemaResourceName db = e.schemaResourceName db) ∧
    (∀ t : Store, s.unblanked = t.unblanked → s.SavesAlike t) ∧
    (∀ w : Viewer, v.unblanked = w.unblanked → v.AnswersAlike w) ∧
    (∀ db name, v.BlankTable db name) ∧
    ∀ sql schema, schema ≠ "" → Sql.DefaultFilled sql schema := by
  refine ⟨?_, fun _ => Store.savesAlike hooks, fun _ => Viewer.answersAlike, ?_, ?_⟩
  · intro d e h
    rw [← d.displayName_unblanked, ← e.displayName_unblanked, h]
    refine ⟨rfl, fun db => ?_⟩
    rw [← d.resourceName_unblanked, ← e.resourceName_unblanked, ← d.schemaResourceName_unblanked,
      ← e.schemaResourceName_unblanked, h]
    exact ⟨rfl, rfl⟩
  · intro db name
    exact ⟨Viewer.requireTable_blank_eq_iff, Viewer.canAccessTable_blank_eq_iff,
      fun _ _ => Viewer.mem_reachableTables_blank_iff⟩
  · intro sql schema hs
    exact ⟨Sql.extract_blank sql, Sql.extract_default_iff sql hs, Sql.extract_qualified_iff sql hs⟩

/-- A datasource over `t` without a schema is saved alike if it says so by an empty one, and one
who may read the whole database gets one answer about `t`. A text that names a table of a schema and
one without is extracted with the schema `s` filled in. -/
theorem blank_schema_saved_and_read :
    let db : Database := ⟨⟨1⟩, "a", some "[a].(id:1)"⟩
    let d : Datasource := ⟨⟨7⟩, some ⟨1⟩, some "", "t", none, none, true⟩
    let e : Datasource := { d with schema := none }
    let reader := Viewer.holderOf PermissionName.databaseAccess "[a].(id:1)" [db]
    (Store.standard.saveDatasource d).map Store.unblanked =
        (Store.standard.saveDatasource e).map Store.unblanked ∧
      (reader [d]).requireAccess (.datasource d) = (reader [e]).requireAccess (.datasource e) ∧
      (reader [d]).requireAccess (.table db ⟨some "", "t"⟩) =
        (reader [d]).requireAccess (.table db ⟨none, "t"⟩) ∧
      (Sql.extract "SELECT * FROM t, p.u" (some "s")).map (·.rows) =
        some [⟨some "p", "u"⟩, ⟨some "s", "t"⟩] := by
  intro db d e reader
  obtain ⟨_, hsaved, hanswered, hblank, hfilled⟩ :=
    blank_schema_as_none_iff (reader [d]) Store.standard rfl
  have hread : Sql.sources? "SELECT * FROM t, p.u" =
      some [.query false [] [.table ["t"], .table ["p", "u"]]] := by cbv
  have hplain : Sql.PlainlyQualified "SELECT * FROM t, p.u" := by
    intro sources hsources
    obtain rfl := Option.some.inj (hread.symm.trans hsources)
    decide
  refine ⟨(hsaved _ rfl).datasources d e rfl, ?_, ?_, ?_⟩
  · exact (hanswered (reader [e]) rfl).datasources d e rfl
  · exact (hblank db "t").answered.mpr (by decide +kernel)
  · rw [(hfilled _ "s" (by decide)).filled.mpr hplain, Sql.extract, hread]
    decide +kernel

/-- One who holds only the datasource over `t` may read `t` without a schema and is listed it, but
not with an empty one. A table that a text qualifies by the empty name stays without a schema when
`s` stands for those that lack one. -/
theorem blank_schema_not_as_none :
    let db : Database := ⟨⟨1⟩, "a", some "[a].(id:1)"⟩
    let d : Datasource := ⟨⟨7⟩, some ⟨1⟩, none, "t", some "[a].[t](id:7)", none, true⟩
    let v := Viewer.holderOf PermissionName.datasourceAccess "[a].[t](id:7)" [db] [d]
    (v.requireAccess (.table db ⟨none, "t"⟩) = .ok () ∧
      v.requireAccess (.table db ⟨some "", "t"⟩) =
        .error (.tablesDenied (Denial.tables [⟨some "", "t"⟩] none))) ∧
    v.reachableTables db [⟨none, "t"⟩, ⟨some "", "t"⟩] none = [⟨none, "t"⟩] ∧
    (Sql.extract "SELECT * FROM \"\".t" none).map (·.rows) = some [⟨none, "t"⟩] ∧
    (Sql.extract "SELECT * FROM \"\".t" (some "s")).map (·.rows) = some [⟨none, "t"⟩] := by
  intro db d v
  have hread : Sql.sources? "SELECT * FROM \"\".t" =
      some [.query false [] [.table ["", "t"]]] := by cbv
  have hdb : v.canAccessDatabase db = false := by decide +kernel
  refine ⟨⟨?_, ?_⟩, ?_, ?_, ?_⟩
  · rw [Viewer.requireTable_iff]
    decide +kernel
  · rw [Viewer.requireTable_eq, Viewer.canAccessTable_blank, hdb]
    rfl
  · decide +kernel
  · rw [Sql.extract, hread]
    decide +kernel
  · rw [Sql.extract, hread]
    decide +kernel

end Turnstile
