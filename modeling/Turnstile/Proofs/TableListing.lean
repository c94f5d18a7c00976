import Turnstile.Proofs.DatasourceListing

namespace Turnstile

/-- The table that is meant under a fallback schema: its own schema, if it has one, goes before. -/
def Table.under (schema : Option String) (t : Table) : Table :=
  match t.schema with
  | some _ => t
  | none => Table.of t.name schema

namespace Viewer
variable {v : Viewer} {db : Database} {t : Table} {tables : List Table} {schema : Option String}
  {s : String}

def keepsTable (v : Viewer) (db : Database) (schema : Option String) (t : Table) : Bool :=
  v.canAccessDatabase db
    || (ResourceName.schema db.name schema).any (v.canAccess PermissionName.schemaAccess)
    || v.listsTable db schema t

theorem reachableTables_eq_filter (v : Viewer) (db : Database) (tables : List Table)
    (schema : Option String) :
    v.reachableTables db tables schema = tables.filter (v.keepsTable db schema) := by
  unfold reachableTables keepsTable
  cases v.canAccessDatabase db with
  | true => simp
  | false =>
    cases (ResourceName.schema db.name schema).any (v.canAccess PermissionName.schemaAccess) with
    | true => simp
    | false => simp

/-- The schema in which the listing looks for a table. -/
def schemaListed (schema : Option String) (t : Table) : Option String :=
  match schema.filter (· ≠ "") with
  | some s => some s
  | none => t.schema

theorem listsTable_iff : v.listsTable db schema t = true ↔
    ∃ d ∈ v.catalog.datasources.rows, d.databaseId = some db.id ∧ d.tableName = t.name ∧
      d.namedSchema = schemaListed schema t ∧
      (v.probe d .schemaGrant = true ∨ v.probe d .directGrant = true) := by
  simp only [listsTable, List.any_eq_true, Bool.and_eq_true, beq_iff_eq, holdsNamed_iff]
  constructor
  · intro h
    obtain ⟨d, hd, ⟨⟨hown, hheld⟩, hname⟩, hschema⟩ := h
    exact ⟨d, hd, hown, hname, hschema, hheld⟩
  · intro h
    obtain ⟨d, hd, hown, hname, hschema, hheld⟩ := h
    exact ⟨d, hd, ⟨⟨hown, hheld⟩, hname⟩, hschema⟩

/-- A datasource of that database, schema and name that is granted by its own pair or by that on its
schema leads to the table. -/
theorem reachesTable_of_granted {d : Datasource} (derived : v.catalog.NamesDerived)
    (hdb : db ∈ v.catalog.databases.rows) (hd : d ∈ v.catalog.datasources.rows)
    (hown : d.databaseId = some db.id)
    (hheld : v.probe d .schemaGrant = true ∨ v.probe d .directGrant = true) :
    v.reachesTable db ⟨d.namedSchema, d.tableName⟩ = true := by
  have hschema : d.schemaPerm = ResourceName.schema db.name d.namedSchema :=
    (derived.datasources d hd db hdb hown).schemaPerm
  unfold reachesTable
  apply Bool.or_eq_true_iff.mpr
  cases hheld with
  | inl hheld => exact .inl (hschema ▸ hheld)
  | inr hheld =>
    have hfound : d ∈ v.catalog.datasourcesNamed db.id d.tableName d.namedSchema := by
      simp [Catalog.datasourcesNamed, hd, hown]
    exact .inr (List.any_eq_true.mpr ⟨d, hfound, hheld⟩)

/-- What the listing finds a datasource for is open in the schema in which it was looked for. -/
theorem canAccessTable_of_lists (derived : v.catalog.NamesDerived)
    (hdb : db ∈ v.catalog.databases.rows) (h : v.listsTable db schema t = true) :
    v.canAccessTable db ⟨schemaListed schema t, t.name⟩ = true := by
  obtain ⟨d, hd, hown, hname, hschema, hheld⟩ := listsTable_iff.mp h
  have hreach := reachesTable_of_granted derived hdb hd hown hheld
  rw [hname, hschema] at hreach
  simp [canAccessTable, hreach]

/-- Without a fallback schema the listing is right about every table that it keeps. -/
theorem canAccessTable_of_keeps (derived : v.catalog.NamesDerived)
    (hdb : db ∈ v.catalog.databases.rows) (hnone : schema.filter (· ≠ "") = none)
    (h : v.keepsTable db schema t = true) : v.canAccessTable db t = true := by
  have hschema : ResourceName.schema db.name schema = none := by
    rw [ResourceName.schema, hnone]
    rfl
  simp only [keepsTable, hschema, Option.any_none, Bool.or_false, Bool.or_eq_true] at h
  cases h with
  | inl hopen => simp [canAccessTable, hopen]
  | inr hlists =>
    have hopen := canAccessTable_of_lists derived hdb hlists
    rw [schemaListed, hnone] at hopen
    exact hopen

/-- With a fallback schema the listing answers for the table of the same name in that schema. -/
theorem keepsTable_eq (derived : v.catalog.NamesDerived) (hdb : db ∈ v.catalog.databases.rows)
    (hs : s ≠ "") : v.keepsTable db (some s) t = v.canAccessTable db ⟨some s, t.name⟩ := by
  have hasked : schemaListed (some s) t = some s := by
    simp [schemaListed, Option.filter, hs]
  rw [Bool.eq_iff_iff]
  constructor
  · intro h
    simp only [keepsTable, Bool.or_eq_true] at h
    rcases h with (hopen | hheld) | hlists
    · simp [canAccessTable, hopen]
    · simp [canAccessTable, reachesTable, hheld]
    · have hopen := canAccessTable_of_lists derived hdb hlists
      rw [hasked] at hopen
      exact hopen
  · intro h
    simp only [canAccessTable, reachesTable, Bool.or_eq_true, List.any_eq_true] at h
    unfold keepsTable
    rcases h with hopen | hheld | ⟨d, hfound, hheld⟩
    · simp [hopen]
    · simp [hheld]
    · obtain ⟨hd, hover⟩ := (mem_datasourcesNamed hs).mp hfound
      have hnamed : d.namedSchema = some s := by
        simp [Datasource.namedSchema, hover.schema, Option.filter, hs]
      have hlists : v.listsTable db (some s) t = true := by
        apply listsTable_iff.mpr
        exact ⟨d, hd, hover.database, hover.name, hnamed.trans hasked.symm, .inr hheld⟩
      simp [hlists]

theorem under_of_filter_none (hnone : schema.filter (· ≠ "") = none) : t.under schema = t := by
  obtain ⟨own, name⟩ := t
  cases own with
  | some own => rfl
  | none => simp only [Table.under, Table.of, hnone]

/-- A table whose namesake in the fallback schema is open is open itself, unless it lies in another
schema. -/
theorem canAccessTable_under_iff (hs : s ≠ "")
    (hnamesake : v.canAccessTable db ⟨some s, t.name⟩ = true) :
    v.canAccessTable db (t.under (some s)) = true ↔
      ∀ own, t.schema = some own → own ≠ s → v.canAccessTable db t = true := by
  obtain ⟨schema, name⟩ := t
  cases schema with
  | none =>
    have hunder : Table.under (some s) ⟨none, name⟩ = ⟨some s, name⟩ := by
      simp [Table.under, Table.of, Option.filter, hs]
    simp [hunder, hnamesake]
  | some own =>
    constructor
    · intro hopen _ _ _
      exact hopen
    · intro hother
      by_cases hsame : own = s
      · subst hsame
        exact hnamesake
      · exact hother own rfl hsame

/-- The listing with a fallback schema keeps just the tables whose namesakes in that schema are
open. So all that it keeps, each read in its own schema or else in the fallback, is open if and only
if every table that names another schema is open when its namesake in the fallback is. Without a
fallback all that it keeps is open. -/
theorem reachableTables_open_iff (v : Viewer) (db : Database) (tables : List Table)
    (schema : Option String) (derived : v.catalog.NamesDerived)
    (hdb : db ∈ v.catalog.databases.rows) :
    ((∀ t ∈ v.reachableTables db tables schema, v.canAccessTable db (t.under schema) = true) ↔
      ∀ s, schema = some s → s ≠ "" → ∀ t ∈ tables, ∀ own, t.schema = some own → own ≠ s →
        v.canAccessTable db ⟨some s, t.name⟩ = true → v.canAccessTable db t = true) ∧
    ∀ s, schema = some s → s ≠ "" → v.reachableTables db tables schema =
      tables.filter fun t => v.canAccessTable db ⟨some s, t.name⟩ := by
  rw [reachableTables_eq_filter]
  have hfiltered : ∀ s, schema = some s → s ≠ "" → tables.filter (v.keepsTable db schema) =
      tables.filter fun t => v.canAccessTable db ⟨some s, t.name⟩ := by
    intro s hschema hs
    subst hschema
    exact List.filter_congr fun t _ => keepsTable_eq derived hdb hs
  refine ⟨?_, hfiltered⟩
  constructor
  · intro hlisted s hschema hs t ht own hown hother hnamesake
    have hopen := hlisted t (by
      rw [hfiltered s hschema hs]
      exact List.mem_filter.mpr ⟨ht, hnamesake⟩)
    rw [hschema] at hopen
    exact (canAccessTable_under_iff hs hnamesake).mp hopen own hown hother
  · intro hothers t ht
    cases hfallback : schema.filter (· ≠ "") with
    | none =>
      rw [under_of_filter_none hfallback]
      exact canAccessTable_of_keeps derived hdb hfallback (List.mem_filter.mp ht).2
    | some s =>
      obtain ⟨hschema, hs⟩ := Option.filter_eq_some_iff.mp hfallback
      have hs : s ≠ "" := of_decide_eq_true hs
      rw [hfiltered s hschema hs] at ht
      obtain ⟨hmem, hnamesake⟩ := List.mem_filter.mp ht
      rw [hschema]
      apply (canAccessTable_under_iff hs hnamesake).mpr
      intro own hown hother
      exact hothers s hschema hs t hmem own hown hother hnamesake

/-- One who may read schema `s` of a plainly named database is listed the tables that lie there,
whether they say so or not, and may read them. -/
theorem schema_tables_listed_open :
    let db : Database := ⟨⟨1⟩, "a", some "[a].(id:1)"⟩
    let v := holderOf PermissionName.schemaAccess "[a].[s]" [db] []
    let tables := [Table.of "t" none, Table.of "u" (some "s")]
    v.reachableTables db tables (some "s") = tables ∧
      ∀ t ∈ v.reachableTables db tables (some "s"), v.canAccessTable db (t.under (some "s")) = true
    := by
  intro db v tables
  have derived : v.catalog.NamesDerived := ⟨by decide +kernel, fun d hd => by cases hd⟩
  refine ⟨by decide +kernel, ?_⟩
  apply (reachableTables_open_iff v db tables (some "s") derived (by decide +kernel)).1.mpr
  intro s hs _ t ht own hown hother
  cases hs
  have howned : ∀ t ∈ tables, t.schema = none ∨ t.schema = some "s" := by decide
  cases howned t ht with
  | inl hnone => simp [hnone] at hown
  | inr hsame => exact absurd (Option.some.inj (hown.symm.trans hsame)) hother

/-- A table of schema `p` is listed to one who may read schema `s` only, and to one who may read
only the datasource over the table of the same name in schema `s`, if they ask with `s` for a
fallback. Neither may read it. -/
theorem foreign_table_listed_under_fallback :
    let db : Database := ⟨⟨1⟩, "a", some "[a].(id:1)"⟩
    let d : Datasource :=
      ⟨⟨7⟩, some ⟨1⟩, some "s", "t", some "[a].[t](id:7)", some "[a].[s]", true⟩
    let v := holderOf PermissionName.schemaAccess "[a].[s]" [db] [d]
    let w := holderOf PermissionName.datasourceAccess "[a].[t](id:7)" [db] [d]
    let foreign := Table.of "t" (some "p")
    (v.catalog.NamesDerived ∧ w.catalog.NamesDerived ∧ db ∈ v.catalog.databases.rows ∧
      db ∈ w.catalog.databases.rows) ∧
    (v.reachableTables db [foreign] (some "s") = [foreign] ∧
      v.canAccessTable db (foreign.under (some "s")) = false) ∧
    w.reachableTables db [foreign] (some "s") = [foreign] ∧
      w.canAccessTable db (foreign.under (some "s")) = false := by
  intro db d v w foreign
  have hcarries : ∀ e ∈ (Ledger.ofList [d]).rows, ∀ b ∈ (Ledger.ofList [db]).rows, e.Carries b := by
    intro e he b hb
    obtain rfl := List.mem_singleton.mp he
    obtain rfl := List.mem_singleton.mp hb
    exact ⟨by decide +kernel, by decide +kernel⟩
  have hnamed : ∀ b ∈ (Ledger.ofList [db]).rows, b.perm = some b.resourceName := by
    decide +kernel
  have hderived : ∀ permission resource,
      (holderOf permission resource [db] [d]).catalog.NamesDerived := fun _ _ =>
    ⟨hnamed, fun e he b hb _ => hcarries e he b hb⟩
  refine ⟨⟨hderived _ _, hderived _ _, by decide +kernel, by decide +kernel⟩, ?_, ?_⟩
  · exact ⟨by decide +kernel, by decide +kernel⟩
  · exact ⟨by decide +kernel, by decide +kernel⟩

end Viewer
end Turnstile
