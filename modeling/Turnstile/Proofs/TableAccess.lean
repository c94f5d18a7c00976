import Turnstile.Proofs.StoredNames
import Turnstile.Access.Viewer

namespace Turnstile
open Catalog

/-- All stored names are the derived ones. -/
structure Catalog.NamesDerived (c : Catalog) : Prop where
  databases : ∀ db ∈ c.databases.rows, db.perm = some db.resourceName
  datasources : ∀ d ∈ c.datasources.rows, ∀ db ∈ c.databases.rows,
    d.databaseId = some db.id → d.Carries db

/-- The datasource stands for that table of the database. -/
structure Datasource.IsOver (d : Datasource) (db : Database) (t : Table) : Prop where
  database : d.databaseId = some db.id
  schema : d.schema = t.schema
  name : d.tableName = t.name

namespace Viewer
variable {v : Viewer} {db : Database} {d : Datasource} {t : Table} {s : String}

/-- One of the first four ways to a datasource is open: not those through dashboards. -/
def isGranted (v : Viewer) (d : Datasource) : Bool := (Probe.order.take 4).any (v.probe d)

/-- The grants on a datasource whose database is stored. -/
theorem isGranted_eq (hdb : db ∈ v.catalog.databases.rows) (hd : d.databaseId = some db.id) :
    v.isGranted d = (v.canAccessDatabase db ||
      d.schemaPerm.any (v.canAccess PermissionName.schemaAccess) ||
      d.perm.any (v.canAccess PermissionName.datasourceAccess)) := by
  have hfound : d.databaseId.bind v.catalog.database? = some db := by
    rw [hd]
    exact (v.catalog.ownIds.databases db.id db).mpr ⟨hdb, rfl⟩
  have hprobe : v.probe d .databaseGrant = v.canAccessDatabase db := by
    rw [probe, hfound]
    rfl
  -- full access to the database includes the universal grant
  have huniversal : (v.canAccessAllDatasources || v.canAccessDatabase db) =
      v.canAccessDatabase db := by
    simp only [canAccessDatabase, ← Bool.or_assoc, Bool.or_self]
  change (v.canAccessAllDatasources || (v.probe d .databaseGrant || (_ || (_ || false)))) = _
  rw [hprobe, Bool.or_false, ← Bool.or_assoc, huniversal, Bool.or_assoc]
  rfl

/-- Under a schema that is not empty the datasources found are those over the table. -/
theorem mem_datasourcesNamed (hs : s ≠ "") {name : String} :
    d ∈ v.catalog.datasourcesNamed db.id name (some s) ↔
      d ∈ v.catalog.datasources.rows ∧ d.IsOver db ⟨some s, name⟩ := by
  have hschema : d.namedSchema = some s ↔ d.schema = some s := by
    unfold Datasource.namedSchema
    rw [Option.filter_eq_some_iff]
    exact and_iff_left (by simpa using hs)
  rw [datasourcesNamed, List.mem_filter]
  refine and_congr_right fun _ => ?_
  simp only [Option.isNone_some, Bool.false_or, Bool.and_eq_true, beq_iff_eq, hschema]
  exact ⟨fun h => ⟨h.1.1, h.2, h.1.2⟩, fun h => ⟨⟨h.database, h.name⟩, h.schema⟩⟩

/-- The name of the schema that is asked for is the one stored with the datasource. -/
theorem schemaPerm_eq (derived : v.catalog.NamesDerived) (hdb : db ∈ v.catalog.databases.rows)
    (hd : d ∈ v.catalog.datasources.rows) (hover : d.IsOver db t) :
    d.schemaPerm = ResourceName.schema db.name t.schema := by
  rw [(derived.datasources d hd db hdb hover.database).schemaPerm, ← hover.schema]
  unfold Datasource.schemaResourceName ResourceName.schema Datasource.namedSchema
  rw [Option.filter_filter]
  simp

theorem requireTable_iff :
    v.requireAccess (.table db t) = .ok () ↔ v.canAccessTable db t = true := by
  unfold requireAccess canAccessTable
  cases hd : v.canAccessDatabase db <;> cases ht : v.reachesTable db t <;>
    simp [requireTables, hd, ht]

/-- A table with a schema is open just if some datasource over it is granted, provided there is
one at all. -/
theorem table_open_iff_granted (v : Viewer) (db : Database) (s name : String)
    (derived : v.catalog.NamesDerived) (hdb : db ∈ v.catalog.databases.rows) (hs : s ≠ "")
    (backed : ∃ d ∈ v.catalog.datasources.rows, d.IsOver db ⟨some s, name⟩) :
    (v.canAccessTable db ⟨some s, name⟩ = true ↔
      ∃ d ∈ v.catalog.datasources.rows, d.IsOver db ⟨some s, name⟩ ∧ v.isGranted d = true) ∧
    (v.requireAccess (.table db ⟨some s, name⟩) = .ok () ↔
      v.canAccessTable db ⟨some s, name⟩ = true) := by
  refine ⟨?_, requireTable_iff⟩
  have hgranted : ∀ d ∈ v.catalog.datasources.rows, d.IsOver db ⟨some s, name⟩ →
      (v.isGranted d = true ↔ v.canAccessDatabase db = true ∨
        (ResourceName.schema db.name (some s)).any (v.canAccess PermissionName.schemaAccess) = true
        ∨ d.perm.any (v.canAccess PermissionName.datasourceAccess) = true) := by
    intro d hd hover
    rw [isGranted_eq hdb hover.database, schemaPerm_eq derived hdb hd hover]
    simp only [Bool.or_eq_true, or_assoc]
  unfold canAccessTable reachesTable
  rw [Bool.or_eq_true, Bool.or_eq_true, List.any_eq_true]
  constructor
  · rintro (h | h | ⟨d, hd, h⟩)
    · obtain ⟨d, hd, hover⟩ := backed
      exact ⟨d, hd, hover, (hgranted d hd hover).mpr (.inl h)⟩
    · obtain ⟨d, hd, hover⟩ := backed
      exact ⟨d, hd, hover, (hgranted d hd hover).mpr (.inr (.inl h))⟩
    · obtain ⟨hd, hover⟩ := (mem_datasourcesNamed hs).mp hd
      exact ⟨d, hd, hover, (hgranted d hd hover).mpr (.inr (.inr h))⟩
  · rintro ⟨d, hd, hover, h⟩
    rcases (hgranted d hd hover).mp h with h | h | h
    · exact .inl h
    · exact .inr (.inl h)
    · exact .inr (.inr ⟨d, (mem_datasourcesNamed hs).mpr ⟨hd, hover⟩, h⟩)

def schemaReader : Viewer where
  catalog := { Catalog.empty with
    counter := 4
    permissions := .ofList [⟨⟨1⟩, PermissionName.schemaAccess⟩]
    resources := .ofList [⟨⟨2⟩, "[a].[s]"⟩]
    pairs := .ofList [⟨⟨3⟩, ⟨1⟩, ⟨2⟩⟩]
    roles := .ofList [⟨⟨4⟩, "Reader", .ofIds [⟨3⟩]⟩]
    databases := .ofList [⟨⟨1⟩, "a", some "[a].(id:1)"⟩]
    datasources := .ofList
      [⟨⟨7⟩, some ⟨1⟩, some "s", "t", some "[a].[t](id:7)", some "[a].[s]", true⟩] }
  settings := .standard
  principal := .user ⟨5⟩ [⟨4⟩]
  extract := .blank

theorem schemaReader_granted :
    ∃ d ∈ schemaReader.catalog.datasources.rows,
      d.IsOver ⟨⟨1⟩, "a", some "[a].(id:1)"⟩ ⟨some "s", "t"⟩ ∧ schemaReader.isGranted d = true := by
  have derived : schemaReader.catalog.NamesDerived := by
    refine ⟨by decide +kernel, ?_⟩
    intro d hd db hdb _
    obtain rfl := List.mem_singleton.mp hd
    obtain rfl := List.mem_singleton.mp hdb
    exact ⟨by decide +kernel, by decide +kernel⟩
  refine (table_open_iff_granted schemaReader ⟨⟨1⟩, "a", some "[a].(id:1)"⟩ "s" "t" derived
    (by decide +kernel) (by decide) ?_).1.mp (by decide +kernel)
  exact ⟨⟨⟨7⟩, some ⟨1⟩, some "s", "t", some "[a].[t](id:7)", some "[a].[s]", true⟩,
    by decide +kernel, rfl, rfl, rfl⟩

end Viewer
end Turnstile
