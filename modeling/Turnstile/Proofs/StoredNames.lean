import Turnstile.Proofs.NamedPairs
import Turnstile.Catalog.Store

namespace Turnstile
open Catalog
variable {c c' : Catalog} {db : Database} {d : Datasource}

/-- Both stored names are those derived from the database. -/
structure Datasource.Carries (d : Datasource) (db : Database) : Prop where
  perm : d.perm = some (d.resourceName db)
  schemaPerm : d.schemaPerm = d.schemaResourceName db

def Datasource.Wants (d : Datasource) (db : Database) (permission resource : String) : Prop :=
  (permission = PermissionName.datasourceAccess ∧ resource = d.resourceName db) ∨
    (permission = PermissionName.schemaAccess ∧ d.schemaResourceName db = some resource)

namespace Catalog

/-- A datasource carries the names derived from the database and their pairs are stored. -/
structure Settled (c : Catalog) (db : Database) (d : Datasource) : Prop extends d.Carries db where
  pairs : ∀ p r, d.Wants db p r → c.HasPair p r

/-- A database carries its derived name and the pair for access to it is stored. -/
structure Current (c : Catalog) (db : Database) : Prop where
  perm : db.perm = some db.resourceName
  pair : c.HasPair PermissionName.databaseAccess db.resourceName

/-- No stored name is stale. -/
structure Fresh (c : Catalog) : Prop where
  databases : ∀ db ∈ c.databases.rows, c.Current db
  datasources : ∀ d ∈ c.datasources.rows, ∀ db ∈ c.databases.rows,
    d.databaseId = some db.id → c.Settled db d

/-- Saving the row leaves no stale name behind. A row that already carries its derived name is
taken for one that changes nothing, so its datasources are left alone: then they must be those of
a database of the same name, or be settled already. -/
def SafeToSave (c : Catalog) (row : Database) : Prop :=
  row.perm = some row.resourceName →
    ∀ d ∈ c.datasources.rows, d.databaseId = some row.id →
      match c.database? row.id with
      | some old => old.name = row.name
      | none => c.Settled row d

end Catalog

def Datasource.named (d : Datasource) (db : Database) : Datasource :=
  { d with perm := some (d.resourceName db), schemaPerm := d.schemaResourceName db }

theorem Datasource.named_of_carries (h : d.Carries db) : d.named db = d := by
  unfold named
  rw [← h.perm, ← h.schemaPerm]

theorem Datasource.carries_named (d : Datasource) (db : Database) : (d.named db).Carries db :=
  ⟨rfl, rfl⟩

/-- Only the database's name goes into the names of its datasources. -/
theorem Catalog.Settled.of_name {other : Database} (h : c.Settled db d)
    (hn : db.name = other.name) : c.Settled other d := by
  have hr : d.resourceName db = d.resourceName other := by
    simp only [Datasource.resourceName, hn]
  have hs : d.schemaResourceName db = d.schemaResourceName other := by
    simp only [Datasource.schemaResourceName, hn]
  refine ⟨⟨hr ▸ h.perm, hs ▸ h.schemaPerm⟩, ?_⟩
  intro p r hw
  apply h.pairs
  unfold Datasource.Wants
  rw [hr, hs]
  exact hw

/-- A datasource carries the names of databases of one name only. -/
theorem Datasource.Carries.name_eq {other : Database} (h : d.Carries db) (h' : d.Carries other) :
    db.name = other.name := by
  have he : d.resourceName db = d.resourceName other := Option.some.inj (h.perm.symm.trans h'.perm)
  simpa [resourceName, ResourceName.datasource, String.ext_iff] using he

/-- The names of some datasources of a database are stored anew, with their pairs. -/
structure Settles (c c' : Catalog) (db : Database) (ds : List Datasource) : Prop where
  intact : c'.Intact
  sided : c'.Sided
  databases : c'.databases = c.databases
  datasources : ∀ x, x ∈ c'.datasources.rows ↔
    (∃ d ∈ ds, x = d.named db) ∨ (x ∈ c.datasources.rows ∧ ∀ d ∈ ds, x.id ≠ d.id)
  pairs : ∀ p r, c'.HasPair p r ↔ c.HasPair p r ∨ ∃ d ∈ ds, d.Wants db p r

theorem Settles.nil (h : c.Intact) (hs : c.Sided) : Settles c c db [] :=
  ⟨h, hs, rfl, by simp, by simp⟩

/-- Datasources are settled one after the other, each without touching the others. -/
theorem Settles.cons {e : Catalog} {ds : List Datasource} (h : Settles c c' db [d])
    (h' : Settles c' e db ds) (hne : ∀ x ∈ ds, d.id ≠ x.id) : Settles c e db (d :: ds) := by
  refine ⟨h'.intact, h'.sided, h'.databases.trans h.databases, ?_, ?_⟩
  · intro x
    rw [h'.datasources, h.datasources]
    simp only [List.mem_cons, List.not_mem_nil, or_false, exists_eq_left, exists_eq_or_imp,
      forall_eq_or_imp, forall_eq]
    constructor
    · rintro (hx | ⟨rfl | ⟨hx, hd⟩, ho⟩)
      · exact .inl (.inr hx)
      · exact .inl (.inl rfl)
      · exact .inr ⟨hx, hd, ho⟩
    · rintro ((rfl | hx) | ⟨hx, hd, ho⟩)
      · exact .inr ⟨.inl rfl, hne⟩
      · exact .inl hx
      · exact .inr ⟨.inr ⟨hx, hd⟩, ho⟩
  · intro p r
    rw [h'.pairs, h.pairs]
    simp [or_assoc]

theorem mem_putDatasource {x : Datasource} : x ∈ (c.putDatasource d).datasources.rows ↔
    x = d ∨ (x ∈ c.datasources.rows ∧ x.id ≠ d.id) :=
  Ledger.mem_put.trans (or_congr_right (and_congr_right fun _ => not_congr Id.number_inj))

/-- The catalog with the datasource's names stored, and with their pairs. -/
def Catalog.settle (c : Catalog) (db : Database) (d : Datasource) : Catalog :=
  let c := (c.putDatasource (d.named db)).ensurePair PermissionName.datasourceAccess
    (d.resourceName db) |>.2
  match d.schemaResourceName db with
  | none => c
  | some s => (c.ensurePair PermissionName.schemaAccess s).2

theorem settle_settles (h : c.Intact) (hs : c.Sided) (db : Database) (d : Datasource) :
    Settles c (c.settle db d) db [d] := by
  have hg := SameGrants.putDatasource c (d.named db)
  have h₁ := ensurePair_ensured (hg.intact h) (hg.sided hs) PermissionName.datasourceAccess
    (d.resourceName db)
  have hmem : ∀ x, x ∈ (c.putDatasource (d.named db)).datasources.rows ↔
      (∃ d' ∈ [d], x = d'.named db) ∨ (x ∈ c.datasources.rows ∧ ∀ d' ∈ [d], x.id ≠ d'.id) := by
    intro x
    simp only [List.mem_singleton, exists_eq_left, forall_eq]
    exact mem_putDatasource
  unfold settle
  dsimp only
  split
  · rename_i hn
    refine ⟨h₁.intact, h₁.sided, h₁.grows.entities.databases, ?_, ?_⟩
    · rw [h₁.grows.entities.datasources]
      exact hmem
    · intro p r
      rw [h₁.pairs, hg.hasPair_iff]
      simp [Datasource.Wants, hn]
  · rename_i s hn
    have h₂ := ensurePair_ensured h₁.intact h₁.sided PermissionName.schemaAccess s
    refine ⟨h₂.intact, h₂.sided, ?_, ?_, ?_⟩
    · exact h₂.grows.entities.databases.trans h₁.grows.entities.databases
    · rw [h₂.grows.entities.datasources, h₁.grows.entities.datasources]
      exact hmem
    · intro p r
      rw [h₂.pairs, h₁.pairs, hg.hasPair_iff]
      simp [Datasource.Wants, hn, or_assoc, eq_comm]

theorem putDatasource_named {id : DatasourceId} (hd : c.datasource? id = some d)
    (h : d.Carries db) : c.putDatasource (d.named db) = c := by
  have hid : d.id = id := ((c.ownIds.datasources id d).mp hd).2
  subst hid
  rw [Datasource.named_of_carries h]
  unfold putDatasource
  rw [Ledger.put_self hd]

theorem setDatasourcePerms_named {id : DatasourceId} (hd : c.datasource? id = some d)
    (db : Database) :
    c.setDatasourcePerms id (d.resourceName db) (d.schemaResourceName db) =
      .ok (c.putDatasource (d.named db)) := by
  unfold setDatasourcePerms
  rw [hd]
  rfl

/-- The names are compared only to spare a write that would change nothing. -/
theorem sync_datasource {id : DatasourceId} (hd : c.datasource? id = some d)
    (hdb : d.databaseId.bind c.database? = some db) :
    PermissionSync.datasource id c = .ok (c.settle db d) := by
  unfold PermissionSync.datasource settle
  simp only [hd, hdb]
  split
  · rename_i hc
    rw [putDatasource_named hd ⟨hc.1, hc.2⟩]
    cases d.schemaResourceName db <;> rfl
  · rw [setDatasourcePerms_named hd]
    cases d.schemaResourceName db <;> rfl

theorem sync_orphan {id : DatasourceId} (hd : c.datasource? id = some d)
    (hdb : d.databaseId.bind c.database? = none) : PermissionSync.datasource id c = .ok c := by
  unfold PermissionSync.datasource
  simp only [hd, hdb]

/-- The datasources are distinct rows of the database, so each is still as it was when its turn
comes. -/
theorem sync_children (h : c.Intact) (hs : c.Sided) (hdb : c.database? db.id = some db)
    (ds : List Datasource) (hds : ∀ d ∈ ds, d ∈ c.datasources.rows ∧ d.databaseId = some db.id)
    (distinct : ds.Pairwise fun a b => a.id ≠ b.id) :
    ∃ c', ds.foldlM (fun c d => PermissionSync.datasource d.id c) c = .ok c' ∧
      Settles c c' db ds := by
  induction ds generalizing c with
  | nil => exact ⟨c, rfl, .nil h hs⟩
  | cons d ds ih =>
    obtain ⟨hne, distinct⟩ := List.pairwise_cons.mp distinct
    obtain ⟨hd, hid⟩ := hds d (by simp)
    have hsync : PermissionSync.datasource d.id c = .ok (c.settle db d) := by
      refine sync_datasource ((c.ownIds.datasources d.id d).mpr ⟨hd, rfl⟩) ?_
      rw [hid]
      exact hdb
    have h₁ := settle_settles h hs db d
    have hdb₁ : (c.settle db d).database? db.id = some db := by
      unfold database?
      rw [h₁.databases]
      exact hdb
    have hds₁ : ∀ e ∈ ds, e ∈ (c.settle db d).datasources.rows ∧ e.databaseId = some db.id := by
      intro e he
      obtain ⟨hmem, hide⟩ := hds e (by simp [he])
      refine ⟨(h₁.datasources e).mpr (.inr ⟨hmem, ?_⟩), hide⟩
      simpa using (hne e he).symm
    obtain ⟨c', hrun, h₂⟩ := ih h₁.intact h₁.sided hdb₁ hds₁ distinct
    refine ⟨c', ?_, h₁.cons h₂ hne⟩
    rw [List.foldlM_cons, hsync]
    exact hrun

def Catalog.datasourcesOf (c : Catalog) (id : DatabaseId) : List Datasource :=
  c.datasources.rows.filter (·.databaseId == some id)

theorem mem_datasourcesOf {id : DatabaseId} :
    d ∈ c.datasourcesOf id ↔ d ∈ c.datasources.rows ∧ d.databaseId = some id := by
  rw [datasourcesOf, List.mem_filter, beq_iff_eq]

theorem datasourcesOf_distinct (c : Catalog) (id : DatabaseId) :
    (c.datasourcesOf id).Pairwise fun a b => a.id ≠ b.id := by
  refine (c.datasources.ascending.filter _).imp ?_
  intro a b hlt he
  exact Nat.ne_of_lt hlt (congrArg Id.number he)

/-- The datasources of a database are all settled, and none of the steps fails. -/
theorem sync_datasourcesOf (h : c.Intact) (hs : c.Sided) (hdb : c.database? db.id = some db) :
    ∃ c', (c.datasourcesOf db.id).foldlM (fun c d => PermissionSync.datasource d.id c) c = .ok c' ∧
      Settles c c' db (c.datasourcesOf db.id) :=
  sync_children h hs hdb _ (fun _ hd => mem_datasourcesOf.mp hd) (datasourcesOf_distinct c db.id)

theorem Settles.settled {x : Datasource} (h : Settles c c' db (c.datasourcesOf db.id))
    (hx : x ∈ c'.datasources.rows) :
    (x.databaseId = some db.id ∧ c'.Settled db x) ∨
      (x.databaseId ≠ some db.id ∧ x ∈ c.datasources.rows) := by
  rcases (h.datasources x).mp hx with ⟨d, hd, rfl⟩ | ⟨hx, hne⟩
  · refine .inl ⟨(mem_datasourcesOf.mp hd).2, d.carries_named db, ?_⟩
    exact fun p r hw => (h.pairs p r).mpr (.inr ⟨d, hd, hw⟩)
  · refine .inr ⟨fun hxi => ?_, hx⟩
    exact hne x (mem_datasourcesOf.mpr ⟨hx, hxi⟩) rfl

end Turnstile
