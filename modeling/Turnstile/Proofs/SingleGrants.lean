import Turnstile.Proofs.AccessChecks
import Turnstile.Proofs.ResourceNames

namespace Turnstile.Viewer
variable {v : Viewer} {permission resource : String} {db : Database} {d : Datasource} {t : Table}

/-- A user, not a guest, who holds the pair of these names and no other, where dashboards open no
datasource. -/
structure HoldsOnly (v : Viewer) (permission resource : String) : Prop where
  user : v.isGuest = false
  roles_off : v.settings.dashboardRoles = false
  pairs : ∀ p, p ∈ v.pairs ↔ p = (permission, resource)

/-- The target is denied, and no other error comes up. -/
def Refuses (v : Viewer) (target : Target) : Prop :=
  ∃ e, v.requireAccess target = .error e ∧ e.isDenial = true

/-- A check on a table fails in one way only. -/
theorem refuses_table_iff : v.Refuses (.table db t) ↔ v.requireAccess (.table db t) ≠ .ok () := by
  constructor
  · rintro ⟨e, he, _⟩ hok
    rw [hok] at he
    cases he
  · intro hne
    cases hdb : v.canAccessDatabase db with
    | true => simp [requireAccess, hdb] at hne
    | false =>
      cases ht : v.reachesTable db t with
      | true => simp [requireAccess, requireTables, hdb, ht] at hne
      | false =>
        refine ⟨.tablesDenied (Denial.tables [t] v.settings.instructionsLink), ?_, rfl⟩
        simp [requireAccess, requireTables, hdb, ht]

theorem refuses_datasource_iff :
    v.Refuses (.datasource d) ↔ v.requireAccess (.datasource d) ≠ .ok () := by
  constructor
  · rintro ⟨e, he, _⟩ hok
    rw [hok] at he
    cases he
  · intro hne
    cases hd : v.canAccessDatasource d with
    | true => simp [requireAccess, hd] at hne
    | false =>
      refine ⟨.datasourceDenied (Denial.datasource d v.settings.instructionsLink), ?_, rfl⟩
      simp [requireAccess, hd]

namespace HoldsOnly

section
variable (h : v.HoldsOnly permission resource)
include h

theorem canAccess_iff {p r : String} :
    v.canAccess p r = true ↔ p = permission ∧ r = resource := by
  rw [Viewer.canAccess_iff, h.pairs, Prod.mk.injEq]

theorem canAccess_any {p : String} {r? : Option String} :
    r?.any (v.canAccess p) = true ↔ p = permission ∧ r? = some resource := by
  rw [Option.any_eq_true]
  simp only [h.canAccess_iff]
  constructor
  · rintro ⟨r, hr, hp, rfl⟩
    exact ⟨hp, hr⟩
  · rintro ⟨hp, hr⟩
    exact ⟨resource, hr, hp, rfl⟩

/-- A pair on a single object gives no access to all data. -/
theorem not_all (hobject : permission ∈ PermissionName.onObjects) :
    v.canAccessAllDatasources = false ∧ v.canAccessAllDatabases = false := by
  have hall : ∀ p, p ∉ PermissionName.onObjects → v.canAccess p p = false := by
    intro p hp
    rw [Bool.eq_false_iff, Ne, h.canAccess_iff]
    rintro ⟨rfl, _⟩
    exact hp hobject
  exact ⟨hall _ (by decide), hall _ (by decide)⟩

theorem canAccessDatabase_iff (hobject : permission ∈ PermissionName.onObjects) :
    v.canAccessDatabase db = true ↔
      permission = PermissionName.databaseAccess ∧ db.perm.getD db.resourceName = resource := by
  obtain ⟨hds, hdb⟩ := h.not_all hobject
  unfold canAccessDatabase
  rw [hds, hdb, Bool.false_or, Bool.false_or, h.canAccess_iff, eq_comm]

/-- A single pair reaches a table through its schema or through a datasource over it. -/
theorem reachesTable_iff : v.reachesTable db t = true ↔
    (permission = PermissionName.schemaAccess ∧
      ResourceName.schema db.name t.schema = some resource) ∨
    (permission = PermissionName.datasourceAccess ∧
      ∃ d ∈ v.catalog.datasourcesNamed db.id t.name t.schema, d.perm = some resource) := by
  unfold reachesTable
  rw [Bool.or_eq_true, List.any_eq_true]
  simp only [h.canAccess_any]
  constructor
  · rintro (⟨hp, hr⟩ | ⟨d, hd, hp, hr⟩)
    · exact .inl ⟨hp.symm, hr⟩
    · exact .inr ⟨hp.symm, d, hd, hr⟩
  · rintro (⟨hp, hr⟩ | ⟨hp, d, hd, hr⟩)
    · exact .inl ⟨hp.symm, hr⟩
    · exact .inr ⟨d, hd, hp.symm, hr⟩

/-- Dashboards play no part. -/
theorem not_through_dashboard : v.probe d .dashboardRelationship = false := by
  simp [probe, h.roles_off, h.user]

/-- On an object the single pair opens through the way of its own kind only. -/
theorem requireDatasource_iff (hobject : permission ∈ PermissionName.onObjects) :
    v.requireAccess (.datasource d) = .ok () ↔
      (permission = PermissionName.databaseAccess ∧
        ∃ db, d.databaseId.bind v.catalog.database? = some db ∧
          db.perm.getD db.resourceName = resource) ∨
      (permission = PermissionName.schemaAccess ∧ d.schemaPerm = some resource) ∨
      (permission = PermissionName.datasourceAccess ∧ d.perm = some resource) := by
  have hdatabase : v.probe d .databaseGrant = true ↔ permission = PermissionName.databaseAccess ∧
      ∃ db, d.databaseId.bind v.catalog.database? = some db ∧
        db.perm.getD db.resourceName = resource := by
    simp only [probe, Option.any_eq_true, h.canAccessDatabase_iff hobject]
    constructor
    · rintro ⟨db, hdb, hp, hr⟩
      exact ⟨hp, db, hdb, hr⟩
    · rintro ⟨hp, db, hdb, hr⟩
      exact ⟨db, hdb, hp, hr⟩
  rw [Viewer.requireDatasource_iff]
  constructor
  · rintro ⟨p, hp⟩
    cases p with
    | universalGrant => simp [probe, (h.not_all hobject).1] at hp
    | databaseGrant => exact .inl (hdatabase.mp hp)
    | schemaGrant =>
      obtain ⟨rfl, hr⟩ := h.canAccess_any.mp hp
      exact .inr (.inl ⟨rfl, hr⟩)
    | directGrant =>
      obtain ⟨rfl, hr⟩ := h.canAccess_any.mp hp
      exact .inr (.inr ⟨rfl, hr⟩)
    | dashboardRelationship => simp [h.not_through_dashboard] at hp
  · rintro (hp | ⟨rfl, hr⟩ | ⟨rfl, hr⟩)
    · exact ⟨.databaseGrant, hdatabase.mpr hp⟩
    · exact ⟨.schemaGrant, h.canAccess_any.mpr ⟨rfl, hr⟩⟩
    · exact ⟨.directGrant, h.canAccess_any.mpr ⟨rfl, hr⟩⟩

end

theorem requireDatasource_database
    (h : v.HoldsOnly PermissionName.databaseAccess resource) :
    v.requireAccess (.datasource d) = .ok () ↔
      ∃ db, d.databaseId.bind v.catalog.database? = some db ∧
        db.perm.getD db.resourceName = resource := by
  rw [h.requireDatasource_iff (by decide)]
  constructor
  · rintro (⟨_, hdb⟩ | ⟨hp, _⟩ | ⟨hp, _⟩)
    · exact hdb
    · exact absurd hp (by decide)
    · exact absurd hp (by decide)
  · intro hdb
    exact .inl ⟨rfl, hdb⟩

theorem requireDatasource_schema (h : v.HoldsOnly PermissionName.schemaAccess resource) :
    v.requireAccess (.datasource d) = .ok () ↔ d.schemaPerm = some resource := by
  rw [h.requireDatasource_iff (by decide)]
  constructor
  · rintro (⟨hp, _⟩ | ⟨_, hname⟩ | ⟨hp, _⟩)
    · exact absurd hp (by decide)
    · exact hname
    · exact absurd hp (by decide)
  · intro hname
    exact .inr (.inl ⟨rfl, hname⟩)

theorem requireDatasource_direct (h : v.HoldsOnly PermissionName.datasourceAccess resource) :
    v.requireAccess (.datasource d) = .ok () ↔ d.perm = some resource := by
  rw [h.requireDatasource_iff (by decide)]
  constructor
  · rintro (⟨hp, _⟩ | ⟨hp, _⟩ | ⟨_, hname⟩)
    · exact absurd hp (by decide)
    · exact absurd hp (by decide)
    · exact hname
  · intro hname
    exact .inr (.inr ⟨rfl, hname⟩)

theorem canAccessTable_database (h : v.HoldsOnly PermissionName.databaseAccess resource) :
    v.canAccessTable db t = true ↔ db.perm.getD db.resourceName = resource := by
  have hreach : v.reachesTable db t = false := by
    rw [Bool.eq_false_iff, Ne, h.reachesTable_iff]
    rintro (⟨hp, _⟩ | ⟨hp, _⟩) <;> exact absurd hp (by decide)
  unfold canAccessTable
  rw [hreach, Bool.or_false, h.canAccessDatabase_iff (by decide)]
  exact and_iff_right rfl

theorem canAccessTable_schema (h : v.HoldsOnly PermissionName.schemaAccess resource) :
    v.canAccessTable db t = true ↔ ResourceName.schema db.name t.schema = some resource := by
  have hdb : v.canAccessDatabase db = false := by
    rw [Bool.eq_false_iff, Ne, h.canAccessDatabase_iff (by decide)]
    rintro ⟨hp, _⟩
    exact absurd hp (by decide)
  unfold canAccessTable
  rw [hdb, Bool.false_or, h.reachesTable_iff]
  constructor
  · rintro (⟨_, hname⟩ | ⟨hp, _⟩)
    · exact hname
    · exact absurd hp (by decide)
  · intro hname
    exact .inl ⟨rfl, hname⟩

end HoldsOnly

/-- A user whose only role holds one pair. -/
def holderOf (permission resource : String) (databases : List Database)
    (datasources : List Datasource) : Viewer where
  catalog := { Catalog.empty with
    counter := 4
    permissions := .ofList [⟨⟨1⟩, permission⟩]
    resources := .ofList [⟨⟨2⟩, resource⟩]
    pairs := .ofList [⟨⟨3⟩, ⟨1⟩, ⟨2⟩⟩]
    roles := .ofList [⟨⟨4⟩, "Reader", .ofIds [⟨3⟩]⟩]
    databases := .ofList databases
    datasources := .ofList datasources }
  settings := .standard
  principal := .user ⟨5⟩ [⟨4⟩]
  extract := .blank

theorem holderOf_holdsOnly (permission resource : String) (databases : List Database)
    (datasources : List Datasource) :
    (holderOf permission resource databases datasources).HoldsOnly permission resource := by
  have hpairs : (holderOf permission resource databases datasources).pairs =
      [(permission, resource)] := rfl
  refine ⟨rfl, rfl, fun p => ?_⟩
  rw [hpairs, List.mem_singleton]

/-- The identifier in a name tells stored datasources apart. -/
theorem datasource_eq_of_name_eq {c : Catalog} {e : Datasource} {db' : Database}
    (hd : d ∈ c.datasources.rows) (he : e ∈ c.datasources.rows)
    (h : e.resourceName db' = d.resourceName db) : e = d :=
  Ledger.eq_of_number_eq he hd (congrArg Id.number (ResourceName.id_of_datasource_eq h))

theorem database_eq_of_name_eq {c : Catalog} {b : Database} (hdb : db ∈ c.databases.rows)
    (hb : b ∈ c.databases.rows) (h : db.resourceName = b.resourceName) : db = b :=
  Ledger.eq_of_number_eq hdb hb (congrArg Id.number (ResourceName.database_inj.mp h).2)

/-- Of the datasources that have a stored database a pair on one of them opens that one alone. A
pair on a database opens the datasources of that database and its tables, and no others. Names make
no difference, as long as the stored ones are the derived ones. -/
theorem object_grant_opens_its_object (v : Viewer) (derived : v.catalog.NamesDerived) :
    (∀ d ∈ v.catalog.datasources.rows, ∀ db ∈ v.catalog.databases.rows,
      d.databaseId = some db.id →
      v.HoldsOnly PermissionName.datasourceAccess (d.resourceName db) →
      ∀ e ∈ v.catalog.datasources.rows, ∀ db' ∈ v.catalog.databases.rows,
        e.databaseId = some db'.id →
        (v.requireAccess (.datasource e) = .ok () ↔ e = d)) ∧
    (∀ b ∈ v.catalog.databases.rows,
      v.HoldsOnly PermissionName.databaseAccess b.resourceName →
      (∀ e ∈ v.catalog.datasources.rows,
        v.requireAccess (.datasource e) = .ok () ↔ e.databaseId = some b.id) ∧
      ∀ b' ∈ v.catalog.databases.rows, ∀ t, v.canAccessTable b' t = true ↔ b' = b) := by
  constructor
  · intro d hd db hdb hown only e he db' hdb' hown'
    have hperm := (derived.datasources d hd db hdb hown).perm
    have hperm' := (derived.datasources e he db' hdb' hown').perm
    rw [only.requireDatasource_direct]
    constructor
    · intro hname
      exact datasource_eq_of_name_eq hd he (Option.some.inj (hperm'.symm.trans hname))
    · rintro rfl
      exact hperm
  · intro b hb only
    have hopens : ∀ db ∈ v.catalog.databases.rows,
        (db.perm.getD db.resourceName = b.resourceName ↔ db = b) := by
      intro db hdb
      rw [derived.databases db hdb, Option.getD_some]
      exact ⟨database_eq_of_name_eq hdb hb, congrArg _⟩
    have hfound := v.catalog.ownIds.databases
    constructor
    · intro e he
      rw [only.requireDatasource_database]
      constructor
      · rintro ⟨db, hdb, hname⟩
        obtain ⟨id, hid, hlookup⟩ := Option.bind_eq_some_iff.mp hdb
        obtain ⟨hmem, rfl⟩ := (hfound id db).mp hlookup
        rw [hid, (hopens db hmem).mp hname]
      · intro hown
        refine ⟨b, ?_, (hopens b hb).mpr rfl⟩
        rw [hown]
        exact (hfound b.id b).mpr ⟨hb, rfl⟩
    · intro b' hb' t
      rw [only.canAccessTable_database, hopens b' hb']

def lookalikeDatabases : List Database :=
  [⟨⟨1⟩, "a", some "[a].(id:1)"⟩, ⟨⟨2⟩, "a].[t](id:7)", some "[a].[t](id:7)].(id:2)"⟩]

def lookalike : Datasource :=
  ⟨⟨7⟩, some ⟨1⟩, none, "t", some "[a].[t](id:7)", none, true⟩

def lookalike' : Datasource :=
  ⟨⟨8⟩, some ⟨2⟩, none, "t](id:7", some "[a].[t](id:7)].[t](id:7](id:8)", none, true⟩

theorem lookalike_namesDerived (permission resource : String) :
    (holderOf permission resource lookalikeDatabases
      [lookalike, lookalike']).catalog.NamesDerived := by
  have hcarries : ∀ d ∈ (Ledger.ofList [lookalike, lookalike']).rows,
      ∀ db ∈ (Ledger.ofList lookalikeDatabases).rows, d.databaseId = some db.id →
      d.perm = some (d.resourceName db) ∧ d.schemaPerm = d.schemaResourceName db := by
    decide +kernel
  have hdatabases : ∀ db ∈ (Ledger.ofList lookalikeDatabases).rows,
      db.perm = some db.resourceName := by
    decide +kernel
  exact ⟨hdatabases, fun d hd db hdb hown =>
    ⟨(hcarries d hd db hdb hown).1, (hcarries d hd db hdb hown).2⟩⟩

/-- A pair on the one does not open the other, nor does a pair on its database. -/
theorem lookalike_opens_alone :
    let v := holderOf PermissionName.datasourceAccess "[a].[t](id:7)" lookalikeDatabases
      [lookalike, lookalike']
    let w := holderOf PermissionName.databaseAccess "[a].(id:1)" lookalikeDatabases
      [lookalike, lookalike']
    v.requireAccess (.datasource lookalike) = .ok () ∧
      v.requireAccess (.datasource lookalike') ≠ .ok () ∧
      w.requireAccess (.datasource lookalike) = .ok () ∧
      w.requireAccess (.datasource lookalike') ≠ .ok () := by
  intro v w
  have hv := (object_grant_opens_its_object v (lookalike_namesDerived _ _)).1 lookalike
    (by decide +kernel) ⟨⟨1⟩, "a", some "[a].(id:1)"⟩ (by decide +kernel) rfl
    (holderOf_holdsOnly _ _ _ _)
  have hw := ((object_grant_opens_its_object w (lookalike_namesDerived _ _)).2
    ⟨⟨1⟩, "a", some "[a].(id:1)"⟩ (by decide +kernel) (holderOf_holdsOnly _ _ _ _)).1
  refine ⟨?_, fun hok => ?_, ?_, fun hok => ?_⟩
  · exact (hv lookalike (by decide +kernel) ⟨⟨1⟩, "a", some "[a].(id:1)"⟩ (by decide +kernel)
      rfl).mpr rfl
  · have heq := (hv lookalike' (by decide +kernel)
      ⟨⟨2⟩, "a].[t](id:7)", some "[a].[t](id:7)].(id:2)"⟩ (by decide +kernel) rfl).mp hok
    exact absurd heq (by decide)
  · exact (hw lookalike (by decide +kernel)).mpr rfl
  · exact absurd ((hw lookalike' (by decide +kernel)).mp hok) (by decide)

section
variable {name schema : String}
  (hr : ResourceName.schema name (some schema) = some resource)
  (only : v.HoldsOnly PermissionName.schemaAccess resource)
include hr only

/-- Tables in a schema that goes by the name of the granted one. -/
theorem requireTable_schema_iff : v.requireAccess (.table db t) = .ok () ↔
    ∃ s, t.schema = some s ∧ s ≠ "" ∧
      ((name = db.name ∧ schema = s) ∨ ResourceName.Namesakes name schema db.name s) := by
  rw [requireTable_iff, only.canAccessTable_schema, ResourceName.schema_eq_some_iff hr]

theorem requireDatasource_schema_iff (hd : d.Carries db) :
    v.requireAccess (.datasource d) = .ok () ↔ ∃ s, d.namedSchema = some s ∧ s ≠ "" ∧
      ((name = db.name ∧ schema = s) ∨ ResourceName.Namesakes name schema db.name s) := by
  rw [only.requireDatasource_schema, hd.schemaPerm, Datasource.schemaResourceName,
    ResourceName.schema_eq_some_iff hr]

end

/-- A pair on a schema opens no other schema of its database. In another database it opens just the
tables and datasources of those schemas that straddle the granted one or are straddled by it. -/
theorem schema_grant_confined_iff (v : Viewer) (name schema resource : String)
    (hr : ResourceName.schema name (some schema) = some resource)
    (only : v.HoldsOnly PermissionName.schemaAccess resource) :
    (∀ db t s, db.name ≠ name → t.schema = some s → s ≠ "" →
      (v.Refuses (.table db t) ↔ ¬ ResourceName.Namesakes name schema db.name s)) ∧
    (∀ db d, db.name ≠ name → d.Carries db →
      (v.Refuses (.datasource d) ↔
        ∀ s, d.namedSchema = some s → ¬ ResourceName.Namesakes name schema db.name s)) ∧
    ∀ db t, db.name = name → t.schema ≠ some schema → v.Refuses (.table db t) := by
  refine ⟨fun db t s hname ht hs => ?_, fun db d hname hd => ?_, fun db t hname ht => ?_⟩
  · rw [refuses_table_iff, Ne, requireTable_schema_iff hr only, not_iff_not]
    constructor
    · rintro ⟨s', ht', _, ⟨heq, _⟩ | h⟩
      · exact absurd heq.symm hname
      · exact Option.some.inj (ht.symm.trans ht') ▸ h
    · intro h
      exact ⟨s, ht, hs, .inr h⟩
  · rw [refuses_datasource_iff, Ne, requireDatasource_schema_iff hr only hd]
    constructor
    · intro hno s hs h
      exact hno ⟨s, hs, of_decide_eq_true (Option.filter_eq_some_iff.mp hs).2, .inr h⟩
    · rintro hno ⟨s, hs, _, ⟨heq, _⟩ | h⟩
      · exact hname heq.symm
      · exact hno s hs h
  · rw [refuses_table_iff, Ne, requireTable_schema_iff hr only]
    rintro ⟨s, hs, _, ⟨_, rfl⟩ | h⟩
    · exact ht hs
    · exact h.ne hname.symm

/-- Plain names keep the schemas of two databases apart. -/
theorem plain_schema_confined :
    let v := holderOf PermissionName.schemaAccess "[a].[b]"
      [⟨⟨1⟩, "a", some "[a].(id:1)"⟩, ⟨⟨2⟩, "x", some "[x].(id:2)"⟩]
      [⟨⟨7⟩, some ⟨2⟩, some "b", "t", some "[x].[t](id:7)", some "[x].[b]", true⟩]
    v.Refuses (.table ⟨⟨2⟩, "x", some "[x].(id:2)"⟩ ⟨some "b", "t"⟩) ∧
      v.Refuses (.datasource
        ⟨⟨7⟩, some ⟨2⟩, some "b", "t", some "[x].[t](id:7)", some "[x].[b]", true⟩) ∧
      v.Refuses (.table ⟨⟨1⟩, "a", some "[a].(id:1)"⟩ ⟨some "c", "t"⟩) := by
  intro v
  obtain ⟨htable, hdatasource, hown⟩ := schema_grant_confined_iff v "a" "b" "[a].[b]"
    (by decide +kernel) (holderOf_holdsOnly _ _ _ _)
  have hnot : ¬ ResourceName.Namesakes "a" "b" "x" "b" := by
    rintro (h | h) <;> exact absurd h.length_le (by decide)
  refine ⟨(htable _ _ "b" (by decide) rfl (by decide)).mpr hnot, ?_, ?_⟩
  · refine (hdatasource ⟨⟨2⟩, "x", some "[x].(id:2)"⟩ _ (by decide)
      ⟨by decide +kernel, by decide +kernel⟩).mpr ?_
    rintro s hs
    obtain rfl : "b" = s := Option.some.inj hs
    exact hnot
  · exact hown _ _ rfl (by decide)

/-- A pair on the schema `b].[c` of one database opens the schema `c` of another. -/
theorem straddled_schema_opened :
    let v := holderOf PermissionName.schemaAccess "[a].[b].[c]"
      [⟨⟨1⟩, "a", some "[a].(id:1)"⟩, ⟨⟨2⟩, "a].[b", some "[a].[b].(id:2)"⟩]
      [⟨⟨7⟩, some ⟨2⟩, some "c", "t", some "[a].[b].[t](id:7)", some "[a].[b].[c]", true⟩]
    ResourceName.schema "a" (some "b].[c") = some "[a].[b].[c]" ∧
      v.HoldsOnly PermissionName.schemaAccess "[a].[b].[c]" ∧
      Datasource.Carries
        ⟨⟨7⟩, some ⟨2⟩, some "c", "t", some "[a].[b].[t](id:7)", some "[a].[b].[c]", true⟩
        ⟨⟨2⟩, "a].[b", some "[a].[b].(id:2)"⟩ ∧
      v.requireAccess (.table ⟨⟨2⟩, "a].[b", some "[a].[b].(id:2)"⟩ ⟨some "c", "t"⟩) = .ok () ∧
      v.requireAccess (.datasource
        ⟨⟨7⟩, some ⟨2⟩, some "c", "t", some "[a].[b].[t](id:7)", some "[a].[b].[c]", true⟩) =
          .ok () :=
  ⟨by decide +kernel, holderOf_holdsOnly _ _ _ _, ⟨by decide +kernel, by decide +kernel⟩, by rfl,
    by rfl⟩

end Turnstile.Viewer
