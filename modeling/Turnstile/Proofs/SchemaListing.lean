import Turnstile.Proofs.SingleGrants

namespace Turnstile.Viewer
variable {v : Viewer} {db : Database} {schema : String}

/-- The principal holds the pair on the schema of that name. -/
def HoldsSchema (v : Viewer) (databaseName schema : String) : Prop :=
  ∃ r ∈ ResourceName.schema databaseName (some schema), (PermissionName.schemaAccess, r) ∈ v.pairs

/-- The principal holds the pair on a datasource of the schema, by the stored name. -/
def HoldsDatasourceOf (v : Viewer) (db : Database) (schema : String) : Prop :=
  ∃ d ∈ v.catalog.datasources.rows, d.databaseId = some db.id ∧ d.schema = some schema ∧
    ∃ r ∈ d.perm, (PermissionName.datasourceAccess, r) ∈ v.pairs

/-- All of the database is open, or a pair is held on the schema or on a datasource of it. -/
def OpensSchema (v : Viewer) (db : Database) (schema : String) : Prop :=
  v.canAccessDatabase db = true ∨ v.HoldsSchema db.name schema ∨ v.HoldsDatasourceOf db schema

instance {databaseName : String} : Decidable (v.HoldsSchema databaseName schema) :=
  inferInstanceAs (Decidable (∃ r ∈ ResourceName.schema databaseName (some schema), _ ∈ v.pairs))

instance : Decidable (v.HoldsDatasourceOf db schema) :=
  inferInstanceAs (Decidable (∃ d ∈ v.catalog.datasources.rows, _ ∧ _ ∧ ∃ r ∈ d.perm, _ ∈ v.pairs))

instance : Decidable (v.OpensSchema db schema) :=
  inferInstanceAs (Decidable (_ ∨ _ ∨ _))

/-- The principal holds a name that the listing reads as the schema. -/
def HoldsReadAs (v : Viewer) (databaseName schema : String) : Prop :=
  ∃ other, ResourceName.Unseparated other ∧ ResourceName.StartsUnder databaseName other schema ∧
    v.HoldsSchema other schema

/-- The principal holds a name that is read as the schema, but of a database whose name goes on
behind the given one with a closing bracket and a dot. -/
def HoldsBehind (v : Viewer) (databaseName schema : String) : Prop :=
  ∃ more, ResourceName.Unseparated (databaseName ++ "]." ++ more) ∧
    v.HoldsSchema (databaseName ++ "]." ++ more) schema

theorem holdsSchema_iff {databaseName : String} (hs : schema ≠ "") :
    v.HoldsSchema databaseName schema ↔
      (PermissionName.schemaAccess, "[" ++ databaseName ++ "].[" ++ schema ++ "]") ∈ v.pairs := by
  simp [HoldsSchema, ResourceName.schema_some hs]

/-- The listing reads the schema off the text of what is held, and never looks at a stored
database. -/
theorem holdsSchemaNamed_iff (hs : schema ≠ "") :
    v.holdsSchemaNamed db schema = true ↔ v.HoldsReadAs db.name schema := by
  simp only [holdsSchemaNamed, HoldsReadAs, List.any_eq_true, Bool.and_eq_true, Option.any_eq_true,
    mem_resourceNames, holdsSchema_iff hs, beq_iff_eq]
  constructor
  · rintro ⟨name, hheld, hstarts, ⟨other, _⟩, hread, rfl⟩
    obtain ⟨rfl, hother⟩ := ResourceName.unpackSchema_eq_some_iff.mp hread
    exact ⟨other, hother, ResourceName.isPrefixOf_schema_iff.mp hstarts, hheld⟩
  · rintro ⟨other, hother, hstarts, hheld⟩
    exact ⟨_, hheld, ResourceName.isPrefixOf_schema_iff.mpr hstarts, (other, schema),
      ResourceName.unpackSchema_eq_some_iff.mpr ⟨rfl, hother⟩, rfl⟩

theorem holdsDatasourceIn_iff (hs : schema ≠ "") :
    v.holdsDatasourceIn db schema = true ↔ v.HoldsDatasourceOf db schema := by
  simp only [holdsDatasourceIn, HoldsDatasourceOf, List.any_eq_true, Bool.and_eq_true, beq_iff_eq,
    Option.any_eq_true, canAccess_iff, Datasource.namedSchema, Option.filter_eq_some_iff,
    decide_eq_true_eq, and_assoc, hs, ne_eq, not_false_eq_true, true_and, Option.mem_def]

def listsSchema (v : Viewer) (db : Database) (schema : String) : Bool :=
  v.canAccessDatabase db || (v.holdsSchemaNamed db schema || v.holdsDatasourceIn db schema)

theorem reachableSchemas_eq_filter (v : Viewer) (db : Database) (schemas : List String) :
    v.reachableSchemas db schemas true = schemas.filter (v.listsSchema db) := by
  unfold reachableSchemas listsSchema
  cases v.canAccessDatabase db with
  | true => simp
  | false => simp

theorem listsSchema_iff (hs : schema ≠ "") : v.listsSchema db schema = true ↔
    v.canAccessDatabase db = true ∨ v.HoldsReadAs db.name schema ∨
      v.HoldsDatasourceOf db schema := by
  rw [listsSchema, Bool.or_eq_true, Bool.or_eq_true, holdsSchemaNamed_iff hs,
    holdsDatasourceIn_iff hs]

/-- The listing is right about a schema that is open anyway, and about any other if it finds a name
for it just when its own name is held. -/
theorem listsSchema_eq_iff (hs : schema ≠ "") :
    v.listsSchema db schema = decide (v.OpensSchema db schema) ↔
      v.canAccessDatabase db = true ∨ v.HoldsDatasourceOf db schema ∨
        (v.HoldsReadAs db.name schema ↔ v.HoldsSchema db.name schema) := by
  rw [Bool.eq_iff_iff, listsSchema_iff hs, decide_eq_true_iff, OpensSchema]
  tauto

theorem filter_eq_filter_iff {α : Type} {p q : α → Bool} {xs : List α} :
    xs.filter p = xs.filter q ↔ ∀ x ∈ xs, p x = q x := by
  refine ⟨fun h x hx => ?_, List.filter_congr⟩
  have hmem : x ∈ xs.filter p ↔ x ∈ xs.filter q := by rw [h]
  simp only [List.mem_filter, hx, true_and] at hmem
  exact Bool.eq_iff_iff.mpr hmem

/-- A name that is held is found under a database whose own name has no separator. -/
theorem holdsReadAs_iff {databaseName : String} (hdb : ResourceName.Unseparated databaseName) :
    v.HoldsReadAs databaseName schema ↔
      v.HoldsSchema databaseName schema ∨ v.HoldsBehind databaseName schema := by
  constructor
  · rintro ⟨other, hother, hstarts, hheld⟩
    rcases hstarts.eq_or_longer hdb with rfl | ⟨more, rfl⟩
    · exact .inl hheld
    · exact .inr ⟨more, hother, hheld⟩
  · rintro (hheld | ⟨more, hother, hheld⟩)
    · exact ⟨databaseName, hdb, .inl rfl, hheld⟩
    · exact ⟨_, hother, .inr (.inl ⟨more, rfl⟩), hheld⟩

/-- The listing keeps exactly the schemas that are open if and only if it finds a held name for just
those whose own name is held, apart from schemas that are open anyway. Under a database whose name
has no separator that is to say that every schema it finds by the name of a longer database is
open. -/
theorem reachableSchemas_exact_iff (v : Viewer) (db : Database) (schemas : List String)
    (nonempty : ∀ s ∈ schemas, s ≠ "") :
    (v.reachableSchemas db schemas true = schemas.filter (v.OpensSchema db ·) ↔
      ∀ s ∈ schemas, v.canAccessDatabase db = true ∨ v.HoldsDatasourceOf db s ∨
        (v.HoldsReadAs db.name s ↔ v.HoldsSchema db.name s)) ∧
    (ResourceName.Unseparated db.name →
      (v.reachableSchemas db schemas true = schemas.filter (v.OpensSchema db ·) ↔
        ∀ s ∈ schemas, v.HoldsBehind db.name s → v.OpensSchema db s)) := by
  have hexact : v.reachableSchemas db schemas true = schemas.filter (v.OpensSchema db ·) ↔
      ∀ s ∈ schemas, v.canAccessDatabase db = true ∨ v.HoldsDatasourceOf db s ∨
        (v.HoldsReadAs db.name s ↔ v.HoldsSchema db.name s) := by
    rw [reachableSchemas_eq_filter, filter_eq_filter_iff]
    exact forall₂_congr fun s hs => listsSchema_eq_iff (nonempty s hs)
  refine ⟨hexact, fun hdb => hexact.trans (forall₂_congr fun s _ => ?_)⟩
  rw [holdsReadAs_iff hdb, or_iff_left_iff_imp, OpensSchema]
  tauto

/-- A schema of a plainly named database is listed as often as it is asked for, and no other. -/
theorem plain_schema_listed :
    let db : Database := ⟨⟨1⟩, "a", some "[a].(id:1)"⟩
    let v := holderOf PermissionName.schemaAccess "[a].[s]" [db] []
    v.reachableSchemas db ["s", "t", "s"] true = ["s", "s"] := by
  intro db v
  have hnonempty : ∀ s ∈ ["s", "t", "s"], s ≠ "" := by decide
  have hdb : ResourceName.Unseparated db.name := by
    unfold ResourceName.Unseparated
    decide
  have hpairs : v.pairs = [(PermissionName.schemaAccess, "[a].[s]")] := by decide +kernel
  have hopen : ["s", "t", "s"].filter (v.OpensSchema db ·) = ["s", "s"] := by decide +kernel
  rw [← hopen]
  refine ((reachableSchemas_exact_iff v db _ hnonempty).2 hdb).mpr ?_
  rintro s hs ⟨more, _, hheld⟩
  -- a name that goes on behind the database's is longer than the only one that is held
  rw [holdsSchema_iff (hnonempty s hs), hpairs, List.mem_singleton] at hheld
  have hlength := congrArg String.length (Prod.mk.inj hheld).2
  simp only [String.length_append] at hlength
  have hbrackets : "[".length = 1 ∧ "].".length = 2 ∧ "].[".length = 3 ∧ "]".length = 1 ∧
      db.name.length = 1 ∧ "[a].[s]".length = 7 := by decide
  omega

/-- The schema `s` of the database `a].x` is listed under `a`, where the check refuses it; the schema
`c` of the database `a].[b`, which is held, is not listed. -/
theorem schema_listed_under_other_database :
    let a : Database := ⟨⟨1⟩, "a", some "[a].(id:1)"⟩
    let longer : Database := ⟨⟨2⟩, "a].x", some "[a].x].(id:2)"⟩
    let separated : Database := ⟨⟨3⟩, "a].[b", some "[a].[b].(id:3)"⟩
    let v := holderOf PermissionName.schemaAccess "[a].x].[s]" [a, longer] []
    let w := holderOf PermissionName.schemaAccess "[a].[b].[c]" [a, separated] []
    ResourceName.schema longer.name (some "s") = some "[a].x].[s]" ∧
      v.reachableSchemas a ["s"] true = ["s"] ∧ ¬ v.OpensSchema a "s" ∧
      v.Refuses (.table a ⟨some "s", "t"⟩) ∧
      ResourceName.schema separated.name (some "c") = some "[a].[b].[c]" ∧
      w.reachableSchemas separated ["c"] true = [] ∧ w.OpensSchema separated "c" := by
  refine ⟨by decide +kernel, by decide +kernel, by decide +kernel, ?_, by decide +kernel,
    by decide +kernel, by decide +kernel⟩
  rw [refuses_table_iff, Ne, requireTable_iff]
  decide +kernel

end Turnstile.Viewer
