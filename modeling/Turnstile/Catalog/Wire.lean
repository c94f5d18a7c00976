import Turnstile.Catalog.Entity

namespace Turnstile
open Json

instance : ToJson Permission where
  toJson r := .ofMembers [("id", toJson r.id), ("name", toJson r.name)]
instance : FromJson Permission where
  ofJson? v := do
    let r ← v.record? ["id", "name"]
    some ⟨← r.required "id", ← r.required "name"⟩

instance : ToJson Resource where
  toJson r := .ofMembers [("id", toJson r.id), ("name", toJson r.name)]
instance : FromJson Resource where
  ofJson? v := do
    let r ← v.record? ["id", "name"]
    some ⟨← r.required "id", ← r.required "name"⟩

instance : ToJson Pair where
  toJson r := .ofMembers [("id", toJson r.id), ("permission_id", toJson r.permissionId),
    ("resource_id", toJson r.resourceId)]
instance : FromJson Pair where
  ofJson? v := do
    let r ← v.record? ["id", "permission_id", "resource_id"]
    some ⟨← r.required "id", ← r.required "permission_id", ← r.required "resource_id"⟩

instance : ToJson Role where
  toJson r := .ofMembers [("id", toJson r.id), ("name", toJson r.name),
    ("pvm_ids", toJson r.pairIds)]
instance : FromJson Role where
  ofJson? v := do
    let r ← v.record? ["id", "name", "pvm_ids"]
    some ⟨← r.required "id", ← r.required "name", ← r.required "pvm_ids"⟩

instance : ToJson User where
  toJson r := .ofMembers [("id", toJson r.id), ("username", toJson r.username),
    ("role_ids", toJson r.roleIds)]
instance : FromJson User where
  ofJson? v := do
    let r ← v.record? ["id", "username", "role_ids"]
    some ⟨← r.required "id", ← r.required "username", ← r.required "role_ids"⟩

instance : ToJson Database where
  toJson r := .ofMembers [("id", toJson r.id), ("name", toJson r.name), ("perm", toJson r.perm)]
instance : FromJson Database where
  ofJson? v := do
    let r ← v.record? ["id", "name", "perm"]
    some ⟨← r.required "id", ← r.required "name", ← r.optional "perm"⟩

instance : ToJson Datasource where
  toJson r := .ofMembers [("id", toJson r.id), ("database_id", toJson r.databaseId),
    ("schema", toJson r.schema), ("table_name", toJson r.tableName), ("perm", toJson r.perm),
    ("schema_perm", toJson r.schemaPerm), ("is_rls_supported", toJson r.isRowFilterable)]
instance : FromJson Datasource where
  ofJson? v := do
    let r ← v.record? ["id", "database_id", "schema", "table_name", "perm", "schema_perm",
      "is_rls_supported"]
    some ⟨← r.required "id", ← r.optional "database_id", ← r.optional "schema",
      ← r.required "table_name", ← r.optional "perm", ← r.optional "schema_perm",
      ← r.required "is_rls_supported"⟩

instance : ToJson Chart where
  toJson r := .ofMembers [("id", toJson r.id), ("datasource_id", toJson r.datasourceId)]
instance : FromJson Chart where
  ofJson? v := do
    let r ← v.record? ["id", "datasource_id"]
    some ⟨← r.required "id", ← r.required "datasource_id"⟩

instance : ToJson Dashboard where
  toJson r := .ofMembers [("id", toJson r.id), ("published", toJson r.published),
    ("owner_ids", toJson r.ownerIds), ("role_ids", toJson r.roleIds),
    ("chart_ids", toJson r.chartIds)]
instance : FromJson Dashboard where
  ofJson? v := do
    let r ← v.record? ["id", "published", "owner_ids", "role_ids", "chart_ids"]
    some ⟨← r.required "id", ← r.required "published", ← r.required "owner_ids",
      ← r.required "role_ids", ← r.required "chart_ids"⟩

instance : ToJson Embedding where
  toJson r := .ofMembers [("uuid", toJson r.uuid), ("dashboard_id", toJson r.dashboardId)]
instance : FromJson Embedding where
  ofJson? v := do
    let r ← v.record? ["uuid", "dashboard_id"]
    some ⟨← r.required "uuid", ← r.required "dashboard_id"⟩

def RowFilterType.ofText? (s : String) : Option RowFilterType :=
  [RowFilterType.regular, .base].find? (·.text == s)

instance : ToJson RowFilterType := ⟨fun t => toJson t.text⟩
instance : FromJson RowFilterType := ⟨fun v => v.caseName?.bind RowFilterType.ofText?⟩

instance : ToJson RowFilter where
  toJson r := .ofMembers [("id", toJson r.id), ("filter_type", toJson r.type),
    ("group_key", toJson r.groupKey), ("clause", toJson r.clause), ("role_ids", toJson r.roleIds),
    ("table_ids", toJson r.tableIds)]
instance : FromJson RowFilter where
  ofJson? v := do
    let r ← v.record? ["id", "filter_type", "group_key", "clause", "role_ids", "table_ids"]
    some ⟨← r.required "id", ← r.required "filter_type", ← r.optional "group_key",
      ← r.required "clause", ← r.required "role_ids", ← r.required "table_ids"⟩

end Turnstile
