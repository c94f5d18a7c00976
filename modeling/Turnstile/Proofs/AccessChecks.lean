import Turnstile.Access.Listing
import Turnstile.Proofs.TableAccess
import Turnstile.Proofs.QueryScope

namespace Turnstile.Viewer
variable {v : Viewer} {db : Database} {permission resource : String}

/-- A principal holds what its stored roles hold, as far as both sides of the pair are still
there. -/
theorem mem_pairs {p : String × String} : p ∈ v.pairs ↔
    ∃ role ∈ v.roles, ∃ id ∈ role.pairIds.rows, v.catalog.namesOf? id = some p := by
  simp only [pairs, List.mem_flatMap, List.mem_filterMap]

theorem canAccess_iff :
    v.canAccess permission resource = true ↔ (permission, resource) ∈ v.pairs := by
  rw [canAccess, List.contains_iff_mem]

theorem mem_resourceNames : resource ∈ v.resourceNames permission ↔
    (permission, resource) ∈ v.pairs := by
  unfold resourceNames Text.sortTexts
  rw [Text.mem_sortUnique, List.mem_map]
  constructor
  · rintro ⟨⟨p, r⟩, hp, rfl⟩
    obtain ⟨hp, hname⟩ := List.mem_filter.mp hp
    simp only [beq_iff_eq] at hname
    exact hname ▸ hp
  · intro hp
    exact ⟨_, List.mem_filter.mpr ⟨hp, by simp⟩, rfl⟩

theorem canAccessDatasource_iff {d : Datasource} :
    v.canAccessDatasource d = true ↔ ∃ p, v.probe d p = true := by
  unfold canAccessDatasource grantingProbe?
  rw [List.find?_isSome]
  constructor
  · rintro ⟨p, _, h⟩
    exact ⟨p, h⟩
  · rintro ⟨p, h⟩
    have hp : p ∈ Probe.order := by cases p <;> decide
    exact ⟨p, hp, h⟩

theorem requireDatasource_iff {d : Datasource} :
    v.requireAccess (.datasource d) = .ok () ↔ ∃ p, v.probe d p = true := by
  rw [← canAccessDatasource_iff, requireAccess]
  split <;> simp_all

theorem requireDashboard_iff {d : Dashboard} :
    v.requireDashboard d = .ok () ↔ v.hasDashboardAccess d = true := by
  unfold requireDashboard
  split <;> simp_all

/-- A query runs if all of the database is open, or if its text can be read and all its tables are
in reach. -/
theorem requireQuery_ok_iff {sql : String} {schema : Option String} :
    v.requireAccess (.query db sql schema) = .ok () ↔
      v.canAccessDatabase db = true ∨
        ∃ ts, v.extract sql schema = .ok ts ∧ ∀ t ∈ ts.rows, v.reachesTable db t = true := by
  cases hdb : v.canAccessDatabase db with
  | true => simp [requireQuery_open hdb]
  | false =>
    cases hts : v.extract sql schema with
    | error e => simp [requireQuery_failed hdb hts]
    | ok ts => simp [Sql.requireQuery_iff hdb hts]

def unreached (v : Viewer) (db : Database) (ts : List Table) : List Table :=
  ts.filter fun t => !v.reachesTable db t

/-- A denial is about every table out of reach, and about no other. -/
theorem requireTables_denied {ts : List Table} {d : Denial} :
    v.requireTables db ts = .error (.tablesDenied d) ↔
      v.unreached db ts ≠ [] ∧
        d = Denial.tables (v.unreached db ts) v.settings.instructionsLink := by
  unfold requireTables unreached
  split
  · rename_i h
    simp [h]
  · rename_i hne
    constructor
    · intro h
      cases h
      exact ⟨hne, rfl⟩
    · rintro ⟨_, rfl⟩
      rfl

/-- A query is denied by the extractor itself, or over just those of its tables that are out of
reach. -/
theorem requireQuery_denied {sql : String} {schema : Option String} {d : Denial}
    (h : v.requireAccess (.query db sql schema) = .error (.tablesDenied d)) :
    v.extract sql schema = .error (.tablesDenied d) ∨
      ∃ ts, v.extract sql schema = .ok ts ∧
        d = Denial.tables (v.unreached db ts.rows) v.settings.instructionsLink := by
  cases hdb : v.canAccessDatabase db with
  | true =>
    rw [requireQuery_open hdb] at h
    cases h
  | false =>
    cases hts : v.extract sql schema with
    | error e =>
      rw [requireQuery_failed hdb hts] at h
      cases h
      exact .inl rfl
    | ok ts =>
      rw [requireQuery_found hdb hts] at h
      exact .inr ⟨ts, rfl, (requireTables_denied.mp h).2⟩

end Turnstile.Viewer
