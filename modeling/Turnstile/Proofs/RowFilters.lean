import Turnstile.Access.RowSecurity
import Turnstile.Proofs.Holdings

namespace Turnstile

theorem Ledger.put_comm {α : Type} [Filed α] (l : Ledger α) {a b : α}
    (h : Filed.number a ≠ Filed.number b) : (l.put a).put b = (l.put b).put a := by
  refine Ledger.ext_mem fun x => ?_
  simp only [mem_put]
  constructor
  · rintro (rfl | ⟨rfl | ⟨hx, ha⟩, hb⟩)
    · exact .inr ⟨.inl rfl, h.symm⟩
    · exact .inl rfl
    · exact .inr ⟨.inr ⟨hx, hb⟩, ha⟩
  · rintro (rfl | ⟨rfl | ⟨hx, hb⟩, ha⟩)
    · exact .inr ⟨.inl rfl, h⟩
    · exact .inl rfl
    · exact .inr ⟨.inr ⟨hx, ha⟩, hb⟩

theorem IdSet.contains_iff {kind : Kind} {ids : IdSet kind} {id : Id kind} :
    IdSet.contains ids id = true ↔ id ∈ ids.rows := by
  rw [contains, Ledger.has, Option.isSome_iff_exists]
  simp only [Ledger.find?_eq_some_iff]
  constructor
  · rintro ⟨x, hx, hn⟩
    exact Id.number_inj.mp hn ▸ hx
  · exact fun hid => ⟨id, hid, rfl⟩

namespace Catalog
variable {c : Catalog}

def putRowFilters (c : Catalog) (fs : List RowFilter) : Catalog := fs.foldl putRowFilter c

theorem putRowFilter_comm (c : Catalog) {f g : RowFilter} (h : f.id ≠ g.id) :
    (c.putRowFilter f).putRowFilter g = (c.putRowFilter g).putRowFilter f := by
  have hn : f.id.number ≠ g.id.number := fun hn => h (Id.number_inj.mp hn)
  unfold putRowFilter
  rw [Ledger.put_comm c.rowFilters hn]

/-- Filters of different identifiers can be stored in any order. -/
theorem putRowFilters_perm (c : Catalog) {fs gs : List RowFilter} (h : fs.Perm gs)
    (distinct : (fs.map (·.id)).Nodup) : c.putRowFilters fs = c.putRowFilters gs := by
  refine h.foldl_eq' (fun f hf g hg c => ?_) c
  by_cases hid : f.id = g.id
  · rw [List.inj_on_of_nodup_map distinct hf hg hid]
  · exact c.putRowFilter_comm hid

end Catalog

namespace Viewer
variable {v w : Viewer} {d : Datasource} {f : RowFilter}

/-- The principal is given the role of that identifier: whoever is not signed in the public role, a
guest the role of guests. -/
def IsGiven (v : Viewer) (id : RoleId) : Prop :=
  match v.principal with
  | .anonymous => ∃ name role, v.settings.publicRole = some name ∧
      v.catalog.roleNamed? name = some role ∧ role.id = id
  | .user _ ids => id ∈ ids
  | .guest g => g.roleId = some id

def HasRole (v : Viewer) (id : RoleId) : Prop :=
  (∃ role ∈ v.catalog.roles.rows, role.id = id) ∧ v.IsGiven id

/-- A regular filter binds those who have one of its roles, a base filter those who have none. -/
def Binds (v : Viewer) (f : RowFilter) : Prop :=
  match f.type with
  | .regular => ∃ id ∈ f.roleIds.rows, v.HasRole id
  | .base => ∀ id ∈ f.roleIds.rows, ¬ v.HasRole id

theorem mem_roleIds {id : RoleId} : id ∈ v.roleIds ↔ v.IsGiven id := by
  unfold roleIds IsGiven
  cases v.principal with
  | anonymous => simp [Option.bind_eq_some_iff]
  | user _ ids => rfl
  | guest g => simp

theorem hasRole_iff {id : RoleId} : v.HasRole id ↔ ∃ role ∈ v.roles, role.id = id := by
  unfold HasRole roles
  rw [← mem_roleIds]
  simp only [List.mem_filterMap, Catalog.role?, Ledger.find?_eq_some_iff]
  constructor
  · rintro ⟨⟨role, hrole, hid⟩, hgiven⟩
    exact ⟨role, ⟨id, hgiven, hrole, congrArg Id.number hid⟩, hid⟩
  · rintro ⟨role, ⟨given, hgiven, hrole, hn⟩, hid⟩
    have hsame : given = id := (Id.number_inj.mp hn).symm.trans hid
    exact ⟨⟨role, hrole, hid⟩, hsame ▸ hgiven⟩

theorem holdsRoleOf_iff : v.holdsRoleOf f = true ↔ ∃ id ∈ f.roleIds.rows, v.HasRole id := by
  simp only [holdsRoleOf, List.any_eq_true, IdSet.contains_iff, hasRole_iff]
  constructor
  · rintro ⟨role, hrole, hid⟩
    exact ⟨role.id, hid, role, hrole, rfl⟩
  · rintro ⟨_, hid, role, hrole, rfl⟩
    exact ⟨role, hrole, hid⟩

/-- Roles that do not exist neither bind nor exempt. -/
theorem bindsTo_iff : v.bindsTo f = true ↔ v.Binds f := by
  unfold bindsTo Binds
  cases f.type with
  | regular => exact holdsRoleOf_iff
  | base =>
    dsimp only
    rw [Bool.not_eq_true', ← Bool.not_eq_true, holdsRoleOf_iff]
    push Not
    rfl

theorem mem_effectiveFilters : f ∈ v.effectiveFilters d ↔
    f ∈ v.catalog.rowFilters.rows ∧ d.id ∈ f.tableIds.rows ∧ v.Binds f := by
  simp only [effectiveFilters, Catalog.rowFiltersOn, List.mem_filter, IdSet.contains_iff,
    bindsTo_iff, and_assoc]

theorem effectiveFilters_ascending (v : Viewer) (d : Datasource) :
    (v.effectiveFilters d).Pairwise fun f g => f.id.number < g.id.number :=
  (v.catalog.rowFilters.ascending.filter _).filter _

theorem Binds.regular_mono (hroles : ∀ id, v.HasRole id → w.HasRole id)
    (hf : f.type = .regular) (h : v.Binds f) : w.Binds f := by
  unfold Binds at h ⊢
  rw [hf] at h ⊢
  obtain ⟨id, hid, hrole⟩ := h
  exact ⟨id, hid, hroles id hrole⟩

theorem Binds.base_anti (hroles : ∀ id, v.HasRole id → w.HasRole id)
    (hf : f.type = .base) (h : w.Binds f) : v.Binds f := by
  unfold Binds at h ⊢
  rw [hf] at h ⊢
  exact fun id hid hrole => h id hid (hroles id hrole)

/-- The filters that bind a principal on a datasource, ascending, are the stored ones that are
linked to it and are regular with a role that the principal has or base with none; the order in
which they were stored does not matter. A user who has at least the roles of another is bound by at
least the same regular filters and at most the same base filters. -/
theorem effectiveFilters_by_roles (c : Catalog) (s : AccessSettings) (x : Extractor) (p : Principal)
    (d : Datasource) :
    let v : Viewer := ⟨c, s, p, x⟩
    (∀ f, f ∈ v.effectiveFilters d ↔
      f ∈ c.rowFilters.rows ∧ d.id ∈ f.tableIds.rows ∧ v.Binds f) ∧
    ((v.effectiveFilters d).Pairwise fun f g => f.id.number < g.id.number) ∧
    v.filterIds d = (v.effectiveFilters d).map (·.id) ∧
    (∀ fs gs : List RowFilter, fs.Perm gs → (fs.map (·.id)).Nodup →
      Viewer.effectiveFilters ⟨c.putRowFilters fs, s, p, x⟩ d =
        Viewer.effectiveFilters ⟨c.putRowFilters gs, s, p, x⟩ d) ∧
    ∀ (id id' : UserId) (ids ids' : List RoleId), ids ⊆ ids' →
      let few : Viewer := ⟨c, s, .user id ids, x⟩
      let many : Viewer := ⟨c, s, .user id' ids', x⟩
      (∀ f ∈ few.effectiveFilters d, f.type = .regular → f ∈ many.effectiveFilters d) ∧
        ∀ f ∈ many.effectiveFilters d, f.type = .base → f ∈ few.effectiveFilters d := by
  refine ⟨fun f => mem_effectiveFilters, effectiveFilters_ascending _ d, rfl, ?_, ?_⟩
  · intro fs gs hperm distinct
    rw [c.putRowFilters_perm hperm distinct]
  · intro id id' ids ids' hids few many
    have hroles : ∀ id, few.HasRole id → many.HasRole id :=
      fun id h => ⟨h.1, hids h.2⟩
    constructor
    · intro f hf hregular
      obtain ⟨hstored, hlinked, hbinds⟩ := mem_effectiveFilters.mp hf
      exact mem_effectiveFilters.mpr ⟨hstored, hlinked, hbinds.regular_mono hroles hregular⟩
    · intro f hf hbase
      obtain ⟨hstored, hlinked, hbinds⟩ := mem_effectiveFilters.mp hf
      exact mem_effectiveFilters.mpr ⟨hstored, hlinked, hbinds.base_anti hroles hbase⟩

def unfiltered : Catalog :=
  { Catalog.empty with
    roles := .ofList [⟨⟨1⟩, "Sales", .empty⟩, ⟨⟨2⟩, "Admin", .empty⟩]
    datasources := .ofList [⟨⟨7⟩, none, none, "orders", none, none, true⟩] }

def salesFilter : RowFilter :=
  ⟨⟨1⟩, .regular, none, "region = 'EU'", .ofIds [⟨1⟩], .ofIds [⟨7⟩]⟩

def tenantFilter : RowFilter := ⟨⟨2⟩, .base, none, "tenant = 1", .ofIds [⟨2⟩], .ofIds [⟨7⟩]⟩

def filteredUser (fs : List RowFilter) (ids : List RoleId) : Viewer :=
  ⟨unfiltered.putRowFilters fs, .standard, .user ⟨1⟩ ids, .blank⟩

/-- Who is an administrator besides being in sales keeps the filter for sales and sheds the other
one. -/
theorem administrator_sheds_tenant_filter :
    let d : Datasource := ⟨⟨7⟩, none, none, "orders", none, none, true⟩
    let fs := [tenantFilter, salesFilter]
    (filteredUser fs [⟨1⟩]).effectiveFilters d =
        (filteredUser fs.reverse [⟨1⟩]).effectiveFilters d ∧
      salesFilter ∈ (filteredUser fs [⟨1⟩]).effectiveFilters d ∧
      salesFilter ∈ (filteredUser fs [⟨1⟩, ⟨2⟩]).effectiveFilters d ∧
      tenantFilter ∈ (filteredUser fs [⟨1⟩]).effectiveFilters d ∧
      tenantFilter ∉ (filteredUser fs [⟨1⟩, ⟨2⟩]).effectiveFilters d := by
  intro d fs
  obtain ⟨_, _, _, horder, _⟩ := effectiveFilters_by_roles unfiltered .standard .blank
    (.user ⟨1⟩ [⟨1⟩]) d
  obtain ⟨_, _, _, _, hmore⟩ := effectiveFilters_by_roles (unfiltered.putRowFilters fs) .standard
    .blank .anonymous d
  have hsales : salesFilter ∈ (filteredUser fs [⟨1⟩]).effectiveFilters d := by decide +kernel
  obtain ⟨hregular, _⟩ := hmore ⟨1⟩ ⟨1⟩ [⟨1⟩] [⟨1⟩, ⟨2⟩] (by decide)
  refine ⟨?_, hsales, hregular salesFilter hsales rfl, by decide +kernel, by decide +kernel⟩
  exact horder fs fs.reverse (by decide) (by decide)

end Viewer
end Turnstile
