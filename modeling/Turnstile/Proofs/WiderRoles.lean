import Turnstile.Proofs.DatasourceListing

namespace Turnstile
open Catalog

/-- A set of texts is told by what is in it. -/
theorem Text.sortTexts_ext {xs ys : List String}
    (h : ∀ x, x ∈ Text.sortTexts xs ↔ x ∈ Text.sortTexts ys) :
    Text.sortTexts xs = Text.sortTexts ys :=
  orders_below.eq_of_mem_iff (pairwise_sortUnique orders_below xs)
    (pairwise_sortUnique orders_below ys) h

theorem Catalog.SamePairs.namesOf? {c c' : Catalog} (h : SamePairs c c') :
    c'.namesOf? = c.namesOf? := by
  funext id
  simp only [Catalog.namesOf?, pair?, h.pairs, h.resolve?]

namespace Viewer
variable {v w : Viewer}

/-- All roles of the first are, perhaps with more pairs, roles of the second. Otherwise the two
are the same principal before the same data. -/
structure Within (v w : Viewer) : Prop where
  data : SamePairs v.catalog w.catalog
  settings : w.settings = v.settings
  extract : w.extract = v.extract
  userId : w.principal.userId? = v.principal.userId?
  guest : w.principal.guest? = v.principal.guest?
  roles : ∀ r ∈ v.roles, ∃ r' ∈ w.roles, r'.id = r.id ∧ r'.name = r.name ∧
    ∀ id ∈ r.pairIds.rows, id ∈ r'.pairIds.rows

namespace Within

theorem pairs (h : v.Within w) {p : String × String} (hp : p ∈ v.pairs) : p ∈ w.pairs := by
  obtain ⟨r, hr, id, hid, hnames⟩ := mem_pairs.mp hp
  obtain ⟨r', hr', _, _, hids⟩ := h.roles r hr
  apply mem_pairs.mpr
  refine ⟨r', hr', id, hids id hid, ?_⟩
  rw [h.data.namesOf?]
  exact hnames

/-- Every check on pairs asks whether one is held, never whether one is not. -/
theorem canAccess (h : v.Within w) {p r : String} (hp : v.canAccess p r = true) :
    w.canAccess p r = true :=
  canAccess_iff.mpr (h.pairs (canAccess_iff.mp hp))

theorem canAccess_any (h : v.Within w) {p : String} {name : Option String}
    (hn : name.any (v.canAccess p) = true) : name.any (w.canAccess p) = true := by
  rw [Option.any_eq_true] at hn ⊢
  obtain ⟨r, hr, hp⟩ := hn
  exact ⟨r, hr, h.canAccess hp⟩

theorem canAccessDatabase (h : v.Within w) {db : Database}
    (hdb : v.canAccessDatabase db = true) : w.canAccessDatabase db = true := by
  simp only [Viewer.canAccessDatabase, canAccessAllDatasources, canAccessAllDatabases,
    Bool.or_eq_true] at hdb ⊢
  exact hdb.imp (.imp h.canAccess h.canAccess) h.canAccess

theorem isAdmin (h : v.Within w) (hv : v.isAdmin = true) : w.isAdmin = true := by
  unfold Viewer.isAdmin at hv ⊢
  obtain ⟨r, hr, hname⟩ := List.any_eq_true.mp hv
  obtain ⟨r', hr', _, hsame, _⟩ := h.roles r hr
  apply List.any_eq_true.mpr
  refine ⟨r', hr', ?_⟩
  rw [hsame, h.settings]
  exact hname

theorem holdsDashboardRole (h : v.Within w) {d : Dashboard}
    (hv : v.holdsDashboardRole d = true) : w.holdsDashboardRole d = true := by
  unfold Viewer.holdsDashboardRole at hv ⊢
  rw [h.settings]
  rcases Bool.or_eq_true_iff.mp hv with hv | hv
  · rw [hv, Bool.true_or]
  · obtain ⟨id, hid, hheld⟩ := List.any_eq_true.mp hv
    obtain ⟨r, hr, hrid⟩ := List.any_eq_true.mp hheld
    obtain ⟨r', hr', hsame, _⟩ := h.roles r hr
    apply Bool.or_eq_true_iff.mpr
    refine .inr (List.any_eq_true.mpr ⟨id, hid, List.any_eq_true.mpr ⟨r', hr', ?_⟩⟩)
    rw [hsame]
    exact hrid

/-- Guests look at their grants only, and all other ways to a dashboard are wider for those with
more roles. -/
theorem hasDashboardAccess (h : v.Within w) {d : Dashboard}
    (hv : v.hasDashboardAccess d = true) : w.hasDashboardAccess d = true := by
  have hguest : w.guest? = v.guest? := by
    unfold guest?
    rw [h.settings, h.guest]
  have hembedding : w.catalog.embeddingOf? d.id = v.catalog.embeddingOf? d.id := by
    unfold embeddingOf?
    rw [h.data.entities.embeddings]
  unfold Viewer.hasDashboardAccess at hv ⊢
  rw [hguest, hembedding, h.userId]
  split at hv
  · exact hv
  · rw [Bool.or_eq_true, Bool.or_eq_true] at hv ⊢
    rcases hv with (hv | hv) | hv
    · exact .inl (.inl (h.isAdmin hv))
    · exact .inl (.inr hv)
    · right
      cases hpub : d.published with
      | true =>
        rw [hpub] at hv
        exact h.holdsDashboardRole hv
      | false =>
        rw [hpub] at hv
        exact hv

theorem canAccessThroughDashboard (h : v.Within w) {d : Datasource}
    (hv : v.canAccessThroughDashboard d = true) : w.canAccessThroughDashboard d = true := by
  unfold Viewer.canAccessThroughDashboard at hv ⊢
  rw [h.data.entities.dashboards]
  obtain ⟨b, hb, hopen⟩ := List.any_eq_true.mp hv
  obtain ⟨hcharts, hopen⟩ := Bool.and_eq_true_iff.mp hopen
  have hsame : w.charts b d.id = v.charts b d.id := by
    unfold charts chart?
    rw [h.data.entities.charts]
  apply List.any_eq_true.mpr
  refine ⟨b, hb, ?_⟩
  rw [hsame, hcharts, h.hasDashboardAccess hopen, Bool.and_self]

theorem canAccessOwnDatabase (h : v.Within w) {d : Datasource}
    (hv : (d.databaseId.bind v.catalog.database?).any v.canAccessDatabase = true) :
    (d.databaseId.bind w.catalog.database?).any w.canAccessDatabase = true := by
  have hsame : w.catalog.database? = v.catalog.database? := by
    funext id
    unfold database?
    rw [h.data.entities.databases]
  rw [hsame]
  rw [Option.any_eq_true] at hv ⊢
  obtain ⟨db, hdb, hopen⟩ := hv
  exact ⟨db, hdb, h.canAccessDatabase hopen⟩

theorem probe (h : v.Within w) {d : Datasource} {p : Probe} (hv : v.probe d p = true) :
    w.probe d p = true := by
  cases p with
  | universalGrant => exact h.canAccess hv
  | databaseGrant => exact h.canAccessOwnDatabase hv
  | schemaGrant => exact h.canAccess_any hv
  | directGrant => exact h.canAccess_any hv
  | dashboardRelationship =>
    have hguest : w.isGuest = v.isGuest := by
      unfold isGuest guest?
      rw [h.settings, h.guest]
    simp only [Viewer.probe, Bool.and_eq_true] at hv ⊢
    rw [h.settings, hguest]
    exact ⟨hv.1, h.canAccessThroughDashboard hv.2⟩

theorem reachesTable (h : v.Within w) {db : Database} {t : Table}
    (hv : v.reachesTable db t = true) : w.reachesTable db t = true := by
  have hsame : w.catalog.datasourcesNamed = v.catalog.datasourcesNamed := by
    funext id name schema
    unfold datasourcesNamed
    rw [h.data.entities.datasources]
  unfold Viewer.reachesTable at hv ⊢
  rw [hsame]
  rcases Bool.or_eq_true_iff.mp hv with hv | hv
  · exact Bool.or_eq_true_iff.mpr (.inl (h.canAccess_any hv))
  · obtain ⟨d, hd, hperm⟩ := List.any_eq_true.mp hv
    apply Bool.or_eq_true_iff.mpr
    exact .inr (List.any_eq_true.mpr ⟨d, hd, h.canAccess_any hperm⟩)

/-- Each target opens by ways that more roles keep open. -/
theorem requireAccess (h : v.Within w) {target : Target}
    (hv : v.requireAccess target = .ok ()) : w.requireAccess target = .ok () := by
  cases target with
  | datasource d =>
    obtain ⟨p, hp⟩ := requireDatasource_iff.mp hv
    exact requireDatasource_iff.mpr ⟨p, h.probe hp⟩
  | table db t =>
    have hv := requireTable_iff.mp hv
    apply requireTable_iff.mpr
    unfold canAccessTable at hv ⊢
    exact Bool.or_eq_true_iff.mpr
      ((Bool.or_eq_true_iff.mp hv).imp h.canAccessDatabase h.reachesTable)
  | query db sql schema =>
    apply requireQuery_ok_iff.mpr
    rcases requireQuery_ok_iff.mp hv with hdb | ⟨ts, hts, hreach⟩
    · exact .inl (h.canAccessDatabase hdb)
    · refine .inr ⟨ts, ?_, fun t ht => h.reachesTable (hreach t ht)⟩
      rw [h.extract]
      exact hts

theorem requireDashboard (h : v.Within w) {d : Dashboard} (hv : v.requireDashboard d = .ok ()) :
    w.requireDashboard d = .ok () :=
  requireDashboard_iff.mpr (h.hasDashboardAccess (requireDashboard_iff.mp hv))

theorem unreached (h : v.Within w) (db : Database) (ts : List Table) :
    (w.unreached db ts).Sublist (v.unreached db ts) := by
  apply List.monotone_filter_right
  intro t ht
  have hw : w.reachesTable db t = false := by simpa using ht
  cases hv : v.reachesTable db t with
  | false => rfl
  | true => exact absurd (h.reachesTable hv) (by simp [hw])

theorem resourceNames (h : v.Within w) (permission : String) :
    v.resourceNames permission ⊆ w.resourceNames permission := by
  intro r hr
  exact mem_resourceNames.mpr (h.pairs (mem_resourceNames.mp hr))

theorem datasources (h : v.Within w) : v.datasources ⊆ w.datasources := by
  intro d hd
  obtain ⟨hmem, hopen⟩ := mem_datasources.mp hd
  apply mem_datasources.mpr
  rw [h.data.entities.datasources]
  exact ⟨hmem, hopen.imp h.probe (.imp h.probe h.probe)⟩

end Within

/-- Whatever the first may do the second may do too. If both are refused the tables of a query,
either the extractor refuses them to both alike, or the second is told of no table that the first is
not told of. -/
structure ReachesWithin (v w : Viewer) : Prop where
  access : ∀ target, v.requireAccess target = .ok () → w.requireAccess target = .ok ()
  dashboards : ∀ d, v.requireDashboard d = .ok () → w.requireDashboard d = .ok ()
  denied : ∀ db sql schema d d',
    v.requireAccess (.query db sql schema) = .error (.tablesDenied d) →
    w.requireAccess (.query db sql schema) = .error (.tablesDenied d') →
    (v.extract sql schema = .error (.tablesDenied d) ∧ d' = d) ∨
      ∃ ts, v.extract sql schema = .ok ts ∧
        d = Denial.tables (v.unreached db ts.rows) v.settings.instructionsLink ∧
        d' = Denial.tables (w.unreached db ts.rows) v.settings.instructionsLink ∧
        (w.unreached db ts.rows).Sublist (v.unreached db ts.rows)
  datasources : v.datasources ⊆ w.datasources
  resourceNames : ∀ permission, v.resourceNames permission ⊆ w.resourceNames permission

/-- The two get the same answers, refusals included. -/
structure ReachesSame (v w : Viewer) : Prop where
  access : w.requireAccess = v.requireAccess
  dashboards : w.requireDashboard = v.requireDashboard
  datasources : w.datasources = v.datasources
  resourceNames : w.resourceNames = v.resourceNames

theorem Within.reachesWithin (h : v.Within w) : v.ReachesWithin w where
  access _ := h.requireAccess
  dashboards _ := h.requireDashboard
  denied db sql schema d d' hv hw := by
    have hw := requireQuery_denied hw
    rw [h.extract, h.settings] at hw
    rcases requireQuery_denied hv with hfailed | ⟨ts, hts, hd⟩
    · rw [hfailed] at hw
      rcases hw with hsame | ⟨_, hts, _⟩
      · cases hsame
        exact .inl ⟨hfailed, rfl⟩
      · cases hts
    · rw [hts] at hw
      rcases hw with hfailed | ⟨ts', hts', hd'⟩
      · cases hfailed
      · cases hts'
        exact .inr ⟨ts, hts, hd, hd', h.unreached db ts.rows⟩
  datasources := h.datasources
  resourceNames := h.resourceNames

/-- If each is within the other, all answers are the same, the words of denials included. -/
theorem Within.reachesSame (h : v.Within w) (h' : w.Within v) : v.ReachesSame w where
  access := by
    have hdatabase : w.canAccessDatabase = v.canAccessDatabase := by
      funext db
      exact Bool.eq_iff_iff.mpr ⟨h'.canAccessDatabase, h.canAccessDatabase⟩
    have htable : w.reachesTable = v.reachesTable := by
      funext db t
      exact Bool.eq_iff_iff.mpr ⟨h'.reachesTable, h.reachesTable⟩
    funext target
    cases target with
    | datasource d =>
      have hprobes : w.probe d = v.probe d := by
        funext p
        exact Bool.eq_iff_iff.mpr ⟨h'.probe, h.probe⟩
      have hopen : w.canAccessDatasource d = v.canAccessDatasource d := by
        unfold canAccessDatasource grantingProbe?
        rw [hprobes]
      simp only [Viewer.requireAccess, hopen, h.settings]
    | table db t => simp only [Viewer.requireAccess, requireTables, hdatabase, htable, h.settings]
    | query db sql schema =>
      simp only [Viewer.requireAccess, requireTables, hdatabase, htable, h.settings, h.extract]
  dashboards := by
    funext d
    have hopen : w.hasDashboardAccess d = v.hasDashboardAccess d :=
      Bool.eq_iff_iff.mpr ⟨h'.hasDashboardAccess, h.hasDashboardAccess⟩
    simp only [Viewer.requireDashboard, hopen]
  datasources := by
    apply congrArg Ledger.rows
    apply Ledger.ext_mem
    intro d
    exact ⟨fun hd => h'.datasources hd, fun hd => h.datasources hd⟩
  resourceNames := by
    funext permission
    apply Text.sortTexts_ext
    intro r
    exact ⟨fun hr => h'.resourceNames permission hr, fun hr => h.resourceNames permission hr⟩

section
variable {c c' : Catalog} {s : AccessSettings} {x : Extractor} {u : UserId}
  {ids more : List RoleId}

/-- Identifiers without a stored role, their order and their repetition do not count. -/
theorem within_of_ids (h : ∀ id ∈ ids, (c.role? id).isSome → id ∈ more) :
    Within ⟨c, s, .user u ids, x⟩ ⟨c, s, .user u more, x⟩ := by
  refine ⟨.refl c, rfl, rfl, rfl, rfl, ?_⟩
  intro r hr
  obtain ⟨id, hid, hrole⟩ := List.mem_filterMap.mp hr
  have hmore : id ∈ more := h id hid (by simp [hrole])
  exact ⟨r, List.mem_filterMap.mpr ⟨id, hmore, hrole⟩, rfl, rfl, fun _ hp => hp⟩

theorem within_of_setRolePairs {id : RoleId} {role : Role} {held : IdSet .pair}
    (hrole : c.role? id = some role) (hheld : ∀ p ∈ role.pairIds.rows, p ∈ held.rows)
    (hset : c.setRolePairs id held = .ok c') :
    Within ⟨c, s, .user u ids, x⟩ ⟨c', s, .user u ids, x⟩ := by
  obtain ⟨_, role', hrole', rfl⟩ := setRolePairs_ok hset
  obtain rfl := Option.some.inj (hrole.symm.trans hrole')
  have hdata : SamePairs c { c with roles := c.roles.put { role with pairIds := held } } :=
    ⟨Nat.le_refl _, rfl, rfl, rfl, rfl, rfl, rfl, rfl, rfl, rfl, rfl⟩
  refine ⟨hdata, rfl, rfl, rfl, rfl, ?_⟩
  intro r hr
  obtain ⟨k, hk, hfound⟩ := List.mem_filterMap.mp hr
  have hput := Ledger.find?_put c.roles { role with pairIds := held } k.number
  split at hput
  -- the role is the one that was given the pairs
  · rename_i hnumber
    have hsame : k = role.id := Id.number_inj.mp hnumber
    rw [hsame, id_of_role? hrole, hrole] at hfound
    obtain rfl := Option.some.inj hfound
    exact ⟨_, List.mem_filterMap.mpr ⟨k, hk, hput⟩, rfl, rfl, hheld⟩
  · exact ⟨r, List.mem_filterMap.mpr ⟨k, hk, hput.trans hfound⟩, rfl, rfl, fun _ hp => hp⟩

end

/-- A user with more roles may do all that the user may do with fewer. Only which roles exist
counts: their order, repetitions and identifiers of no role change no answer. A role that is given
more pairs makes those who have it no poorer. -/
theorem more_roles_reach_more (c : Catalog) (s : AccessSettings) (x : Extractor) (u : UserId)
    (ids : List RoleId) :
    (∀ more, (∀ id ∈ ids, id ∈ more) →
      ReachesWithin ⟨c, s, .user u ids, x⟩ ⟨c, s, .user u more, x⟩) ∧
    (∀ other, (∀ id, (c.role? id).isSome → (id ∈ ids ↔ id ∈ other)) →
      ReachesSame ⟨c, s, .user u ids, x⟩ ⟨c, s, .user u other, x⟩) ∧
    ∀ id role held c', c.role? id = some role → (∀ p ∈ role.pairIds.rows, p ∈ held.rows) →
      c.setRolePairs id held = .ok c' →
      ReachesWithin ⟨c, s, .user u ids, x⟩ ⟨c', s, .user u ids, x⟩ := by
  refine ⟨?_, ?_, ?_⟩
  · intro more hmore
    exact (within_of_ids fun id hid _ => hmore id hid).reachesWithin
  · intro other hother
    have hforth : Within ⟨c, s, .user u ids, x⟩ ⟨c, s, .user u other, x⟩ :=
      within_of_ids fun id hid hrole => (hother id hrole).mp hid
    have hback : Within ⟨c, s, .user u other, x⟩ ⟨c, s, .user u ids, x⟩ :=
      within_of_ids fun id hid hrole => (hother id hrole).mpr hid
    exact hforth.reachesSame hback
  · intro id role held c' hrole hheld hset
    exact (within_of_setRolePairs hrole hheld hset).reachesWithin

def shifts : Catalog :=
  { Catalog.empty with
    counter := 5
    permissions := .ofList [⟨⟨1⟩, PermissionName.allDatabaseAccess⟩]
    resources := .ofList [⟨⟨2⟩, PermissionName.allDatabaseAccess⟩]
    pairs := .ofList [⟨⟨3⟩, ⟨1⟩, ⟨2⟩⟩]
    roles := .ofList [⟨⟨4⟩, "Night", .empty⟩, ⟨⟨5⟩, "Day", .ofIds [⟨3⟩]⟩] }

theorem both_shifts_reach_more :
    let night : Viewer := ⟨shifts, .standard, .user ⟨1⟩ [⟨4⟩], .blank⟩
    let both : Viewer := ⟨shifts, .standard, .user ⟨1⟩ [⟨4⟩, ⟨5⟩], .blank⟩
    night.canAccessAllDatabases = false ∧ both.canAccessAllDatabases = true ∧
      night.ReachesWithin both ∧
      both.ReachesSame ⟨shifts, .standard, .user ⟨1⟩ [⟨5⟩, ⟨9⟩, ⟨4⟩, ⟨5⟩], .blank⟩ ∧
      ∃ c', shifts.setRolePairs ⟨4⟩ (.ofIds [⟨3⟩]) = .ok c' ∧
        night.ReachesWithin ⟨c', .standard, .user ⟨1⟩ [⟨4⟩], .blank⟩ := by
  have hone := more_roles_reach_more shifts .standard .blank ⟨1⟩ [⟨4⟩]
  have htwo := more_roles_reach_more shifts .standard .blank ⟨1⟩ [⟨4⟩, ⟨5⟩]
  refine ⟨by decide +kernel, by decide +kernel, hone.1 _ (by simp), htwo.2.1 _ ?_, ?_⟩
  · intro id hrole
    by_cases hid : id = ⟨9⟩
    · subst hid
      exact absurd hrole (by decide +kernel)
    · grind
  · have hset : shifts.setRolePairs ⟨4⟩ (.ofIds [⟨3⟩]) = .ok
        { shifts with roles := shifts.roles.put ⟨⟨4⟩, "Night", .ofIds [⟨3⟩]⟩ } := by
      decide +kernel
    exact ⟨_, hset, hone.2.2 ⟨4⟩ ⟨⟨4⟩, "Night", .empty⟩ _ _ (by decide +kernel)
      (by simp [Ledger.empty]) hset⟩

end Viewer
end Turnstile
