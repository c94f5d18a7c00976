import Turnstile.Proofs.Holdings
import Turnstile.Proofs.SingleGrants

namespace Turnstile

section
variable {α : Type} [Filed α] {l found : Ledger α} {row x : α}

/-- Rows that all belong to one ledger do not keep each other out. -/
theorem Ledger.mem_putNew (hfound : found.rows ⊆ l.rows) (hrow : row ∈ l.rows) :
    x ∈ (found.putNew row).rows ↔ x ∈ found.rows ∨ x = row := by
  unfold putNew
  cases hhas : found.has (Filed.number row) with
  | true =>
    obtain ⟨old, hold⟩ := Option.isSome_iff_exists.mp hhas
    have hmem : old ∈ found.rows := mem_of_find? hold
    have hsame : old = row := eq_of_number_eq (hfound hmem) hrow (number_find? hold)
    subst hsame
    simp only [↓reduceIte]
    constructor
    · exact .inl
    · intro hx
      cases hx with
      | inl hx => exact hx
      | inr hx => exact hx ▸ hmem
  | false =>
    have hnew : ∀ y ∈ found.rows, Filed.number y ≠ Filed.number row := by
      intro y hy hnumber
      have hy := find?_eq_some_iff.mpr ⟨hy, hnumber⟩
      simp [has, hy] at hhas
    simp only [Bool.false_eq_true, ↓reduceIte, mem_put]
    constructor
    · intro hx
      cases hx with
      | inl hx => exact .inr hx
      | inr hx => exact .inl hx.1
    · intro hx
      cases hx with
      | inl hx => exact .inr ⟨hx, hnew x hx⟩
      | inr hx => exact .inl hx

theorem Ledger.mem_foldl_putNew {rows : List α} (hfound : found.rows ⊆ l.rows)
    (hrows : rows ⊆ l.rows) : x ∈ (rows.foldl putNew found).rows ↔ x ∈ found.rows ∨ x ∈ rows := by
  induction rows generalizing found with
  | nil => simp
  | cons row rows ih =>
    have hrow : row ∈ l.rows := hrows (by simp)
    have hmore : (found.putNew row).rows ⊆ l.rows := by
      intro y hy
      cases (mem_putNew hfound hrow).mp hy with
      | inl hy => exact hfound hy
      | inr hy => exact hy ▸ hrow
    have hrest : rows ⊆ l.rows := fun y hy => hrows (by simp [hy])
    rw [List.foldl_cons, ih hmore hrest, mem_putNew hfound hrow, List.mem_cons, or_assoc]

end

namespace Viewer
variable {v : Viewer} {d : Datasource} {db : Database} {found : Ledger Datasource}

theorem mem_addDatasourcesOf (hfound : found.rows ⊆ v.catalog.datasources.rows) :
    d ∈ (v.addDatasourcesOf found db).rows ↔
      d ∈ found.rows ∨ (d ∈ v.catalog.datasources.rows ∧ d.databaseId = some db.id) := by
  unfold addDatasourcesOf
  rw [Ledger.mem_foldl_putNew hfound (List.filter_subset_self _), List.mem_filter, beq_iff_eq]

/-- What was found before stays, and behind it come the datasources of each of the databases. -/
theorem mem_foldl_addDatasourcesOf {dbs : List Database}
    (hfound : found.rows ⊆ v.catalog.datasources.rows) :
    d ∈ (dbs.foldl v.addDatasourcesOf found).rows ↔
      d ∈ found.rows ∨
        (d ∈ v.catalog.datasources.rows ∧ ∃ db ∈ dbs, d.databaseId = some db.id) := by
  induction dbs generalizing found with
  | nil => simp
  | cons db dbs ih =>
    have hmore : (v.addDatasourcesOf found db).rows ⊆ v.catalog.datasources.rows := by
      intro e he
      cases (mem_addDatasourcesOf hfound).mp he with
      | inl he => exact hfound he
      | inr he => exact he.1
    rw [List.foldl_cons, ih hmore, mem_addDatasourcesOf hfound, or_assoc, ← and_or_left]
    simp only [List.exists_mem_cons_iff]

theorem holdsNamed_iff :
    v.holdsNamed d = true ↔ v.probe d .schemaGrant = true ∨ v.probe d .directGrant = true := by
  have hnames : ∀ permission, (v.resourceNames permission).contains = v.canAccess permission := by
    intro permission
    funext name
    rw [Bool.eq_iff_iff, List.contains_iff_mem, mem_resourceNames, canAccess_iff]
  unfold holdsNamed
  rw [hnames, hnames, Bool.or_eq_true, or_comm]
  rfl

theorem probe_databaseGrant_iff : v.probe d .databaseGrant = true ↔
    ∃ db ∈ v.catalog.databases.rows, v.canAccessDatabase db = true ∧ d.databaseId = some db.id := by
  have hstored := v.catalog.ownIds.databases
  simp only [probe, Option.any_eq_true]
  constructor
  · intro h
    obtain ⟨db, hdb, hopen⟩ := h
    obtain ⟨id, hid, hfound⟩ := Option.bind_eq_some_iff.mp hdb
    obtain ⟨hmem, rfl⟩ := (hstored id db).mp hfound
    exact ⟨db, hmem, hopen, hid⟩
  · intro h
    obtain ⟨db, hmem, hopen, hid⟩ := h
    have hfound : v.catalog.database? db.id = some db := (hstored db.id db).mpr ⟨hmem, rfl⟩
    exact ⟨db, by rw [hid]; exact hfound, hopen⟩

/-- Both passes together find what the three ways lead to. -/
theorem mem_datasources : d ∈ v.datasources ↔
    d ∈ v.catalog.datasources.rows ∧ (v.probe d .databaseGrant = true ∨
      v.probe d .schemaGrant = true ∨ v.probe d .directGrant = true) := by
  have hnamed : (v.catalog.datasources.filter v.holdsNamed).rows ⊆ v.catalog.datasources.rows :=
    List.filter_subset_self _
  unfold datasources
  rw [mem_foldl_addDatasourcesOf hnamed, probe_databaseGrant_iff, ← holdsNamed_iff]
  simp only [Ledger.filter, List.mem_filter, and_assoc]
  rw [← and_or_left, or_comm]

/-- Unless its database is not stored, a datasource under the universal grant is listed with its
database. -/
theorem databaseGrant_of_universal (h : v.probe d .universalGrant = true)
    (hdb : db ∈ v.catalog.databases.rows) (hown : d.databaseId = some db.id) :
    v.probe d .databaseGrant = true := by
  have hopen : v.canAccessDatabase db = true := by
    have hall : v.canAccessAllDatasources = true := h
    simp [canAccessDatabase, hall]
  exact probe_databaseGrant_iff.mpr ⟨db, hdb, hopen, hown⟩

/-- The listing is ascending and names each datasource once. It names exactly the stored
datasources of an open database and those with a pair on themselves or on their schema. All of them
may be read. Of the others one may be read only through a dashboard, or by the universal grant if it
belongs to no stored database. -/
theorem datasources_agree_with_probes (v : Viewer) :
    (v.datasources.Pairwise fun d e => d.id.number < e.id.number) ∧ v.datasources.Nodup ∧
    (∀ d, d ∈ v.datasources ↔ d ∈ v.catalog.datasources.rows ∧
      (v.probe d .databaseGrant = true ∨ v.probe d .schemaGrant = true ∨
        v.probe d .directGrant = true)) ∧
    (∀ d ∈ v.datasources, v.canAccessDatasource d = true) ∧
    ∀ d ∈ v.catalog.datasources.rows, v.canAccessDatasource d = true → d ∉ v.datasources →
      ∀ p, v.probe d p = true → p = .dashboardRelationship ∨
        (p = .universalGrant ∧ ∀ db ∈ v.catalog.databases.rows, d.databaseId ≠ some db.id) := by
  have hascending : v.datasources.Pairwise fun d e => d.id.number < e.id.number :=
    Ledger.ascending _
  refine ⟨hascending, ?_, fun d => mem_datasources, ?_, ?_⟩
  · apply hascending.imp
    intro d e hlt hsame
    subst hsame
    exact Nat.lt_irrefl _ hlt
  · intro d hd
    obtain ⟨_, hopen⟩ := mem_datasources.mp hd
    apply canAccessDatasource_iff.mpr
    rcases hopen with hopen | hopen | hopen
    all_goals exact ⟨_, hopen⟩
  · intro d hd _ hunlisted p hp
    have hnot : ∀ q, v.probe d q = true → q ≠ .databaseGrant ∧ q ≠ .schemaGrant ∧
        q ≠ .directGrant := by
      intro q hq
      refine ⟨?_, ?_, ?_⟩
      all_goals
        intro hsame
        subst hsame
        exact hunlisted (mem_datasources.mpr ⟨hd, by simp [hq]⟩)
    cases p with
    | dashboardRelationship => exact .inl rfl
    | universalGrant =>
      refine .inr ⟨rfl, ?_⟩
      intro db hdb hown
      exact (hnot _ (databaseGrant_of_universal hp hdb hown)).1 rfl
    | databaseGrant => exact absurd rfl (hnot _ hp).1
    | schemaGrant => exact absurd rfl (hnot _ hp).2.1
    | directGrant => exact absurd rfl (hnot _ hp).2.2

/-- Of two datasources under the universal grant the one whose database is stored is listed. The
other may be read all the same, by that grant and no other. -/
theorem orphan_read_but_unlisted :
    let d : Datasource := ⟨⟨7⟩, some ⟨1⟩, none, "t", none, none, true⟩
    let orphan : Datasource := ⟨⟨8⟩, some ⟨9⟩, none, "u", none, none, true⟩
    let v := holderOf PermissionName.allDatasourceAccess PermissionName.allDatasourceAccess
      [⟨⟨1⟩, "a", none⟩] [d, orphan]
    v.datasources = [d] ∧ v.canAccessDatasource d = true ∧
      v.canAccessDatasource orphan = true ∧
      ∀ p, v.probe orphan p = true → p = .dashboardRelationship ∨
        (p = .universalGrant ∧ ∀ db ∈ v.catalog.databases.rows, orphan.databaseId ≠ some db.id) := by
  intro d orphan v
  obtain ⟨_, _, _, hopen, hothers⟩ := datasources_agree_with_probes v
  have hlisted : v.datasources = [d] := by decide +kernel
  have horphan : v.canAccessDatasource orphan = true := by decide +kernel
  refine ⟨hlisted, hopen d (by simp [hlisted]), horphan, ?_⟩
  exact hothers orphan (by decide +kernel) horphan (by rw [hlisted]; decide)

end Viewer
end Turnstile
