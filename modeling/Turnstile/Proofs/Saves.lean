import Mathlib.Data.List.Induction
import Turnstile.Proofs.StoredNames

namespace Turnstile
open Catalog
variable {c c' : Catalog} {row : Database} {d : Datasource}

theorem mem_putDatabase {x : Database} :
    x ∈ (c.putDatabase row).databases.rows ↔ x = row ∨ (x ∈ c.databases.rows ∧ x.id ≠ row.id) :=
  Ledger.mem_put.trans (or_congr_right (and_congr_right fun _ => not_congr Id.number_inj))

theorem database?_putDatabase (c : Catalog) (row : Database) :
    (c.putDatabase row).database? row.id = some row :=
  (ownIds _).databases row.id row |>.mpr ⟨mem_putDatabase.mpr (.inl rfl), rfl⟩

/-- What saving a database leaves behind: the row with its derived name and the pair for access to
it, besides what was there. -/
structure DatabaseSaved (c c' : Catalog) (row : Database) : Prop where
  intact : c'.Intact
  sided : c'.Sided
  databases : ∀ x, x ∈ c'.databases.rows ↔
    x = { row with perm := some row.resourceName } ∨ (x ∈ c.databases.rows ∧ x.id ≠ row.id)
  old : ∀ p r, c.HasPair p r → c'.HasPair p r
  pair : c'.HasPair PermissionName.databaseAccess row.resourceName

/-- A row that already carries its derived name gets its pair, and no datasource is touched. -/
theorem sync_named_database (h : c.Intact) (hs : c.Sided) (hn : row.perm = some row.resourceName) :
    ∃ c', PermissionSync.database row.id (c.putDatabase row) = .ok c' ∧ DatabaseSaved c c' row ∧
      c'.datasources = c.datasources ∧ ∀ p r, c'.HasPair p r ↔
        c.HasPair p r ∨ (p = PermissionName.databaseAccess ∧ r = row.resourceName) := by
  have hg := SameGrants.putDatabase c row
  have h₁ := ensurePair_ensured (hg.intact h) (hg.sided hs) PermissionName.databaseAccess
    row.resourceName
  have hpairs : ∀ p r, _ := fun p r => (h₁.pairs p r).trans (or_congr_left hg.hasPair_iff)
  refine ⟨_, ?_, ⟨h₁.intact, h₁.sided, ?_, ?_, ?_⟩, h₁.grows.entities.datasources, hpairs⟩
  · unfold PermissionSync.database
    simp only [database?_putDatabase, hn, ↓reduceIte]
  · intro x
    rw [h₁.grows.entities.databases, mem_putDatabase, ← hn]
  · exact fun p r hh => (hpairs p r).mpr (.inl hh)
  · exact (hpairs _ _).mpr (.inr ⟨rfl, rfl⟩)

/-- Any other row gets its derived name and its pair, and all its datasources are settled. -/
theorem sync_unnamed_database (h : c.Intact) (hs : c.Sided)
    (hn : row.perm ≠ some row.resourceName) :
    ∃ c', PermissionSync.database row.id (c.putDatabase row) = .ok c' ∧ DatabaseSaved c c' row ∧
      ∀ x ∈ c'.datasources.rows,
        (x.databaseId = some row.id ∧ c'.Settled row x) ∨
        (x.databaseId ≠ some row.id ∧ x ∈ c.datasources.rows) := by
  have hg := SameGrants.putDatabase c row
  have h₁ := ensurePair_ensured (hg.intact h) (hg.sided hs) PermissionName.databaseAccess
    row.resourceName
  generalize hc₁ : ((c.putDatabase row).ensurePair PermissionName.databaseAccess
    row.resourceName).2 = c₁ at h₁
  have hrow : c₁.database? row.id = some row := by
    unfold database?
    rw [h₁.grows.entities.databases]
    exact database?_putDatabase c row
  let row' : Database := { row with perm := some row.resourceName }
  have hset : c₁.setDatabasePerm row.id row.resourceName = .ok (c₁.putDatabase row') := by
    unfold setDatabasePerm
    rw [hrow]
    rfl
  have hg₂ := SameGrants.putDatabase c₁ row'
  obtain ⟨c', hrun, h₂⟩ := sync_datasourcesOf (hg₂.intact h₁.intact) (hg₂.sided h₁.sided)
    (database?_putDatabase c₁ row')
  have hold : ∀ p r, c₁.HasPair p r → c'.HasPair p r := fun p r hh =>
    (h₂.pairs p r).mpr (.inl (hg₂.hasPair_iff.mpr hh))
  refine ⟨c', ?_, ⟨h₂.intact, h₂.sided, ?_, ?_, ?_⟩, ?_⟩
  · unfold PermissionSync.database
    simp only [database?_putDatabase, hn, ↓reduceIte, hc₁, hset]
    exact hrun
  · intro x
    rw [h₂.databases, mem_putDatabase, h₁.grows.entities.databases, mem_putDatabase]
    constructor
    · rintro (hx | ⟨rfl | hx, hne⟩)
      · exact .inl hx
      · exact absurd rfl hne
      · exact .inr hx
    · rintro (hx | hx)
      · exact .inl hx
      · exact .inr ⟨.inr hx, hx.2⟩
  · exact fun p r hh => hold p r ((h₁.pairs p r).mpr (.inl (hg.hasPair_iff.mpr hh)))
  · exact hold _ _ ((h₁.pairs _ _).mpr (.inr ⟨rfl, rfl⟩))
  · intro x hx
    have hsame : (c₁.putDatabase row').datasources = c.datasources := h₁.grows.entities.datasources
    rcases h₂.settled hx with ⟨hid, hsettled⟩ | ⟨hid, hx⟩
    · exact .inl ⟨hid, hsettled.of_name rfl⟩
    · exact .inr ⟨hid, hsame ▸ hx⟩

/-- What every save keeps, whatever its row. -/
structure Kept (c : Catalog) : Prop where
  intact : c.Intact
  sided : c.Sided
  databases : ∀ db ∈ c.databases.rows, c.Current db

theorem kept_empty : Kept empty :=
  ⟨intact_empty, by simp [Sided, empty, Ledger.empty], by simp [empty, Ledger.empty]⟩

theorem fresh_empty : empty.Fresh :=
  ⟨by simp [empty, Ledger.empty], by simp [empty, Ledger.empty]⟩

theorem Catalog.Current.grow {db : Database} (h : c.Current db)
    (old : ∀ p r, c.HasPair p r → c'.HasPair p r) : c'.Current db :=
  ⟨h.perm, old _ _ h.pair⟩

theorem Catalog.Settled.grow {db : Database} (h : c.Settled db d)
    (old : ∀ p r, c.HasPair p r → c'.HasPair p r) : c'.Settled db d :=
  ⟨h.toCarries, fun p r hw => old p r (h.pairs p r hw)⟩

theorem DatabaseSaved.kept (h : DatabaseSaved c c' row) (hk : Kept c) : Kept c' := by
  refine ⟨h.intact, h.sided, ?_⟩
  intro db hdb
  rcases (h.databases db).mp hdb with rfl | ⟨hdb, _⟩
  · exact ⟨rfl, h.pair⟩
  · exact (hk.databases db hdb).grow h.old

/-- The datasources of a database that was saved under its derived name stay as they were, so they
are settled afterwards just if it was safe to save it. -/
theorem fresh_named_iff (hk : Kept c) (hf : c.Fresh) (hs : DatabaseSaved c c' row)
    (hd : c'.datasources = c.datasources) (hn : row.perm = some row.resourceName)
    (hp : ∀ p r, c'.HasPair p r ↔
      c.HasPair p r ∨ (p = PermissionName.databaseAccess ∧ r = row.resourceName)) :
    c'.Fresh ↔ c.SafeToSave row := by
  have hrow : row ∈ c'.databases.rows := (hs.databases row).mpr (.inl (by rw [← hn]))
  constructor
  · intro hf' _ d hd' hid
    have hsettled : c'.Settled row d := hf'.datasources d (hd ▸ hd') row hrow hid
    split
    · rename_i old hold
      obtain ⟨hmem, hoid⟩ := (c.ownIds.databases row.id old).mp hold
      have : c.Settled old d := hf.datasources d hd' old hmem (hoid ▸ hid)
      exact this.toCarries.name_eq hsettled.toCarries
    · refine ⟨hsettled.toCarries, fun p r hw => ?_⟩
      rcases (hp p r).mp (hsettled.pairs p r hw) with hh | ⟨rfl, _⟩
      · exact hh
      -- the one new pair is for a permission that no datasource wants
      · rcases hw with ⟨he, _⟩ | ⟨he, _⟩ <;> exact absurd he (by decide)
  · intro hsafe
    refine ⟨(hs.kept hk).databases, ?_⟩
    intro d hd' db hdb hid
    rw [hd] at hd'
    rcases (hs.databases db).mp hdb with rfl | ⟨hdb, _⟩
    · have := hsafe hn d hd' hid
      refine Settled.of_name (?_ : c'.Settled row d) rfl
      split at this
      · rename_i old hold
        obtain ⟨hmem, hoid⟩ := (c.ownIds.databases row.id old).mp hold
        have hsettled : c.Settled old d := hf.datasources d hd' old hmem (hoid ▸ hid)
        exact (hsettled.of_name this).grow hs.old
      · exact this.grow hs.old
    · exact (hf.datasources d hd' db hdb hid).grow hs.old

theorem fresh_unnamed (hk : Kept c) (hf : c.Fresh) (hs : DatabaseSaved c c' row)
    (hd : ∀ x ∈ c'.datasources.rows,
      (x.databaseId = some row.id ∧ c'.Settled row x) ∨
      (x.databaseId ≠ some row.id ∧ x ∈ c.datasources.rows)) : c'.Fresh := by
  refine ⟨(hs.kept hk).databases, ?_⟩
  intro d hd' db hdb hid
  rcases hd d hd' with ⟨hrid, hsettled⟩ | ⟨hrid, hmem⟩
  · rcases (hs.databases db).mp hdb with rfl | ⟨_, hne⟩
    · exact hsettled.of_name rfl
    · exact absurd (Option.some.inj (hid.symm.trans hrid)) hne
  · rcases (hs.databases db).mp hdb with rfl | ⟨hdb, _⟩
    · exact absurd hid hrid
    · exact (hf.datasources d hmem db hdb hid).grow hs.old

/-- A database can always be saved, and what is fresh stays so just if it is safe to save it. -/
theorem save_database (hk : Kept c) (row : Database) :
    ∃ c', PermissionSync.database row.id (c.putDatabase row) = .ok c' ∧ Kept c' ∧
      (c.Fresh → (c'.Fresh ↔ c.SafeToSave row)) := by
  by_cases hn : row.perm = some row.resourceName
  · obtain ⟨c', hrun, hs, hd, hp⟩ := sync_named_database hk.intact hk.sided hn
    exact ⟨c', hrun, hs.kept hk, fun hf => fresh_named_iff hk hf hs hd hn hp⟩
  · obtain ⟨c', hrun, hs, hd⟩ := sync_unnamed_database hk.intact hk.sided hn
    refine ⟨c', hrun, hs.kept hk, fun hf => ?_⟩
    exact iff_of_true (fresh_unnamed hk hf hs hd) fun hc => absurd hc hn

theorem datasource?_putDatasource (c : Catalog) (row : Datasource) :
    (c.putDatasource row).datasource? row.id = some row := by
  refine ((ownIds _).datasources row.id row).mpr ⟨?_, rfl⟩
  exact mem_putDatasource.mpr (.inl rfl)

theorem Kept.grow (hk : Kept c) (hi : c'.Intact) (hs : c'.Sided)
    (hdbs : c'.databases = c.databases) (old : ∀ p r, c.HasPair p r → c'.HasPair p r) : Kept c' :=
  ⟨hi, hs, fun db hdb => (hk.databases db (hdbs ▸ hdb)).grow old⟩

/-- The stored database that a datasource names is the one that is looked up for it. -/
theorem parent_of_mem {db : Database} (hmem : db ∈ c.databases.rows)
    (hid : d.databaseId = some db.id) : d.databaseId.bind c.database? = some db := by
  rw [hid]
  exact (c.ownIds.databases db.id db).mpr ⟨hmem, rfl⟩

/-- A datasource without a stored database has no derived names to fall behind. -/
theorem fresh_orphan (hf : c.Fresh) (hdb : d.databaseId.bind c.database? = none) :
    (c.putDatasource d).Fresh := by
  have old : ∀ p r, c.HasPair p r → (c.putDatasource d).HasPair p r := fun p r =>
    (SameGrants.putDatasource c d).hasPair_iff.mpr
  refine ⟨fun db hmem => (hf.databases db hmem).grow old, ?_⟩
  intro x hx db hmem hid
  rcases mem_putDatasource.mp hx with rfl | ⟨hx, _⟩
  · exact absurd (hdb.symm.trans (parent_of_mem hmem hid)) (by simp)
  · exact (hf.datasources x hx db hmem hid).grow old

theorem fresh_settled {parent : Database} (hf : c.Fresh)
    (hdb : d.databaseId.bind c.database? = some parent)
    (hs : Settles (c.putDatasource d) c' parent [d])
    (old : ∀ p r, c.HasPair p r → c'.HasPair p r) : c'.Fresh := by
  have hdbs : c'.databases = c.databases := hs.databases
  refine ⟨fun db hmem => (hf.databases db (hdbs ▸ hmem)).grow old, ?_⟩
  intro x hx db hmem hid
  rw [hdbs] at hmem
  rcases (hs.datasources x).mp hx with ⟨e, he, rfl⟩ | ⟨hx, hne⟩
  · rw [List.mem_singleton] at he
    subst he
    have hparent : e.databaseId.bind c.database? = some db := parent_of_mem hmem hid
    obtain rfl : parent = db := Option.some.inj (hdb.symm.trans hparent)
    exact ⟨e.carries_named parent, fun p r hw => (hs.pairs p r).mpr (.inr ⟨e, by simp, hw⟩)⟩
  · rcases mem_putDatasource.mp hx with rfl | ⟨hx, _⟩
    · exact absurd rfl (hne x (by simp))
    · exact (hf.datasources x hx db hmem hid).grow old

/-- A datasource can always be saved, and what is fresh stays so. -/
theorem save_datasource (hk : Kept c) (row : Datasource) :
    ∃ c', PermissionSync.datasource row.id (c.putDatasource row) = .ok c' ∧ Kept c' ∧
      (c.Fresh → c'.Fresh) := by
  have hg := SameGrants.putDatasource c row
  have hi := hg.intact hk.intact
  have hsided := hg.sided hk.sided
  have hrow := datasource?_putDatasource c row
  cases hdb : row.databaseId.bind c.database? with
  | none =>
    refine ⟨_, sync_orphan hrow hdb, hk.grow hi hsided rfl ?_, fun hf => fresh_orphan hf hdb⟩
    exact fun p r => hg.hasPair_iff.mpr
  | some parent =>
    have hs := settle_settles hi hsided parent row
    have old : ∀ p r, c.HasPair p r → ((c.putDatasource row).settle parent row).HasPair p r :=
      fun p r hh => (hs.pairs p r).mpr (.inl (hg.hasPair_iff.mpr hh))
    exact ⟨_, sync_datasource hrow hdb, hk.grow hs.intact hs.sided hs.databases old,
      fun hf => fresh_settled hf hdb hs old⟩

inductive Save where
  | database (row : Database)
  | datasource (row : Datasource)

namespace Store

/-- Saves a row, unless that is refused. -/
def trySave (s : Store) : Save → Except StoreError Store
  | .database row => s.saveDatabase row
  | .datasource row => s.saveDatasource row

/-- A save that is refused leaves the store as it was. -/
def save (s : Store) (w : Save) : Store :=
  match s.trySave w with
  | .ok s' => s'
  | .error _ => s

def saved (ws : List Save) : Store := ws.foldl save standard

def holding (c : Catalog) : Store := { standard with catalog := c }

theorem saved_concat (ws : List Save) (w : Save) : saved (ws ++ [w]) = (saved ws).save w := by
  simp only [saved, List.foldl_append, List.foldl_cons, List.foldl_nil]

theorem runHooks_standard (w : Written) (c : Catalog) :
    runHooks standard.hooks w c = PermissionSync.hook w c := by
  simp [runHooks, standard, bare, withHook]

theorem trySave_database (h : PermissionSync.database row.id (c.putDatabase row) = .ok c') :
    (holding c).trySave (.database row) = .ok (holding c') := by
  have hrun : runHooks standard.hooks (.database row.id) (c.putDatabase row) = .ok c' :=
    (runHooks_standard _ _).trans h
  unfold trySave saveDatabase transact
  rw [show (holding c).hooks = standard.hooks from rfl, show (holding c).read = .ok c from rfl]
  simp only [hrun]
  rfl

theorem trySave_datasource {row : Datasource}
    (h : PermissionSync.datasource row.id (c.putDatasource row) = .ok c') :
    (holding c).trySave (.datasource row) = .ok (holding c') := by
  have hrun : runHooks standard.hooks (.datasource row.id) (c.putDatasource row) = .ok c' :=
    (runHooks_standard _ _).trans h
  unfold trySave saveDatasource transact
  rw [show (holding c).hooks = standard.hooks from rfl, show (holding c).read = .ok c from rfl]
  simp only [hrun]
  rfl

/-- One save keeps what saves keep, and leaves no stale name just if it was safe. -/
theorem save_step (hk : Kept c) (w : Save) :
    ∃ c', (holding c).trySave w = .ok (holding c') ∧ Kept c' ∧
      (c.Fresh → (c'.Fresh ↔ ∀ row, w = .database row → c.SafeToSave row)) := by
  cases w with
  | database row =>
    obtain ⟨c', hrun, hk', hf⟩ := save_database hk row
    refine ⟨c', trySave_database hrun, hk', fun h => (hf h).trans ?_⟩
    simp
  | datasource row =>
    obtain ⟨c', hrun, hk', hf⟩ := save_datasource hk row
    refine ⟨c', trySave_datasource hrun, hk', fun h => iff_of_true (hf h) ?_⟩
    simp

theorem saved_kept (ws : List Save) : ∃ c, saved ws = holding c ∧ Kept c := by
  induction ws using List.reverseRecOn with
  | nil => exact ⟨empty, rfl, kept_empty⟩
  | append_singleton ws w ih =>
    obtain ⟨c, hc, hk⟩ := ih
    obtain ⟨c', hrun, hk', _⟩ := save_step hk w
    refine ⟨c', ?_, hk'⟩
    rw [saved_concat, hc, save, hrun]

/-- One more save keeps everything fresh just if it is safe. -/
theorem fresh_concat_iff {ws : List Save} (h : (saved ws).catalog.Fresh) (w : Save) :
    (saved (ws ++ [w])).catalog.Fresh ↔
      ∀ row, w = .database row → (saved ws).catalog.SafeToSave row := by
  obtain ⟨c, hc, hk⟩ := saved_kept ws
  obtain ⟨c', hrun, _, hf⟩ := save_step hk w
  rw [saved_concat, hc, save, hrun]
  rw [hc] at h
  exact hf h

end Store

/-- No save is ever refused, databases always carry their derived names, and no stored name is ever
stale just if every database was safe to save when its turn came. -/
theorem stored_names_fresh_iff (ws : List Save) :
    (∀ w, ∃ s, (Store.saved ws).trySave w = .ok s) ∧
    (∀ db ∈ (Store.saved ws).catalog.databases.rows, (Store.saved ws).catalog.Current db) ∧
    ((∀ done, done <+: ws → (Store.saved done).catalog.Fresh) ↔
      ∀ done row, done ++ [.database row] <+: ws →
        (Store.saved done).catalog.SafeToSave row) := by
  obtain ⟨c, hc, hk⟩ := Store.saved_kept ws
  refine ⟨?_, ?_, ?_, ?_⟩
  · intro w
    obtain ⟨c', hrun, _⟩ := Store.save_step hk w
    exact ⟨_, hc ▸ hrun⟩
  · rw [hc]
    exact hk.databases
  · intro hfresh done row hdone
    have hbefore := hfresh done ((List.prefix_append done _).trans hdone)
    exact (Store.fresh_concat_iff hbefore _).mp (hfresh _ hdone) row rfl
  · intro hsafe done hdone
    induction done using List.reverseRecOn with
    | nil => exact fresh_empty
    | append_singleton done w ih =>
      have hbefore := ih ((List.prefix_append done _).trans hdone)
      refine (Store.fresh_concat_iff hbefore w).mpr ?_
      rintro row rfl
      exact hsafe done row hdone

/-- A database that is renamed by a row with its new name already in place leaves the names of its
datasources stale. -/
theorem renamed_database_leaves_stale_names :
    ¬ (Store.saved [.database ⟨⟨1⟩, "a", none⟩,
      .datasource ⟨⟨7⟩, some ⟨1⟩, none, "t", none, none, true⟩,
      .database ⟨⟨1⟩, "b", some "[b].(id:1)"⟩]).catalog.Fresh := by
  intro h
  have hd := h.datasources ⟨⟨7⟩, some ⟨1⟩, none, "t", some "[a].[t](id:7)", none, true⟩
    (by decide +kernel) ⟨⟨1⟩, "b", some "[b].(id:1)"⟩ (by decide +kernel) rfl
  exact absurd hd.perm (by decide +kernel)

end Turnstile
