import Turnstile.Proofs.RolePasses
import Turnstile.Proofs.Saves
import Turnstile.Access.Viewer

namespace Turnstile
open Catalog
variable {c c' : Catalog}

namespace Catalog

/-- All sides of pairs are from the counter, as they are if pairs are made by names only. -/
structure Sound (c : Catalog) : Prop where
  intact : c.Intact
  sided : c.Sided

/-- Permissions, resources and pairs may be new, databases and datasources may differ. The old pairs
stand for what they stood for, and everything else is the same. -/
structure Enriches (c c' : Catalog) : Prop where
  permissions : ∀ x ∈ c.permissions.rows, x ∈ c'.permissions.rows
  resources : ∀ x ∈ c.resources.rows, x ∈ c'.resources.rows
  pairs : ∀ x ∈ c.pairs.rows, x ∈ c'.pairs.rows
  names : ∀ x ∈ c.pairs.rows, c'.resolve? x = c.resolve? x
  roles : c'.roles = c.roles
  users : c'.users = c.users
  charts : c'.charts = c.charts
  dashboards : c'.dashboards = c.dashboards
  embeddings : c'.embeddings = c.embeddings
  rowFilters : c'.rowFilters = c.rowFilters

/-- What the change makes of a sound catalog is sound and enriches it. -/
structure Quiet (c c' : Catalog) : Prop where
  sound : c.Sound → c'.Sound
  enriches : c.Sound → Enriches c c'

theorem Enriches.refl (c : Catalog) : Enriches c c :=
  ⟨fun _ h => h, fun _ h => h, fun _ h => h, fun _ _ => rfl, rfl, rfl, rfl, rfl, rfl, rfl⟩

theorem Enriches.trans {d : Catalog} (h : Enriches c c') (h' : Enriches c' d) :
    Enriches c d where
  permissions x hx := h'.permissions x (h.permissions x hx)
  resources x hx := h'.resources x (h.resources x hx)
  pairs x hx := h'.pairs x (h.pairs x hx)
  names x hx := (h'.names x (h.pairs x hx)).trans (h.names x hx)
  roles := h'.roles.trans h.roles
  users := h'.users.trans h.users
  charts := h'.charts.trans h.charts
  dashboards := h'.dashboards.trans h.dashboards
  embeddings := h'.embeddings.trans h.embeddings
  rowFilters := h'.rowFilters.trans h.rowFilters

theorem Quiet.refl (c : Catalog) : Quiet c c := ⟨fun h => h, fun _ => .refl c⟩

theorem Quiet.trans {d : Catalog} (h : Quiet c c') (h' : Quiet c' d) : Quiet c d where
  sound hc := h'.sound (h.sound hc)
  enriches hc := (h.enriches hc).trans (h'.enriches (h.sound hc))

/-- A side that the counter has passed is the one it was, or gone as it was. -/
theorem Extends.permissionIs_iff (h : Extends c c') (hg : Grows c c') {id : PermissionId}
    {name : String} (hid : id.number ≤ c.counter) :
    c'.PermissionIs id name ↔ c.PermissionIs id name := by
  constructor
  · rintro ⟨q, hq, rfl, hn⟩
    have hold := h.old (.permission q) (mem_counted_permission.mpr hq) hid
    exact ⟨q, mem_counted_permission.mp hold, rfl, hn⟩
  · rintro ⟨q, hq, hqn⟩
    exact ⟨q, hg.permissions q hq, hqn⟩

/-- Old identifiers keep what they stand for, since none is given twice. -/
theorem Extends.resourceIs_iff (h : Extends c c') (hg : Grows c c') {id : ResourceId}
    {name : String} (hid : id.number ≤ c.counter) :
    c'.ResourceIs id name ↔ c.ResourceIs id name := by
  constructor
  · rintro ⟨t, ht, rfl, hn⟩
    have hold := h.old (.resource t) (mem_counted_resource.mpr ht) hid
    exact ⟨t, mem_counted_resource.mp hold, rfl, hn⟩
  · rintro ⟨t, ht, htn⟩
    exact ⟨t, hg.resources t ht, htn⟩

/-- Where no side of a pair is ahead of the counter, new permissions and resources revive none of
the old pairs. -/
theorem Grows.enriches (hg : Grows c c') (h : Extends c c') (hs : c.Sided) : Enriches c c' where
  permissions := hg.permissions
  resources := hg.resources
  pairs := hg.pairs
  names x hx := by
    -- a row made since has a number that no side of an old pair can have
    obtain ⟨hp, hr⟩ := hs x hx
    apply Option.ext
    intro n
    rw [resolve?_eq_some, resolve?_eq_some, h.permissionIs_iff hg hp, h.resourceIs_iff hg hr]
  roles := hg.roles
  users := hg.entities.users
  charts := hg.entities.charts
  dashboards := hg.entities.dashboards
  embeddings := hg.entities.embeddings
  rowFilters := hg.entities.rowFilters

/-- Making sure of a pair never changes what another pair stands for. -/
theorem ensurePair_quiet (c : Catalog) (permission resource : String) :
    Quiet c (c.ensurePair permission resource).2 where
  sound h := by
    have hmade := ensurePair_ensured h.intact h.sided permission resource
    exact ⟨hmade.intact, hmade.sided⟩
  enriches h := by
    have hmade := ensurePair_ensured h.intact h.sided permission resource
    have hsteps := ensurePair_steps c permission resource
    exact hmade.grows.enriches (Steps.extends hsteps h.intact) h.sided

theorem SameGrants.sound (h : SameGrants c c') (hc : c.Sound) : c'.Sound :=
  ⟨h.intact hc.intact, h.sided hc.sided⟩

theorem putDatabase_quiet (c : Catalog) (row : Database) : Quiet c (c.putDatabase row) where
  sound := (SameGrants.putDatabase c row).sound
  enriches _ :=
    ⟨fun _ h => h, fun _ h => h, fun _ h => h, fun _ _ => rfl, rfl, rfl, rfl, rfl, rfl, rfl⟩

theorem putDatasource_quiet (c : Catalog) (row : Datasource) :
    Quiet c (c.putDatasource row) where
  sound := (SameGrants.putDatasource c row).sound
  enriches _ :=
    ⟨fun _ h => h, fun _ h => h, fun _ h => h, fun _ _ => rfl, rfl, rfl, rfl, rfl, rfl, rfl⟩

end Catalog

abbrev WriteChain (kind : Write → Prop) : Catalog → Catalog → Prop :=
  Relation.ReflTransGen fun c c' => ∃ w, kind w ∧ w.run c = .ok c'

namespace WriteChain
variable {kind kind' : Write → Prop}

theorem single {w : Write} (hw : kind w) (h : w.run c = .ok c') : WriteChain kind c c' :=
  Relation.ReflTransGen.single ⟨w, hw, h⟩

theorem mono (hkind : ∀ w, kind w → kind' w) (h : WriteChain kind c c') :
    WriteChain kind' c c' := by
  induction h with
  | refl => exact .refl
  | tail _ hw ih =>
    obtain ⟨w, hw, hrun⟩ := hw
    exact ih.tail ⟨w, hkind w hw, hrun⟩

theorem steps (h : WriteChain kind c c') : Steps c c' := by
  induction h with
  | refl => exact .refl
  | tail _ hw ih =>
    obtain ⟨w, _, hrun⟩ := hw
    exact ih.trans (Write.run_steps hrun)

theorem foldlM {α : Type} {f : Catalog → α → Except StoreError Catalog} {xs : List α}
    (hf : ∀ x ∈ xs, ∀ c c', f c x = .ok c' → WriteChain kind c c')
    (h : xs.foldlM f c = .ok c') : WriteChain kind c c' := by
  induction xs generalizing c with
  | nil =>
    obtain rfl := Except.ok.inj h
    exact .refl
  | cons x xs ih =>
    obtain ⟨d, hd, h⟩ := bind_eq_ok.mp h
    exact (hf x (by simp) c d hd).trans (ih (fun y hy => hf y (by simp [hy])) h)

/-- A list of writes, of which some may be refused. -/
theorem applyAll {ws : List Write} (hws : ∀ w ∈ ws, kind w) (c : Catalog) :
    WriteChain kind c (ws.foldl Write.apply c) := by
  induction ws generalizing c with
  | nil => exact .refl
  | cons w ws ih =>
    have hfirst : WriteChain kind c (w.apply c) := by
      unfold Write.apply
      split
      · rename_i h
        exact single (hws w (by simp)) h
      · exact .refl
    exact hfirst.trans (ih (fun w' hw' => hws w' (by simp [hw'])) _)

end WriteChain

/-- The writes that a save is made of: they store what is protected and make pairs by names. -/
def Write.Saves : Write → Prop
  | ensurePair .. | putDatabase _ | putDatasource _ => True
  | setDatabasePerm .. | setDatasourcePerms .. => True
  | _ => False

theorem Write.run_quiet {w : Write} (hw : w.Saves) (h : w.run c = .ok c') : Quiet c c' := by
  cases w with
  | ensurePair permission resource =>
    obtain rfl := Except.ok.inj h
    exact ensurePair_quiet c permission resource
  | putDatabase row =>
    obtain rfl := Except.ok.inj h
    exact putDatabase_quiet c row
  | putDatasource row =>
    obtain rfl := Except.ok.inj h
    exact putDatasource_quiet c row
  | setDatabasePerm id perm =>
    simp only [run, Catalog.setDatabasePerm] at h
    split at h <;> cases h
    exact putDatabase_quiet c _
  | setDatasourcePerms id perm schemaPerm =>
    simp only [run, Catalog.setDatasourcePerms] at h
    split at h <;> cases h
    exact putDatasource_quiet c _
  | _ => cases hw

theorem WriteChain.quiet (h : WriteChain Write.Saves c c') : Quiet c c' := by
  induction h with
  | refl => exact .refl c
  | tail _ hw ih =>
    obtain ⟨w, hsaves, hrun⟩ := hw
    exact ih.trans (Write.run_quiet hsaves hrun)

namespace Catalog

theorem ensurePair_chain (c : Catalog) (permission resource : String) :
    WriteChain Write.Saves c (c.ensurePair permission resource).2 :=
  .single (w := .ensurePair permission resource) trivial rfl

theorem ensurePairs_chain (ws : List (String × String)) (c : Catalog) :
    WriteChain Write.Saves c (c.ensurePairs ws) := by
  induction ws generalizing c with
  | nil => exact .refl
  | cons w ws ih => exact (ensurePair_chain c w.1 w.2).trans (ih _)

theorem createMissingPairs_quiet (c : Catalog) : Quiet c c.createMissingPairs.2 := by
  have hquiet := (ensurePairs_chain c.wantedPairs c).quiet
  refine ⟨fun h => ?_, fun h => ?_⟩
  · rw [h.intact.createMissingPairs_eq]
    exact hquiet.sound h
  · rw [h.intact.createMissingPairs_eq]
    exact hquiet.enriches h

theorem putDatabase_chain (c : Catalog) (row : Database) :
    WriteChain Write.Saves c (c.putDatabase row) :=
  .single (w := .putDatabase row) trivial rfl

theorem putDatasource_chain (c : Catalog) (row : Datasource) :
    WriteChain Write.Saves c (c.putDatasource row) :=
  .single (w := .putDatasource row) trivial rfl

theorem settle_chain (c : Catalog) (db : Database) (d : Datasource) :
    WriteChain Write.Saves c (c.settle db d) := by
  have hnamed := (putDatasource_chain c (d.named db)).trans
    (ensurePair_chain _ PermissionName.datasourceAccess (d.resourceName db))
  unfold settle
  dsimp only
  split
  · exact hnamed
  · exact hnamed.trans (ensurePair_chain _ _ _)

end Catalog

namespace PermissionSync

theorem datasource_chain {id : DatasourceId} (h : datasource id c = .ok c') :
    WriteChain Write.Saves c c' := by
  cases hd : c.datasource? id with
  | none => simp [datasource, hd] at h
  | some d =>
    cases hdb : d.databaseId.bind c.database? with
    | none =>
      rw [sync_orphan hd hdb] at h
      obtain rfl := Except.ok.inj h
      exact .refl
    | some db =>
      rw [sync_datasource hd hdb] at h
      obtain rfl := Except.ok.inj h
      exact settle_chain c db d

theorem database_chain {id : DatabaseId} (h : database id c = .ok c') :
    WriteChain Write.Saves c c' := by
  unfold database at h
  split at h
  · cases h
  · rename_i db _
    have hpair := ensurePair_chain c PermissionName.databaseAccess db.resourceName
    dsimp only at h
    split at h
    · obtain rfl := Except.ok.inj h
      exact hpair
    · obtain ⟨d, hset, h⟩ := bind_eq_ok.mp h
      have hnamed := hpair.trans (WriteChain.single (w := .setDatabasePerm id _) trivial hset)
      exact hnamed.trans (WriteChain.foldlM (fun _ _ _ _ => datasource_chain) h)

/-- All that the hook of the library does belongs to the save. -/
theorem hook_chain {w : Written} (h : hook w c = .ok c') : WriteChain Write.Saves c c' := by
  cases w with
  | database id => exact database_chain h
  | datasource id => exact datasource_chain h

end PermissionSync

/-- Nobody holds more or less than before. Users, dashboards, charts and filters are the same, roles
keep their names, and permissions and resources stay. -/
structure GrantsNothing (c c' : Catalog) : Prop where
  held : ∀ settings principal extract,
    Viewer.pairs ⟨c', settings, principal, extract⟩ =
      Viewer.pairs ⟨c, settings, principal, extract⟩
  answers : ∀ settings principal extract,
    Viewer.canAccess ⟨c', settings, principal, extract⟩ =
      Viewer.canAccess ⟨c, settings, principal, extract⟩
  users : c'.users = c.users
  roles : c'.roles.rows.map (fun r => (r.id, r.name)) = c.roles.rows.map fun r => (r.id, r.name)
  dashboards : c'.dashboards = c.dashboards
  charts : c'.charts = c.charts
  embeddings : c'.embeddings = c.embeddings
  rowFilters : c'.rowFilters = c.rowFilters
  permissions : ∀ x ∈ c.permissions.rows, x ∈ c'.permissions.rows
  resources : ∀ x ∈ c.resources.rows, x ∈ c'.resources.rows

section
variable {s : AccessSettings} {p : Principal} {x : Extractor} {f : Role → Role}

theorem Catalog.role?_map (hid : ∀ r, (f r).id = r.id)
    (h : c'.roles = c.roles.map f fun r => congrArg Id.number (hid r)) (id : RoleId) :
    c'.role? id = (c.role? id).map f := by
  unfold role?
  rw [h, Ledger.find?_map]

theorem Catalog.roleNamed?_map (hid : ∀ r, (f r).id = r.id) (hname : ∀ r, (f r).name = r.name)
    (h : c'.roles = c.roles.map f fun r => congrArg Id.number (hid r)) (name : String) :
    c'.roleNamed? name = (c.roleNamed? name).map f := by
  have hsame : ((fun r : Role => r.name == name) ∘ f) = fun r => r.name == name := by
    funext r
    simp only [Function.comp_apply, hname]
  unfold roleNamed?
  rw [h, Ledger.map, List.find?_map, hsame]

/-- Roles are found by identifier and name, so changes to what they hold change nobody's roles. -/
theorem Viewer.roles_map (hid : ∀ r, (f r).id = r.id) (hname : ∀ r, (f r).name = r.name)
    (h : c'.roles = c.roles.map f fun r => congrArg Id.number (hid r)) :
    Viewer.roles ⟨c', s, p, x⟩ = (Viewer.roles ⟨c, s, p, x⟩).map f := by
  have hids : Viewer.roleIds ⟨c', s, p, x⟩ = Viewer.roleIds ⟨c, s, p, x⟩ := by
    cases p with
    | anonymous =>
      unfold Viewer.roleIds
      cases hpublic : s.publicRole with
      | none => rfl
      | some name =>
        simp only [Option.bind_some, roleNamed?_map hid hname h, Option.map_map,
          Function.comp_def, hid]
    | user id ids => rfl
    | guest g => rfl
  unfold Viewer.roles
  rw [hids, List.map_filterMap]
  simp only [role?_map hid h]

/-- If every role holds pairs of the same names as before, so does every principal. -/
theorem Viewer.pairs_map (hid : ∀ r, (f r).id = r.id) (hname : ∀ r, (f r).name = r.name)
    (h : c'.roles = c.roles.map f fun r => congrArg Id.number (hid r))
    (held : ∀ r ∈ c.roles.rows, (f r).pairIds.rows.filterMap c'.namesOf? =
      r.pairIds.rows.filterMap c.namesOf?) :
    Viewer.pairs ⟨c', s, p, x⟩ = Viewer.pairs ⟨c, s, p, x⟩ := by
  unfold Viewer.pairs
  rw [Viewer.roles_map hid hname h, List.flatMap_map]
  apply List.flatMap_congr
  intro r hr
  obtain ⟨id, _, hrole⟩ := List.mem_filterMap.mp hr
  exact held r (Ledger.mem_of_find? hrole)

end

theorem Viewer.canAccess_congr {v w : Viewer} (h : w.pairs = v.pairs) :
    w.canAccess = v.canAccess := by
  funext permission resource
  unfold Viewer.canAccess
  rw [h]

theorem Catalog.namesOf?_of_mem {x : Pair} (hx : x ∈ c.pairs.rows) :
    c.namesOf? x.id = (c.resolve? x).map fun n => (n.permission, n.resource) := by
  unfold namesOf?
  rw [mem_pairs_iff.mpr hx, Option.bind_some]

/-- New pairs are held by no role, so nobody holds more. -/
theorem Catalog.Enriches.grantsNothing (h : Enriches c c') (hi : c.Intact) :
    GrantsNothing c c' := by
  have hroles : c'.roles = c.roles.map (fun r => r) fun _ => rfl := by
    rw [h.roles]
    exact Ledger.ext (List.map_id' _).symm
  have hpairs : ∀ s p x, Viewer.pairs ⟨c', s, p, x⟩ = Viewer.pairs ⟨c, s, p, x⟩ := by
    intro s p x
    apply Viewer.pairs_map (fun _ => rfl) (fun _ => rfl) hroles
    intro r hr
    apply List.filterMap_congr
    intro k hk
    obtain ⟨q, hq, rfl⟩ := hi.held r hr k hk
    rw [namesOf?_of_mem hq, namesOf?_of_mem (h.pairs q hq), h.names q hq]
  refine ⟨hpairs, fun s p x => Viewer.canAccess_congr (hpairs s p x), h.users, ?_, h.dashboards,
    h.charts, h.embeddings, h.rowFilters, h.permissions, h.resources⟩
  rw [h.roles]

/-- Cleaning takes from the roles only what stood for nothing. -/
theorem cleanPairs_grantsNothing (hi : c.Intact) : GrantsNothing c c.cleanPairs.2 := by
  have hpairs : ∀ s p x,
      Viewer.pairs ⟨c.cleanPairs.2, s, p, x⟩ = Viewer.pairs ⟨c, s, p, x⟩ := by
    intro s p x
    apply Viewer.pairs_map (f := stripRole c.danglingPairs) (fun _ => rfl) (fun _ => rfl) rfl
    intro r hr
    unfold stripRole Ledger.filter
    rw [List.filterMap_filter]
    apply List.filterMap_congr
    intro k hk
    obtain ⟨q, hq, rfl⟩ := hi.held r hr k hk
    cases hres : c.resolve? q with
    -- the role loses the pair, which stood for no names
    | none =>
      have hdangling : q.id ∈ c.danglingPairs := mem_danglingPairs.mpr ⟨q, hq, hres, rfl⟩
      simp [hdangling, namesOf?_of_mem hq, hres]
    | some n =>
      have hresolves : c.resolve? q ≠ none := by simp [hres]
      have hstays : q.id ∉ c.danglingPairs := (pair_notMem_danglingPairs hq).mpr hresolves
      have hq' : q ∈ c.cleanPairs.2.pairs.rows := mem_cleanPairs.mpr ⟨hq, hresolves⟩
      simp [hstays, namesOf?_of_mem hq, namesOf?_of_mem hq', resolve?_cleanPairs]
  refine ⟨hpairs, fun s p x => Viewer.canAccess_congr (hpairs s p x), rfl, ?_, rfl, rfl, rfl, rfl,
    fun _ h => h, fun _ h => h⟩
  unfold cleanPairs
  rw [rows_deletePairs_roles, List.map_map]
  rfl

/-- Upkeep of the pairs, and saves of what they protect. -/
inductive Chore where
  | cleanPairs
  | createMissingPairs
  | ensureCustomPairs
  | saveDatabase (row : Database)
  | saveDatasource (row : Datasource)

namespace Chore

/-- Does the chore in a transaction of its own. -/
def run (s : Store) : Chore → Except StoreError Store
  | cleanPairs => (s.update Catalog.cleanPairs).map (·.2)
  | createMissingPairs => (s.update Catalog.createMissingPairs).map (·.2)
  | ensureCustomPairs => (s.update fun c => ((), c.ensureCustomPairs)).map (·.2)
  | saveDatabase row => s.saveDatabase row
  | saveDatasource row => s.saveDatasource row

/-- What the chore makes of the catalog. -/
def effect (c : Catalog) : Chore → Except StoreError Catalog
  | cleanPairs => .ok c.cleanPairs.2
  | createMissingPairs => .ok c.createMissingPairs.2
  | ensureCustomPairs => .ok c.ensureCustomPairs
  | saveDatabase row => PermissionSync.database row.id (c.putDatabase row)
  | saveDatasource row => PermissionSync.datasource row.id (c.putDatasource row)

theorem map_unit_snd (x : Except StoreError Catalog) : (x.map ((), ·)).map (·.2) = x := by
  cases x <;> rfl

theorem transact_snd_eq_ok {α : Type} {s s' : Store}
    {f : Catalog → Except StoreError (α × Catalog)} :
    (s.transact id f).map (·.2) = .ok s' ↔ s.poisoned = false ∧
      ∃ c, (f s.catalog).map (·.2) = .ok c ∧ s' = { s with catalog := c } := by
  simp only [map_eq_ok, Prod.exists, exists_eq_right, Store.transact_eq_ok]
  constructor
  · rintro ⟨a, hp, c, hf, hs⟩
    exact ⟨hp, c, ⟨a, hf⟩, hs⟩
  · rintro ⟨hp, c, ⟨a, hf⟩, hs⟩
    exact ⟨a, hp, c, hf, hs⟩

theorem run_eq_ok {s s' : Store} {w : Chore} (hh : s.hooks = Store.standard.hooks) :
    w.run s = .ok s' ↔
      s.poisoned = false ∧ ∃ c, w.effect s.catalog = .ok c ∧ s' = { s with catalog := c } := by
  cases w with
  | saveDatabase row =>
    unfold run Store.saveDatabase effect
    rw [transact_snd_eq_ok, hh, map_unit_snd, Store.runHooks_standard]
    rfl
  | saveDatasource row =>
    unfold run Store.saveDatasource effect
    rw [transact_snd_eq_ok, hh, map_unit_snd, Store.runHooks_standard]
    rfl
  | _ =>
    unfold run Store.update effect
    rw [transact_snd_eq_ok]
    simp only [Except.map]

/-- No chore is refused. -/
theorem exists_effect (h : c.Sound) (w : Chore) : ∃ c', w.effect c = .ok c' := by
  cases w with
  | saveDatabase row =>
    by_cases hn : row.perm = some row.resourceName
    · obtain ⟨c', hrun, _⟩ := sync_named_database h.intact h.sided hn
      exact ⟨c', hrun⟩
    · obtain ⟨c', hrun, _⟩ := sync_unnamed_database h.intact h.sided hn
      exact ⟨c', hrun⟩
  | saveDatasource row =>
    have hrow := datasource?_putDatasource c row
    cases hdb : row.databaseId.bind (c.putDatasource row).database? with
    | none => exact ⟨_, sync_orphan hrow hdb⟩
    | some db => exact ⟨_, sync_datasource hrow hdb⟩
  | _ => exact ⟨_, rfl⟩

theorem sound_cleanPairs (h : c.Sound) : c.cleanPairs.2.Sound := by
  refine ⟨cleanPairs_intact h.intact, ?_⟩
  intro x hx
  exact h.sided x (mem_cleanPairs.mp hx).1

/-- All chores but cleaning only make rows. -/
theorem effect_quiet {w : Chore} (h : w.effect c = .ok c') (hw : w ≠ .cleanPairs) :
    Quiet c c' := by
  cases w with
  | cleanPairs => exact absurd rfl hw
  | createMissingPairs =>
    obtain rfl := Except.ok.inj h
    exact createMissingPairs_quiet c
  | ensureCustomPairs =>
    obtain rfl := Except.ok.inj h
    exact (ensurePairs_chain customPairs c).quiet
  | saveDatabase row =>
    exact WriteChain.quiet ((putDatabase_chain c row).trans (PermissionSync.database_chain h))
  | saveDatasource row =>
    exact WriteChain.quiet ((putDatasource_chain c row).trans (PermissionSync.datasource_chain h))

theorem effect_sound {w : Chore} (h : w.effect c = .ok c') (hc : c.Sound) : c'.Sound := by
  by_cases hw : w = .cleanPairs
  · subst hw
    obtain rfl := Except.ok.inj h
    exact sound_cleanPairs hc
  · exact (effect_quiet h hw).sound hc

end Chore

/-- A client's turn at the store. -/
inductive Turn where
  | transaction (t : Transaction)
  | chore (w : Chore)

/-- The turn makes pairs by the names of their sides only. -/
def Turn.NamesSides : Turn → Prop
  | transaction t => ∀ c p r, .insertPair p r ∉ t.writes c
  | chore _ => True

/-- The store after a turn. A chore that is refused changes nothing. -/
def Store.take (s : Store) : Turn → Store
  | .transaction t => s.perform t
  | .chore w =>
    match w.run s with
    | .ok s' => s'
    | .error _ => s

/-- The writes that leave the pairs alone. -/
def Write.KeepsPairs : Write → Prop
  | insertPair .. | ensurePair .. | deletePairs .. | cleanPairs | createMissingPairs => False
  | _ => True

theorem Write.run_pairs {w : Write} (h : w.run c = .ok c') (hw : w.KeepsPairs) :
    c'.pairs = c.pairs := by
  cases w with
  | insertPair | ensurePair | deletePairs | cleanPairs | createMissingPairs => cases hw
  | insertPermission | insertResource | insertRole | setDatabasePerm | setDatasourcePerms =>
    simp only [run, Catalog.insertPermission, Catalog.insertResource, Catalog.insertRole,
      Catalog.setDatabasePerm, Catalog.setDatasourcePerms] at h
    split at h <;> cases h
    rfl
  | ensurePermission | ensureResource | ensureRole =>
    obtain rfl := Except.ok.inj h
    simp only [Catalog.ensurePermission, Catalog.ensureResource, Catalog.ensureRole]
    split <;> rfl
  | setRolePairs =>
    obtain ⟨_, role, _, rfl⟩ := setRolePairs_ok h
    rfl
  | _ =>
    obtain rfl := Except.ok.inj h
    rfl

/-- A pair's sides are from the counter if the pair was made by their names. -/
theorem Write.run_sound {w : Write} (h : w.run c = .ok c') (hc : c.Sound)
    (hw : ∀ p r, w ≠ .insertPair p r) : c'.Sound := by
  have hsteps := run_steps h
  have hi := Steps.intact hsteps hc.intact
  have hn := (Steps.extends hsteps hc.intact).counter_le
  cases w with
  | insertPair p r => exact absurd rfl (hw p r)
  | ensurePair permission resource =>
    obtain rfl := Except.ok.inj h
    exact (ensurePair_quiet c permission resource).sound hc
  | createMissingPairs =>
    obtain rfl := Except.ok.inj h
    exact (createMissingPairs_quiet c).sound hc
  | cleanPairs =>
    obtain rfl := Except.ok.inj h
    exact Chore.sound_cleanPairs hc
  | deletePairs ids =>
    obtain rfl := Except.ok.inj h
    refine ⟨hi, ?_⟩
    intro x hx
    exact hc.sided x (mem_deletePairs.mp hx).1
  | _ => exact ⟨hi, hc.sided.of_le (run_pairs h trivial) hn⟩

theorem Write.applyAll_sound {ws : List Write} (hc : c.Sound)
    (hws : ∀ p r, .insertPair p r ∉ ws) : (ws.foldl Write.apply c).Sound := by
  induction ws generalizing c with
  | nil => exact hc
  | cons w ws ih =>
    rw [List.foldl_cons]
    apply ih
    · unfold apply
      split
      · rename_i h
        apply run_sound h hc
        intro p r hw
        exact hws p r (by simp [hw])
      · exact hc
    · intro p r hw
      exact hws p r (by simp [hw])

namespace Store

/-- A store with the standard hooks and a sound catalog. -/
structure Orderly (s : Store) : Prop where
  hooks : s.hooks = standard.hooks
  sound : s.catalog.Sound

theorem standard_orderly : standard.Orderly :=
  ⟨rfl, intact_empty, by simp [Sided, standard, withHook, bare, empty, Ledger.empty]⟩

theorem Orderly.perform {s : Store} (h : s.Orderly) {t : Transaction}
    (ht : (Turn.transaction t).NamesSides) : (s.perform t).Orderly := by
  refine ⟨(perform_hooks s t).trans h.hooks, ?_⟩
  rcases s.perform_catalog t with hc | hc
  · rw [hc]
    exact h.sound
  · rw [hc]
    exact Write.applyAll_sound h.sound (ht s.catalog)

/-- A turn that makes pairs by names leaves an orderly store, however it ends. -/
theorem Orderly.take {s : Store} (h : s.Orderly) {t : Turn} (ht : t.NamesSides) :
    (s.take t).Orderly := by
  cases t with
  | transaction t => exact h.perform ht
  | chore w =>
    simp only [Store.take]
    split
    · rename_i s' hs
      obtain ⟨_, c, heffect, rfl⟩ := (Chore.run_eq_ok h.hooks).mp hs
      exact ⟨h.hooks, Chore.effect_sound heffect h.sound⟩
    · exact h

theorem Orderly.takeAll {s : Store} (h : s.Orderly) {ts : List Turn}
    (hts : ∀ t ∈ ts, t.NamesSides) : (ts.foldl Store.take s).Orderly := by
  induction ts generalizing s with
  | nil => exact h
  | cons t ts ih =>
    rw [List.foldl_cons]
    apply ih (h.take (hts t (by simp)))
    intro t' ht'
    exact hts t' (by simp [ht'])

end Store

/-- After any turns that make pairs by names only, no chore is refused while the store is open, and
none gives anybody a pair or takes one away. The only rows that go are the pairs that cleaning
finds without a side. -/
theorem upkeep_grants_nothing (ts : List Turn) (hts : ∀ t ∈ ts, t.NamesSides) (w : Chore) :
    let s := ts.foldl Store.take Store.standard
    (s.poisoned = false → ∃ s', w.run s = .ok s') ∧
      ∀ s', w.run s = .ok s' → GrantsNothing s.catalog s'.catalog ∧
        ∀ x ∈ s.catalog.pairs.rows,
          x ∈ s'.catalog.pairs.rows ∨ (w = .cleanPairs ∧ s.catalog.resolve? x = none) := by
  intro s
  have hs : s.Orderly := Store.standard_orderly.takeAll hts
  constructor
  · intro hopen
    obtain ⟨c', heffect⟩ := Chore.exists_effect hs.sound w
    exact ⟨_, (Chore.run_eq_ok hs.hooks).mpr ⟨hopen, c', heffect, rfl⟩⟩
  · intro s' hrun
    obtain ⟨_, c', heffect, rfl⟩ := (Chore.run_eq_ok hs.hooks).mp hrun
    by_cases hw : w = .cleanPairs
    · subst hw
      obtain rfl := Except.ok.inj heffect
      refine ⟨cleanPairs_grantsNothing hs.sound.intact, ?_⟩
      intro x hx
      cases hres : s.catalog.resolve? x with
      | none => exact .inr ⟨rfl, rfl⟩
      | some n => exact .inl (mem_cleanPairs.mpr ⟨hx, by simp [hres]⟩)
    · have henriches := (Chore.effect_quiet heffect hw).enriches hs.sound
      exact ⟨henriches.grantsNothing hs.sound.intact, fun x hx => .inl (henriches.pairs x hx)⟩

def revision : Transaction where
  writes _ := [.ensurePair "can_read" "Chart", .ensurePair "can_edit" "Chart", .ensureRole "Reader",
    .setRolePairs ⟨6⟩ (.ofIds [⟨3⟩, ⟨5⟩]), .deletePermission ⟨4⟩]
  ending _ := .commit

theorem revision_cleaned :
    let s := [Turn.transaction revision].foldl Store.take Store.standard
    s.catalog.danglingPairs = [⟨5⟩] ∧
      ∃ s', Chore.cleanPairs.run s = .ok s' ∧ GrantsNothing s.catalog s'.catalog := by
  have hnames : ∀ t ∈ [Turn.transaction revision], t.NamesSides := by
    intro t ht
    obtain rfl := List.mem_singleton.mp ht
    intro c p r
    simp [revision]
  obtain ⟨hruns, hkeeps⟩ := upkeep_grants_nothing _ hnames .cleanPairs
  obtain ⟨s', hs'⟩ := hruns (by decide +kernel)
  exact ⟨by decide +kernel, s', hs', (hkeeps s' hs').1⟩

end Turnstile
