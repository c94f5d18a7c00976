import Mathlib.Data.Finset.Card
import Turnstile.Proofs.DanglingPairs
import Turnstile.Proofs.QuietUpkeep

namespace Turnstile
open Catalog

namespace Catalog
variable {c c' before after : Catalog} {p r : String} {ws known : List (String × String)}

/-- A stored database or datasource needs a pair of these names. -/
inductive Needs (c : Catalog) : String → String → Prop
  | database {db : Database} : db ∈ c.databases.rows →
      Needs c PermissionName.databaseAccess db.resourceName
  | datasource {d : Datasource} {db : Database} : d ∈ c.datasources.rows →
      db ∈ c.databases.rows → d.databaseId = some db.id →
      Needs c PermissionName.datasourceAccess (d.resourceName db)
  | schema {d : Datasource} {db : Database} {s : String} : d ∈ c.datasources.rows →
      db ∈ c.databases.rows → d.databaseId = some db.id → d.schema = some s → s ≠ "" →
      Needs c PermissionName.schemaAccess ("[" ++ db.name ++ "].[" ++ s ++ "]")

theorem schemaResourceName_eq_some {d : Datasource} {db : Database} {name : String} :
    d.schemaResourceName db = some name ↔
      ∃ s, d.schema = some s ∧ s ≠ "" ∧ "[" ++ db.name ++ "].[" ++ s ++ "]" = name := by
  simp only [Datasource.schemaResourceName, ResourceName.schema, Datasource.namedSchema,
    Option.map_eq_some_iff, Option.filter_eq_some_iff, decide_eq_true_eq]
  refine exists_congr fun s => ?_
  constructor
  · rintro ⟨⟨⟨hs, hn⟩, _⟩, hname⟩
    exact ⟨hs, hn, hname⟩
  · rintro ⟨hs, hn, hname⟩
    exact ⟨⟨⟨hs, hn⟩, hn⟩, hname⟩

/-- The database of a datasource is found if it is stored. -/
theorem databaseOf_eq_some {d : Datasource} {db : Database} :
    d.databaseId.bind c.database? = some db ↔
      db ∈ c.databases.rows ∧ d.databaseId = some db.id := by
  rw [Option.bind_eq_some_iff]
  constructor
  · rintro ⟨id, hid, hfound⟩
    obtain ⟨hdb, rfl⟩ := (c.ownIds.databases id db).mp hfound
    exact ⟨hdb, hid⟩
  · rintro ⟨hdb, hid⟩
    exact ⟨db.id, hid, (c.ownIds.databases db.id db).mpr ⟨hdb, rfl⟩⟩

theorem mem_wantedByDatasource {d : Datasource} : (p, r) ∈ c.wantedByDatasource d ↔
    ∃ db ∈ c.databases.rows, d.databaseId = some db.id ∧
      ((p = PermissionName.datasourceAccess ∧ r = d.resourceName db) ∨
        (p = PermissionName.schemaAccess ∧ d.schemaResourceName db = some r)) := by
  unfold wantedByDatasource
  cases hdb : d.databaseId.bind c.database? with
  | none =>
    have hnone : ∀ db ∈ c.databases.rows, d.databaseId ≠ some db.id := fun db hrow hid =>
      absurd (databaseOf_eq_some.mpr ⟨hrow, hid⟩) (by simp [hdb])
    refine iff_of_false List.not_mem_nil ?_
    rintro ⟨db, hrow, hid, _⟩
    exact hnone db hrow hid
  | some db =>
    obtain ⟨hrow, hid⟩ := databaseOf_eq_some.mp hdb
    have hwanted : (p, r) ∈ (PermissionName.datasourceAccess, d.resourceName db) ::
        ((d.schemaResourceName db).map (PermissionName.schemaAccess, ·)).toList ↔
        (p = PermissionName.datasourceAccess ∧ r = d.resourceName db) ∨
          (p = PermissionName.schemaAccess ∧ d.schemaResourceName db = some r) := by
      simp only [List.mem_cons, Prod.mk.injEq, Option.mem_toList, Option.map_eq_some_iff]
      refine or_congr_right ⟨?_, ?_⟩
      · rintro ⟨_, hname, rfl, rfl⟩
        exact ⟨rfl, hname⟩
      · rintro ⟨rfl, hname⟩
        exact ⟨r, hname, rfl, rfl⟩
    refine hwanted.trans ⟨fun h => ⟨db, hrow, hid, h⟩, ?_⟩
    rintro ⟨db', hrow', hid', h⟩
    have hsame : db' = db :=
      Option.some.inj ((databaseOf_eq_some.mpr ⟨hrow', hid'⟩).symm.trans hdb)
    exact hsame ▸ h

/-- The list of wanted names says exactly what the stored databases and datasources need. -/
theorem mem_wantedPairs : (p, r) ∈ c.wantedPairs ↔ c.Needs p r := by
  simp only [wantedPairs, List.mem_append, List.mem_flatMap, mem_wantedByDatasource, List.mem_map]
  constructor
  · rintro (⟨d, hd, db, hdb, hid, ⟨rfl, rfl⟩ | ⟨rfl, hname⟩⟩ | ⟨db, hdb, he⟩)
    · exact .datasource hd hdb hid
    · obtain ⟨s, hs, hn, rfl⟩ := schemaResourceName_eq_some.mp hname
      exact .schema hd hdb hid hs hn
    · cases he
      exact .database hdb
  · intro h
    cases h with
    | @database db hdb => exact .inr ⟨db, hdb, rfl⟩
    | @datasource d db hd hdb hid => exact .inl ⟨d, hd, db, hdb, hid, .inl ⟨rfl, rfl⟩⟩
    | @schema d db s hd hdb hid hs hn =>
      exact .inl ⟨d, hd, db, hdb, hid, .inr ⟨rfl, schemaResourceName_eq_some.mpr ⟨s, hs, hn, rfl⟩⟩⟩

instance (c : Catalog) (p r : String) : Decidable (c.Needs p r) :=
  decidable_of_iff _ mem_wantedPairs

theorem SameEntities.needs (h : SameEntities c c') : c'.Needs p r ↔ c.Needs p r := by
  rw [← mem_wantedPairs, h.wantedPairs, mem_wantedPairs]

/-- Making sure of the pair of two names adds no pair, or one that stands for them. -/
theorem ensurePair_rows (h : c.Intact) (p r : String) :
    ∃ new, (c.ensurePair p r).2.pairs.rows = c.pairs.rows ++ new ∧
      ∀ x ∈ new, (c.ensurePair p r).2.resolve? x = some ⟨x.id, p, r⟩ := by
  have hq := ensurePermission_is h p
  have hi₁ := Steps.intact (ensurePermission_steps c p) h
  have h₂ := ensureResource_grows hi₁ r
  have hi₂ := Steps.intact (ensureResource_steps _ r) hi₁
  have ht := ensureResource_is hi₁ r
  have hpairs : ((c.ensurePermission p).2.ensureResource r).2.pairs = c.pairs := by
    unfold ensureResource ensurePermission
    split <;> split <;> rfl
  unfold ensurePair
  dsimp only
  generalize (c.ensurePermission p).1 = q at *
  generalize (c.ensurePermission p).2 = c₁ at *
  generalize (c₁.ensureResource r).1 = t at *
  generalize (c₁.ensureResource r).2 = c₂ at *
  obtain ⟨hq, rfl⟩ := hq
  obtain ⟨ht, rfl⟩ := ht
  split
  · exact ⟨[], by rw [hpairs, List.append_nil], by simp⟩
  · refine ⟨[⟨⟨c₂.counter + 1⟩, q.id, t.id⟩], hpairs ▸ hi₂.rows_addPair q.id t.id, ?_⟩
    intro x hx
    obtain rfl := List.mem_singleton.mp hx
    exact resolve?_eq_some.mpr
      ⟨⟨q, h₂.permissions q hq, rfl, rfl⟩, ⟨t, ht, rfl, rfl⟩, rfl⟩

/-- A pair that stands for its names goes on standing for them. -/
theorem Grows.resolve? (h : Grows c c') {x : Pair} {n : NamedPair}
    (hn : c.resolve? x = some n) : c'.resolve? x = some n := by
  obtain ⟨⟨q, hq, hqn⟩, ⟨t, ht, htn⟩, hid⟩ := resolve?_eq_some.mp hn
  exact resolve?_eq_some.mpr ⟨⟨q, h.permissions q hq, hqn⟩, ⟨t, h.resources t ht, htn⟩, hid⟩

/-- Of the pairs made sure of one after the other, those that were made are the last rows. -/
theorem ensurePairs_rows (h : c.Intact) (ws : List (String × String)) :
    ∃ new, (c.ensurePairs ws).pairs.rows = c.pairs.rows ++ new ∧
      ∀ x ∈ new, ∃ w ∈ ws, (c.ensurePairs ws).resolve? x = some ⟨x.id, w.1, w.2⟩ := by
  induction ws generalizing c with
  | nil => exact ⟨[], by simp [ensurePairs], by simp⟩
  | cons w ws ih =>
    have hi := (ensurePair_made h w.1 w.2).intact
    obtain ⟨first, hfirst, hstands⟩ := ensurePair_rows h w.1 w.2
    obtain ⟨rest, hrest, hwanted⟩ := ih hi
    rw [ensurePairs_cons]
    refine ⟨first ++ rest, by rw [hrest, hfirst, List.append_assoc], fun x hx => ?_⟩
    rcases List.mem_append.mp hx with hx | hx
    · exact ⟨w, by simp, (ensurePairs_made hi ws).grows.resolve? (hstands x hx)⟩
    · obtain ⟨v, hv, hres⟩ := hwanted x hx
      exact ⟨v, by simp [hv], hres⟩

/-- The count is of the names that are wanted and not known. -/
theorem createPairs_count (c : Catalog) (known ws : List (String × String)) :
    (c.createPairs known ws).1 = (ws.toFinset \ known.toFinset).card := by
  induction ws generalizing c known with
  | nil => simp [createPairs]
  | cons w ws ih =>
    unfold createPairs
    split
    · rename_i hw
      have hw : w ∈ known.toFinset := by simpa using hw
      rw [ih, List.toFinset_cons, Finset.insert_sdiff_of_mem _ hw]
    · rename_i hw
      have hw : w ∉ known.toFinset := by simpa using hw
      have hsame : insert w (ws.toFinset \ known.toFinset) =
          insert w (ws.toFinset \ insert w known.toFinset) := by
        ext v
        by_cases hv : v = w <;> simp [hv]
      dsimp only
      rw [ih, List.toFinset_cons, List.toFinset_cons, Finset.insert_sdiff_of_notMem _ hw, hsame,
        Finset.card_insert_of_notMem (by simp)]

/-- No two pairs stand for the same names. -/
theorem Intact.nodup_names (h : c.Intact) :
    (c.namedPairs.map fun n => (n.permission, n.resource)).Nodup := by
  refine List.pairwise_map.mpr (List.pairwise_filterMap.mpr ?_)
  refine c.pairs.ascending.imp_of_mem ?_
  intro x y hx hy hlt m hm n hn hnames
  obtain ⟨hp, hr⟩ := Prod.mk.inj hnames
  have hmn : m = n := h.namedPair_eq (List.mem_filterMap.mpr ⟨x, hx, hm⟩)
    (List.mem_filterMap.mpr ⟨y, hy, hn⟩) hp hr
  have hid : x.id = y.id :=
    (resolve?_eq_some.mp hm).2.2.symm.trans (hmn ▸ (resolve?_eq_some.mp hn).2.2)
  exact Nat.ne_of_lt hlt (congrArg Id.number hid)

/-- Of a list without repetition that has all elements of a set, as many are in the set as it has
elements. -/
theorem countP_mem_eq_card {α : Type} [DecidableEq α] {xs : List α} {s : Finset α} (h : xs.Nodup)
    (hs : ∀ x ∈ s, x ∈ xs) : xs.countP (fun x => decide (x ∈ s)) = s.card := by
  have hfilter : (xs.filter fun x => decide (x ∈ s)).toFinset = s := by
    ext x
    simpa using hs x
  rw [List.countP_eq_length_filter, ← List.toFinset_card_of_nodup (h.filter _), hfilter]

/-- The names that are wanted and that no pair stands for. -/
def missingNames (c : Catalog) : Finset (String × String) :=
  c.wantedPairs.toFinset \ (c.namedPairs.map fun n => (n.permission, n.resource)).toFinset

theorem mem_missingNames : (p, r) ∈ c.missingNames ↔ c.Needs p r ∧ ¬ c.HasPair p r := by
  rw [missingNames, Finset.mem_sdiff, List.mem_toFinset, List.mem_toFinset, mem_wantedPairs,
    mem_names_iff]

/-- The count is of names, each once, that no pair stood for beforehand. -/
theorem createMissingPairs_count (c : Catalog) : c.createMissingPairs.1 = c.missingNames.card :=
  createPairs_count c _ c.wantedPairs

/-- A pair that lacks a side before and stands for needed names after. -/
def Revives (before after : Catalog) (x : Pair) : Prop :=
  before.LacksSide x ∧ ∃ n ∈ after.resolve? x, before.Needs n.permission n.resource

instance (before after : Catalog) (x : Pair) : Decidable (Revives before after x) :=
  inferInstanceAs (Decidable (_ ∧ _))

/-- The catalogs before and after the missing pairs were made, and how many were counted. -/
structure Backfilled (n : Nat) (before after : Catalog) : Prop where
  grows : Grows before after
  complete : ∀ p r, after.Needs p r → after.HasPair p r
  minimal : ∀ x ∈ after.pairs.rows, x ∉ before.pairs.rows →
    ∃ m ∈ after.resolve? x, before.Needs m.permission m.resource ∧
      ¬ before.HasPair m.permission m.resource
  /-- Besides the new pairs the revived ones are counted. -/
  count : n + before.pairs.rows.length = after.pairs.rows.length +
    before.pairs.rows.countP fun x => decide (Revives before after x)
  /-- The next time nothing is missing. -/
  idle : after.createMissingPairs = (0, after)

section
variable {new : List Pair} (hg : Grows before after) (hi : after.Intact)
include hg hi

/-- Names that a pair stands for were stood for before only if that pair stood for them. -/
theorem Grows.hasPair_iff_old {x : Pair} {n : NamedPair} (hx : x ∈ after.pairs.rows)
    (hn : after.resolve? x = some n) : before.HasPair n.permission n.resource ↔
      x ∈ before.pairs.rows ∧ before.resolve? x ≠ none := by
  constructor
  · intro hh
    have hnamed : n ∈ after.namedPairs := List.mem_filterMap.mpr ⟨x, hx, hn⟩
    obtain ⟨y, hy, hres⟩ := List.mem_filterMap.mp (hg.namedPair_old hi hnamed hh)
    have hid : y.id = x.id :=
      (resolve?_eq_some.mp hres).2.2.symm.trans (resolve?_eq_some.mp hn).2.2
    have hyx : y = x := Ledger.eq_of_number_eq (hg.pairs y hy) hx (congrArg Id.number hid)
    subst hyx
    exact ⟨hy, by simp [hres]⟩
  · rintro ⟨hold, hsome⟩
    obtain ⟨m, hm⟩ := Option.ne_none_iff_exists'.mp hsome
    have hmn : m = n := Option.some.inj ((hg.resolve? hm).symm.trans hn)
    exact ⟨n, List.mem_filterMap.mpr ⟨x, hold, hmn ▸ hm⟩, rfl, rfl⟩

/-- The pairs of missing names are the new ones and the revived ones. -/
theorem Grows.card_missingNames (hrows : after.pairs.rows = before.pairs.rows ++ new)
    (hcomplete : ∀ p r, before.Needs p r → after.HasPair p r)
    (hnew : ∀ x ∈ new, ∃ m ∈ after.resolve? x, (m.permission, m.resource) ∈ before.missingNames) :
    before.missingNames.card = new.length +
      before.pairs.rows.countP fun x => decide (Revives before after x) := by
  have hall : ∀ w ∈ before.missingNames,
      w ∈ after.namedPairs.map fun n => (n.permission, n.resource) := fun w hw =>
    mem_names_iff.mpr (hcomplete w.1 w.2 (mem_missingNames.mp hw).1)
  rw [← countP_mem_eq_card hi.nodup_names hall, List.countP_map, Catalog.namedPairs, List.countP_filterMap,
    hrows, List.countP_append, Nat.add_comm]
  congr 1
  · refine List.countP_eq_length.mpr fun x hx => ?_
    obtain ⟨m, hres, hm⟩ := hnew x hx
    simp [Option.mem_def.mp hres, hm]
  · refine List.countP_congr fun x hx => ?_
    cases hres : after.resolve? x with
    | none => simp [Revives, hres]
    | some m =>
      have hold := hg.hasPair_iff_old hi (hg.pairs x hx) hres
      simp only [hx, true_and] at hold
      simp [Revives, hres, mem_missingNames, hold, lacksSide_iff, and_comm]

end

theorem createMissingPairs_backfilled (h : before.Intact) :
    Backfilled before.createMissingPairs.1 before before.createMissingPairs.2 := by
  have hmade := ensurePairs_made h before.wantedPairs
  obtain ⟨new, hrows, hstands⟩ := ensurePairs_rows h before.wantedPairs
  rw [← h.createMissingPairs_eq] at hmade hrows hstands
  rw [createMissingPairs_count]
  generalize before.createMissingPairs.2 = after at *
  have hentities := hmade.grows.entities
  have hcomplete : ∀ p r, before.Needs p r → after.HasPair p r := fun p r hneeds =>
    hmade.pairs (p, r) (mem_wantedPairs.mpr hneeds)
  -- the new rows have numbers above those of the old ones
  have hasc := after.pairs.ascending
  rw [hrows] at hasc
  have hnew : ∀ x ∈ new, ∃ m ∈ after.resolve? x,
      (m.permission, m.resource) ∈ before.missingNames := by
    intro x hx
    obtain ⟨w, hw, hres⟩ := hstands x hx
    have hold := hmade.grows.hasPair_iff_old hmade.intact (hrows ▸ List.mem_append_right _ hx) hres
    refine ⟨_, hres, mem_missingNames.mpr ⟨mem_wantedPairs.mp hw, fun hh => ?_⟩⟩
    exact Nat.lt_irrefl _ ((List.pairwise_append.mp hasc).2.2 x (hold.mp hh).1 x hx)
  refine ⟨hmade.grows, fun p r hneeds => hcomplete p r (hentities.needs.mp hneeds), ?_, ?_, ?_⟩
  · intro x hx hnot
    rcases List.mem_append.mp (hrows ▸ hx) with hx | hx
    · exact absurd hx hnot
    · obtain ⟨m, hres, hm⟩ := hnew x hx
      exact ⟨m, hres, mem_missingNames.mp hm⟩
  · rw [hmade.grows.card_missingNames hmade.intact hrows hcomplete hnew, hrows, List.length_append]
    omega
  · exact createMissingPairs_eq_self fun w hw =>
      hcomplete w.1 w.2 (mem_wantedPairs.mp (hentities.wantedPairs ▸ hw))

/-- If the counter has passed all sides, the rows that are made are no sides of old pairs. -/
theorem Sided.not_revives (hs : before.Sided) (h : before.Intact) {x : Pair}
    (hx : x ∈ before.pairs.rows) : ¬ Revives before before.createMissingPairs.2 x := by
  rintro ⟨hlacks, n, hn, _⟩
  have hsame := ((createMissingPairs_quiet before).enriches ⟨h, hs⟩).names x hx
  rw [hsame, lacksSide_iff.mp hlacks] at hn
  cases hn

end Catalog

/-- Whatever happened to a catalog, making the missing pairs leaves all that are needed, makes none
but those that were missing, and changes nothing else; the next time there is nothing to make. The
number it tells is that of the pairs it made unless a pair was stored before one of its sides and
now stands for names that are needed. -/
theorem missing_pairs_counted_iff (hooks : List Hook) (ts : List Transaction) :
    let before := (Store.life hooks ts).catalog
    let made := before.createMissingPairs
    Backfilled made.1 before made.2 ∧
      (made.1 + before.pairs.rows.length = made.2.pairs.rows.length ↔
        ∀ x ∈ before.pairs.rows, ¬ Revives before made.2 x) ∧
      (before.Sided → made.1 + before.pairs.rows.length = made.2.pairs.rows.length) := by
  intro before made
  have hi : before.Intact := Store.life_intact hooks ts
  have hfilled : Backfilled made.1 before made.2 := createMissingPairs_backfilled hi
  have hcounted : made.1 + before.pairs.rows.length = made.2.pairs.rows.length ↔
      ∀ x ∈ before.pairs.rows, ¬ Revives before made.2 x := by
    rw [hfilled.count, Nat.add_eq_left, List.countP_eq_zero]
    simp only [decide_eq_true_eq]
  exact ⟨hfilled, hcounted, fun hs => hcounted.mpr fun x hx => hs.not_revives hi hx⟩

def storeTable : Transaction where
  writes _ := [.putDatabase ⟨⟨1⟩, "a", none⟩,
    .putDatasource ⟨⟨7⟩, some ⟨1⟩, some "s", "t", none, none, true⟩]
  ending _ := .commit

/-- For a table in a schema three pairs are made, once. -/
theorem table_needs_three_pairs :
    let before := (Store.life [] [storeTable]).catalog
    before.createMissingPairs.1 = 3 ∧ before.createMissingPairs.2.pairs.rows.length = 3 ∧
      before.createMissingPairs.2.createMissingPairs = (0, before.createMissingPairs.2) := by
  intro before
  obtain ⟨hfilled, _, hsided⟩ := missing_pairs_counted_iff [] [storeTable]
  have hs : before.Sided := by
    unfold Sided
    decide +kernel
  have hthree : before.createMissingPairs.1 = 3 := by decide +kernel
  have hempty : before.pairs.rows.length = 0 := by decide +kernel
  have hgrown : before.createMissingPairs.1 + before.pairs.rows.length =
      before.createMissingPairs.2.pairs.rows.length := hsided hs
  rw [hthree, hempty] at hgrown
  exact ⟨hthree, hgrown.symm, hfilled.idle⟩

def storePairForDatabase : Transaction where
  writes _ := [.insertPermission PermissionName.databaseAccess, .insertPair ⟨1⟩ ⟨3⟩]
  ending _ := .commit

/-- One pair is counted, and none is made. -/
theorem revived_pair_counted :
    let before := (Store.life [] [storePairForDatabase, storeDatabase]).catalog
    before.createMissingPairs.1 = 1 ∧ before.createMissingPairs.2.pairs = before.pairs := by
  decide +kernel

end Turnstile
