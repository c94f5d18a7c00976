import Turnstile.Proofs.FailedPasses

namespace Turnstile
open Catalog

/-- Nothing is found under an identifier that no row carries. -/
theorem Ledger.KeyedBy.find?_eq_none {α κ : Type} [Filed α] [Filed κ] {l : Ledger α} {key : α → κ}
    (h : l.KeyedBy key) {k : κ} :
    l.find? (Filed.number k) = none ↔ ∀ row ∈ l.rows, key row ≠ k := by
  rw [Option.eq_none_iff_forall_ne_some]
  constructor
  · intro hnone row hrow hk
    exact hnone row ((h k row).mpr ⟨hrow, hk⟩)
  · intro hother row hfound
    obtain ⟨hrow, hk⟩ := (h k row).mp hfound
    exact hother row hrow hk

namespace Catalog
variable {c : Catalog} {x : Pair} {id : PairId}

/-- The permission or the resource of the pair is not stored. -/
def LacksSide (c : Catalog) (x : Pair) : Prop :=
  (∀ q ∈ c.permissions.rows, q.id ≠ x.permissionId) ∨
    ∀ t ∈ c.resources.rows, t.id ≠ x.resourceId

instance (c : Catalog) (x : Pair) : Decidable (c.LacksSide x) :=
  inferInstanceAs (Decidable (_ ∨ _))

/-- The identifier is that of a stored pair that lacks a side. -/
def Dangles (c : Catalog) (id : PairId) : Prop :=
  ∃ x ∈ c.pairs.rows, c.LacksSide x ∧ x.id = id

instance (c : Catalog) (id : PairId) : Decidable (c.Dangles id) :=
  inferInstanceAs (Decidable (∃ x ∈ c.pairs.rows, _))

/-- The catalogs before and after a cleanup that counted `n` pairs. -/
structure Cleaned (n : Nat) (before after : Catalog) : Prop where
  pairs : ∀ x, x ∈ after.pairs.rows ↔ x ∈ before.pairs.rows ∧ ¬ before.LacksSide x
  count : n = before.pairs.rows.countP fun x => decide (before.LacksSide x)
  /-- Every role keeps its place, its identifier, its name and all its other pairs. -/
  roles : after.roles.rows = before.roles.rows.map fun role =>
    { role with pairIds := role.pairIds.filter fun id => !decide (before.Dangles id) }
  counter : after.counter = before.counter
  permissions : after.permissions = before.permissions
  resources : after.resources = before.resources
  entities : SameEntities before after

/-- A pair lacks a side just if no names can be given for it. -/
theorem lacksSide_iff : c.LacksSide x ↔ c.resolve? x = none := by
  have hp : c.permission? x.permissionId = none ↔
      ∀ q ∈ c.permissions.rows, q.id ≠ x.permissionId := c.ownIds.permissions.find?_eq_none
  have hr : c.resource? x.resourceId = none ↔
      ∀ t ∈ c.resources.rows, t.id ≠ x.resourceId := c.ownIds.resources.find?_eq_none
  unfold LacksSide resolve?
  rw [← hp, ← hr]
  cases c.permission? x.permissionId <;> cases c.resource? x.resourceId <;> simp

theorem mem_danglingPairs_iff : id ∈ c.danglingPairs ↔ c.Dangles id := by
  simp only [mem_danglingPairs, Dangles, lacksSide_iff]

theorem stripRole_danglingPairs (c : Catalog) (role : Role) : stripRole c.danglingPairs role =
    { role with pairIds := role.pairIds.filter fun id => !decide (c.Dangles id) } := by
  have hsame : (fun id => !c.danglingPairs.contains id) = fun id => !decide (c.Dangles id) := by
    funext id
    rw [List.contains_eq_mem, decide_eq_decide.mpr mem_danglingPairs_iff]
  rw [stripRole, hsame]

/-- Of the stored pairs those with both sides stay, in their order. -/
theorem rows_cleanPairs (c : Catalog) : c.cleanPairs.2.pairs.rows =
    c.pairs.rows.filter fun x => !decide (c.LacksSide x) := by
  let kept : Ledger Pair := c.pairs.filter fun x => !decide (c.LacksSide x)
  have hkept : c.cleanPairs.2.pairs = kept := by
    apply Ledger.ext_mem
    intro x
    rw [mem_cleanPairs, ne_eq, ← lacksSide_iff]
    simp [kept, Ledger.filter]
  rw [hkept]
  rfl

/-- Each pair is counted once, and pairs with both sides are not. -/
theorem count_cleanPairs (c : Catalog) :
    c.cleanPairs.1 = c.pairs.rows.countP fun x => decide (c.LacksSide x) := by
  have hcount : c.cleanPairs.1 = c.pairs.rows.length - c.cleanPairs.2.pairs.rows.length := rfl
  have hall := c.pairs.rows.length_eq_countP_add_countP fun x => decide (c.LacksSide x)
  have hleft : c.cleanPairs.2.pairs.rows.length =
      c.pairs.rows.countP fun x => !decide (c.LacksSide x) := by
    rw [rows_cleanPairs, List.countP_eq_length_filter]
  simp only [decide_eq_true_eq, decide_not] at hall
  omega

theorem cleanPairs_cleaned (c : Catalog) : Cleaned c.cleanPairs.1 c c.cleanPairs.2 where
  pairs x := by rw [mem_cleanPairs, ne_eq, lacksSide_iff]
  count := count_cleanPairs c
  roles := List.map_congr_left fun role _ => stripRole_danglingPairs c role
  counter := rfl
  permissions := rfl
  resources := rfl
  entities := cleanPairs_entities c

/-- Nothing is left for a second cleanup. -/
theorem cleanPairs_again (c : Catalog) : c.cleanPairs.2.cleanPairs = (0, c.cleanPairs.2) :=
  cleanPairs_eq_self (danglingPairs_cleanPairs c)

end Catalog

namespace Synchronizer
variable {s : Synchronizer} {rules : List (String × ReadyRule)} {report : SyncReport}
  {store first : Store}

/-- A synchronization between whose two transactions other clients have their turns. -/
def syncAmid (s : Synchronizer) (store : Store) (others : List Transaction) :
    Except AccessError (SyncReport × Store) := do
  let rules ← s.ready
  let (report, store) ← store.transact .store (s.syncCatalog rules)
  let (deleted, store) ←
    (others.foldl Store.perform store).transact .store fun c => .ok c.cleanPairs
  .ok ({ report with deleted := deleted }, store)

/-- When nobody else has a turn, this is the synchronization itself. -/
theorem sync_eq_syncAmid (s : Synchronizer) (store : Store) :
    s.sync store = s.syncAmid store [] := rfl

section
variable (hready : s.ready = .ok rules)
  (hfirst : store.transact .store (s.syncCatalog rules) = .ok (report, first))
  (others : List Transaction)
include hready hfirst

/-- After its first transaction a synchronization fails if another client shuts the store. -/
theorem syncAmid_shut (hshut : (others.foldl Store.perform first).poisoned = true) :
    s.syncAmid store others = .error (.store .lockPoisoned) := by
  have hfails : (others.foldl Store.perform first).transact AccessError.store
      (fun c => .ok c.cleanPairs) = .error (.store .lockPoisoned) :=
    Store.transact_eq_error.mpr (.inl ⟨hshut, rfl⟩)
  unfold syncAmid
  rw [hready, ok_bind, hfirst, ok_bind]
  dsimp only
  rw [hfails]
  rfl

/-- Otherwise it cleans the catalog that the others left. -/
theorem syncAmid_open (hopen : (others.foldl Store.perform first).poisoned = false) :
    s.syncAmid store others =
      let amid := others.foldl Store.perform first
      .ok ({ report with deleted := amid.catalog.cleanPairs.1 },
        { amid with catalog := amid.catalog.cleanPairs.2 }) := by
  let amid := others.foldl Store.perform first
  have hcleans : amid.transact AccessError.store (fun c => .ok c.cleanPairs) =
      .ok (amid.catalog.cleanPairs.1, { amid with catalog := amid.catalog.cleanPairs.2 }) :=
    Store.transact_eq_ok.mpr ⟨hopen, _, rfl, rfl⟩
  unfold syncAmid
  rw [hready, ok_bind, hfirst, ok_bind]
  dsimp only
  rw [hcleans]
  rfl

end

end Synchronizer

/-- A cleanup deletes exactly the pairs that lack a side and tells how many they were. Every role
loses these and nothing else, and all the rest of the catalog stays; a second cleanup finds nothing
to do. So it is in every catalog, and hence at the end of a synchronization, whatever transactions
of other clients came after its first one; it is left out only if one of them shut the store. -/
theorem cleanup_exact :
    (∀ c : Catalog, Cleaned c.cleanPairs.1 c c.cleanPairs.2 ∧
      c.cleanPairs.2.cleanPairs = (0, c.cleanPairs.2)) ∧
    (∀ (s : Synchronizer) (store : Store), s.sync store = s.syncAmid store []) ∧
    ∀ (s : Synchronizer) (rules : List (String × ReadyRule)) (store first : Store)
      (report : SyncReport) (others : List Transaction), s.ready = .ok rules →
      store.transact .store (s.syncCatalog rules) = .ok (report, first) →
      let amid := others.foldl Store.perform first
      (amid.poisoned = true ∧ s.syncAmid store others = .error (.store .lockPoisoned)) ∨
        (amid.poisoned = false ∧ ∃ n after,
          s.syncAmid store others =
            .ok ({ report with deleted := n }, { amid with catalog := after }) ∧
          Cleaned n amid.catalog after ∧ after.cleanPairs = (0, after)) := by
  refine ⟨fun c => ⟨cleanPairs_cleaned c, cleanPairs_again c⟩,
    fun s store => s.sync_eq_syncAmid store, ?_⟩
  intro s rules store first report others hready hfirst amid
  by_cases hshut : amid.poisoned = true
  · exact .inl ⟨hshut, Synchronizer.syncAmid_shut hready hfirst others hshut⟩
  · have hopen : amid.poisoned = false := Bool.eq_false_iff.mpr hshut
    exact .inr ⟨hopen, amid.catalog.cleanPairs.1, amid.catalog.cleanPairs.2,
      Synchronizer.syncAmid_open hready hfirst others hopen,
      cleanPairs_cleaned amid.catalog, cleanPairs_again amid.catalog⟩

def chartReader : Transaction where
  writes _ := [.ensurePair "can_read" "Chart", .ensurePair "can_edit" "Chart",
    .ensureRole "Reader", .setRolePairs ⟨6⟩ (.ofIds [⟨3⟩, ⟨5⟩])]
  ending _ := .commit

def dropReading : Transaction := ⟨fun _ => [.deletePermission ⟨1⟩], fun _ => .commit⟩

/-- A permission that is deleted amid a synchronization takes its pair from the role. -/
theorem reading_dropped_amid_sync : ∃ report store,
    Synchronizer.standard.syncAmid (Store.life [] [chartReader]) [dropReading] =
        .ok (report, store) ∧
      report.deleted = 1 ∧ (store.catalog.pairsOf? "Reader").map (·.rows) = some [⟨5⟩] ∧
      store.catalog.cleanPairs = (0, store.catalog) := by
  have hready : Synchronizer.standard.ready = .ok builtinRules := ready_standard none none
  have hfirst : ((Store.life [] [chartReader]).transact AccessError.store
      (Synchronizer.standard.syncCatalog builtinRules)).toOption.map (fun r =>
        (([dropReading].foldl Store.perform r.2).poisoned)) = some false := by
    decide +kernel
  have hrun : (Synchronizer.standard.syncAmid (Store.life [] [chartReader])
      [dropReading]).toOption.map (fun r =>
        (r.1.deleted, (r.2.catalog.pairsOf? "Reader").map (·.rows))) = some (1, some [⟨5⟩]) := by
    decide +kernel
  obtain ⟨⟨report, first⟩, hfirst, hopen⟩ := exists_ok_of_map hfirst
  rcases cleanup_exact.2.2 _ builtinRules _ first report [dropReading] hready hfirst with
    ⟨hshut, _⟩ | ⟨_, n, after, hsync, _, hagain⟩
  · exact absurd (hopen.symm.trans hshut) (by decide)
  · rw [hsync] at hrun
    obtain ⟨hdeleted, hheld⟩ := Prod.mk.inj (Option.some.inj hrun)
    exact ⟨_, _, hsync, hdeleted, hheld, hagain⟩

end Turnstile
