import Turnstile.Proofs.FailedPasses
import Turnstile.Proofs.SparingWrites

namespace Turnstile
open Catalog
variable {c c' : Catalog} {role : RoleId} {name : String} {n : NamedPair}

namespace Synchronizer
variable {s : Synchronizer} {rules : List (String × ReadyRule)} {source target : String}
  {merge : Bool} {before shared after : Catalog} {store : Store}

/-- A copy takes a pair on data from the role only if it goes to the role without a merge. -/
theorem copyPairs_holds (hi : c.Intact) (h : s.copyPairs rules source target merge c = .ok c')
    (ht : target ≠ name ∨ merge = true) (hdata : PermissionName.isOnData n.permission = true)
    (hc : c.Holds role name n) : c'.Holds role name n := by
  rw [copyPairs_eq_map hi] at h
  obtain ⟨ids, _, rfl⟩ := map_eq_ok.mp h
  exact hc.copiedPairs hi ht hdata

theorem copyPairs_intact (hi : c.Intact) (h : s.copyPairs rules source target merge c = .ok c') :
    c'.Intact := by
  rw [copyPairs_eq_map hi] at h
  obtain ⟨ids, hs, rfl⟩ := map_eq_ok.mp h
  exact hi.giveRole (stores_copiedPairs hi (stores_sourcePairs hi hs) target merge)

/-- A copy succeeds if all rules can be read, the store is open and the source is known. -/
theorem copyRole_eq_ok {store' : Store} : s.copyRole store source target merge = .ok store' ↔
    store.poisoned = false ∧ ∃ rules c, s.ready = .ok rules ∧
      s.copyPairs rules source target merge store.catalog = .ok c ∧
      store' = { store with catalog := c } := by
  unfold copyRole
  simp only [bind_eq_ok, Prod.exists, Store.transact_eq_ok, map_eq_ok]
  constructor
  · intro h
    obtain ⟨rules, hready, _, _, ⟨hopen, c, ⟨d, hcopy, hd⟩, rfl⟩, hok⟩ := h
    cases hd
    cases hok
    exact ⟨hopen, rules, c, hready, hcopy, rfl⟩
  · intro h
    obtain ⟨hopen, rules, c, hready, hcopy, rfl⟩ := h
    exact ⟨rules, hready, _, _, ⟨hopen, c, ⟨c, hcopy, rfl⟩, rfl⟩, rfl⟩

namespace Pass
variable (h : s.Pass rules before shared after)
include h

/-- Phase by phase: of all that a pass does only the definitions could take a permission on data
from a role. -/
theorem holds (hn : name ∉ rules.map (·.1)) (hdata : PermissionName.isOnData n.permission = true)
    (hc : before.Holds role name n) : after.Holds role name n := by
  have hfixed : before.ensureCustomPairs.Holds role name n := hc.grows h.fixed_made.grows
  have hset : (before.ensureCustomPairs.setAssigned s.policy rules).Holds role name n := by
    refine hfixed.giveRoles h.fixed_made.intact stores_assigned ?_
    rw [names_assigned]
    exact hn
  have hshared : shared.Holds role name n := by
    rcases (mergePublic_eq_ok h.set_intact).mp h.merged with
      ⟨_, rfl⟩ | ⟨target, source, ids, _, _, hs, rfl⟩
    · exact hset
    · exact hset.copiedPairs h.set_intact (.inr (rfl : true = true)) hdata
  exact h.after_eq ▸ (hshared.grows h.missing_made.grows).cleanPairs

end Pass

theorem mem_mapM {ε α β : Type} {f : α → Except ε β} {xs : List α} {ys : List β}
    (h : xs.mapM f = .ok ys) {y : β} (hy : y ∈ ys) : ∃ x ∈ xs, f x = .ok y := by
  induction xs generalizing ys with
  | nil =>
    cases h
    cases hy
  | cons x xs ih =>
    rw [List.mapM_cons] at h
    obtain ⟨first, hfirst, h⟩ := bind_eq_ok.mp h
    obtain ⟨rest, hrest, h⟩ := bind_eq_ok.mp h
    cases h
    rcases List.mem_cons.mp hy with rfl | hy
    · exact ⟨x, by simp, hfirst⟩
    · obtain ⟨x', hx', hf⟩ := ih hrest hy
      exact ⟨x', by simp [hx'], hf⟩

/-- Every rule that was read is that of a definition. -/
theorem definition_of_rule {rule : ReadyRule} (hready : s.ready = .ok rules)
    (hr : (source, rule) ∈ rules) :
    ∃ d ∈ s.definitions, d.name = source ∧ d.rule.ready = .ok rule := by
  obtain ⟨d, hd, hrule⟩ := mem_mapM hready hr
  split at hrule
  · rename_i r hr
    cases hrule
    exact ⟨d, hd, rfl, hr⟩
  · cases hrule

/-- The pairs that a role to copy from offers to a pass: those that fall under its rule when the
roles are set, if it is defined, else those that it held before the pass. -/
inductive Offers (s : Synchronizer) (before : Catalog) (source : String) : IdSet .pair → Prop
  | defined {d : RoleDefinition} {rule : ReadyRule} : d ∈ s.definitions → d.name = source →
      d.rule.ready = .ok rule →
      s.Offers before source (before.ensureCustomPairs.matchingPairs s.policy rule)
  | stored {ids : IdSet .pair} : source ∉ s.definitions.map (·.name) →
      before.pairsOf? source = some ids → s.Offers before source ids

/-- What a pass copies is what the template offered before the pass, for setting the roles does not
touch a role that is not defined. -/
theorem offers_of_sourcePairs {ids : IdSet .pair} (hready : s.ready = .ok rules)
    (hi : before.Intact) (hs : s.sourcePairs rules source
      (before.ensureCustomPairs.setAssigned s.policy rules) = .ok ids) :
    s.Offers before source ids := by
  rcases sourcePairs_eq_ok.mp hs with ⟨rule, hrule, rfl⟩ | ⟨hl, hp⟩
  · obtain ⟨d, hd, hname, hread⟩ := definition_of_rule hready (mem_of_lookup hrule)
    have hsame := setAssigned_samePairs before.ensureCustomPairs s.policy rules
    rw [matchingPairs_congr fun _ => hsame.mem_namedPairs]
    exact .defined hd hname hread
  · refine .stored ?_ ((pairsOf?_set hi hl).symm.trans hp)
    rw [← (ready_rules hready).1]
    exact notMem_of_lookup hl

end Synchronizer

theorem Catalog.notMem_danglingPairs_iff {id : PairId} (hid : ∃ p ∈ c.pairs.rows, p.id = id) :
    id ∉ c.danglingPairs ↔ ∃ n ∈ c.namedPairs, n.id = id := by
  obtain ⟨p, hp, rfl⟩ := hid
  rw [pair_notMem_danglingPairs hp]
  constructor
  · intro hsome
    obtain ⟨n, hn⟩ := Option.ne_none_iff_exists'.mp hsome
    exact ⟨n, List.mem_filterMap.mpr ⟨p, hp, hn⟩, (resolve?_eq_some.mp hn).2.2⟩
  · rintro ⟨n, hn, hid⟩ hnone
    obtain ⟨q, hq, hres⟩ := List.mem_filterMap.mp hn
    have hqp : q = p := Ledger.eq_of_number_eq hq hp
      (congrArg Id.number ((resolve?_eq_some.mp hres).2.2.symm.trans hid))
    rw [hqp, hnone] at hres
    cases hres

namespace Synchronizer.Pass
variable {s : Synchronizer} {rules : List (String × ReadyRule)} {source : String}
  {before shared after : Catalog}
  (h : s.Pass rules before shared after)
include h

/-- A public role that is not defined holds after a pass what the template offers and the
permissions on data that it held, as far as they have both sides. -/
theorem pairsOf?_public (hp : s.publicRole = some name) (ht : s.template = some source)
    (hn : name ∉ rules.map (·.1)) : ∃ given held, s.Offers before source given ∧
      after.pairsOf? name = some held ∧
      ∀ id, id ∈ held.rows ↔
        (id ∈ given.rows ∨ (id ∈ ((before.pairsOf? name).getD .empty).rows ∧
          before.ensureCustomPairs.isDataPair id = true)) ∧
        ∃ n ∈ after.namedPairs, n.id = id := by
  rcases (mergePublic_eq_ok h.set_intact).mp h.merged with
    ⟨hnone, _⟩ | ⟨target, source', ids, hp', ht', hs, hshared⟩
  · simp [hp, ht] at hnone
  obtain rfl := Option.some.inj (hp.symm.trans hp')
  obtain rfl := Option.some.inj (ht.symm.trans ht')
  have hstores := h.set_intact.stores_sharedPairs (stores_sourcePairs h.set_intact hs) name
  have hgiven : shared.pairsOf? name = some _ :=
    hshared ▸ h.set_intact.pairsOf?_giveRole hstores
  have hheld := @pairsOf?_after _ _ _ _ _ name h
  rw [hgiven] at hheld
  refine ⟨ids, _, offers_of_sourcePairs h.rules_eq h.intact hs, hheld, fun id => ?_⟩
  have hsame := setAssigned_samePairs before.ensureCustomPairs s.policy rules
  have hown := pairsOf?_set (s := s) h.intact (lookup_eq_none_iff_notMem.mpr hn)
  rw [← hown, ← hsame.isDataPair, ← mem_sharedPairs]
  simp only [h.mem_namedPairs_after]
  refine List.mem_filter.trans (and_congr_right fun hid => ?_)
  -- what the role was given is stored, and so it goes just if it dangles
  obtain ⟨p, hp, hpid⟩ := hstores id hid
  have hpairs : shared.pairs = (before.ensureCustomPairs.setAssigned s.policy rules).pairs :=
    h.samePairs.pairs.trans hsame.pairs.symm
  have hmade : p ∈ shared.createMissingPairs.2.pairs.rows :=
    h.missing_made.grows.pairs p (hpairs ▸ hp)
  rw [← notMem_danglingPairs_iff ⟨p, hmade, hpid⟩]
  simp

end Synchronizer.Pass
/-- If the counter has passed the sides of all pairs, a pass does not change which of the stored
pairs are permissions on data. -/
theorem Catalog.isDataPair_ensureCustomPairs (hi : c.Intact) (hs : c.Sided) {id : PairId}
    (hid : ∃ p ∈ c.pairs.rows, p.id = id) : c.ensureCustomPairs.isDataPair id = c.isDataPair id := by
  obtain ⟨p, hp, rfl⟩ := hid
  have hrich : Enriches c c.ensureCustomPairs :=
    (ensurePairs_chain customPairs c).quiet.enriches ⟨hi, hs⟩
  have hnames : c.ensureCustomPairs.namesOf? p.id = c.namesOf? p.id := by
    rw [namesOf?_of_mem (hrich.pairs p hp), namesOf?_of_mem hp]
    exact congrArg _ (hrich.names p hp)
  unfold isDataPair
  rw [hnames]

/-- What can go on at a store: a client's turn, a synchronization, a copy of a role. -/
inductive Event where
  | turn (t : Turn)
  | pass (s : Synchronizer)
  | copy (s : Synchronizer) (source target : String) (merge : Bool)

/-- The store that an event leaves, whether it succeeds or not. -/
def Store.undergo (store : Store) : Event → Store
  | .turn t => store.take t
  | .pass s => (s.attemptSync store).2
  | .copy s source target merge => (s.attemptCopy store source target merge).2

/-- An event before catalog `c` that neither sets the role of that identifier and name, unless it
merges into it, nor deletes pairs or their sides. -/
def Event.Spares (role : RoleId) (name : String) (c : Catalog) : Event → Prop
  | .turn (.transaction t) => ∀ w ∈ t.writes c, w.Spares role
  | .turn (.chore _) => True
  | .pass s => name ∉ s.definitions.map (·.name)
  | .copy _ _ target merge => target ≠ name ∨ merge = true

/-- Any number of such events, one after the other. -/
abbrev Store.SparingRun (role : RoleId) (name : String) : Store → Store → Prop :=
  Relation.ReflTransGen fun s s' => ∃ e : Event, e.Spares role name s.catalog ∧ s' = s.undergo e

/-- The role holds the pair in an intact catalog, and no hook can take it away. -/
structure Store.Keeps (s : Store) (role : RoleId) (name : String) (n : NamedPair) : Prop where
  intact : s.catalog.Intact
  hooks : ∀ hook ∈ s.hooks, hook.Spares role
  holds : s.catalog.Holds role name n

namespace Store.Keeps
variable {store : Store} (h : store.Keeps role name n)
include h

theorem sparing (hc : SparingWrites role store.catalog c) :
    ({ store with catalog := c } : Store).Keeps role name n :=
  ⟨Steps.intact (WriteChain.steps hc) h.intact, h.hooks, SparingWrites.holds hc h.intact h.holds⟩

theorem perform {t : Transaction} (ht : ∀ w ∈ t.writes store.catalog, w.Spares role) :
    (store.perform t).Keeps role name n := by
  have hwrites := WriteChain.applyAll ht store.catalog
  rcases store.perform_catalog t with hc | hc
  · exact ⟨hc ▸ h.intact, (store.perform_hooks t).symm ▸ h.hooks, hc ▸ h.holds⟩
  · refine ⟨?_, (store.perform_hooks t).symm ▸ h.hooks, ?_⟩
    · rw [hc]
      exact Steps.intact (WriteChain.steps hwrites) h.intact
    · rw [hc]
      exact SparingWrites.holds hwrites h.intact h.holds

theorem take {t : Turn} (ht : (Event.turn t).Spares role name store.catalog) :
    (store.take t).Keeps role name n := by
  cases t with
  | transaction t => exact h.perform ht
  | chore w =>
    simp only [Store.take]
    split
    · rename_i s' hs
      obtain ⟨c, hc, rfl⟩ := Chore.run_sparing h.hooks hs
      exact h.sparing hc
    · exact h

theorem pass {s : Synchronizer} (hdata : PermissionName.isOnData n.permission = true)
    (hn : name ∉ s.definitions.map (·.name)) : (s.attemptSync store).2.Keeps role name n := by
  cases hanswer : (s.attemptSync store).1 with
  | error e =>
    rw [Synchronizer.attemptSync_unchanged hanswer]
    exact h
  | ok report =>
    have hsync : s.sync store = .ok (report, (s.attemptSync store).2) := by
      rw [s.sync_eq_attempt, Synchronizer.answered, hanswer]
      rfl
    obtain ⟨_, rules, _, hready, _, _, hleft⟩ := (Synchronizer.sync_eq_ok h.intact).mp hsync
    obtain ⟨shared, hpass, _⟩ := Synchronizer.Pass.of_sync h.intact hready hsync
    rw [← (Synchronizer.ready_rules hready).1] at hn
    refine ⟨hpass.after_intact, ?_, hpass.holds hn hdata h.holds⟩
    rw [hleft]
    exact h.hooks

theorem copy {s : Synchronizer} {source target : String} {merge : Bool}
    (hdata : PermissionName.isOnData n.permission = true) (ht : target ≠ name ∨ merge = true) :
    (s.attemptCopy store source target merge).2.Keeps role name n := by
  cases hanswer : (s.attemptCopy store source target merge).1 with
  | error e =>
    rw [Synchronizer.attemptCopy_unchanged hanswer]
    exact h
  | ok u =>
    have hcopy : s.copyRole store source target merge =
        .ok (s.attemptCopy store source target merge).2 := by
      rw [s.copyRole_eq_attempt, Synchronizer.answered, hanswer]
      rfl
    obtain ⟨_, rules, c, _, hc, hleft⟩ := Synchronizer.copyRole_eq_ok.mp hcopy
    rw [hleft]
    exact ⟨Synchronizer.copyPairs_intact h.intact hc, h.hooks,
      Synchronizer.copyPairs_holds h.intact hc ht hdata h.holds⟩

theorem undergo {e : Event} (hdata : PermissionName.isOnData n.permission = true)
    (he : e.Spares role name store.catalog) : (store.undergo e).Keeps role name n := by
  cases e with
  | turn t => exact h.take he
  | pass s => exact h.pass hdata he
  | copy s source target merge => exact h.copy hdata he

/-- Along a whole run no pair on data is lost, by induction on its events. -/
theorem run {later : Store} (hdata : PermissionName.isOnData n.permission = true)
    (hrun : Store.SparingRun role name store later) : later.Keeps role name n := by
  induction hrun with
  | refl => exact h
  | tail _ hevent ih =>
    obtain ⟨e, he, rfl⟩ := hevent
    exact ih.undergo hdata he

end Store.Keeps

/-- After a pass that succeeds, a public role that is not defined and has a template holds exactly
what the template offers and the permissions on data that it held before, as far as they have both
sides. Which pairs are permissions on data is told when the roles are set; if the counter has passed
the sides of all pairs, that is the same as before the pass. So a permission on data that the role
holds stays, in whatever order passes, copies, saves and other writes follow, if none of them
deletes pairs or their sides or sets that role without merging into it. -/
theorem public_role_keeps_data (hooks : List Hook) (ts : List Transaction) (name : String) :
    let store := Store.life hooks ts
    (∀ (s : Synchronizer) (source : String) (report : SyncReport) (store' : Store),
      s.publicRole = some name → s.template = some source →
      name ∉ s.definitions.map (·.name) → s.sync store = .ok (report, store') →
      let own := (store.catalog.pairsOf? name).getD .empty
      let fixed := store.catalog.ensureCustomPairs
      ∃ given held, s.Offers store.catalog source given ∧
        store'.catalog.pairsOf? name = some held ∧
        (∀ id, id ∈ held.rows ↔
          (id ∈ given.rows ∨ (id ∈ own.rows ∧ fixed.isDataPair id = true)) ∧
            ∃ n ∈ store'.catalog.namedPairs, n.id = id) ∧
        (store.catalog.Sided → ∀ id ∈ own.rows,
          fixed.isDataPair id = store.catalog.isDataPair id)) ∧
    ∀ (role : RoleId) (n : NamedPair), PermissionName.isOnData n.permission = true →
      (∀ hook ∈ hooks, hook.Spares role) → store.catalog.Holds role name n →
      ∀ later, Store.SparingRun role name store later → later.catalog.Holds role name n := by
  intro store
  have hi : store.catalog.Intact := Store.life_intact hooks ts
  constructor
  · intro s source report store' hp ht hn hsync own fixed
    obtain ⟨_, rules, _, hready, _⟩ := (Synchronizer.sync_eq_ok hi).mp hsync
    obtain ⟨shared, pass, _⟩ := Synchronizer.Pass.of_sync hi hready hsync
    rw [← (Synchronizer.ready_rules hready).1] at hn
    obtain ⟨given, held, hoffers, hheld, hids⟩ := pass.pairsOf?_public hp ht hn
    refine ⟨given, held, hoffers, hheld, hids, fun hs id hid => ?_⟩
    refine isDataPair_ensureCustomPairs hi hs ?_
    cases howned : store.catalog.pairsOf? name with
    | none => simp [own, howned, Ledger.empty] at hid
    | some ids =>
      simp only [own, howned, Option.getD_some] at hid
      exact hi.stores_pairsOf? howned id hid
  · intro role n hdata hhooks hholds later hrun
    have hkeeps : store.Keeps role name n := by
      have hsame : store.hooks = hooks := Store.life_hooks hooks ts
      exact ⟨hi, hsame ▸ hhooks, hholds⟩
    exact (hkeeps.run hdata hrun).holds

def openDatabase : Transaction where
  writes _ := [.putDatabase ⟨⟨1⟩, "a", none⟩,
    .ensurePair PermissionName.databaseAccess "[a].(id:1)", .ensureRole "Public",
    .setRolePairs ⟨4⟩ (.ofIds [⟨3⟩])]
  ending _ := .commit

/-- The pair given to the public role by hand is there after a pass, and after a save and one more
pass. -/
theorem open_database_stays_open :
    let s := Synchronizer.standard.withPublicRoleLike (some "Public") (some "Gamma")
    let store := Store.life [PermissionSync.hook] [openDatabase]
    let n : NamedPair := ⟨⟨3⟩, PermissionName.databaseAccess, "[a].(id:1)"⟩
    (∃ report store' held, s.sync store = .ok (report, store') ∧
      store'.catalog.pairsOf? "Public" = some held ∧ n.id ∈ held.rows) ∧
    (((store.undergo (.pass s)).undergo (.turn (.chore (.saveDatabase ⟨⟨1⟩, "b", none⟩)))).undergo
      (.pass s)).catalog.Holds ⟨4⟩ "Public" n := by
  intro s store n
  obtain ⟨hpass, hrun⟩ := public_role_keeps_data [PermissionSync.hook] [openDatabase] "Public"
  constructor
  · have hsucceeds : (s.sync store).toBool = true := by decide +kernel
    cases hsync : s.sync store with
    | error e => simp [hsync, Except.toBool] at hsucceeds
    | ok r =>
      obtain ⟨report, store'⟩ := r
      obtain ⟨given, held, _, hheld, hids, _⟩ :=
        hpass s "Gamma" report store' rfl rfl (by decide) hsync
      have hnamed : (s.sync store).toOption.map (fun r => r.2.catalog.namedPairs.contains n) =
          some true := by
        decide +kernel
      rw [hsync] at hnamed
      have hmem : n ∈ store'.catalog.namedPairs := by
        simpa [Except.toOption] using hnamed
      refine ⟨report, store', held, rfl, hheld, (hids n.id).mpr ⟨.inr ?_, n, hmem, rfl⟩⟩
      exact ⟨by decide +kernel, by decide +kernel⟩
  · refine hrun ⟨4⟩ n (by decide) ?_ ?_ _ ?_
    · intro hook hm
      obtain rfl := List.mem_singleton.mp hm
      exact PermissionSync.hook_spares ⟨4⟩
    · exact ⟨by decide +kernel, by decide +kernel⟩
    · have hpublic : "Public" ∉ s.definitions.map (·.name) := by decide
      exact ((Relation.ReflTransGen.single ⟨.pass s, hpublic, rfl⟩).tail
        ⟨.turn (.chore _), trivial, rfl⟩).tail ⟨.pass s, hpublic, rfl⟩

end Turnstile
