import Turnstile.Proofs.PairUpkeep
import Turnstile.Proofs.Transactions

namespace Turnstile
open Catalog

@[simp] theorem ok_bind {ε α β : Type} (a : α) (f : α → Except ε β) : Except.ok a >>= f = f a := rfl

theorem bind_eq_ok {ε α β : Type} {x : Except ε α} {f : α → Except ε β} {b : β} :
    x >>= f = .ok b ↔ ∃ a, x = .ok a ∧ f a = .ok b := by
  cases x with
  | error e =>
    constructor
    · intro h
      cases h
    · rintro ⟨_, h, _⟩
      cases h
  | ok a =>
    constructor
    · exact fun h => ⟨a, rfl, h⟩
    · rintro ⟨_, ha, h⟩
      cases ha
      exact h

theorem map_eq_ok {ε α β : Type} {x : Except ε α} {f : α → β} {b : β} :
    x.map f = .ok b ↔ ∃ a, x = .ok a ∧ f a = b := by
  cases x <;> simp [Except.map]

theorem exists_ok_of_toBool {ε α : Type} {x : Except ε α} (h : x.toBool = true) :
    ∃ a, x = .ok a := by
  cases x with
  | error e => cases h
  | ok a => exact ⟨a, rfl⟩

theorem exists_ok_of_map {ε α β : Type} {x : Except ε α} {f : α → β} {b : β}
    (h : x.toOption.map f = some b) : ∃ a, x = .ok a ∧ f a = b := by
  cases x with
  | error e => cases h
  | ok a => exact ⟨a, rfl, Option.some.inj h⟩

/-- A synchronizer as it can be put together. -/
inductive Synchronizer.Built : Synchronizer → Prop
  | standard : Built .standard
  | withPolicy {s : Synchronizer} (p : Policy) : Built s → Built { s with policy := p }
  | withDefinition {s : Synchronizer} (d : RoleDefinition) : Built s → Built (s.withDefinition d)
  | withPublicRoleLike {s : Synchronizer} (publicRole template : Option String) :
      Built s → Built (s.withPublicRoleLike publicRole template)

theorem Synchronizer.names_replaceDefinition (d : RoleDefinition) (ds : List RoleDefinition) :
    (replaceDefinition d ds).map (·.name) =
      if d.name ∈ ds.map (·.name) then ds.map (·.name) else ds.map (·.name) ++ [d.name] := by
  induction ds with
  | nil => rfl
  | cons e es ih =>
    unfold replaceDefinition
    by_cases he : e.name = d.name
    · simp [he]
    · rw [if_neg he, List.map_cons, ih]
      simp only [List.map_cons, List.mem_cons, Ne.symm he, false_or]
      split <;> rfl

/-- A definition takes the place of one of its name, so no role is defined twice. -/
theorem Synchronizer.Built.names_nodup {s : Synchronizer} (h : s.Built) :
    (s.definitions.map (·.name)).Nodup := by
  induction h with
  | standard => decide
  | withPolicy p _ ih => exact ih
  | withPublicRoleLike publicRole template _ ih => exact ih
  | withDefinition d _ ih =>
    change ((replaceDefinition d _).map (·.name)).Nodup
    rw [names_replaceDefinition]
    split
    · exact ih
    · rename_i hd
      exact ih.append (List.nodup_singleton _) (by simpa using hd)

/-- Reading the rules keeps the names and reads each rule. -/
theorem Synchronizer.ready_rules {s : Synchronizer} {rules : List (String × ReadyRule)}
    (h : s.ready = .ok rules) : rules.map (·.1) = s.definitions.map (·.name) ∧
      ∀ d ∈ s.definitions, ∃ rule, d.rule.ready = .ok rule ∧ (d.name, rule) ∈ rules := by
  unfold ready at h
  generalize s.definitions = ds at h ⊢
  induction ds generalizing rules with
  | nil =>
    cases h
    simp
  | cons d ds ih =>
    rw [List.mapM_cons] at h
    obtain ⟨first, hfirst, h⟩ := bind_eq_ok.mp h
    obtain ⟨rest, hrest, hrules⟩ := bind_eq_ok.mp h
    cases hrules
    split at hfirst
    · rename_i rule hd
      cases hfirst
      obtain ⟨hnames, hmem⟩ := ih hrest
      refine ⟨congrArg (d.name :: ·) hnames, fun e he => ?_⟩
      rcases List.mem_cons.mp he with rfl | he
      · exact ⟨rule, hd, by simp⟩
      · obtain ⟨r, hr, hm⟩ := hmem e he
        exact ⟨r, hr, by simp [hm]⟩
    · cases hfirst

namespace Catalog
variable {c : Catalog} {policy : Policy} {rules : List (String × ReadyRule)} {name : String}
  {rule : ReadyRule} {ids : IdSet .pair}

/-- What each rule assigns to its role. -/
def assigned (c : Catalog) (policy : Policy) (rules : List (String × ReadyRule)) :
    List (String × IdSet .pair) :=
  rules.map fun r => (r.1, c.matchingPairs policy r.2)

theorem mem_assigned {g : String × IdSet .pair} : g ∈ c.assigned policy rules ↔
    ∃ rule, (g.1, rule) ∈ rules ∧ g.2 = c.matchingPairs policy rule := by
  unfold assigned
  rw [List.mem_map]
  constructor
  · rintro ⟨⟨name, rule⟩, hr, rfl⟩
    exact ⟨rule, hr, rfl⟩
  · rintro ⟨rule, hr, hg⟩
    exact ⟨(g.1, rule), hr, Prod.ext rfl hg.symm⟩

theorem stores_assigned : ∀ g ∈ c.assigned policy rules, c.Stores g.2 := by
  intro g hg
  obtain ⟨rule, _, hids⟩ := mem_assigned.mp hg
  rw [hids]
  exact stores_matchingPairs c policy rule

theorem names_assigned : (c.assigned policy rules).map (·.1) = rules.map (·.1) := by
  simp [assigned]

def setAssigned (c : Catalog) (policy : Policy) (rules : List (String × ReadyRule)) : Catalog :=
  c.giveRoles (c.assigned policy rules)

theorem setAssigned_samePairs (c : Catalog) (policy : Policy) (rules : List (String × ReadyRule)) :
    SamePairs c (c.setAssigned policy rules) :=
  giveRoles_samePairs _ c

theorem Intact.setAssigned (h : c.Intact) : (c.setAssigned policy rules).Intact :=
  h.giveRoles stores_assigned

theorem setAssigned_self (hheld : ∀ g ∈ c.assigned policy rules, c.pairsOf? g.1 = some g.2) :
    c.setAssigned policy rules = c :=
  giveRoles_self hheld

/-- If only one role is not set to what it holds, it does not matter to what it is set once it is
given its pairs. -/
theorem Intact.giveRole_setAssigned (h : c.Intact)
    (hheld : ∀ g ∈ c.assigned policy rules, g.1 ≠ name → c.pairsOf? g.1 = some g.2) :
    (c.setAssigned policy rules).giveRole name ids = c.giveRole name ids :=
  h.giveRole_giveRoles stores_assigned hheld

theorem SamePairs.assigned {c' : Catalog} (h : SamePairs c c') :
    c'.assigned policy rules = c.assigned policy rules := by
  unfold Catalog.assigned
  exact List.map_congr_left fun r _ => congrArg (Prod.mk r.1)
    (matchingPairs_congr fun n => by rw [h.namedPairs])

/-- Setting a role by a rule is a gift, and never refused. -/
theorem Intact.setRole_eq (h : c.Intact) : c.setRole policy name rule =
    .ok ((c.matchingPairs policy rule).rows.length,
      c.giveRole name (c.matchingPairs policy rule)) := by
  unfold setRole
  dsimp only
  rw [h.setRolePairs_ensured (stores_matchingPairs c policy rule)]
  rfl

/-- Names of roles differ, so no later rule takes back what an earlier one assigned. -/
theorem Intact.pairsOf?_setAssigned (h : c.Intact) (distinct : (rules.map (·.1)).Nodup)
    (hr : (name, rule) ∈ rules) :
    (c.setAssigned policy rules).pairsOf? name = some (c.matchingPairs policy rule) := by
  refine h.pairsOf?_giveRoles stores_assigned ?_ ?_
  · rw [names_assigned]
    exact distinct
  · exact mem_assigned.mpr ⟨rule, hr, rfl⟩

def giftCounts (gifts : List (String × IdSet .pair)) : List (String × Nat) :=
  gifts.map fun g => (g.1, g.2.rows.length)

/-- Setting the roles is never refused, and none changes what falls under a rule. -/
theorem Intact.setRoles_eq (h : c.Intact) : Synchronizer.setRoles policy rules c =
    .ok (giftCounts (c.assigned policy rules), c.setAssigned policy rules) := by
  induction rules generalizing c with
  | nil => rfl
  | cons r rules ih =>
    -- the pairs stay as they are, so what the later rules assign does too
    have hstores := stores_matchingPairs c policy r.2
    have hsame := giveRole_samePairs c r.1 (c.matchingPairs policy r.2)
    unfold Synchronizer.setRoles
    rw [h.setRole_eq]
    simp only [ok_bind, ih (h.giveRole hstores), Catalog.setAssigned, hsame.assigned]
    rfl

/-- The pairs from the template, and those permissions on data that the role holds itself. -/
def sharedPairs (c : Catalog) (name : String) (ids : IdSet .pair) : IdSet .pair :=
  (((c.pairsOf? name).getD .empty).rows.filter c.isDataPair).foldl Ledger.put ids

theorem mem_sharedPairs {id : PairId} : id ∈ (c.sharedPairs name ids).rows ↔
    id ∈ ids.rows ∨ (id ∈ ((c.pairsOf? name).getD .empty).rows ∧ c.isDataPair id = true) := by
  rw [sharedPairs, IdSet.mem_foldl_put, List.mem_filter]

theorem Intact.stores_sharedPairs (h : c.Intact) (hids : c.Stores ids) (name : String) :
    c.Stores (c.sharedPairs name ids) := by
  intro id hid
  rcases mem_sharedPairs.mp hid with hid | ⟨hid, _⟩
  · exact hids id hid
  · cases hp : c.pairsOf? name with
    | none => simp [hp, Ledger.empty] at hid
    | some own =>
      rw [hp] at hid
      exact h.stores_pairsOf? hp id hid

end Catalog

namespace Synchronizer
variable {s : Synchronizer} {rules : List (String × ReadyRule)} {source target : String}
  {c c' : Catalog} {ids : IdSet .pair}

/-- A defined role is copied by its rule and any other by what it holds. -/
theorem sourcePairs_eq_ok : s.sourcePairs rules source c = .ok ids ↔
    (∃ rule, rules.lookup source = some rule ∧ c.matchingPairs s.policy rule = ids) ∨
      (rules.lookup source = none ∧ c.pairsOf? source = some ids) := by
  unfold sourcePairs pairsOf?
  cases rules.lookup source with
  | some rule => simp
  | none => cases c.roleNamed? source <;> simp

theorem stores_sourcePairs (h : c.Intact) (hs : s.sourcePairs rules source c = .ok ids) :
    c.Stores ids := by
  rcases sourcePairs_eq_ok.mp hs with ⟨rule, _, rfl⟩ | ⟨_, hp⟩
  · exact stores_matchingPairs c s.policy rule
  · exact h.stores_pairsOf? hp

/-- What a copy gives: the pairs from the source, and with `merge` those on data that the role holds
itself. -/
def copiedPairs (c : Catalog) (target : String) (merge : Bool) (ids : IdSet .pair) : IdSet .pair :=
  if merge then c.sharedPairs target ids else ids

theorem stores_copiedPairs (h : c.Intact) (hids : c.Stores ids) (target : String) (merge : Bool) :
    c.Stores (copiedPairs c target merge ids) := by
  cases merge with
  | true => exact h.stores_sharedPairs hids target
  | false => exact hids

/-- Only a source that is neither defined nor stored is refused. -/
theorem copyPairs_eq_map (h : c.Intact) (merge : Bool) : s.copyPairs rules source target merge c =
    (s.sourcePairs rules source c).map fun ids =>
      c.giveRole target (copiedPairs c target merge ids) := by
  unfold copyPairs
  cases hs : s.sourcePairs rules source c with
  | error e => rfl
  | ok ids =>
    have hcopied : (if merge then (c.ensureRole target).1.pairIds.rows.filter
        (c.ensureRole target).2.isDataPair else []).foldl Ledger.put ids =
          copiedPairs c target merge ids := by
      rw [ensureRole_pairIds, (ensureRole_samePairs c target).isDataPair]
      cases merge <;> rfl
    dsimp only [ok_bind]
    rw [hcopied, h.setRolePairs_ensured
      (stores_copiedPairs h (stores_sourcePairs h hs) target merge)]
    rfl

theorem copyPairs_eq (h : c.Intact) : s.copyPairs rules source target true c =
    (s.sourcePairs rules source c).map fun ids => c.giveRole target (c.sharedPairs target ids) :=
  copyPairs_eq_map h true

/-- Merges the template into the public role, if both are configured. -/
def mergePublic (s : Synchronizer) (rules : List (String × ReadyRule)) (c : Catalog) :
    Except AccessError Catalog :=
  match s.publicRole, s.template with
  | some publicRole, some template => s.copyPairs rules template publicRole true c
  | _, _ => .ok c

/-- The template's pairs go to the public role; if one of the two is not configured, nothing is
done. -/
theorem mergePublic_eq_ok (h : c.Intact) : s.mergePublic rules c = .ok c' ↔
    ((s.publicRole = none ∨ s.template = none) ∧ c' = c) ∨
      ∃ target source ids, s.publicRole = some target ∧ s.template = some source ∧
        s.sourcePairs rules source c = .ok ids ∧
          c' = c.giveRole target (c.sharedPairs target ids) := by
  unfold mergePublic
  cases hp : s.publicRole with
  | none => simp [eq_comm]
  | some target =>
    cases ht : s.template with
    | none => simp [eq_comm]
    | some source =>
      simp only [copyPairs_eq h, map_eq_ok, reduceCtorEq, or_self, false_and, false_or,
        Option.some.injEq]
      constructor
      · rintro ⟨ids, hs, rfl⟩
        exact ⟨target, source, ids, rfl, rfl, hs, rfl⟩
      · rintro ⟨_, _, ids, rfl, rfl, hs, rfl⟩
        exact ⟨ids, hs, rfl⟩

/-- The first transaction, without the steps that only make sure of what exists: it fails over the
template alone. -/
theorem syncCatalog_eq (h : c.Intact) : s.syncCatalog rules c =
    let fixed := c.ensureCustomPairs
    (s.mergePublic rules (fixed.setAssigned s.policy rules)).map fun shared =>
      (⟨giftCounts (fixed.assigned s.policy rules), shared.createMissingPairs.1, 0⟩,
        shared.createMissingPairs.2) := by
  have hfixed : c.ensureCustomPairs.Intact := (ensurePairs_made h customPairs).intact
  unfold syncCatalog mergePublic
  simp only [hfixed.setRoles_eq]
  cases s.publicRole with
  | none => rfl
  | some target =>
    cases s.template with
    | none => rfl
    | some source =>
      dsimp only [ok_bind]
      cases s.copyPairs rules source target true _ <;> rfl

/-- The phases of a pass. It fails only if a rule cannot be read, the store is shut or the template
is missing. -/
theorem sync_eq_ok {store store' : Store} {report : SyncReport} (h : store.catalog.Intact) :
    s.sync store = .ok (report, store') ↔ store.poisoned = false ∧
      ∃ rules shared,
        let fixed := store.catalog.ensureCustomPairs
        let made := shared.createMissingPairs
        s.ready = .ok rules ∧ s.mergePublic rules (fixed.setAssigned s.policy rules) = .ok shared ∧
          report = ⟨giftCounts (fixed.assigned s.policy rules), made.1, made.2.cleanPairs.1⟩ ∧
          store' = { store with catalog := made.2.cleanPairs.2 } := by
  unfold sync
  simp only [bind_eq_ok, Prod.exists, Store.transact_eq_ok, syncCatalog_eq h, map_eq_ok]
  constructor
  · rintro ⟨rules, hr, first, _, ⟨hopen, c, ⟨shared, hm, hc⟩, rfl⟩, n, _, ⟨-, d, hd, rfl⟩, hok⟩
    cases hc
    cases hd
    cases hok
    exact ⟨hopen, rules, shared, hr, hm, rfl, rfl⟩
  · rintro ⟨hopen, rules, shared, hr, hm, rfl, rfl⟩
    exact ⟨rules, hr, _, _, ⟨hopen, _, ⟨shared, hm, rfl⟩, rfl⟩, _, _, ⟨hopen, _, rfl, rfl⟩, rfl⟩

/-- A pass that succeeds: `shared` is the catalog once the public role is set. -/
structure Pass (s : Synchronizer) (rules : List (String × ReadyRule))
    (before shared after : Catalog) : Prop where
  intact : before.Intact
  rules_eq : s.ready = .ok rules
  merged : s.mergePublic rules (before.ensureCustomPairs.setAssigned s.policy rules) = .ok shared
  after_eq : after = shared.createMissingPairs.2.cleanPairs.2

namespace Pass
variable {before shared after : Catalog} {name : String} {rule : ReadyRule}

section
variable (h : s.Pass rules before shared after)
include h

theorem fixed_made : MadePairs before before.ensureCustomPairs customPairs :=
  ensurePairs_made h.intact customPairs

theorem set_intact : (before.ensureCustomPairs.setAssigned s.policy rules).Intact :=
  h.fixed_made.intact.setAssigned

/-- All that happens to the roles after they are set happens to the public role. -/
theorem shared_eq : ∃ set, set = before.ensureCustomPairs.setAssigned s.policy rules ∧
      (shared = set ∨ ∃ target ids, s.publicRole = some target ∧ set.Stores ids ∧
        shared = set.giveRole target ids) := by
  refine ⟨_, rfl, ?_⟩
  rcases (mergePublic_eq_ok h.set_intact).mp h.merged with
    ⟨_, rfl⟩ | ⟨target, source, ids, hp, _, hs, rfl⟩
  · exact .inl rfl
  · have hids := stores_sourcePairs h.set_intact hs
    exact .inr ⟨target, _, hp, h.set_intact.stores_sharedPairs hids target, rfl⟩

theorem shared_intact : shared.Intact := by
  obtain ⟨set, rfl, rfl | ⟨target, ids, _, hids, rfl⟩⟩ := h.shared_eq
  · exact h.set_intact
  · exact h.set_intact.giveRole hids

theorem samePairs : SamePairs before.ensureCustomPairs shared := by
  have hset := setAssigned_samePairs before.ensureCustomPairs s.policy rules
  obtain ⟨set, rfl, rfl | ⟨target, ids, _, _, rfl⟩⟩ := h.shared_eq
  · exact hset
  · exact hset.trans (giveRole_samePairs _ target ids)

theorem pairsOf?_shared (hp : s.publicRole ≠ some name) :
    shared.pairsOf? name = (before.ensureCustomPairs.setAssigned s.policy rules).pairsOf? name := by
  obtain ⟨set, rfl, rfl | ⟨target, ids, ht, hids, rfl⟩⟩ := h.shared_eq
  · rfl
  · exact h.set_intact.pairsOf?_giveRole_of_ne hids fun he => hp (he ▸ ht)

theorem missing_eq :
    shared.createMissingPairs.2 = shared.ensurePairs before.wantedPairs := by
  rw [h.shared_intact.createMissingPairs_eq,
    (h.fixed_made.grows.entities.trans h.samePairs.entities).wantedPairs]

theorem missing_made :
    MadePairs shared shared.createMissingPairs.2 before.wantedPairs := by
  rw [h.missing_eq]
  exact ensurePairs_made h.shared_intact _

theorem after_intact : after.Intact :=
  h.after_eq ▸ cleanPairs_intact h.missing_made.intact

/-- The cleanup at the end takes no pair that stands for names. -/
theorem mem_namedPairs_after {n : NamedPair} :
    n ∈ after.namedPairs ↔ n ∈ shared.createMissingPairs.2.namedPairs := by
  rw [h.after_eq]
  exact mem_namedPairs_cleanPairs

theorem namedPairs_missing {n : NamedPair} (hn : n ∈ before.ensureCustomPairs.namedPairs) :
    n ∈ shared.createMissingPairs.2.namedPairs :=
  h.missing_made.grows.namedPairs (h.samePairs.mem_namedPairs.mpr hn)

theorem namedPairs_mono {n : NamedPair} (hn : n ∈ before.ensureCustomPairs.namedPairs) :
    n ∈ after.namedPairs :=
  h.mem_namedPairs_after.mpr (h.namedPairs_missing hn)

theorem hasPair_wanted {w : String × String} (hw : w ∈ before.wantedPairs) :
    after.HasPair w.1 w.2 := by
  obtain ⟨n, hn, hnames⟩ := h.missing_made.pairs w hw
  exact ⟨n, h.mem_namedPairs_after.mpr hn, hnames⟩

/-- If the counter has passed all sides, the only pairs to stand for their names anew, besides the
fixed ones, are wanted. -/
theorem wanted_of_new (hs : before.Sided) {n : NamedPair} (hn : n ∈ after.namedPairs) :
    n ∈ before.ensureCustomPairs.namedPairs ∨ (n.permission, n.resource) ∈ before.wantedPairs := by
  have hfixed : before.ensureCustomPairs.Sided := (ensurePairs_only h.intact hs customPairs).1
  have hmade := h.mem_namedPairs_after.mp hn
  have honly : shared.HasPair n.permission n.resource ∨ _ :=
    (ensurePairs_only h.shared_intact (h.samePairs.sided hfixed) before.wantedPairs).2 _ _
      (h.missing_eq ▸ ⟨n, hmade, rfl, rfl⟩)
  refine honly.imp_left fun hold => h.samePairs.mem_namedPairs.mp ?_
  exact h.missing_made.grows.namedPair_old h.missing_made.intact hmade hold

theorem hasPair_before (hs : before.Sided) {w : String × String} (hw : w ∈ before.wantedPairs)
    (hh : before.ensureCustomPairs.HasPair w.1 w.2) : before.HasPair w.1 w.2 := by
  refine ((ensurePairs_only h.intact hs customPairs).2 _ _ hh).resolve_right fun hfixed => ?_
  -- what is wanted is on a single object, and no fixed pair is
  have hobject := onObject_of_wanted hw
  have hnone : ∀ v ∈ customPairs, v.1 ∉ PermissionName.onObjects := by decide
  exact hnone w hfixed hobject

/-- Between setting a role and the end of the pass only the cleanup takes pairs from it. -/
theorem pairsOf?_after : after.pairsOf? name = (shared.pairsOf? name).map fun ids =>
    ids.filter fun id => !shared.createMissingPairs.2.danglingPairs.contains id := by
  rw [h.after_eq, pairsOf?_cleanPairs]
  unfold pairsOf? roleNamed?
  rw [h.missing_made.grows.roles]

theorem pairsOf?_of_named (hp : shared.pairsOf? name = some ids)
    (hids : ∀ id ∈ ids.rows, ∃ n ∈ before.ensureCustomPairs.namedPairs, n.id = id) :
    after.pairsOf? name = some ids := by
  rw [h.pairsOf?_after, hp]
  refine congrArg some (Ledger.ext (List.filter_eq_self.mpr fun id hid => ?_))
  obtain ⟨n, hn, rfl⟩ := hids id hid
  simpa using named_notMem_danglingPairs (h.namedPairs_missing hn)

/-- A role that nothing is merged into holds after the pass what fell under its rule when the
roles were set. -/
theorem pairsOf?_assigned (distinct : (rules.map (·.1)).Nodup) (hr : (name, rule) ∈ rules)
    (hset : shared.pairsOf? name =
      (before.ensureCustomPairs.setAssigned s.policy rules).pairsOf? name) :
    after.pairsOf? name = some (before.ensureCustomPairs.matchingPairs s.policy rule) := by
  refine h.pairsOf?_of_named ?_ fun id hid => ?_
  · rw [hset]
    exact h.fixed_made.intact.pairsOf?_setAssigned distinct hr
  · obtain ⟨n, hn, hid, _⟩ := mem_matchingPairs.mp hid
    exact ⟨n, hn, hid⟩

end

end Pass
end Synchronizer

theorem Synchronizer.Pass.of_sync {s : Synchronizer} {rules : List (String × ReadyRule)}
    {store store' : Store} {report : SyncReport} (hi : store.catalog.Intact)
    (hready : s.ready = .ok rules) (h : s.sync store = .ok (report, store')) :
    ∃ shared, s.Pass rules store.catalog shared store'.catalog ∧ report.roles =
      giftCounts (store.catalog.ensureCustomPairs.assigned s.policy rules) := by
  obtain ⟨_, rules', shared, hready', hm, rfl, rfl⟩ := (sync_eq_ok hi).mp h
  obtain rfl := Except.ok.inj (hready.symm.trans hready')
  exact ⟨shared, ⟨hi, hready, hm, rfl⟩, rfl⟩

theorem ReadyRule.admits_congr {rule : ReadyRule} {policy : Policy} {m n : NamedPair}
    (hp : m.permission = n.permission) (hr : m.resource = n.resource) :
    rule.admits policy m = rule.admits policy n := by
  unfold admits
  rw [hp, hr]

/-- The role of that name holds exactly the stored pairs with both sides that fall under the
rule. -/
def Catalog.Faithful (c : Catalog) (policy : Policy) (name : String) (rule : ReadyRule) : Prop :=
  ∃ role, c.roleNamed? name = some role ∧ ∀ id, id ∈ role.pairIds.rows ↔
    ∃ n ∈ c.namedPairs, n.id = id ∧ rule.admits policy n = true

/-- That a role is as its rule says is one equation of sets of identifiers. -/
theorem Catalog.faithful_iff {c : Catalog} {policy : Policy} {name : String} {rule : ReadyRule} :
    c.Faithful policy name rule ↔ c.pairsOf? name = some (c.matchingPairs policy rule) := by
  unfold Faithful pairsOf?
  rw [Option.map_eq_some_iff]
  refine exists_congr fun role => and_congr_right fun _ => ?_
  simp only [← mem_matchingPairs]
  exact ⟨Ledger.ext_mem, fun h id => by rw [h]⟩

/-- A defined role, unless it is the public one, holds after a pass exactly the pairs under its
rule if and only if all of them were there, with both sides, before the pass made the missing ones.
If the counter has passed the sides of all pairs, that is to say that of the pairs which the stored
databases and datasources need none falls under the rule that is yet to be made. -/
theorem roles_faithful_iff {s : Synchronizer} (built : s.Built) (hooks : List Hook)
    (ts : List Transaction) {report : SyncReport} {store : Store}
    (h : s.sync (Store.life hooks ts) = .ok (report, store)) {d : RoleDefinition}
    (hd : d ∈ s.definitions) (hp : s.publicRole ≠ some d.name) :
    let before := (Store.life hooks ts).catalog
    ∃ rule, d.rule.ready = .ok rule ∧
      (store.catalog.Faithful s.policy d.name rule ↔
        ∀ n ∈ store.catalog.namedPairs, rule.admits s.policy n = true →
          n ∈ before.ensureCustomPairs.namedPairs) ∧
      (before.Sided → (store.catalog.Faithful s.policy d.name rule ↔
        ∀ n : NamedPair, (n.permission, n.resource) ∈ before.wantedPairs →
          rule.admits s.policy n = true → before.HasPair n.permission n.resource)) := by
  intro before
  have hi : before.Intact := Store.life_intact hooks ts
  obtain ⟨_, rules, _, hready, _⟩ := (Synchronizer.sync_eq_ok hi).mp h
  obtain ⟨shared, pass, _⟩ := Synchronizer.Pass.of_sync hi hready h
  obtain ⟨hnames, hrules⟩ := Synchronizer.ready_rules hready
  obtain ⟨rule, hrule, hmem⟩ := hrules d hd
  have hheld := pass.pairsOf?_assigned (hnames ▸ built.names_nodup) hmem (pass.pairsOf?_shared hp)
  have hfaithful := @matchingPairs_eq_iff before.ensureCustomPairs _ s.policy rule
    fun _ => pass.namedPairs_mono
  rw [← Option.some.injEq, ← hheld, eq_comm, ← Catalog.faithful_iff] at hfaithful
  refine ⟨rule, hrule, hfaithful, fun hs => hfaithful.trans ?_⟩
  constructor
  · intro hold n hw hadm
    obtain ⟨m, hm, hp, hr⟩ := pass.hasPair_wanted hw
    have hadm' : rule.admits s.policy m = true := (ReadyRule.admits_congr hp hr).trans hadm
    exact pass.hasPair_before hs hw ⟨m, hold m hm hadm', hp, hr⟩
  -- a pair that is new to its names is wanted, and what is wanted was there already
  · intro hwanted n hn hadm
    rcases pass.wanted_of_new hs hn with hold | hw
    · exact hold
    · obtain ⟨m, hm, hp, hr⟩ := hwanted n hw hadm
      have hfixed := pass.fixed_made.grows.namedPairs hm
      exact pass.after_intact.namedPair_eq (pass.namedPairs_mono hfixed) hn hp hr ▸ hfixed

def readers : RoleDefinition := ⟨"readers", .patterns [⟨".*", "database_access"⟩]⟩

def withReaders : Synchronizer := Synchronizer.standard.withDefinition readers

def storeDatabase : Transaction := ⟨fun _ => [.putDatabase ⟨⟨1⟩, "a", none⟩], fun _ => .commit⟩

def makeDatabasePair : Transaction :=
  ⟨fun _ => [.ensurePair PermissionName.databaseAccess "[a].(id:1)"], fun _ => .commit⟩

/-- Readers get the pair of a database if it is there before the pass. -/
theorem readers_hold_known_pair : ∃ report store rule,
    withReaders.sync (Store.life [] [storeDatabase, makeDatabasePair]) = .ok (report, store) ∧
      readers.rule.ready = .ok rule ∧ store.catalog.Faithful .standard "readers" rule := by
  have hrun :
      (withReaders.sync (Store.life [] [storeDatabase, makeDatabasePair])).toBool = true := by
    decide +kernel
  cases hsync : withReaders.sync (Store.life [] [storeDatabase, makeDatabasePair]) with
  | error e => simp [hsync, Except.toBool] at hrun
  | ok r =>
    obtain ⟨report, store⟩ := r
    obtain ⟨rule, hready, _, hiff⟩ := roles_faithful_iff (.withDefinition readers .standard) [] _
      hsync (show readers ∈ withReaders.definitions by decide) (by decide)
    have hsided : (Store.life [] [storeDatabase, makeDatabasePair]).catalog.Sided := by
      unfold Sided
      decide +kernel
    have hknown : ∀ w ∈ (Store.life [] [storeDatabase, makeDatabasePair]).catalog.wantedPairs,
        (Store.life [] [storeDatabase, makeDatabasePair]).catalog.HasPair w.1 w.2 := by
      unfold HasPair
      decide +kernel
    exact ⟨report, store, rule, rfl, hready, (hiff hsided).mpr fun n hw _ => hknown _ hw⟩

/-- Readers do not get the pair of a database if only the pass makes it. -/
theorem readers_miss_new_pair : ∃ report store rule,
    withReaders.sync (Store.life [] [storeDatabase]) = .ok (report, store) ∧
      readers.rule.ready = .ok rule ∧ ¬ store.catalog.Faithful .standard "readers" rule := by
  let made : NamedPair := ⟨⟨23⟩, PermissionName.databaseAccess, "[a].(id:1)"⟩
  have hrun : (withReaders.sync (Store.life [] [storeDatabase])).toOption.map (fun r =>
      (r.2.catalog.pairsOf? "readers", r.2.catalog.namedPairs.getLast?)) =
        some (some .empty, some made) := by
    decide +kernel
  have hadmits : readers.rule.ready.toOption.map (·.admits .standard made) = some true := by
    decide +kernel
  cases hsync : withReaders.sync (Store.life [] [storeDatabase]) with
  | error e => simp [hsync, Except.toOption] at hrun
  | ok r =>
    cases hready : readers.rule.ready with
    | error pattern => simp [hready, Except.toOption] at hadmits
    | ok rule =>
      obtain ⟨report, store⟩ := r
      rw [hsync] at hrun
      rw [hready] at hadmits
      obtain ⟨hheld, hlast⟩ := Prod.mk.inj (Option.some.inj hrun)
      refine ⟨report, store, rule, rfl, rfl, fun hfaithful => ?_⟩
      obtain ⟨role, hrole, hids⟩ := hfaithful
      have hempty : role.pairIds = .empty := by
        simpa [pairsOf?, hrole] using hheld
      have hmade := (hids made.id).mpr
        ⟨made, List.mem_of_getLast? hlast, rfl, Option.some.inj hadmits⟩
      simp [hempty, Ledger.empty] at hmade

end Turnstile
