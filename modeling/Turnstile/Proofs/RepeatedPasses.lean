import Mathlib.Data.List.Perm.Subperm
import Turnstile.Proofs.RolePasses

namespace Turnstile
open Catalog

namespace Catalog
variable {c : Catalog} {name : String} {ids : IdSet .pair}

theorem sharedPairs_self (hp : c.pairsOf? name = some ids) : c.sharedPairs name ids = ids := by
  refine Ledger.ext_mem fun id => ?_
  rw [mem_sharedPairs, hp, Option.getD_some, or_iff_left_iff_imp]
  exact And.left

end Catalog

theorem mem_of_lookup {β : Type} {rules : List (String × β)} {name : String} {rule : β}
    (h : rules.lookup name = some rule) : (name, rule) ∈ rules := by
  obtain ⟨l, r, rfl, _⟩ := List.lookup_eq_some_iff.mp h
  simp

theorem notMem_of_lookup {β : Type} {rules : List (String × β)} {name : String}
    (h : rules.lookup name = none) : name ∉ rules.map (·.1) := by
  intro hm
  obtain ⟨r, hr, rfl⟩ := List.mem_map.mp hm
  simpa using List.lookup_eq_none_iff.mp h r hr

namespace Synchronizer.Pass
variable {s : Synchronizer} {rules : List (String × ReadyRule)}
  {before shared after again : Catalog} {name source : String} {ids : IdSet .pair}

/-- No pair that the pass made falls under a rule. -/
def Stable (s : Synchronizer) (rules : List (String × ReadyRule)) (before after : Catalog) : Prop :=
  ∀ r ∈ rules, after.matchingPairs s.policy r.2 =
    before.ensureCustomPairs.matchingPairs s.policy r.2

/-- If the pass made no pair that falls under a rule, the rules assign the same a second time. -/
theorem assigned_again (hstable : Stable s rules before after) :
    after.assigned s.policy rules = before.ensureCustomPairs.assigned s.policy rules :=
  List.map_congr_left fun r hr => congrArg (Prod.mk r.1) (hstable r hr)

section
variable (h : s.Pass rules before shared after)
include h

theorem after_entities : SameEntities before after := by
  have hshared := h.fixed_made.grows.entities.trans h.samePairs.entities
  exact h.after_eq ▸ (hshared.trans h.missing_made.grows.entities).trans (cleanPairs_entities _)

theorem fixed_again : after.ensureCustomPairs = after := by
  refine h.after_intact.ensurePairs_eq fun w hw => ?_
  obtain ⟨n, hn, hnames⟩ := h.fixed_made.pairs w hw
  exact ⟨n, h.namedPairs_mono hn, hnames⟩

/-- Whatever a second pass gives the roles, it makes and deletes nothing. -/
theorem upkeep_again (hsame : SamePairs after again) :
    again.createMissingPairs = (0, again) ∧ again.cleanPairs = (0, again) := by
  constructor
  · refine createMissingPairs_eq_self fun w hw => ?_
    rw [(h.after_entities.trans hsame.entities).wantedPairs] at hw
    obtain ⟨n, hn, hnames⟩ := h.hasPair_wanted hw
    exact ⟨n, hsame.mem_namedPairs.mpr hn, hnames⟩
  · refine cleanPairs_eq_self ?_
    rw [hsame.danglingPairs, h.after_eq]
    exact danglingPairs_cleanPairs _

theorem undefined_again (hn : name ∉ rules.map (·.1)) :
    (after.setAssigned s.policy rules).pairsOf? name = after.pairsOf? name := by
  refine h.after_intact.pairsOf?_giveRoles_of_notMem stores_assigned ?_
  rw [names_assigned]
  exact hn

/-- The first pass leaves the template's role alone, even if it is the public role. -/
theorem template_kept (ht : s.template = some source) (hn : rules.lookup source = none) :
    shared.pairsOf? source =
      (before.ensureCustomPairs.setAssigned s.policy rules).pairsOf? source := by
  rcases (mergePublic_eq_ok h.set_intact).mp h.merged with
    ⟨_, rfl⟩ | ⟨target, source', ids, _, ht', hs, rfl⟩
  · rfl
  · obtain rfl := Option.some.inj (ht.symm.trans ht')
    rcases sourcePairs_eq_ok.mp hs with ⟨rule, hrule, _⟩ | ⟨_, hp⟩
    · exact absurd (hn.symm.trans hrule) (Option.some_ne_none rule).symm
    · by_cases hst : source = target
      · subst hst
        rw [sharedPairs_self hp, giveRole_self hp]
      · exact h.set_intact.pairsOf?_giveRole_of_ne
          (h.set_intact.stores_sharedPairs (stores_sourcePairs h.set_intact hs) target) hst

/-- A second pass finds the template again. If no pair made by the first falls under a rule, it
takes from it the same pairs, but for those that the first pass deleted. -/
theorem source_again (ht : s.template = some source) (hs : s.sourcePairs rules source
    (before.ensureCustomPairs.setAssigned s.policy rules) = .ok ids) :
    ∃ ids', s.sourcePairs rules source (after.setAssigned s.policy rules) = .ok ids' ∧
      (Stable s rules before after → ∀ id, id ∈ ids'.rows ↔
        id ∈ ids.rows ∧ id ∉ shared.createMissingPairs.2.danglingPairs) := by
  have hset := setAssigned_samePairs before.ensureCustomPairs s.policy rules
  have hagain := setAssigned_samePairs after s.policy rules
  rcases sourcePairs_eq_ok.mp hs with ⟨rule, hrule, rfl⟩ | ⟨hn, hp⟩
  · refine ⟨_, sourcePairs_eq_ok.mpr (.inl ⟨rule, hrule, rfl⟩), fun hstable id => ?_⟩
    rw [matchingPairs_congr fun _ => hagain.mem_namedPairs, hstable _ (mem_of_lookup hrule),
      matchingPairs_congr fun _ => hset.mem_namedPairs, iff_self_and]
    intro hid
    obtain ⟨n, hn, rfl, _⟩ := mem_matchingPairs.mp hid
    exact named_notMem_danglingPairs (h.namedPairs_missing hn)
  · refine ⟨ids.filter fun id => !shared.createMissingPairs.2.danglingPairs.contains id,
      sourcePairs_eq_ok.mpr (.inr ⟨hn, ?_⟩), fun _ id => ?_⟩
    · rw [h.undefined_again (notMem_of_lookup hn), h.pairsOf?_after, h.template_kept ht hn, hp]
      rfl
    · simp [Ledger.filter]

theorem isDataPair_again {id : PairId}
    (hid : ∃ n ∈ before.ensureCustomPairs.namedPairs, n.id = id) :
    after.isDataPair id = before.ensureCustomPairs.isDataPair id := by
  obtain ⟨n, hn, rfl⟩ := hid
  rw [Bool.eq_iff_iff, isDataPair_iff, isDataPair_iff]
  constructor
  · rintro ⟨m, hm, hmn, hdata⟩
    exact ⟨n, hn, rfl, namedPair_of_id hm (h.namedPairs_mono hn) hmn ▸ hdata⟩
  · rintro ⟨m, hm, hmn, hdata⟩
    exact ⟨m, h.namedPairs_mono hm, hmn, hdata⟩

/-- If no pair made by the first pass falls under a rule, the public role is to be given in the
second what it holds, provided the template's pairs are the same. -/
theorem shared_again (distinct : (rules.map (·.1)).Nodup) (hstable : Stable s rules before after)
    {target : String} {ids' : IdSet .pair}
    (hids : ∀ id, id ∈ ids'.rows ↔
      id ∈ ids.rows ∧ id ∉ shared.createMissingPairs.2.danglingPairs)
    (hshared : shared.pairsOf? target = some ((before.ensureCustomPairs.setAssigned s.policy
      rules).sharedPairs target ids)) :
    after.pairsOf? target = some ((after.setAssigned s.policy rules).sharedPairs target ids') := by
  have hafter := @pairsOf?_after _ _ _ _ _ target h
  rw [hshared] at hafter
  refine hafter.trans (congrArg some (Ledger.ext_mem fun id => ?_))
  have hset := setAssigned_samePairs before.ensureCustomPairs s.policy rules
  have hagain := setAssigned_samePairs after s.policy rules
  have hfilter : ∀ own : IdSet .pair, id ∈ (own.filter fun id =>
      !shared.createMissingPairs.2.danglingPairs.contains id).rows ↔
        id ∈ own.rows ∧ id ∉ shared.createMissingPairs.2.danglingPairs := by
    simp [Ledger.filter]
  rw [hfilter, mem_sharedPairs, mem_sharedPairs, hids, hset.isDataPair, hagain.isDataPair]
  by_cases hdefined : target ∈ rules.map (·.1)
  -- a defined role was given the same pairs both times, and all of them have both sides
  · obtain ⟨⟨_, rule⟩, hr, rfl⟩ := List.mem_map.mp hdefined
    rw [h.fixed_made.intact.pairsOf?_setAssigned distinct hr,
      h.after_intact.pairsOf?_setAssigned distinct hr, hstable _ hr, Option.getD_some,
      or_and_right, and_assoc]
    refine or_congr_right ?_
    refine and_congr_right fun hid => ?_
    obtain ⟨n, hn, rfl, _⟩ := mem_matchingPairs.mp hid
    rw [h.isDataPair_again ⟨n, hn, rfl⟩]
    exact and_iff_left (named_notMem_danglingPairs (h.namedPairs_missing hn))
  -- any other role holds what the first pass gave it
  · rw [h.undefined_again hdefined, hafter, Option.map_some, Option.getD_some, hfilter,
      mem_sharedPairs, hset.isDataPair]
    constructor
    · rintro ⟨hid | ⟨hid, hdata⟩, hleft⟩
      · exact .inl ⟨hid, hleft⟩
      · obtain ⟨n, hn, hnid, _⟩ := isDataPair_iff.mp hdata
        exact .inr ⟨⟨.inr ⟨hid, hdata⟩, hleft⟩, (h.isDataPair_again ⟨n, hn, hnid⟩).trans hdata⟩
    · rintro (⟨hid, hleft⟩ | ⟨hid, _⟩)
      · exact ⟨.inl hid, hleft⟩
      · exact hid

/-- If no pair made by the first pass falls under a rule, a role that nothing was merged into holds
what its rule assigns to it in the second. -/
theorem assigned_held (distinct : (rules.map (·.1)).Nodup) (hstable : Stable s rules before after)
    {g : String × IdSet .pair} (hg : g ∈ after.assigned s.policy rules)
    (hset : shared.pairsOf? g.1 =
      (before.ensureCustomPairs.setAssigned s.policy rules).pairsOf? g.1) :
    after.pairsOf? g.1 = some g.2 := by
  rw [assigned_again hstable] at hg
  obtain ⟨rule, hr, hids⟩ := mem_assigned.mp hg
  rw [hids]
  exact h.pairsOf?_assigned distinct hr hset

/-- If no pair made by the first pass falls under a rule, the second leaves the roles as they
are. -/
theorem merged_again (distinct : (rules.map (·.1)).Nodup) (hstable : Stable s rules before after) :
    s.mergePublic rules (after.setAssigned s.policy rules) = .ok after := by
  have hset : (after.setAssigned s.policy rules).Intact := h.after_intact.setAssigned
  rw [mergePublic_eq_ok hset]
  rcases (mergePublic_eq_ok h.set_intact).mp h.merged with
    ⟨hnone, hshared⟩ | ⟨target, source, ids, hp, ht, hs, hshared⟩
  · refine .inl ⟨hnone, (setAssigned_self fun g hg => ?_).symm⟩
    exact h.assigned_held distinct hstable hg (by rw [hshared])
  · obtain ⟨ids', hs', hids'⟩ := h.source_again ht hs
    have hids := h.set_intact.stores_sharedPairs (stores_sourcePairs h.set_intact hs) target
    have hothers : ∀ g ∈ after.assigned s.policy rules, g.1 ≠ target →
        after.pairsOf? g.1 = some g.2 := by
      intro g hg hne
      refine h.assigned_held distinct hstable hg ?_
      rw [hshared]
      exact h.set_intact.pairsOf?_giveRole_of_ne hids hne
    have htarget := h.shared_again distinct hstable (hids' hstable)
      ((congrArg (·.pairsOf? target) hshared).trans (h.set_intact.pairsOf?_giveRole hids))
    refine .inr ⟨target, source, ids', hp, ht, hs', ?_⟩
    rw [h.after_intact.giveRole_setAssigned hothers, giveRole_self htarget]

/-- The template is found again whatever the second pass gives the roles. -/
theorem merge_found :
    ∃ given, s.mergePublic rules (after.setAssigned s.policy rules) = .ok given := by
  have hset : (after.setAssigned s.policy rules).Intact := h.after_intact.setAssigned
  simp only [mergePublic_eq_ok hset]
  rcases (mergePublic_eq_ok h.set_intact).mp h.merged with
    ⟨hnone, _⟩ | ⟨target, source, ids, hp, ht, hs, _⟩
  · exact ⟨_, .inl ⟨hnone, rfl⟩⟩
  · obtain ⟨ids', hs', _⟩ := h.source_again ht hs
    exact ⟨_, .inr ⟨target, source, ids', hp, ht, hs', rfl⟩⟩

/-- The second pass is one as well, and all it can change is what the roles hold. -/
theorem second : ∃ given, s.Pass rules after given given ∧ SamePairs after given ∧
    given.createMissingPairs = (0, given) ∧ given.cleanPairs = (0, given) := by
  obtain ⟨given, hmerged⟩ := h.merge_found
  rw [← h.fixed_again] at hmerged
  have hpass : s.Pass rules after given _ := ⟨h.after_intact, h.rules_eq, hmerged, rfl⟩
  have hsame := hpass.samePairs
  rw [h.fixed_again] at hsame
  obtain ⟨hmissing, hclean⟩ := h.upkeep_again hsame
  refine ⟨given, ⟨h.after_intact, h.rules_eq, hmerged, ?_⟩, hsame, hmissing, hclean⟩
  rw [hmissing, hclean]

end

end Synchronizer.Pass

/-- After a pass that succeeds a second one does. It makes and deletes nothing, and it changes
nothing if no pair made by the first falls under a rule. -/
theorem Synchronizer.sync_again {s : Synchronizer} {rules : List (String × ReadyRule)}
    {store store' : Store} {report : SyncReport} (hi : store.catalog.Intact)
    (hready : s.ready = .ok rules) (distinct : (rules.map (·.1)).Nodup)
    (h : s.sync store = .ok (report, store')) :
    ∃ given, s.sync store' =
        .ok (⟨giftCounts (store'.catalog.assigned s.policy rules), 0, 0⟩,
          { store' with catalog := given }) ∧
      (Pass.Stable s rules store.catalog store'.catalog → given = store'.catalog) := by
  obtain ⟨shared, pass, _⟩ := Pass.of_sync hi hready h
  have hopen : store'.poisoned = false := by
    obtain ⟨hopen, _, _, _, _, _, rfl⟩ := (sync_eq_ok hi).mp h
    exact hopen
  obtain ⟨given, hgiven, hsame, hmissing, hclean⟩ := pass.second
  refine ⟨given,
    (sync_eq_ok pass.after_intact).mpr ⟨hopen, rules, given, hready, hgiven.merged, ?_⟩,
    fun hstable => ?_⟩
  · rw [hmissing, hclean, pass.fixed_again]
    exact ⟨rfl, rfl⟩
  · have hmerged := hgiven.merged
    rw [pass.fixed_again, pass.merged_again distinct hstable] at hmerged
    exact (Except.ok.inj hmerged).symm

/-- Under the standard policy no built-in role holds a permission on a single object. -/
theorem Policy.standard_holds {t : Tier} {p r : String} (h : standard.holds t p r = true) :
    isOnObject p = false := by
  have hshared : ∀ q ∈ standard.sharedPermissions, isOnObject q = false := by decide
  have hquery : ∀ q ∈ standard.queryPairs, isOnObject q.1 = false := by decide
  have hgranter : ∀ q ∈ standard.granterPermissions, isOnObject q = false := by decide
  cases t with
  | admin => simpa [holds] using h
  | alpha =>
    rcases Bool.or_eq_true_iff.mp h with h | h
    · simp only [Bool.not_eq_true', Bool.or_eq_false_iff] at h
      exact h.1
    · exact hshared p (by simpa using h)
  | gamma =>
    rcases Bool.or_eq_true_iff.mp h with h | h
    · simp only [Bool.not_eq_true', Bool.or_eq_false_iff] at h
      exact h.1.1
    · exact hshared p (by simpa using h)
  | sqlLab => exact hquery (p, r) (by simpa [holds] using h)
  | granter => exact hgranter p (by simpa [holds] using h)

def builtinRules : List (String × ReadyRule) :=
  [("Admin", .tier .admin), ("Alpha", .tier .alpha), ("Gamma", .tier .gamma),
    ("granter", .tier .granter), ("sql_lab", .tier .sqlLab)]

theorem ready_standard (publicRole template : Option String) :
    (Synchronizer.standard.withPublicRoleLike publicRole template).ready = .ok builtinRules := rfl

/-- No built-in rule admits a permission on a single object. -/
theorem builtin_admits {r : String × ReadyRule} (hr : r ∈ builtinRules) {n : NamedPair}
    (h : r.2.admits .standard n = true) : Policy.isOnObject n.permission = false := by
  have htier : ∃ t, r.2 = .tier t := by
    simp only [builtinRules, List.mem_cons, List.not_mem_nil, or_false] at hr
    rcases hr with rfl | rfl | rfl | rfl | rfl <;> exact ⟨_, rfl⟩
  obtain ⟨t, ht⟩ := htier
  rw [ht, ReadyRule.admits] at h
  exact Policy.standard_holds h

theorem Ledger.eq_of_subset {α : Type} [Filed α] {l m : Ledger α} (h : ∀ x ∈ l.rows, x ∈ m.rows)
    (hlen : m.rows.length ≤ l.rows.length) : l = m := by
  have hnodup : l.rows.Nodup := l.ascending.imp fun hlt heq => Nat.ne_of_lt hlt (congrArg _ heq)
  have hperm := (hnodup.subperm h).perm_of_length_le hlen
  exact Ledger.ext_mem fun x => hperm.mem_iff

/-- Administrators are given the same number of pairs again only if no pair for them was made. -/
theorem old_of_same_count {c c' : Catalog} (hmono : ∀ n ∈ c.namedPairs, n ∈ c'.namedPairs)
    (hcount : giftCounts (c'.assigned .standard builtinRules) =
      giftCounts (c.assigned .standard builtinRules)) :
    ∀ n ∈ c'.namedPairs, Policy.isOnObject n.permission = false → n ∈ c.namedPairs := by
  have hlen : (c'.matchingPairs .standard (.tier .admin)).rows.length =
      (c.matchingPairs .standard (.tier .admin)).rows.length :=
    (Prod.mk.inj (List.cons.inj hcount).1).2
  have hsub : ∀ id ∈ (c.matchingPairs .standard (.tier .admin)).rows,
      id ∈ (c'.matchingPairs .standard (.tier .admin)).rows := by
    intro id hid
    obtain ⟨n, hn, hnid, hadm⟩ := mem_matchingPairs.mp hid
    exact mem_matchingPairs.mpr ⟨n, hmono n hn, hnid, hadm⟩
  have heq := (Ledger.eq_of_subset hsub (Nat.le_of_eq hlen)).symm
  intro n hn hobject
  exact (matchingPairs_eq_iff hmono).mp heq n hn (by simpa [ReadyRule.admits, Policy.holds])

/-- After a pass over the built-in roles that succeeds a second one does, with whatever public role
and template. It makes and deletes nothing. It changes nothing and counts the same pairs if and
only if every pair with both sides that is not on a single object was there before the first pass
made the missing ones; so it is whenever the counter has passed the sides of all pairs. -/
theorem second_pass_idle_iff (publicRole template : Option String) (hooks : List Hook)
    (ts : List Transaction) {report : SyncReport} {store : Store}
    (h : (Synchronizer.standard.withPublicRoleLike publicRole template).sync
      (Store.life hooks ts) = .ok (report, store)) :
    let before := (Store.life hooks ts).catalog
    ∃ again store', (Synchronizer.standard.withPublicRoleLike publicRole template).sync store =
        .ok (again, store') ∧ again.created = 0 ∧ again.deleted = 0 ∧
      ((store' = store ∧ again.roles = report.roles) ↔
        ∀ n ∈ store.catalog.namedPairs, Policy.isOnObject n.permission = false →
          n ∈ before.ensureCustomPairs.namedPairs) ∧
      (before.Sided → store' = store ∧ again.roles = report.roles) := by
  intro before
  have hi : before.Intact := Store.life_intact hooks ts
  have hready := ready_standard publicRole template
  obtain ⟨shared, pass, hroles⟩ := Synchronizer.Pass.of_sync hi hready h
  obtain ⟨given, hagain, hgiven⟩ := Synchronizer.sync_again hi hready (by decide) h
  have hmono : ∀ n ∈ before.ensureCustomPairs.namedPairs, n ∈ store.catalog.namedPairs :=
    fun _ => pass.namedPairs_mono
  have hidle : (∀ n ∈ store.catalog.namedPairs, Policy.isOnObject n.permission = false →
      n ∈ before.ensureCustomPairs.namedPairs) →
        ({ store with catalog := given } : Store) = store ∧
          giftCounts (store.catalog.assigned .standard builtinRules) = report.roles := by
    intro hold
    have hstable : Synchronizer.Pass.Stable (Synchronizer.standard.withPublicRoleLike publicRole
        template) builtinRules before store.catalog := by
      intro r hr
      refine (matchingPairs_eq_iff hmono).mpr fun n hn hadm => hold n hn ?_
      exact builtin_admits hr hadm
    rw [hgiven hstable, hroles, ← Synchronizer.Pass.assigned_again hstable]
    exact ⟨rfl, rfl⟩
  refine ⟨_, _, hagain, rfl, rfl, ⟨fun ⟨_, hcount⟩ => ?_, hidle⟩, fun hs => hidle ?_⟩
  · rw [hroles] at hcount
    exact old_of_same_count hmono hcount
  · intro n hn hobject
    refine (pass.wanted_of_new hs hn).resolve_right fun hw => ?_
    have : n.permission ∈ PermissionName.onObjects := onObject_of_wanted hw
    simp [Policy.isOnObject, this] at hobject

/-- With a database to make the pair for and a public role after a template the second pass changes
nothing. -/
theorem second_pass_after_database : ∃ report store again,
    (Synchronizer.standard.withPublicRoleLike (some "Public") (some "Gamma")).sync
        (Store.life [] [storeDatabase]) = .ok (report, store) ∧
      (Synchronizer.standard.withPublicRoleLike (some "Public") (some "Gamma")).sync store =
        .ok (again, store) ∧ again.roles = report.roles := by
  have hrun : ((Synchronizer.standard.withPublicRoleLike (some "Public") (some "Gamma")).sync
      (Store.life [] [storeDatabase])).toBool = true := by
    decide +kernel
  cases hsync : (Synchronizer.standard.withPublicRoleLike (some "Public") (some "Gamma")).sync
      (Store.life [] [storeDatabase]) with
  | error e => simp [hsync, Except.toBool] at hrun
  | ok r =>
    obtain ⟨report, store⟩ := r
    obtain ⟨again, store', hagain, _, _, _, hidle⟩ :=
      second_pass_idle_iff (some "Public") (some "Gamma") [] [storeDatabase] hsync
    have hsided : (Store.life [] [storeDatabase]).catalog.Sided := by
      unfold Sided
      decide +kernel
    obtain ⟨rfl, hroles⟩ := hidle hsided
    exact ⟨report, _, again, rfl, hagain, hroles⟩

def storeEarlyPair : Transaction :=
  ⟨fun _ => [.insertPermission "can_read", .insertPair ⟨1⟩ ⟨23⟩], fun _ => .commit⟩

/-- A pair that dangles until the first pass gives the identifier of its missing side away falls to
the roles in the second pass. -/
theorem early_pair_changes_second_pass : ∃ report store again store',
    (Synchronizer.standard.withPublicRoleLike none none).sync
        (Store.life [] [storeEarlyPair, storeDatabase]) = .ok (report, store) ∧
      (Synchronizer.standard.withPublicRoleLike none none).sync store = .ok (again, store') ∧
      store' ≠ store ∧ again.roles ≠ report.roles := by
  have hfirst : ((Synchronizer.standard.withPublicRoleLike none none).sync
      (Store.life [] [storeEarlyPair, storeDatabase])).toOption.map (fun r =>
        (r.1.roles, r.2.catalog.pairsOf? "Gamma")) =
      some ([("Admin", 5), ("Alpha", 4), ("Gamma", 2), ("granter", 0), ("sql_lab", 0)],
        some (.ofIds [⟨14⟩, ⟨16⟩])) := by
    decide +kernel
  have hsecond : ((Synchronizer.standard.withPublicRoleLike none none).sync
      (Store.life [] [storeEarlyPair, storeDatabase])).toOption.bind (fun r =>
        ((Synchronizer.standard.withPublicRoleLike none none).sync r.2).toOption.map fun r =>
          (r.1.roles, r.2.catalog.pairsOf? "Gamma")) =
      some ([("Admin", 6), ("Alpha", 5), ("Gamma", 3), ("granter", 0), ("sql_lab", 0)],
        some (.ofIds [⟨2⟩, ⟨14⟩, ⟨16⟩])) := by
    decide +kernel
  cases hsync : (Synchronizer.standard.withPublicRoleLike none none).sync
      (Store.life [] [storeEarlyPair, storeDatabase]) with
  | error e => simp [hsync, Except.toOption] at hfirst
  | ok r =>
    obtain ⟨report, store⟩ := r
    rw [hsync] at hfirst hsecond
    cases hagain : (Synchronizer.standard.withPublicRoleLike none none).sync store with
    | error e => simp [hagain, Except.toOption] at hsecond
    | ok r =>
      obtain ⟨again, store'⟩ := r
      simp only [Except.toOption, Option.bind_some, hagain] at hsecond
      obtain ⟨hroles, hgamma⟩ := Prod.mk.inj (Option.some.inj hfirst)
      obtain ⟨hroles', hgamma'⟩ := Prod.mk.inj (Option.some.inj hsecond)
      refine ⟨report, store, again, store', rfl, hagain, ?_, ?_⟩
      · rintro rfl
        exact absurd (hgamma.symm.trans hgamma') (by decide +kernel)
      · intro heq
        exact absurd (hroles.symm.trans (heq.symm.trans hroles')) (by decide +kernel)

end Turnstile
