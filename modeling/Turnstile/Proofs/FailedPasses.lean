import Turnstile.Proofs.RepeatedPasses

namespace Turnstile
open Catalog

theorem bind_eq_error {ε α β : Type} {x : Except ε α} {f : α → Except ε β} {e : ε} :
    x >>= f = .error e ↔ x = .error e ∨ ∃ a, x = .ok a ∧ f a = .error e := by
  cases x with
  | error e' => simp [bind, Except.bind]
  | ok a => simp

theorem map_eq_error {ε α β : Type} {x : Except ε α} {f : α → β} {e : ε} :
    x.map f = .error e ↔ x = .error e := by
  cases x <;> simp [Except.map]

/-- The outcome of reading the expressions: it fails just if one of them cannot be read, and its
error reports such a one. -/
structure ReadsAll {ε α : Type} (expressions : List String) (report : String → ε)
    (outcome : Except ε α) : Prop where
  error : ∀ e, outcome = .error e →
    ∃ p ∈ expressions, Pattern.readAnchored p = none ∧ e = report p
  ok : ∀ a, outcome = .ok a → ∀ p ∈ expressions, Pattern.readAnchored p ≠ none

namespace ReadsAll
variable {ε α β : Type} {ps qs : List String} {report : String → ε} {x : Except ε α}

theorem of_ok (a : α) : ReadsAll [] report (.ok a) := by
  constructor
  · intro e h
    cases h
  · simp

theorem bind {f : α → Except ε β} (hx : ReadsAll ps report x)
    (hf : ∀ a, ReadsAll qs report (f a)) : ReadsAll (ps ++ qs) report (x >>= f) := by
  constructor
  · intro e h
    rcases bind_eq_error.mp h with h | ⟨a, _, h⟩
    · obtain ⟨p, hp, hnone⟩ := hx.error e h
      exact ⟨p, List.mem_append_left _ hp, hnone⟩
    · obtain ⟨p, hp, hnone⟩ := (hf a).error e h
      exact ⟨p, List.mem_append_right _ hp, hnone⟩
  · intro b h p hp
    obtain ⟨a, ha, hb⟩ := bind_eq_ok.mp h
    rcases List.mem_append.mp hp with hp | hp
    · exact hx.ok a ha p hp
    · exact (hf a).ok b hb p hp

theorem map (g : α → β) (hx : ReadsAll ps report x) : ReadsAll ps report (x.map g) := by
  constructor
  · intro e h
    exact hx.error e (map_eq_error.mp h)
  · intro b h
    obtain ⟨a, ha, _⟩ := map_eq_ok.mp h
    exact hx.ok a ha

theorem mapM {f : β → Except ε α} {expressions : β → List String} (xs : List β)
    (hf : ∀ b, ReadsAll (expressions b) report (f b)) :
    ReadsAll (xs.flatMap expressions) report (xs.mapM f) := by
  induction xs with
  | nil => exact of_ok []
  | cons b xs ih =>
    rw [List.mapM_cons, List.flatMap_cons]
    refine (hf b).bind fun a => ?_
    exact ih.map (a :: ·)

theorem fails_iff (hx : ReadsAll ps report x) :
    (∃ e, x = .error e) ↔ ∃ p ∈ ps, Pattern.readAnchored p = none := by
  constructor
  · rintro ⟨e, h⟩
    obtain ⟨p, hp, hnone, _⟩ := hx.error e h
    exact ⟨p, hp, hnone⟩
  · rintro ⟨p, hp, hnone⟩
    cases hx' : x with
    | error e => exact ⟨e, rfl⟩
    | ok a => exact absurd hnone (hx.ok a hx' p hp)

end ReadsAll

def PairPattern.expressions (p : PairPattern) : List String := [p.resource, p.permission]

def RoleRule.expressions : RoleRule → List String
  | .tier _ => []
  | .patterns ps => ps.flatMap PairPattern.expressions

/-- All expressions of all definitions, in the order they are read. -/
def Synchronizer.expressions (s : Synchronizer) : List String :=
  s.definitions.flatMap fun d => d.rule.expressions

theorem readSide_readsAll (p : String) : ReadsAll [p] id (readSide p) := by
  unfold readSide
  constructor
  · intro e h
    split at h
    · cases h
    · rename_i hnone
      cases h
      exact ⟨p, by simp, hnone, rfl⟩
  · intro a h q hq
    obtain rfl := List.mem_singleton.mp hq
    split at h
    · rename_i hsome
      simp [hsome]
    · cases h

theorem PairPattern.ready_readsAll (p : PairPattern) : ReadsAll p.expressions id p.ready :=
  (readSide_readsAll p.resource).bind fun a =>
    (readSide_readsAll p.permission).bind fun b => .of_ok (a, b)

theorem RoleRule.ready_readsAll (rule : RoleRule) : ReadsAll rule.expressions id rule.ready := by
  cases rule with
  | tier t => exact .of_ok (ReadyRule.tier t)
  | patterns ps => exact (ReadsAll.mapM ps PairPattern.ready_readsAll).map ReadyRule.patterns

/-- A synchronizer reads all expressions of all its definitions, and reports one that is
malformed. -/
theorem Synchronizer.ready_readsAll (s : Synchronizer) :
    ReadsAll s.expressions AccessError.invalidPattern s.ready := by
  refine ReadsAll.mapM s.definitions fun d => ?_
  have hrule := d.rule.ready_readsAll
  constructor
  · intro e h
    split at h
    · cases h
    · rename_i pattern hpattern
      obtain ⟨p, hp, hnone, rfl⟩ := hrule.error pattern hpattern
      cases h
      exact ⟨_, hp, hnone, rfl⟩
  · intro a h
    split at h
    · rename_i rule hready
      exact hrule.ok rule hready
    · cases h

namespace Catalog

def findOrInsertPermission (c : Catalog) (name : String) :
    Except StoreError (Permission × Catalog) :=
  match c.permissionNamed? name with
  | some row => .ok (row, c)
  | none => c.insertPermission name

def findOrInsertResource (c : Catalog) (name : String) : Except StoreError (Resource × Catalog) :=
  match c.resourceNamed? name with
  | some row => .ok (row, c)
  | none => c.insertResource name

def findOrInsertRole (c : Catalog) (name : String) : Except StoreError (Role × Catalog) :=
  match c.roleNamed? name with
  | some row => .ok (row, c)
  | none => c.insertRole name

def findOrInsertPair (c : Catalog) (permission resource : String) :
    Except StoreError (Pair × Catalog) := do
  let (p, c) ← c.findOrInsertPermission permission
  let (r, c) ← c.findOrInsertResource resource
  match c.pairOf? p.id r.id with
  | some row => .ok (row, c)
  | none => c.insertPair p.id r.id

variable (c : Catalog) (name : String)

/-- An insertion behind a failed search cannot meet a duplicate. -/
theorem findOrInsertPermission_eq :
    c.findOrInsertPermission name = .ok (c.ensurePermission name) := by
  cases h : c.permissionNamed? name <;>
    simp [findOrInsertPermission, ensurePermission, insertPermission, h]

theorem findOrInsertResource_eq : c.findOrInsertResource name = .ok (c.ensureResource name) := by
  cases h : c.resourceNamed? name <;>
    simp [findOrInsertResource, ensureResource, insertResource, h]

/-- Inserting a role that was not found is not refused. -/
theorem findOrInsertRole_eq : c.findOrInsertRole name = .ok (c.ensureRole name) := by
  cases h : c.roleNamed? name <;> simp [findOrInsertRole, ensureRole, insertRole, h]

/-- Inserting what was not found of a pair is not refused. -/
theorem findOrInsertPair_eq (permission resource : String) :
    c.findOrInsertPair permission resource = .ok (c.ensurePair permission resource) := by
  unfold findOrInsertPair ensurePair
  simp only [findOrInsertPermission_eq, findOrInsertResource_eq, ok_bind]
  split
  · simp only [*]
  · simp only [insertPair, *]

end Catalog

def Synchronizer.Knows (s : Synchronizer) (c : Catalog) (name : String) : Prop :=
  name ∈ s.definitions.map (·.name) ∨ ∃ role ∈ c.roles.rows, role.name = name

/-- Why a synchronization or a copy is refused: an expression that cannot be read, or an unknown
role to copy from. -/
inductive Synchronizer.Refusal (s : Synchronizer) (c : Catalog) (source? : Option String) :
    AccessError → Prop
  | unreadable {p : String} : p ∈ s.expressions → Pattern.readAnchored p = none →
      s.Refusal c source? (.invalidPattern p)
  | unknown {source : String} : source? = some source → ¬ s.Knows c source →
      s.Refusal c source? (.roleNotFound source)

theorem Synchronizer.exists_refusal_iff {s : Synchronizer} {c : Catalog} {source? : Option String} :
    (∃ e, s.Refusal c source? e) ↔ (∃ p ∈ s.expressions, Pattern.readAnchored p = none) ∨
      ∃ source, source? = some source ∧ ¬ s.Knows c source := by
  constructor
  · rintro ⟨_, ⟨hp, hnone⟩ | ⟨hs, hn⟩⟩
    · exact .inl ⟨_, hp, hnone⟩
    · exact .inr ⟨_, hs, hn⟩
  · rintro (⟨p, hp, hnone⟩ | ⟨source, hs, hn⟩)
    · exact ⟨_, .unreadable hp hnone⟩
    · exact ⟨_, .unknown hs hn⟩

theorem lookup_eq_none_iff_notMem {β : Type} {rules : List (String × β)} {name : String} :
    rules.lookup name = none ↔ name ∉ rules.map (·.1) := by
  refine ⟨notMem_of_lookup, fun hn => List.lookup_eq_none_iff.mpr fun r hr => ?_⟩
  simpa using fun heq : name = r.1 => hn (List.mem_map.mpr ⟨r, hr, heq.symm⟩)

theorem Catalog.pairsOf?_eq_none {c : Catalog} {name : String} :
    c.pairsOf? name = none ↔ ∀ role ∈ c.roles.rows, role.name ≠ name := by
  simp [pairsOf?, roleNamed?, List.find?_eq_none]

namespace Synchronizer
variable {s : Synchronizer} {rules : List (String × ReadyRule)} {source target : String}
  {merge : Bool} {c : Catalog} {e : AccessError} {store : Store}

theorem sourcePairs_eq_error : s.sourcePairs rules source c = .error e ↔
    rules.lookup source = none ∧ c.pairsOf? source = none ∧ .roleNotFound source = e := by
  unfold sourcePairs pairsOf?
  cases rules.lookup source with
  | some rule => simp
  | none => cases c.roleNamed? source <;> simp

/-- Merging fails only over its template: the public role is made if it is missing. -/
theorem mergePublic_eq_error (h : c.Intact) : s.mergePublic rules c = .error e ↔
    ∃ target source, s.publicRole = some target ∧ s.template = some source ∧
      s.sourcePairs rules source c = .error e := by
  unfold mergePublic
  cases hp : s.publicRole with
  | none => simp
  | some target =>
    cases ht : s.template with
    | none => simp
    | some source => simp [copyPairs_eq h, map_eq_error]

theorem not_knows_iff (hready : s.ready = .ok rules) :
    ¬ s.Knows c source ↔ rules.lookup source = none ∧ c.pairsOf? source = none := by
  unfold Knows
  rw [not_or, ← (ready_rules hready).1, lookup_eq_none_iff_notMem, pairsOf?_eq_none]
  simp

/-- Setting the defined roles makes no difference to any other role. -/
theorem pairsOf?_set (h : c.Intact) (hl : rules.lookup source = none) :
    (c.ensureCustomPairs.setAssigned s.policy rules).pairsOf? source = c.pairsOf? source := by
  have hfixed : MadePairs c c.ensureCustomPairs customPairs := ensurePairs_made h customPairs
  have hn : source ∉ (c.ensureCustomPairs.assigned s.policy rules).map (·.1) := by
    rw [names_assigned]
    exact lookup_eq_none_iff_notMem.mp hl
  refine (hfixed.intact.pairsOf?_giveRoles_of_notMem stores_assigned hn).trans ?_
  unfold pairsOf? roleNamed?
  rw [hfixed.grows.roles]

end Synchronizer

/-- What a transaction answers, and the store it leaves behind. -/
def Store.attempt {ε α : Type} (s : Store) (lift : StoreError → ε)
    (f : Catalog → Except ε (α × Catalog)) : Except ε α × Store :=
  match s.transact lift f with
  | .ok (a, s') => (.ok a, s')
  | .error e => (.error e, s)

theorem Store.attempt_eq_error {ε α : Type} {s : Store} {lift : StoreError → ε}
    {f : Catalog → Except ε (α × Catalog)} {e : ε} :
    (s.attempt lift f).1 = .error e ↔ s.transact lift f = .error e := by
  unfold attempt
  cases s.transact lift f <;> simp

/-- A transaction that fails leaves the store as it was. -/
theorem Store.attempt_unchanged {ε α : Type} {s : Store} {lift : StoreError → ε}
    {f : Catalog → Except ε (α × Catalog)} {e : ε} (h : (s.attempt lift f).1 = .error e) :
    (s.attempt lift f).2 = s := by
  unfold attempt at h ⊢
  cases hs : s.transact lift f with
  | ok r =>
    rw [hs] at h
    cases h
  | error e' => rfl

/-- After a transaction that succeeds the store is open. -/
theorem Store.attempt_open {ε α : Type} {s : Store} {lift : StoreError → ε}
    {f : Catalog → Except ε (α × Catalog)} {a : α} (h : (s.attempt lift f).1 = .ok a) :
    (s.attempt lift f).2.poisoned = false := by
  unfold attempt at h ⊢
  cases hs : s.transact lift f with
  | ok r =>
    obtain ⟨hopen, c, _, hr⟩ := transact_eq_ok.mp hs
    exact hr ▸ hopen
  | error e' =>
    rw [hs] at h
    cases h

/-- On an open store a transaction whose writes are not refused succeeds. -/
theorem Store.attempt_update {ε α : Type} {s : Store} (hopen : s.poisoned = false)
    (lift : StoreError → ε) (f : Catalog → α × Catalog) :
    (s.attempt lift fun c => .ok (f c)).1 = .ok (f s.catalog).1 := by
  simp [attempt, transact, read, hopen]

namespace Synchronizer
variable {s : Synchronizer} {rules : List (String × ReadyRule)} {source target : String}
  {merge : Bool} {c : Catalog} {e : AccessError} {store : Store}

/-- A synchronization, transaction by transaction: the second one runs on the store that the first
one left, and if it fails, that is the store that stays. -/
def attemptSync (s : Synchronizer) (store : Store) : Except AccessError SyncReport × Store :=
  match s.ready with
  | .error e => (.error e, store)
  | .ok rules =>
    match store.attempt .store (s.syncCatalog rules) with
    | (.error e, store) => (.error e, store)
    | (.ok report, store) =>
      match store.attempt .store fun c => .ok c.cleanPairs with
      | (.error e, store) => (.error e, store)
      | (.ok deleted, store) => (.ok { report with deleted := deleted }, store)

def attemptCopy (s : Synchronizer) (store : Store) (source target : String) (merge : Bool) :
    Except AccessError Unit × Store :=
  match s.ready with
  | .error e => (.error e, store)
  | .ok rules => store.attempt .store fun c =>
      (s.copyPairs rules source target merge c).map ((), ·)

/-- The answer with the store left behind, of which a failure tells nothing. -/
def answered {ε α : Type} (outcome : Except ε α × Store) : Except ε (α × Store) :=
  outcome.1.map (·, outcome.2)

theorem sync_eq_attempt (s : Synchronizer) (store : Store) :
    s.sync store = answered (s.attemptSync store) := by
  unfold sync attemptSync answered Store.attempt
  cases s.ready with
  | error e => rfl
  | ok rules =>
    dsimp only [ok_bind]
    cases store.transact .store (s.syncCatalog rules) with
    | error e => rfl
    | ok r =>
      dsimp only [ok_bind]
      cases r.2.transact AccessError.store fun c => .ok c.cleanPairs <;> rfl

theorem copyRole_eq_attempt (s : Synchronizer) (store : Store) (source target : String)
    (merge : Bool) : s.copyRole store source target merge =
      (answered (s.attemptCopy store source target merge)).map (·.2) := by
  unfold copyRole attemptCopy answered Store.attempt
  cases s.ready with
  | error e => rfl
  | ok rules =>
    dsimp only [ok_bind]
    cases store.transact AccessError.store fun c =>
      (s.copyPairs rules source target merge c).map ((), ·) <;> rfl

theorem answered_eq_error {ε α : Type} {outcome : Except ε α × Store} {e : ε} :
    answered outcome = .error e ↔ outcome.1 = .error e := map_eq_error

/-- Nothing is refused after the first transaction. -/
theorem sync_eq_error (h : store.catalog.Intact) : s.sync store = .error e ↔
    s.ready = .error e ∨ ∃ rules, s.ready = .ok rules ∧
      ((store.poisoned = true ∧ .store .lockPoisoned = e) ∨ (store.poisoned = false ∧
        s.mergePublic rules (store.catalog.ensureCustomPairs.setAssigned s.policy rules) =
          .error e)) := by
  unfold sync
  simp only [bind_eq_error, Prod.exists, Store.transact_eq_error, Store.transact_eq_ok,
    syncCatalog_eq h, map_eq_error]
  refine or_congr_right (exists_congr fun rules => and_congr_right fun _ => or_iff_left ?_)
  rintro ⟨report, st, ⟨hopen, c, _, rfl⟩, (⟨hshut, _⟩ | ⟨_, hclean⟩) | ⟨_, _, _, hok⟩⟩
  · exact absurd (hopen.symm.trans hshut) (by decide)
  · cases hclean
  · cases hok

/-- An error, told by its causes in the order in which they are found: an expression, the shut
store, the role to copy from. -/
def Caused (s : Synchronizer) (store : Store) (source? : Option String) (e : AccessError) : Prop :=
  s.ready = .error e ∨ ∃ rules, s.ready = .ok rules ∧
    ((store.poisoned = true ∧ .store .lockPoisoned = e) ∨ (store.poisoned = false ∧
      ∃ source, source? = some source ∧ ¬ s.Knows store.catalog source ∧ .roleNotFound source = e))

/-- A synchronization of an intact store fails for just the causes listed; in particular no write of
its own is refused. -/
theorem attemptSync_eq_error (h : store.catalog.Intact) : (s.attemptSync store).1 = .error e ↔
    s.Caused store (s.publicRole.bind fun _ => s.template) e := by
  rw [← answered_eq_error, ← sync_eq_attempt, sync_eq_error h]
  refine or_congr_right (exists_congr fun rules => and_congr_right fun hready => ?_)
  refine or_congr_right (and_congr_right fun _ => ?_)
  have hset : (store.catalog.ensureCustomPairs.setAssigned s.policy rules).Intact :=
    (ensurePairs_made h customPairs).intact.setAssigned
  simp only [mergePublic_eq_error hset, sourcePairs_eq_error, not_knows_iff hready,
    Option.bind_eq_some_iff]
  constructor
  · rintro ⟨target, source, hp, ht, hl, hnone, he⟩
    exact ⟨source, ⟨target, hp, ht⟩, ⟨hl, (pairsOf?_set h hl).symm.trans hnone⟩, he⟩
  · rintro ⟨source, ⟨target, hp, ht⟩, ⟨hl, hnone⟩, he⟩
    exact ⟨target, source, hp, ht, hl, (pairsOf?_set h hl).trans hnone, he⟩

theorem attemptCopy_eq_error (h : store.catalog.Intact) :
    (s.attemptCopy store source target merge).1 = .error e ↔ s.Caused store (some source) e := by
  unfold attemptCopy Caused
  cases hready : s.ready with
  | error e' => simp
  | ok rules =>
    simp only [Store.attempt_eq_error, Store.transact_eq_error, map_eq_error, copyPairs_eq_map h,
      sourcePairs_eq_error, not_knows_iff hready, reduceCtorEq, false_or, Except.ok.injEq,
      exists_eq_left', Option.some.injEq, and_assoc]

/-- The store after a failure is the one before it, though the first of two transactions may have
succeeded: then the second one does. -/
theorem attemptSync_unchanged (he : (s.attemptSync store).1 = .error e) :
    (s.attemptSync store).2 = store := by
  unfold attemptSync at he ⊢
  cases hready : s.ready with
  | error e' => rfl
  | ok rules =>
    simp only [hready] at he ⊢
    have hfail := @Store.attempt_unchanged _ _ store AccessError.store (s.syncCatalog rules)
    have hsucceed := @Store.attempt_open _ _ store AccessError.store (s.syncCatalog rules)
    generalize store.attempt AccessError.store (s.syncCatalog rules) = first at he hfail hsucceed ⊢
    obtain ⟨answer, left⟩ := first
    cases answer with
    | error e' => exact hfail rfl
    | ok report =>
      have hclean := Store.attempt_update (hsucceed rfl) AccessError.store Catalog.cleanPairs
      dsimp only at he
      generalize (left.attempt AccessError.store fun c => .ok c.cleanPairs) = second at he hclean
      obtain ⟨answer, last⟩ := second
      obtain rfl : answer = .ok left.catalog.cleanPairs.1 := hclean
      cases he

/-- A copy is one transaction, so what fails in it leaves nothing behind. -/
theorem attemptCopy_unchanged (he : (s.attemptCopy store source target merge).1 = .error e) :
    (s.attemptCopy store source target merge).2 = store := by
  unfold attemptCopy at he ⊢
  cases hready : s.ready with
  | error e' => rfl
  | ok rules =>
    rw [hready] at he
    exact Store.attempt_unchanged he

theorem Caused.refusal {source? : Option String} (h : s.Caused store source? e) :
    s.Refusal store.catalog source? e ∨ (store.poisoned = true ∧ e = .store .lockPoisoned) := by
  rcases h with hready | ⟨rules, _, ⟨hshut, rfl⟩ | ⟨_, source, hs, hn, rfl⟩⟩
  · obtain ⟨p, hp, hnone, rfl⟩ := s.ready_readsAll.error e hready
    exact .inl (.unreadable hp hnone)
  · exact .inr ⟨hshut, rfl⟩
  · exact .inl (.unknown hs hn)

/-- An open store has no other causes. -/
theorem exists_caused_iff {source? : Option String} (hopen : store.poisoned = false) :
    (∃ e, s.Caused store source? e) ↔ (∃ p ∈ s.expressions, Pattern.readAnchored p = none) ∨
      ∃ source, source? = some source ∧ ¬ s.Knows store.catalog source := by
  rw [← exists_refusal_iff]
  constructor
  · rintro ⟨e, h⟩
    rcases h.refusal with h | ⟨hshut, _⟩
    · exact ⟨e, h⟩
    · exact absurd (hopen.symm.trans hshut) (by decide)
  · rintro ⟨_, ⟨hp, hnone⟩ | ⟨hs, hn⟩⟩
    · obtain ⟨e, he⟩ := s.ready_readsAll.fails_iff.mpr ⟨_, hp, hnone⟩
      exact ⟨e, .inl he⟩
    · cases hready : s.ready with
      | error e => exact ⟨e, .inl hready⟩
      | ok rules => exact ⟨_, .inr ⟨rules, hready, .inr ⟨hopen, _, hs, hn, rfl⟩⟩⟩

/-- The outcome, where `source?` is the role to copy from if there is one, is a failure for the two
reasons only, unless the store is shut. A failure leaves the store as it was, counter and all. -/
structure FailsCleanly {α : Type} (s : Synchronizer) (store : Store) (source? : Option String)
    (outcome : Except AccessError α × Store) : Prop where
  fails_iff : store.poisoned = false → ((∃ e, outcome.1 = .error e) ↔
    (∃ p ∈ s.expressions, Pattern.readAnchored p = none) ∨
      ∃ source, source? = some source ∧ ¬ s.Knows store.catalog source)
  error : ∀ e, outcome.1 = .error e →
    s.Refusal store.catalog source? e ∨ (store.poisoned = true ∧ e = .store .lockPoisoned)
  unchanged : ∀ e, outcome.1 = .error e → outcome.2 = store

/-- The second transaction cannot fail once the first one ended, so there is no state in between to
be left with. -/
theorem attemptSync_failsCleanly (h : store.catalog.Intact) :
    s.FailsCleanly store (s.publicRole.bind fun _ => s.template) (s.attemptSync store) where
  fails_iff hopen := by
    simp only [attemptSync_eq_error h]
    exact exists_caused_iff hopen
  error _ he := ((attemptSync_eq_error h).mp he).refusal
  unchanged _ := attemptSync_unchanged

theorem attemptCopy_failsCleanly (h : store.catalog.Intact) :
    s.FailsCleanly store (some source) (s.attemptCopy store source target merge) where
  fails_iff hopen := by
    simp only [attemptCopy_eq_error h]
    exact exists_caused_iff hopen
  error _ he := ((attemptCopy_eq_error h).mp he).refusal
  unchanged _ := attemptCopy_unchanged

end Synchronizer

/-- At any moment of a store's life, while it is open, a synchronization fails just if an expression
cannot be read or the template of the public role is neither defined nor stored, and a copy just if
an expression cannot be read or the role to copy from is neither. No row is refused, for what a pass
inserts was not found before. A failure changes nothing, though a synchronization is made of two
transactions. -/
theorem failed_pass_changes_nothing (s : Synchronizer) (hooks : List Hook)
    (ts : List Transaction) :
    let store := Store.life hooks ts
    (s.FailsCleanly store (s.publicRole.bind fun _ => s.template) (s.attemptSync store) ∧
      s.sync store = Synchronizer.answered (s.attemptSync store)) ∧
    (∀ source target merge,
      s.FailsCleanly store (some source) (s.attemptCopy store source target merge) ∧
        s.copyRole store source target merge =
          (Synchronizer.answered (s.attemptCopy store source target merge)).map (·.2)) ∧
    (∀ c permission resource,
      findOrInsertPair c permission resource = .ok (c.ensurePair permission resource)) ∧
    ∀ c name, findOrInsertRole c name = .ok (c.ensureRole name) := by
  intro store
  have hi : store.catalog.Intact := Store.life_intact hooks ts
  refine ⟨⟨Synchronizer.attemptSync_failsCleanly hi, s.sync_eq_attempt store⟩, ?_,
    findOrInsertPair_eq, findOrInsertRole_eq⟩
  intro source target merge
  exact ⟨Synchronizer.attemptCopy_failsCleanly hi,
    s.copyRole_eq_attempt store source target merge⟩

/-- A template that nobody knows is refused after the roles were set, and nothing of that is kept. -/
theorem unknown_template_refused :
    let s := Synchronizer.standard.withPublicRoleLike (some "Public") (some "Nobody")
    let store := Store.life [] [storeDatabase]
    (s.attemptSync store).1 = .error (.roleNotFound "Nobody") ∧ (s.attemptSync store).2 = store := by
  intro s store
  obtain ⟨hpass, _⟩ := (failed_pass_changes_nothing s [] [storeDatabase]).1
  have hunknown : ¬ s.Knows store.catalog "Nobody" := by
    unfold Synchronizer.Knows
    decide +kernel
  obtain ⟨e, he⟩ := (hpass.fails_iff (by decide +kernel)).mpr (.inr ⟨"Nobody", rfl, hunknown⟩)
  refine ⟨?_, hpass.unchanged e he⟩
  rcases hpass.error e he with (⟨hp, _⟩ | ⟨hs, _⟩) | ⟨hshut, _⟩
  · have hnone : s.expressions = [] := rfl
    simp [hnone] at hp
  · rw [he, ← Option.some.inj hs]
  · exact absurd hshut (by decide +kernel)

end Turnstile
