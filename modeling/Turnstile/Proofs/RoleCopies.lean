import Turnstile.Proofs.PublicRole

namespace Turnstile
open Catalog

namespace Catalog
variable {c : Catalog} {name target : String} {id : PairId} {ids : IdSet .pair}

def RoleHas (c : Catalog) (name : String) (id : PairId) : Prop :=
  ∃ role ∈ c.roles.rows, role.name = name ∧ id ∈ role.pairIds.rows

def OnData (c : Catalog) (id : PairId) : Prop :=
  ∃ n ∈ c.namedPairs, n.id = id ∧ PermissionName.isOnData n.permission = true

theorem Intact.roleHas_iff (h : c.Intact) :
    c.RoleHas name id ↔ id ∈ ((c.pairsOf? name).getD .empty).rows := by
  constructor
  · intro hheld
    obtain ⟨role, hr, hn, hid⟩ := hheld
    rw [h.pairsOf?_eq_some.mpr ⟨role, hr, hn, rfl⟩]
    exact hid
  · intro hid
    cases hp : c.pairsOf? name with
    | none => simp [hp, Ledger.empty] at hid
    | some own =>
      obtain ⟨role, hr, hn, rfl⟩ := h.pairsOf?_eq_some.mp hp
      rw [hp] at hid
      exact ⟨role, hr, hn, hid⟩

end Catalog

namespace Synchronizer
variable {s : Synchronizer} {rules : List (String × ReadyRule)} {source target : String}
  {merge : Bool} {c c' : Catalog} {id : PairId} {ids : IdSet .pair}

/-- The rules are looked up as the definitions are: of two of one name the first counts. -/
theorem lookup_of_ready (h : s.ready = .ok rules) (source : String) : rules.lookup source =
    (s.definitions.find? fun d => d.name == source).bind fun d => d.rule.ready.toOption := by
  unfold ready at h
  generalize s.definitions = ds at h ⊢
  induction ds generalizing rules with
  | nil =>
    cases h
    rfl
  | cons d ds ih =>
    rw [List.mapM_cons] at h
    obtain ⟨first, hfirst, h⟩ := bind_eq_ok.mp h
    obtain ⟨rest, hrest, h⟩ := bind_eq_ok.mp h
    cases h
    split at hfirst
    · rename_i rule hrule
      cases hfirst
      by_cases hname : d.name = source
      · simp [hname, hrule, Except.toOption]
      · have hsource : (source == d.name) = false := beq_eq_false_iff_ne.mpr (Ne.symm hname)
        have hnamed : (d.name == source) = false := beq_eq_false_iff_ne.mpr hname
        rw [List.lookup_cons, hsource, List.find?_cons, hnamed]
        exact ih hrest
    · cases hfirst

/-- A pair to be copied. If the source is defined, it is one with both sides that falls under the
rule; otherwise one that the stored role of that name holds. -/
def Gives (s : Synchronizer) (c : Catalog) (source : String) (id : PairId) : Prop :=
  match s.definitions.find? fun d => d.name == source with
  | some d => ∃ rule, d.rule.ready = .ok rule ∧
      ∃ n ∈ c.namedPairs, n.id = id ∧ rule.admits s.policy n = true
  | none => c.RoleHas source id

theorem mem_sourcePairs (hi : c.Intact) (hready : s.ready = .ok rules)
    (hs : s.sourcePairs rules source c = .ok ids) : id ∈ ids.rows ↔ s.Gives c source id := by
  have hlookup := lookup_of_ready hready source
  unfold Gives
  cases hd : s.definitions.find? fun d => d.name == source with
  | none =>
    rw [hd] at hlookup
    rcases sourcePairs_eq_ok.mp hs with ⟨rule, hrule, _⟩ | ⟨_, hp⟩
    · cases hlookup.symm.trans hrule
    · simp only [hi.roleHas_iff, hp, Option.getD_some]
  | some d =>
    obtain ⟨rule, hrule, _⟩ := (ready_rules hready).2 d (List.mem_of_find?_eq_some hd)
    have hlookup : rules.lookup source = some rule := by
      rw [hlookup, hd, Option.bind_some, hrule]
      rfl
    rcases sourcePairs_eq_ok.mp hs with ⟨rule', hrule', rfl⟩ | ⟨hnone, _⟩
    · obtain rfl := Option.some.inj (hlookup.symm.trans hrule')
      simp only [mem_matchingPairs, hrule, Except.ok.injEq, exists_eq_left']
    · cases hlookup.symm.trans hnone

theorem mem_copiedPairs (hi : c.Intact) : id ∈ (copiedPairs c target merge ids).rows ↔
    id ∈ ids.rows ∨ (merge = true ∧ c.RoleHas target id ∧ c.OnData id) := by
  cases merge with
  | false => simp [copiedPairs]
  | true =>
    simp only [copiedPairs, ↓reduceIte, mem_sharedPairs, isDataPair_iff, hi.roleHas_iff, OnData,
      true_and]

/-- The catalogs before and after a copy, which has left the target as `role`. -/
structure Copied (s : Synchronizer) (source target : String) (merge : Bool)
    (before after : Catalog) (role : Role) : Prop where
  name : role.name = target
  held : ∀ id, id ∈ role.pairIds.rows ↔ s.Gives before source id ∨
    (merge = true ∧ before.RoleHas target id ∧ before.OnData id)
  /-- No other role is made, lost or changed. -/
  roles : ∀ r, r ∈ after.roles.rows ↔ r = role ∨ (r ∈ before.roles.rows ∧ r.name ≠ target)
  stored : ∀ own ∈ before.roles.rows, own.name = target →
    role.id = own.id ∧ after.counter = before.counter
  made : (∀ own ∈ before.roles.rows, own.name ≠ target) →
    role.id = ⟨before.counter + 1⟩ ∧ after.counter = before.counter + 1
  rest : SamePairs before after

theorem copyPairs_copied (hi : c.Intact) (hready : s.ready = .ok rules)
    (h : s.copyPairs rules source target merge c = .ok c') :
    ∃ role, s.Copied source target merge c c' role := by
  rw [copyPairs_eq_map hi] at h
  obtain ⟨ids, hs, rfl⟩ := map_eq_ok.mp h
  refine ⟨{ (c.ensureRole target).1 with pairIds := copiedPairs c target merge ids },
    ensureRole_name c target, ?_, ?_, ?_, ?_, giveRole_samePairs c target _⟩
  · intro id
    rw [← mem_sourcePairs hi hready hs]
    exact mem_copiedPairs hi
  · intro r
    rw [hi.mem_giveRole]
    apply or_congr_right
    apply and_congr_right
    intro hr
    exact not_congr (hi.id_eq_ensured_iff hr)
  · intro own hown hname
    have hensured : c.ensureRole target = (own, c) := by
      rw [ensureRole, hi.roleNamed?_eq_some.mpr ⟨hown, hname⟩]
    simp only [giveRole, hensured, and_self]
  · intro hnone
    have hensured : c.ensureRole target = c.addRole target := by
      have hunnamed : c.roleNamed? target = none := by
        apply List.find?_eq_none.mpr
        intro own hown
        simpa using hnone own hown
      rw [ensureRole, hunnamed]
    simp only [giveRole, hensured, addRole, and_self]

theorem copiedPairs_own (hp : c.pairsOf? target = some ids) :
    copiedPairs c target merge ids = ids := by
  cases merge with
  | false => rfl
  | true =>
    apply Ledger.ext_mem
    intro id
    simp only [copiedPairs, ↓reduceIte, mem_sharedPairs, hp, Option.getD_some]
    exact or_iff_left_of_imp And.left

/-- The target's own pairs are among the copied ones already. -/
theorem copiedPairs_again (hi : c.Intact) (hids : c.Stores ids) :
    copiedPairs (c.giveRole target (copiedPairs c target merge ids)) target merge ids =
      copiedPairs c target merge ids := by
  cases merge with
  | false => rfl
  | true =>
    have hheld : (c.giveRole target (c.sharedPairs target ids)).pairsOf? target =
        some (c.sharedPairs target ids) :=
      hi.pairsOf?_giveRole (hi.stores_sharedPairs hids target)
    apply Ledger.ext_mem
    intro id
    simp only [copiedPairs, ↓reduceIte]
    rw [mem_sharedPairs, hheld, Option.getD_some, (giveRole_samePairs c target _).isDataPair]
    constructor
    · intro h
      rcases h with hgiven | ⟨hcopied, _⟩
      · exact mem_sharedPairs.mpr (.inl hgiven)
      · exact hcopied
    · intro h
      cases mem_sharedPairs.mp h with
      | inl hgiven => exact .inl hgiven
      | inr hown => exact .inr ⟨h, hown.2⟩

/-- A copy does not change what its source gives, not even if it is its own source. -/
theorem sourcePairs_again (hi : c.Intact) (hs : s.sourcePairs rules source c = .ok ids) :
    s.sourcePairs rules source (c.giveRole target (copiedPairs c target merge ids)) = .ok ids := by
  have hcopied := stores_copiedPairs hi (stores_sourcePairs hi hs) target merge
  apply sourcePairs_eq_ok.mpr
  rcases sourcePairs_eq_ok.mp hs with ⟨rule, hrule, rfl⟩ | ⟨hnone, hp⟩
  · refine .inl ⟨rule, hrule, ?_⟩
    exact matchingPairs_congr fun _ => (giveRole_samePairs c target _).mem_namedPairs
  · refine .inr ⟨hnone, ?_⟩
    by_cases hsame : source = target
    · subst hsame
      rw [hi.pairsOf?_giveRole hcopied, copiedPairs_own hp]
    · rw [hi.pairsOf?_giveRole_of_ne hcopied hsame, hp]

theorem copyPairs_again (hi : c.Intact)
    (h : s.copyPairs rules source target merge c = .ok c') :
    s.copyPairs rules source target merge c' = .ok c' := by
  have hi' : c'.Intact := copyPairs_intact hi h
  rw [copyPairs_eq_map hi] at h
  obtain ⟨ids, hs, rfl⟩ := map_eq_ok.mp h
  have hids := stores_sourcePairs hi hs
  rw [copyPairs_eq_map hi', sourcePairs_again hi hs, Except.map, copiedPairs_again hi hids]
  exact congrArg Except.ok
    (giveRole_self (hi.pairsOf?_giveRole (stores_copiedPairs hi hids target merge)))

/-- A copy that succeeds leaves its target with the pairs that the source gives and, if it merges,
with those of its own that are permissions on data. A target that is stored keeps its identifier,
and one that is not is made. The other roles and all the rest of the store stay as they are, and to
copy again changes nothing. -/
theorem copyRole_exact (s : Synchronizer) (hooks : List Hook) (ts : List Transaction)
    {source target : String} {merge : Bool} {store : Store}
    (h : s.copyRole (Store.life hooks ts) source target merge = .ok store) :
    (∃ role, s.Copied source target merge (Store.life hooks ts).catalog store.catalog role) ∧
      store = { Store.life hooks ts with catalog := store.catalog } ∧
      s.copyRole store source target merge = .ok store := by
  have hi : (Store.life hooks ts).catalog.Intact := Store.life_intact hooks ts
  obtain ⟨hopen, rules, c, hready, hcopy, rfl⟩ := copyRole_eq_ok.mp h
  refine ⟨copyPairs_copied hi hready hcopy, rfl, ?_⟩
  exact copyRole_eq_ok.mpr ⟨hopen, rules, c, hready, copyPairs_again hi hcopy, rfl⟩

def openLogs : Transaction where
  writes _ := [.ensurePair PermissionName.databaseAccess "[a].(id:1)",
    .ensurePair "can_write" "Log", .ensurePair "can_read" "Dashboard", .ensureRole "Public",
    .setRolePairs ⟨10⟩ (.ofIds [⟨3⟩, ⟨6⟩])]
  ending _ := .commit

/-- A merge of `Gamma` takes the logs from the public role, leaves it the database and gives it the
dashboards. -/
theorem gamma_merged_into_public : ∃ store role,
    standard.copyRole (Store.life [] [openLogs]) "Gamma" "Public" true = .ok store ∧
      standard.Copied "Gamma" "Public" true (Store.life [] [openLogs]).catalog store.catalog role ∧
      role.id = ⟨10⟩ ∧ role.pairIds.rows = [⟨3⟩, ⟨9⟩] ∧
      standard.copyRole store "Gamma" "Public" true = .ok store := by
  have hrun : (standard.copyRole (Store.life [] [openLogs]) "Gamma" "Public" true).toOption.map
      (fun store => store.catalog.roles.rows) = some [⟨⟨10⟩, "Public", .ofIds [⟨3⟩, ⟨9⟩]⟩] := by
    decide +kernel
  obtain ⟨store, hcopy, hrows⟩ := exists_ok_of_map hrun
  obtain ⟨⟨role, hcopied⟩, _, hagain⟩ := copyRole_exact standard [] [openLogs] hcopy
  have hrole : role ∈ store.catalog.roles.rows := (hcopied.roles role).mpr (.inl rfl)
  rw [hrows, List.mem_singleton] at hrole
  exact ⟨store, role, hcopy, hcopied, hrole ▸ rfl, hrole ▸ rfl, hagain⟩

end Synchronizer
end Turnstile
