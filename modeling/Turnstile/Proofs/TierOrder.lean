import Turnstile.Proofs.RepeatedPasses

namespace Turnstile
open Catalog

/-- What is reserved for the middle tier is only taken from the lower one. -/
theorem Policy.alpha_of_gamma (p : Policy) {permission resource : String}
    (h : p.holds .gamma permission resource = true) : p.holds .alpha permission resource = true := by
  rcases Bool.or_eq_true_iff.mp h with h | h
  · simp only [Bool.not_eq_true', Bool.or_eq_false_iff] at h
    obtain ⟨⟨hobject, hadmin⟩, _⟩ := h
    simp [holds, hobject, hadmin]
  · exact Bool.or_eq_true_iff.mpr (.inr h)

/-- `t.Below u` if the role of tier `u` is to hold all that the role of tier `t` does. -/
inductive Tier.Below : Tier → Tier → Prop
  | gamma : Below .gamma .alpha
  | admin (t : Tier) : Below t .admin

/-- What the standard policy gives a tier it gives to those above it. -/
theorem Tier.Below.holds {t u : Tier} (h : t.Below u) {permission resource : String}
    (ht : Policy.standard.holds t permission resource = true) :
    Policy.standard.holds u permission resource = true := by
  cases h with
  | gamma => exact Policy.standard.alpha_of_gamma ht
  | admin => simp [Policy.holds, Policy.standard_holds ht]

def Tier.roleName : Tier → String
  | .admin => "Admin"
  | .alpha => "Alpha"
  | .gamma => "Gamma"
  | .sqlLab => "sql_lab"
  | .granter => "granter"

theorem Tier.mem_builtinRules (t : Tier) : (t.roleName, .tier t) ∈ builtinRules := by
  cases t <;> simp [roleName, builtinRules]

namespace Catalog
variable {c c' : Catalog} {policy : Policy}

theorem matchingPairs_subset {rule wider : ReadyRule}
    (h : ∀ n, rule.admits policy n = true → wider.admits policy n = true) :
    ∀ id ∈ (c.matchingPairs policy rule).rows, id ∈ (c.matchingPairs policy wider).rows := by
  intro id hid
  obtain ⟨n, hn, hnid, hadm⟩ := mem_matchingPairs.mp hid
  exact mem_matchingPairs.mpr ⟨n, hn, hnid, h n hadm⟩

/-- Among pairs that came later, those given when the roles were set are the ones that were there
then. -/
theorem mem_matchingPairs_of_mono {rule : ReadyRule}
    (hmono : ∀ n ∈ c.namedPairs, n ∈ c'.namedPairs) {n : NamedPair} (hn : n ∈ c'.namedPairs)
    (hadm : rule.admits policy n = true) :
    n.id ∈ (c.matchingPairs policy rule).rows ↔ n ∈ c.namedPairs := by
  rw [mem_matchingPairs]
  constructor
  · rintro ⟨m, hm, hid, _⟩
    exact namedPair_of_id (hmono m hm) hn hid ▸ hm
  · exact fun hold => ⟨n, hold, rfl, hadm⟩

end Catalog

/-- After a pass over the built-in roles that succeeds, with a public role that is none of them, the
role of each tier holds what the roles of the tiers below it hold, and only pairs with both sides
that are not on a single object. `Admin` holds all of these if and only if all of them were there
before the pass made the missing pairs; so it is whenever the counter has passed the sides of all
pairs. -/
theorem tiers_ordered_admin_complete_iff (publicRole template : Option String) (hooks : List Hook)
    (ts : List Transaction) {report : SyncReport} {store : Store}
    (hp : ∀ t : Tier, publicRole ≠ some t.roleName)
    (h : (Synchronizer.standard.withPublicRoleLike publicRole template).sync
      (Store.life hooks ts) = .ok (report, store)) :
    let before := (Store.life hooks ts).catalog
    ∃ held : Tier → IdSet .pair, (∀ t, store.catalog.pairsOf? t.roleName = some (held t)) ∧
      (∀ t u, t.Below u → ∀ id ∈ (held t).rows, id ∈ (held u).rows) ∧
      (∀ t, ∀ id ∈ (held t).rows, ∃ n ∈ store.catalog.namedPairs, n.id = id ∧
        Policy.isOnObject n.permission = false) ∧
      ((∀ n ∈ store.catalog.namedPairs, Policy.isOnObject n.permission = false →
          n.id ∈ (held .admin).rows) ↔
        ∀ n ∈ store.catalog.namedPairs, Policy.isOnObject n.permission = false →
          n ∈ before.ensureCustomPairs.namedPairs) ∧
      (before.Sided → ∀ n ∈ store.catalog.namedPairs, Policy.isOnObject n.permission = false →
        n.id ∈ (held .admin).rows) := by
  intro before
  have hi : before.Intact := Store.life_intact hooks ts
  obtain ⟨shared, pass, _⟩ :=
    Synchronizer.Pass.of_sync hi (ready_standard publicRole template) h
  have hmono : ∀ n ∈ before.ensureCustomPairs.namedPairs, n ∈ store.catalog.namedPairs :=
    fun _ => pass.namedPairs_mono
  have hadmin : ∀ n ∈ store.catalog.namedPairs, Policy.isOnObject n.permission = false →
      (n.id ∈ (before.ensureCustomPairs.matchingPairs .standard (.tier .admin)).rows ↔
        n ∈ before.ensureCustomPairs.namedPairs) := by
    intro n hn hobject
    exact mem_matchingPairs_of_mono hmono hn (by simpa [ReadyRule.admits, Policy.holds])
  refine ⟨fun t => before.ensureCustomPairs.matchingPairs .standard (.tier t), ?_, ?_, ?_,
    forall₃_congr hadmin, ?_⟩
  · intro t
    exact pass.pairsOf?_assigned (by decide) t.mem_builtinRules (pass.pairsOf?_shared (hp t))
  · intro t u hbelow
    exact matchingPairs_subset fun n => hbelow.holds
  · intro t id hid
    obtain ⟨n, hn, hnid, hadm⟩ := mem_matchingPairs.mp hid
    exact ⟨n, hmono n hn, hnid, Policy.standard_holds hadm⟩
  -- a pair that the pass brought about is wanted, and what is wanted is on a single object
  · intro hs n hn hobject
    refine (hadmin n hn hobject).mpr ((pass.wanted_of_new hs hn).resolve_right fun hw => ?_)
    have : n.permission ∈ PermissionName.onObjects := onObject_of_wanted hw
    simp [Policy.isOnObject, this] at hobject

/-- With a database to make the pair for and a public role after a template `Admin` holds all that
is not on a single object. -/
theorem admin_complete_after_database : ∃ report store held,
    (Synchronizer.standard.withPublicRoleLike (some "Public") (some "Gamma")).sync
        (Store.life [] [storeDatabase]) = .ok (report, store) ∧
      store.catalog.pairsOf? "Admin" = some held ∧
      ∀ n ∈ store.catalog.namedPairs, Policy.isOnObject n.permission = false → n.id ∈ held.rows := by
  have hrun : ((Synchronizer.standard.withPublicRoleLike (some "Public") (some "Gamma")).sync
      (Store.life [] [storeDatabase])).toBool = true := by
    decide +kernel
  have hpublic : ∀ t : Tier, some "Public" ≠ some t.roleName := by
    intro t
    cases t <;> decide
  have hsided : (Store.life [] [storeDatabase]).catalog.Sided := by
    unfold Sided
    decide +kernel
  obtain ⟨⟨report, store⟩, hsync⟩ := exists_ok_of_toBool hrun
  obtain ⟨held, hheld, _, _, _, hall⟩ := tiers_ordered_admin_complete_iff (some "Public")
    (some "Gamma") [] [storeDatabase] hpublic hsync
  exact ⟨report, store, held .admin, hsync, hheld .admin, hall hsided⟩

/-- `Admin` misses a pair that dangles until the pass gives the identifier of its missing side
away. -/
theorem admin_misses_early_pair : ∃ report store held,
    (Synchronizer.standard.withPublicRoleLike none none).sync
        (Store.life [] [storeEarlyPair, storeDatabase]) = .ok (report, store) ∧
      store.catalog.pairsOf? "Admin" = some held ∧
      ∃ n ∈ store.catalog.namedPairs, Policy.isOnObject n.permission = false ∧ n.id ∉ held.rows := by
  have hrun : ((Synchronizer.standard.withPublicRoleLike none none).sync
      (Store.life [] [storeEarlyPair, storeDatabase])).toOption.map (fun r =>
        (r.2.catalog.pairsOf? "Admin", r.2.catalog.namedPairs.head?)) =
      some (some (.ofIds [⟨5⟩, ⟨8⟩, ⟨11⟩, ⟨14⟩, ⟨16⟩]), some ⟨⟨2⟩, "can_read", "[a].(id:1)"⟩) := by
    decide +kernel
  obtain ⟨⟨report, store⟩, hsync, hfound⟩ := exists_ok_of_map hrun
  obtain ⟨hheld, hfirst⟩ := Prod.mk.inj hfound
  exact ⟨report, store, _, hsync, hheld, _, List.mem_of_head? hfirst, by decide, by decide⟩

end Turnstile
