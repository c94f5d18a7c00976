import Turnstile.Proofs.CatalogSteps
import Turnstile.Catalog.Store

namespace Turnstile
open Catalog

/-- A write, as a transaction can ask for it. -/
inductive Write where
  | insertPermission (name : String)
  | insertResource (name : String)
  | insertPair (p : PermissionId) (r : ResourceId)
  | insertRole (name : String)
  | ensurePermission (name : String)
  | ensureResource (name : String)
  | ensurePair (permission resource : String)
  | ensureRole (name : String)
  | deletePairs (ids : List PairId)
  | deletePermission (id : PermissionId)
  | deleteResource (id : ResourceId)
  | setRolePairs (id : RoleId) (pairs : IdSet .pair)
  | cleanPairs
  | createMissingPairs
  | putUser (row : User)
  | putDatabase (row : Database)
  | putDatasource (row : Datasource)
  | setDatabasePerm (id : DatabaseId) (perm : String)
  | setDatasourcePerms (id : DatasourceId) (perm : String) (schemaPerm : Option String)
  | putChart (row : Chart)
  | putDashboard (row : Dashboard)
  | putEmbedding (row : Embedding)
  | putRowFilter (row : RowFilter)

namespace Write

/-- The catalog after a write, unless the write is refused. -/
def run (c : Catalog) : Write → Except StoreError Catalog
  | insertPermission name => (c.insertPermission name).map (·.2)
  | insertResource name => (c.insertResource name).map (·.2)
  | insertPair p r => (c.insertPair p r).map (·.2)
  | insertRole name => (c.insertRole name).map (·.2)
  | ensurePermission name => .ok (c.ensurePermission name).2
  | ensureResource name => .ok (c.ensureResource name).2
  | ensurePair permission resource => .ok (c.ensurePair permission resource).2
  | ensureRole name => .ok (c.ensureRole name).2
  | deletePairs ids => .ok (c.deletePairs ids).2
  | deletePermission id => .ok (c.deletePermission id).2
  | deleteResource id => .ok (c.deleteResource id).2
  | setRolePairs id pairs => c.setRolePairs id pairs
  | cleanPairs => .ok c.cleanPairs.2
  | createMissingPairs => .ok c.createMissingPairs.2
  | putUser row => .ok (c.putUser row)
  | putDatabase row => .ok (c.putDatabase row)
  | putDatasource row => .ok (c.putDatasource row)
  | setDatabasePerm id perm => c.setDatabasePerm id perm
  | setDatasourcePerms id perm schemaPerm => c.setDatasourcePerms id perm schemaPerm
  | putChart row => .ok (c.putChart row)
  | putDashboard row => .ok (c.putDashboard row)
  | putEmbedding row => .ok (c.putEmbedding row)
  | putRowFilter row => .ok (c.putRowFilter row)

/-- A refused write leaves the catalog as it was, and the transaction may go on. -/
def apply (c : Catalog) (w : Write) : Catalog :=
  match w.run c with
  | .ok c' => c'
  | .error _ => c

/-- Each kind of write is made of steps that check before they change. -/
theorem run_steps {c c' : Catalog} {w : Write} (h : w.run c = .ok c') : Steps c c' := by
  cases w with
  | insertPermission name =>
    simp only [run, Catalog.insertPermission] at h
    split at h
    · cases h
    · rename_i hn
      cases h
      exact .single (.addPermission hn)
  | insertResource name =>
    simp only [run, Catalog.insertResource] at h
    split at h
    · cases h
    · rename_i hn
      cases h
      exact .single (.addResource hn)
  | insertPair p r =>
    simp only [run, Catalog.insertPair] at h
    split at h
    · cases h
    · rename_i hn
      cases h
      exact .single (.addPair hn)
  | insertRole name =>
    simp only [run, Catalog.insertRole] at h
    split at h
    · cases h
    · rename_i hn
      cases h
      exact .single (.addRole hn)
  | ensurePermission name => cases h; exact ensurePermission_steps c name
  | ensureResource name => cases h; exact ensureResource_steps c name
  | ensurePair permission resource => cases h; exact ensurePair_steps c permission resource
  | ensureRole name => cases h; exact ensureRole_steps c name
  | deletePairs ids => cases h; exact .single (.deletePairs ids)
  | deletePermission id => cases h; exact .single (.deletePermission id)
  | deleteResource id => cases h; exact .single (.deleteResource id)
  | setRolePairs id pairs => exact .single (.setRolePairs h)
  | cleanPairs => cases h; exact .single (.deletePairs _)
  | createMissingPairs => cases h; exact createPairs_steps _ _ c
  | setDatabasePerm id perm =>
    simp only [run, Catalog.setDatabasePerm] at h
    split at h
    · cases h
    · cases h
      exact .single (.entities ⟨rfl, rfl, rfl, rfl, rfl⟩)
  | setDatasourcePerms id perm schemaPerm =>
    simp only [run, Catalog.setDatasourcePerms] at h
    split at h
    · cases h
    · cases h
      exact .single (.entities ⟨rfl, rfl, rfl, rfl, rfl⟩)
  | _ => cases h; exact .single (.entities ⟨rfl, rfl, rfl, rfl, rfl⟩)

theorem apply_steps (c : Catalog) (w : Write) : Steps c (w.apply c) := by
  unfold apply
  split
  · rename_i h
    exact run_steps h
  · exact .refl

theorem applyAll_steps (c : Catalog) (ws : List Write) :
    Steps c (ws.foldl Write.apply c) := by
  induction ws generalizing c with
  | nil => exact .refl
  | cons w ws ih => exact (apply_steps c w).trans (ih _)

end Write

/-- How a transaction ends: its writes count, it gives them up, or its writer breaks off. -/
inductive Ending where
  | commit
  | refuse (e : StoreError)
  | breakOff

/-- What a client does in one transaction. Both may hang on what it finds there. -/
structure Transaction where
  writes : Catalog → List Write
  ending : Catalog → Ending

namespace Transaction

def body (t : Transaction) (c : Catalog) : Except StoreError (Unit × Catalog) :=
  match t.ending c with
  | .refuse e => .error e
  | _ => .ok ((), (t.writes c).foldl Write.apply c)

end Transaction

namespace Store

/-- The store after one transaction. -/
def perform (s : Store) (t : Transaction) : Store :=
  match t.ending s.catalog with
  | .breakOff => s.poison
  | _ =>
    match s.transact id t.body with
    | .ok (_, s') => s'
    | .error _ => s

/-- An empty store after the transactions of all its clients, in the order of their turns. -/
def life (hooks : List Hook) (ts : List Transaction) : Store :=
  ts.foldl perform ⟨.empty, hooks, false⟩

/-- A transaction that succeeds replaces the catalog by what it made of it, and nothing else. -/
theorem transact_ok {ε α : Type} {s s' : Store} {lift : StoreError → ε}
    {f : Catalog → Except ε (α × Catalog)} {a : α} (h : s.transact lift f = .ok (a, s')) :
    ∃ c, f s.catalog = .ok (a, c) ∧ s' = { s with catalog := c } := by
  unfold transact at h
  split at h
  · cases h
  · rename_i c hr
    have hc : s.catalog = c := by
      unfold read at hr
      split at hr
      · cases hr
      · exact Except.ok.inj hr
    split at h
    · cases h
    · rename_i d hf
      cases h
      exact ⟨d, hc ▸ hf, rfl⟩

/-- A transaction succeeds if the store is open and its body does. -/
theorem transact_eq_ok {ε α : Type} {s s' : Store} {lift : StoreError → ε}
    {f : Catalog → Except ε (α × Catalog)} {a : α} : s.transact lift f = .ok (a, s') ↔
      s.poisoned = false ∧ ∃ c, f s.catalog = .ok (a, c) ∧ s' = { s with catalog := c } := by
  constructor
  · intro h
    refine ⟨?_, transact_ok h⟩
    cases hp : s.poisoned with
    | false => rfl
    | true => simp [transact, read, hp] at h
  · rintro ⟨hp, c, hf, rfl⟩
    simp [transact, read, hp, hf]

/-- A transaction fails if the store is shut or its body fails. -/
theorem transact_eq_error {ε α : Type} {s : Store} {lift : StoreError → ε}
    {f : Catalog → Except ε (α × Catalog)} {e : ε} : s.transact lift f = .error e ↔
      (s.poisoned = true ∧ lift .lockPoisoned = e) ∨
        (s.poisoned = false ∧ f s.catalog = .error e) := by
  unfold transact read
  cases s.poisoned with
  | true => simp
  | false => cases hf : f s.catalog <;> simp [hf]

/-- A transaction makes its writes or none of them. -/
theorem perform_catalog (s : Store) (t : Transaction) : (s.perform t).catalog = s.catalog ∨
    (s.perform t).catalog = (t.writes s.catalog).foldl Write.apply s.catalog := by
  unfold perform
  split
  · exact .inl rfl
  · split
    · rename_i s' hs
      obtain ⟨c, hbody, rfl⟩ := transact_ok hs
      unfold Transaction.body at hbody
      split at hbody
      · cases hbody
      · cases hbody
        exact .inr rfl
    · exact .inl rfl

theorem perform_hooks (s : Store) (t : Transaction) : (s.perform t).hooks = s.hooks := by
  unfold perform
  split
  · rfl
  · split
    · rename_i s' hs
      obtain ⟨c, _, rfl⟩ := transact_ok hs
      rfl
    · rfl

theorem life_hooks (hooks : List Hook) (ts : List Transaction) : (life hooks ts).hooks = hooks := by
  have hsame : ∀ s : Store, (ts.foldl perform s).hooks = s.hooks := by
    induction ts with
    | nil => exact fun _ => rfl
    | cons t ts ih => exact fun s => (ih _).trans (perform_hooks s t)
  exact hsame _

theorem perform_steps (s : Store) (t : Transaction) : Steps s.catalog (s.perform t).catalog := by
  rcases s.perform_catalog t with h | h
  · rw [h]
  · rw [h]
    exact Write.applyAll_steps _ _

theorem performAll_steps (ts : List Transaction) (s : Store) :
    Steps s.catalog (ts.foldl perform s).catalog := by
  induction ts generalizing s with
  | nil => exact .refl
  | cons t ts ih => exact (perform_steps s t).trans (ih _)

theorem life_intact (hooks : List Hook) (ts : List Transaction) :
    (life hooks ts).catalog.Intact :=
  Steps.intact (performAll_steps ts _) intact_empty

end Store

/-- At every moment of a store's life the catalog is intact, and a row found at any later moment
with an identifier that was given by then was there then. So an identifier never passes to another
row, even if its own row was deleted in between. -/
theorem life_keeps_catalog_intact (hooks : List Hook) (earlier later : List Transaction) :
    let c := (Store.life hooks earlier).catalog
    let d := (Store.life hooks (earlier ++ later)).catalog
    c.Intact ∧ c.OwnIds ∧ c.counter ≤ d.counter ∧
      (∀ x ∈ d.counted, x.number ≤ c.counter → x ∈ c.counted) ∧
      ∀ x ∈ c.counted, ∀ y ∈ d.counted, y.number = x.number → y = x := by
  intro c d
  have hc : c.Intact := Store.life_intact hooks earlier
  have hsteps : Steps c d := by
    have := Store.performAll_steps later (Store.life hooks earlier)
    simpa only [d, c, Store.life, List.foldl_append] using this
  have hext := Steps.extends hsteps hc
  refine ⟨hc, c.ownIds, hext.counter_le, hext.old, ?_⟩
  intro x hx y hy hn
  have hle : y.number ≤ c.counter := hn ▸ hc.bounded x hx
  exact List.inj_on_of_nodup_map hc.distinct (hext.old y hy hle) hx hn

end Turnstile
