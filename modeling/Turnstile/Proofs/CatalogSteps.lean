import Mathlib.Logic.Relation
import Mathlib.Data.List.Nodup
import Turnstile.Catalog.Upkeep

namespace Turnstile

/-- What is found under an identifier is the row that carries it. -/
def Ledger.KeyedBy {α κ : Type} [Filed α] [Filed κ] (l : Ledger α) (key : α → κ) : Prop :=
  ∀ k row, l.find? (Filed.number k) = some row ↔ row ∈ l.rows ∧ key row = k

theorem Ledger.keyedBy {α κ : Type} [Filed α] [Filed κ] (l : Ledger α) {key : α → κ}
    (number : ∀ row, Filed.number row = Filed.number (key row))
    (injective : ∀ a b : κ, Filed.number a = Filed.number b → a = b) : l.KeyedBy key := by
  intro k row
  rw [Ledger.find?_eq_some_iff, number]
  exact and_congr_right fun _ => ⟨injective _ _, congrArg Filed.number⟩

/-- Every table finds its rows by their own identifiers. -/
structure Catalog.OwnIds (c : Catalog) : Prop where
  permissions : c.permissions.KeyedBy Permission.id
  resources : c.resources.KeyedBy Resource.id
  pairs : c.pairs.KeyedBy Pair.id
  roles : c.roles.KeyedBy Role.id
  users : c.users.KeyedBy User.id
  databases : c.databases.KeyedBy Database.id
  datasources : c.datasources.KeyedBy Datasource.id
  charts : c.charts.KeyedBy Chart.id
  dashboards : c.dashboards.KeyedBy Dashboard.id
  embeddings : c.embeddings.KeyedBy Embedding.uuid
  rowFilters : c.rowFilters.KeyedBy RowFilter.id

theorem Catalog.ownIds (c : Catalog) : c.OwnIds := by
  constructor
  case embeddings => exact Ledger.keyedBy _ (fun _ => rfl) Uuid.eq_of_number
  all_goals exact Ledger.keyedBy _ (fun _ => rfl) Id.eq_of_number

/-- A row with an identifier from the counter, without what may change while it is stored. -/
inductive Counted where
  | permission (row : Permission)
  | resource (row : Resource)
  | pair (row : Pair)
  | role (id : RoleId) (name : String)
deriving DecidableEq, Repr

def Counted.number : Counted → Nat
  | .permission row => row.id.number
  | .resource row => row.id.number
  | .pair row => row.id.number
  | .role id _ => id.number

namespace Catalog
open Relation
variable {c c' : Catalog}

def counted (c : Catalog) : List Counted :=
  c.permissions.rows.map .permission ++ (c.resources.rows.map .resource ++
    (c.pairs.rows.map .pair ++ c.roles.rows.map fun r => .role r.id r.name))

/-- The counter and the rows that grants are made of are the same. -/
structure SameGrants (c c' : Catalog) : Prop where
  counter : c'.counter = c.counter
  permissions : c'.permissions = c.permissions
  resources : c'.resources = c.resources
  pairs : c'.pairs = c.pairs
  roles : c'.roles = c.roles

/-- The rows that are protected, and who holds roles, are the same. -/
structure SameEntities (c c' : Catalog) : Prop where
  users : c'.users = c.users
  databases : c'.databases = c.databases
  datasources : c'.datasources = c.datasources
  charts : c'.charts = c.charts
  dashboards : c'.dashboards = c.dashboards
  embeddings : c'.embeddings = c.embeddings
  rowFilters : c'.rowFilters = c.rowFilters

/-- One change, with the check that stands in front of it. -/
inductive Step : Catalog → Catalog → Prop
  | addPermission {c : Catalog} {name : String} :
      c.permissionNamed? name = none → Step c (c.addPermission name).2
  | addResource {c : Catalog} {name : String} :
      c.resourceNamed? name = none → Step c (c.addResource name).2
  | addPair {c : Catalog} {p : PermissionId} {r : ResourceId} :
      c.pairOf? p r = none → Step c (c.addPair p r).2
  | addRole {c : Catalog} {name : String} :
      c.roleNamed? name = none → Step c (c.addRole name).2
  | deletePairs {c : Catalog} (ids : List PairId) : Step c (c.deletePairs ids).2
  | deletePermission {c : Catalog} (id : PermissionId) : Step c (c.deletePermission id).2
  | deleteResource {c : Catalog} (id : ResourceId) : Step c (c.deleteResource id).2
  | setRolePairs {c c' : Catalog} {id : RoleId} {ids : IdSet .pair} :
      c.setRolePairs id ids = .ok c' → Step c c'
  | entities {c c' : Catalog} : SameGrants c c' → Step c c'

abbrev Steps : Catalog → Catalog → Prop := ReflTransGen Step

/-- What holds of a catalog at every moment of its life. -/
structure Intact (c : Catalog) : Prop where
  permission_names : (c.permissions.rows.map (·.name)).Nodup
  resource_names : (c.resources.rows.map (·.name)).Nodup
  role_names : (c.roles.rows.map (·.name)).Nodup
  pair_sides : (c.pairs.rows.map fun p => (p.permissionId, p.resourceId)).Nodup
  /-- The counter has passed every identifier in use. -/
  bounded : ∀ x ∈ c.counted, x.number ≤ c.counter
  /-- No identifier is used twice, not even by rows of different kinds. -/
  distinct : (c.counted.map Counted.number).Nodup
  held : ∀ role ∈ c.roles.rows, ∀ id ∈ role.pairIds.rows, ∃ p ∈ c.pairs.rows, p.id = id

/-- No row of the second catalog has an identifier that was given before the first, unless it is
the row of the first that has it. -/
structure Extends (c c' : Catalog) : Prop where
  counter_le : c.counter ≤ c'.counter
  old : ∀ x ∈ c'.counted, x.number ≤ c.counter → x ∈ c.counted

theorem Extends.refl (c : Catalog) : Extends c c := ⟨Nat.le_refl _, fun _ hx _ => hx⟩

theorem Extends.trans {d : Catalog} (h : Extends c c') (h' : Extends c' d) : Extends c d := by
  refine ⟨Nat.le_trans h.counter_le h'.counter_le, ?_⟩
  intro x hx hn
  exact h.old x (h'.old x hx (Nat.le_trans hn h.counter_le)) hn

theorem intact_empty : empty.Intact := by
  constructor <;> simp [empty, Ledger.empty, counted]

theorem mem_counted_permission {row : Permission} :
    .permission row ∈ c.counted ↔ row ∈ c.permissions.rows := by
  simp [counted]

theorem mem_counted_resource {row : Resource} :
    .resource row ∈ c.counted ↔ row ∈ c.resources.rows := by
  simp [counted]

theorem mem_counted_pair {row : Pair} : .pair row ∈ c.counted ↔ row ∈ c.pairs.rows := by
  simp [counted]

theorem mem_counted_role {id : RoleId} {name : String} :
    .role id name ∈ c.counted ↔ ∃ role ∈ c.roles.rows, role.id = id ∧ role.name = name := by
  simp [counted]

theorem Intact.permission_le (h : c.Intact) {row : Permission} (hr : row ∈ c.permissions.rows) :
    row.id.number ≤ c.counter :=
  h.bounded _ (mem_counted_permission.mpr hr)

theorem Intact.resource_le (h : c.Intact) {row : Resource} (hr : row ∈ c.resources.rows) :
    row.id.number ≤ c.counter :=
  h.bounded _ (mem_counted_resource.mpr hr)

theorem Intact.pair_le (h : c.Intact) {row : Pair} (hr : row ∈ c.pairs.rows) :
    row.id.number ≤ c.counter :=
  h.bounded _ (mem_counted_pair.mpr hr)

theorem Intact.role_le (h : c.Intact) {row : Role} (hr : row ∈ c.roles.rows) :
    row.id.number ≤ c.counter :=
  h.bounded _ (mem_counted_role.mpr ⟨row, hr, rfl, rfl⟩)

/-- A new row goes behind the old ones, since its number is the highest. -/
theorem Intact.rows_addPermission (h : c.Intact) (name : String) :
    (c.addPermission name).2.permissions.rows = c.permissions.rows ++ [⟨⟨c.counter + 1⟩, name⟩] :=
  Ledger.rows_put_of_lt fun _ hr => Nat.lt_succ_of_le (h.permission_le hr)

theorem Intact.rows_addResource (h : c.Intact) (name : String) :
    (c.addResource name).2.resources.rows = c.resources.rows ++ [⟨⟨c.counter + 1⟩, name⟩] :=
  Ledger.rows_put_of_lt fun _ hr => Nat.lt_succ_of_le (h.resource_le hr)

/-- A new row takes the number behind the counter, so it is filed behind all others. -/
theorem Intact.rows_addPair (h : c.Intact) (p : PermissionId) (r : ResourceId) :
    (c.addPair p r).2.pairs.rows = c.pairs.rows ++ [⟨⟨c.counter + 1⟩, p, r⟩] :=
  Ledger.rows_put_of_lt fun _ hr => Nat.lt_succ_of_le (h.pair_le hr)

theorem Intact.rows_addRole (h : c.Intact) (name : String) :
    (c.addRole name).2.roles.rows = c.roles.rows ++ [⟨⟨c.counter + 1⟩, name, .empty⟩] :=
  Ledger.rows_put_of_lt fun _ hr => Nat.lt_succ_of_le (h.role_le hr)

theorem rows_foldl_erase {kind : Kind} {α : Type} [Filed α] (ids : List (Id kind)) (l : Ledger α) :
    (ids.foldl (fun l id => l.erase id.number) l).rows.Sublist l.rows := by
  induction ids generalizing l with
  | nil => exact List.Sublist.refl _
  | cons id ids ih => exact (ih _).trans (Ledger.rows_erase_sublist _ _)

theorem mem_foldl_erase {kind : Kind} {α : Type} [Filed α] {x : α} (ids : List (Id kind))
    (l : Ledger α) : x ∈ (ids.foldl (fun l id => l.erase id.number) l).rows ↔
      x ∈ l.rows ∧ ∀ id ∈ ids, Filed.number x ≠ id.number := by
  induction ids generalizing l with
  | nil => simp
  | cons id ids ih =>
    rw [List.foldl_cons, ih]
    simp [and_assoc]

/-- A deletion keeps exactly the pairs that are not listed. -/
theorem mem_deletePairs {p : Pair} {ids : List PairId} :
    p ∈ (c.deletePairs ids).2.pairs.rows ↔ p ∈ c.pairs.rows ∧ p.id ∉ ids := by
  rw [deletePairs, mem_foldl_erase]
  refine and_congr_right fun _ => ⟨fun h hm => h p.id hm rfl, fun h id hm he => h ?_⟩
  exact Id.number_inj.mp he ▸ hm

theorem rows_deletePairs_roles (ids : List PairId) :
    (c.deletePairs ids).2.roles.rows = c.roles.rows.map (stripRole ids) := rfl

/-- What it takes to set a role's pairs, and what that changes. -/
theorem setRolePairs_ok {id : RoleId} {ids : IdSet .pair} (h : c.setRolePairs id ids = .ok c') :
    (∀ p ∈ ids.rows, c.pairs.has p.number = true) ∧
      ∃ role, c.role? id = some role ∧
        c' = { c with roles := c.roles.put { role with pairIds := ids } } := by
  unfold setRolePairs at h
  split at h
  · cases h
  · rename_i hf
    split at h
    · cases h
    · rename_i role hr
      refine ⟨fun p hp => ?_, role, hr, (Except.ok.inj h).symm⟩
      simpa using List.find?_eq_none.mp hf p hp

theorem id_of_role? {id : RoleId} {role : Role} (h : c.role? id = some role) : role.id = id :=
  Id.number_inj.mp (Ledger.number_find? h)

theorem find?_setRolePairs {id : RoleId} {role : Role} (ids : IdSet .pair)
    (h : c.role? id = some role) :
    c.roles.find? (Filed.number ({ role with pairIds := ids } : Role)) = some role := by
  change c.roles.find? role.id.number = some role
  rw [id_of_role? h]
  exact h

/-- A new element inside the second of two lists is new in both together. -/
theorem perm_append_new {α : Type} {x : α} {ys zs : List α} (xs : List α)
    (h : zs.Perm (x :: ys)) : (xs ++ zs).Perm (x :: (xs ++ ys)) :=
  (h.append_left xs).trans List.perm_middle

/-- A step either gives one new identifier, the next one, or leaves the counter alone and adds
no row. -/
theorem Step.counted (hs : Step c c') (h : c.Intact) :
    (∃ x, x.number = c.counter + 1 ∧ c'.counter = c.counter + 1 ∧
      c'.counted.Perm (x :: c.counted)) ∨
    (c'.counter = c.counter ∧ c'.counted.Sublist c.counted) := by
  cases hs with
  | @addPermission name _ =>
    refine .inl ⟨.permission ⟨⟨c.counter + 1⟩, name⟩, rfl, rfl, ?_⟩
    rw [Catalog.counted, h.rows_addPermission, List.map_append, List.append_assoc]
    exact List.perm_middle
  | @addResource name _ =>
    refine .inl ⟨.resource ⟨⟨c.counter + 1⟩, name⟩, rfl, rfl, perm_append_new _ ?_⟩
    rw [h.rows_addResource, List.map_append, List.append_assoc]
    exact List.perm_middle
  | @addPair p r _ =>
    refine .inl ⟨.pair ⟨⟨c.counter + 1⟩, p, r⟩, rfl, rfl, ?_⟩
    refine perm_append_new _ (perm_append_new _ ?_)
    rw [h.rows_addPair, List.map_append, List.append_assoc]
    exact List.perm_middle
  | @addRole name _ =>
    refine .inl ⟨.role ⟨c.counter + 1⟩ name, rfl, rfl, ?_⟩
    refine perm_append_new _ (perm_append_new _ (perm_append_new _ ?_))
    rw [h.rows_addRole, List.map_append]
    exact List.perm_append_singleton _ _
  | deletePairs ids =>
    refine .inr ⟨rfl, ?_⟩
    -- roles lose pairs, but keep identifier and name, which is all that counts here
    have hp := (rows_foldl_erase ids c.pairs).map Counted.pair
    have hr : (c.deletePairs ids).2.roles.rows.map (fun r => Counted.role r.id r.name) =
        c.roles.rows.map fun r => .role r.id r.name := by
      simp [rows_deletePairs_roles, stripRole, Function.comp_def]
    rw [Catalog.counted, hr]
    exact ((hp.append_right _).append_left _).append_left _
  | deletePermission id =>
    refine .inr ⟨rfl, ?_⟩
    exact ((Ledger.rows_erase_sublist c.permissions _).map _).append_right _
  | deleteResource id =>
    refine .inr ⟨rfl, ?_⟩
    exact (((Ledger.rows_erase_sublist c.resources _).map _).append_right _).append_left _
  | @setRolePairs _ id ids hset =>
    obtain ⟨_, role, hr, rfl⟩ := setRolePairs_ok hset
    refine .inr ⟨rfl, ?_⟩
    have hroles := Ledger.map_rows_put (fun r : Role => Counted.role r.id r.name)
      (find?_setRolePairs ids hr) rfl
    rw [Catalog.counted, hroles]
    exact List.Sublist.refl _
  | entities hg =>
    refine .inr ⟨hg.counter, ?_⟩
    simp [Catalog.counted, hg.permissions, hg.resources, hg.pairs, hg.roles]

/-- No step gives an identifier again, be its row deleted or not. -/
theorem Step.extends (hs : Step c c') (h : c.Intact) : Extends c c' := by
  rcases hs.counted h with ⟨x, hx, hn, hp⟩ | ⟨hn, hsub⟩
  · refine ⟨by omega, ?_⟩
    intro y hy hle
    rcases List.mem_cons.mp (hp.mem_iff.mp hy) with rfl | hy
    · omega
    · exact hy
  · exact ⟨by omega, fun y hy _ => hsub.subset hy⟩

theorem Step.bounded (hs : Step c c') (h : c.Intact) : ∀ x ∈ c'.counted, x.number ≤ c'.counter := by
  intro y hy
  rcases hs.counted h with ⟨x, hx, hn, hp⟩ | ⟨hn, hsub⟩
  · rcases List.mem_cons.mp (hp.mem_iff.mp hy) with rfl | hy
    · omega
    · have := h.bounded y hy
      omega
  · have := h.bounded y (hsub.subset hy)
    omega

/-- Rows of different tables count by the same counter and still never share a number. -/
theorem Step.distinct (hs : Step c c') (h : c.Intact) :
    (c'.counted.map Counted.number).Nodup := by
  rcases hs.counted h with ⟨x, hx, _, hp⟩ | ⟨_, hsub⟩
  · rw [(hp.map Counted.number).nodup_iff, List.map_cons, List.nodup_cons]
    refine ⟨?_, h.distinct⟩
    intro hm
    obtain ⟨y, hy, he⟩ := List.mem_map.mp hm
    have := h.bounded y hy
    omega
  · exact h.distinct.sublist (hsub.map _)

/-- A list without repetition stays so if what a function tells of the new element is new. -/
theorem nodup_map_concat {α β : Type} {f : α → β} {xs : List α} {x : α} (h : (xs.map f).Nodup)
    (hx : ∀ y ∈ xs, f y ≠ f x) : ((xs ++ [x]).map f).Nodup := by
  rw [List.map_append, List.nodup_append]
  refine ⟨h, by simp, ?_⟩
  intro a ha b hb
  obtain ⟨y, hy, rfl⟩ := List.mem_map.mp ha
  rw [List.map_singleton, List.mem_singleton] at hb
  exact hb ▸ hx y hy

theorem held_stripRole {ids : List PairId} {role : Role}
    (h : ∀ id ∈ role.pairIds.rows, ∃ p ∈ c.pairs.rows, p.id = id) :
    ∀ id ∈ (stripRole ids role).pairIds.rows, ∃ p ∈ (c.deletePairs ids).2.pairs.rows,
      p.id = id := by
  intro id hid
  obtain ⟨hid, hn⟩ := List.mem_filter.mp hid
  obtain ⟨p, hp, rfl⟩ := h id hid
  exact ⟨p, mem_deletePairs.mpr ⟨hp, by simpa using hn⟩, rfl⟩

theorem exists_pair_of_has {id : PairId} (h : c.pairs.has id.number = true) :
    ∃ p ∈ c.pairs.rows, p.id = id := by
  obtain ⟨p, hp⟩ := Option.isSome_iff_exists.mp h
  exact ⟨p, Ledger.mem_of_find? hp, Id.number_inj.mp (Ledger.number_find? hp)⟩

/-- One step keeps all invariants; the cases are the kinds of steps, with the checks in front of
them. -/
theorem Step.intact (hs : Step c c') (h : c.Intact) : c'.Intact := by
  have hb := hs.bounded h
  have hd := hs.distinct h
  cases hs with
  | @addPermission name hnone =>
    refine ⟨?_, h.resource_names, h.role_names, h.pair_sides, hb, hd, h.held⟩
    rw [h.rows_addPermission]
    exact nodup_map_concat h.permission_names fun p hp => by
      simpa using List.find?_eq_none.mp hnone p hp
  | @addResource name hnone =>
    refine ⟨h.permission_names, ?_, h.role_names, h.pair_sides, hb, hd, h.held⟩
    rw [h.rows_addResource]
    exact nodup_map_concat h.resource_names fun r hr => by
      simpa using List.find?_eq_none.mp hnone r hr
  | @addPair p r hnone =>
    refine ⟨h.permission_names, h.resource_names, h.role_names, ?_, hb, hd, ?_⟩
    · rw [h.rows_addPair]
      exact nodup_map_concat h.pair_sides fun x hx => by
        simpa using List.find?_eq_none.mp hnone x hx
    · intro role hr id hid
      obtain ⟨x, hx, he⟩ := h.held role hr id hid
      exact ⟨x, by rw [h.rows_addPair]; exact List.mem_append_left _ hx, he⟩
  | @addRole name hnone =>
    refine ⟨h.permission_names, h.resource_names, ?_, h.pair_sides, hb, hd, ?_⟩
    · rw [h.rows_addRole]
      exact nodup_map_concat h.role_names fun r hr => by
        simpa using List.find?_eq_none.mp hnone r hr
    · intro role hr id hid
      rw [h.rows_addRole] at hr
      rcases List.mem_append.mp hr with hr | hr
      · exact h.held role hr id hid
      · rw [List.mem_singleton] at hr
        subst hr
        simp [Ledger.empty] at hid
  | deletePairs ids =>
    have hp := rows_foldl_erase ids c.pairs
    refine ⟨h.permission_names, h.resource_names, ?_, h.pair_sides.sublist (hp.map _), hb, hd, ?_⟩
    · simpa [rows_deletePairs_roles, stripRole, Function.comp_def] using h.role_names
    · intro role hr
      obtain ⟨old, ho, rfl⟩ := List.mem_map.mp hr
      exact held_stripRole (h.held old ho)
  | deletePermission id =>
    have hp := Ledger.rows_erase_sublist c.permissions id.number
    exact ⟨h.permission_names.sublist (hp.map _), h.resource_names, h.role_names, h.pair_sides,
      hb, hd, h.held⟩
  | deleteResource id =>
    have hr := Ledger.rows_erase_sublist c.resources id.number
    exact ⟨h.permission_names, h.resource_names.sublist (hr.map _), h.role_names, h.pair_sides,
      hb, hd, h.held⟩
  | @setRolePairs _ id ids hset =>
    obtain ⟨hids, old, ho, rfl⟩ := setRolePairs_ok hset
    refine ⟨h.permission_names, h.resource_names, ?_, h.pair_sides, hb, hd, ?_⟩
    · rw [Ledger.map_rows_put _ (find?_setRolePairs ids ho) rfl]
      exact h.role_names
    · intro role hr
      rcases Ledger.mem_put.mp hr with rfl | ⟨hr, _⟩
      · exact fun p hp => exists_pair_of_has (hids p hp)
      · exact h.held role hr
  | entities hg =>
    refine ⟨?_, ?_, ?_, ?_, hb, hd, ?_⟩
    · exact hg.permissions ▸ h.permission_names
    · exact hg.resources ▸ h.resource_names
    · exact hg.roles ▸ h.role_names
    · exact hg.pairs ▸ h.pair_sides
    · rw [hg.roles, hg.pairs]
      exact h.held

theorem SameGrants.intact (h : SameGrants c c') (hi : c.Intact) : c'.Intact :=
  (Step.entities h).intact hi

theorem Steps.intact (hs : Steps c c') (h : c.Intact) : c'.Intact := by
  induction hs with
  | refl => exact h
  | tail _ step ih => exact step.intact ih

/-- Identifiers are given once in the whole life of a store, not only within one step. -/
theorem Steps.extends (hs : Steps c c') (h : c.Intact) : Extends c c' := by
  induction hs with
  | refl => exact Extends.refl c
  | tail steps step ih => exact ih.trans (step.extends (Steps.intact steps h))

theorem ensurePermission_steps (c : Catalog) (name : String) :
    Steps c (c.ensurePermission name).2 := by
  unfold ensurePermission
  split
  · exact .refl
  · rename_i hn
    exact .single (.addPermission hn)

theorem ensureResource_steps (c : Catalog) (name : String) :
    Steps c (c.ensureResource name).2 := by
  unfold ensureResource
  split
  · exact .refl
  · rename_i hn
    exact .single (.addResource hn)

theorem ensureRole_steps (c : Catalog) (name : String) : Steps c (c.ensureRole name).2 := by
  unfold ensureRole
  split
  · exact .refl
  · rename_i hn
    exact .single (.addRole hn)

/-- Making sure of a pair is nothing but up to three insertions. -/
theorem ensurePair_steps (c : Catalog) (permission resource : String) :
    Steps c (c.ensurePair permission resource).2 := by
  have hp := ensurePermission_steps c permission
  have hr := ensureResource_steps (c.ensurePermission permission).2 resource
  unfold ensurePair
  dsimp only
  split
  · exact hp.trans hr
  · rename_i hn
    exact (hp.trans hr).tail (.addPair hn)

theorem createPairs_steps (ws known : List (String × String)) (c : Catalog) :
    Steps c (c.createPairs known ws).2 := by
  induction ws generalizing c known with
  | nil => exact .refl
  | cons w ws ih =>
    unfold createPairs
    split
    · exact ih known c
    · exact (ensurePair_steps c w.1 w.2).trans (ih (w :: known) _)

end Catalog
end Turnstile
