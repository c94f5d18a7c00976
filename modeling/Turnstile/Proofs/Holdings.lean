import Mathlib.Data.List.Sort
import Turnstile.Proofs.NamedPairs
import Turnstile.Role.Synchronizer

namespace Turnstile

/-- Ledgers with the same rows, in whatever order they were filed, are the same. -/
theorem Ledger.ext_mem {α : Type} [Filed α] {l m : Ledger α}
    (h : ∀ x, x ∈ l.rows ↔ x ∈ m.rows) : l = m := by
  let below : α → α → Prop := fun a b => Filed.number a < Filed.number b
  have : Std.Irrefl below := ⟨fun _ => Nat.lt_irrefl _⟩
  have : Std.Antisymm below := ⟨fun _ _ hab hba => absurd hab (Nat.lt_asymm hba)⟩
  exact Ledger.ext (List.Pairwise.eq_of_mem_iff (r := below) l.ascending m.ascending h)

theorem Ledger.put_put {α : Type} [Filed α] (l : Ledger α) {a b : α}
    (h : Filed.number a = Filed.number b) : (l.put a).put b = l.put b := by
  refine Ledger.ext_mem fun x => ?_
  rw [mem_put, mem_put, mem_put, h]
  constructor
  · rintro (hx | ⟨rfl | hx, hn⟩)
    · exact .inl hx
    · exact absurd h hn
    · exact .inr hx
  · rintro (hx | hx)
    · exact .inl hx
    · exact .inr ⟨.inr hx, hx.2⟩

namespace Catalog
variable {c c' : Catalog} {name other : String} {ids : IdSet .pair} {policy : Policy}
  {rule : ReadyRule}

/-- Roles, and the counter that numbers them, may differ. Nothing else does. -/
structure SamePairs (c c' : Catalog) : Prop where
  counter_le : c.counter ≤ c'.counter
  permissions : c'.permissions = c.permissions
  resources : c'.resources = c.resources
  pairs : c'.pairs = c.pairs
  entities : SameEntities c c'

theorem SamePairs.refl (c : Catalog) : SamePairs c c := ⟨Nat.le_refl _, rfl, rfl, rfl, .refl c⟩

theorem SamePairs.trans {d : Catalog} (h : SamePairs c c') (h' : SamePairs c' d) :
    SamePairs c d :=
  ⟨Nat.le_trans h.counter_le h'.counter_le, h'.permissions.trans h.permissions,
    h'.resources.trans h.resources, h'.pairs.trans h.pairs, h.entities.trans h'.entities⟩

theorem SamePairs.resolve? (h : SamePairs c c') : c'.resolve? = c.resolve? := by
  funext x
  simp only [Catalog.resolve?, permission?, resource?, h.permissions, h.resources]

theorem SamePairs.namedPairs (h : SamePairs c c') : c'.namedPairs = c.namedPairs := by
  unfold Catalog.namedPairs
  rw [h.pairs, h.resolve?]

theorem SamePairs.mem_namedPairs (h : SamePairs c c') {n : NamedPair} :
    n ∈ c'.namedPairs ↔ n ∈ c.namedPairs := by
  rw [h.namedPairs]

theorem SamePairs.isDataPair (h : SamePairs c c') : c'.isDataPair = c.isDataPair := by
  funext id
  simp only [Catalog.isDataPair, namesOf?, pair?, h.pairs, h.resolve?]

theorem SamePairs.sided (h : SamePairs c c') (hs : c.Sided) : c'.Sided :=
  hs.of_le h.pairs h.counter_le

/-- A pair falls under a rule by its names, so one that lacks a side falls under none. -/
theorem mem_matchingPairs {id : PairId} : id ∈ (c.matchingPairs policy rule).rows ↔
    ∃ n ∈ c.namedPairs, n.id = id ∧ rule.admits policy n = true := by
  unfold matchingPairs
  rw [IdSet.mem_ofIds, List.mem_map]
  simp only [List.mem_filter, and_assoc]
  exact exists_congr fun n => and_congr_right fun _ => and_comm

/-- Which pairs fall under a rule hangs only on the pairs with both sides. -/
theorem matchingPairs_congr (h : ∀ n, n ∈ c'.namedPairs ↔ n ∈ c.namedPairs) :
    c'.matchingPairs policy rule = c.matchingPairs policy rule := by
  refine Ledger.ext_mem fun id => ?_
  simp only [mem_matchingPairs, h]

/-- Pairs that were there before fall under a rule as before. None does anew unless it is a new
pair. -/
theorem matchingPairs_eq_iff (h : ∀ n ∈ c.namedPairs, n ∈ c'.namedPairs) :
    c'.matchingPairs policy rule = c.matchingPairs policy rule ↔
      ∀ n ∈ c'.namedPairs, rule.admits policy n = true → n ∈ c.namedPairs := by
  constructor
  · intro heq n hn hadm
    have hid : n.id ∈ (c.matchingPairs policy rule).rows :=
      heq ▸ mem_matchingPairs.mpr ⟨n, hn, rfl, hadm⟩
    obtain ⟨m, hm, hmn, _⟩ := mem_matchingPairs.mp hid
    exact namedPair_of_id (h m hm) hn hmn ▸ hm
  · intro hold
    refine Ledger.ext_mem fun id => ?_
    rw [mem_matchingPairs, mem_matchingPairs]
    constructor
    · rintro ⟨n, hn, rfl, hadm⟩
      exact ⟨n, hold n hn hadm, rfl, hadm⟩
    · rintro ⟨n, hn, rfl, hadm⟩
      exact ⟨n, h n hn, rfl, hadm⟩

theorem mem_pairs_iff {x : Pair} : c.pair? x.id = some x ↔ x ∈ c.pairs.rows :=
  (c.ownIds.pairs x.id x).trans (and_iff_left rfl)

theorem isDataPair_iff {id : PairId} : c.isDataPair id = true ↔
    ∃ n ∈ c.namedPairs, n.id = id ∧ PermissionName.isOnData n.permission = true := by
  unfold isDataPair namesOf?
  rw [Option.any_map, Option.any_eq_true]
  constructor
  · rintro ⟨n, hn, hdata⟩
    obtain ⟨x, hx, hres⟩ := Option.bind_eq_some_iff.mp hn
    obtain ⟨hmem, rfl⟩ := (c.ownIds.pairs id x).mp hx
    exact ⟨n, List.mem_filterMap.mpr ⟨x, hmem, hres⟩, (resolve?_eq_some.mp hres).2.2, hdata⟩
  · rintro ⟨n, hn, rfl, hdata⟩
    obtain ⟨x, hx, hres⟩ := List.mem_filterMap.mp hn
    refine ⟨n, Option.bind_eq_some_iff.mpr ⟨x, ?_, hres⟩, hdata⟩
    exact (c.ownIds.pairs n.id x).mpr ⟨hx, (resolve?_eq_some.mp hres).2.2.symm⟩

/-- What the role of that name holds. -/
def pairsOf? (c : Catalog) (name : String) : Option (IdSet .pair) :=
  (c.roleNamed? name).map (·.pairIds)

def Stores (c : Catalog) (ids : IdSet .pair) : Prop :=
  ∀ id ∈ ids.rows, ∃ p ∈ c.pairs.rows, p.id = id

/-- The catalog with a role, made if need be, that holds exactly the pairs. -/
def giveRole (c : Catalog) (name : String) (ids : IdSet .pair) : Catalog :=
  let made := c.ensureRole name
  { made.2 with roles := made.2.roles.put { made.1 with pairIds := ids } }

theorem Stores.of_pairs (h : c.Stores ids) (hp : c'.pairs = c.pairs) : c'.Stores ids := by
  unfold Stores
  rw [hp]
  exact h

theorem stores_matchingPairs (c : Catalog) (policy : Policy) (rule : ReadyRule) :
    c.Stores (c.matchingPairs policy rule) := by
  intro id hid
  obtain ⟨n, hn, rfl, _⟩ := mem_matchingPairs.mp hid
  obtain ⟨x, hx, _, _, hid⟩ := mem_namedPairs.mp hn
  exact ⟨x, hx, hid.symm⟩

/-- Role names differ in an intact catalog, so a name finds every role that has it. -/
theorem Intact.roleNamed?_eq_some (h : c.Intact) {role : Role} :
    c.roleNamed? name = some role ↔ role ∈ c.roles.rows ∧ role.name = name := by
  constructor
  · intro hr
    exact ⟨List.mem_of_find?_eq_some hr, by simpa using List.find?_some hr⟩
  · rintro ⟨hr, rfl⟩
    exact find?_of_unique hr (by simp) fun y hy hn =>
      List.inj_on_of_nodup_map h.role_names hy hr (by simpa using hn)

theorem Intact.pairsOf?_eq_some (h : c.Intact) :
    c.pairsOf? name = some ids ↔ ∃ role ∈ c.roles.rows, role.name = name ∧ role.pairIds = ids := by
  simp only [pairsOf?, Option.map_eq_some_iff, h.roleNamed?_eq_some, and_assoc]

theorem Intact.stores_pairsOf? (h : c.Intact) (hp : c.pairsOf? name = some ids) :
    c.Stores ids := by
  obtain ⟨role, hr, _, rfl⟩ := h.pairsOf?_eq_some.mp hp
  exact h.held role hr

theorem ensureRole_samePairs (c : Catalog) (name : String) : SamePairs c (c.ensureRole name).2 := by
  unfold ensureRole
  split
  · exact .refl c
  · exact ⟨Nat.le_succ _, rfl, rfl, rfl, rfl, rfl, rfl, rfl, rfl, rfl, rfl⟩

theorem Intact.mem_ensureRole (h : c.Intact) {role : Role} :
    role ∈ (c.ensureRole name).2.roles.rows ↔
      role ∈ c.roles.rows ∨ role = (c.ensureRole name).1 := by
  unfold ensureRole
  split
  · rename_i r hr
    refine ⟨.inl, ?_⟩
    rintro (hm | rfl)
    · exact hm
    · exact List.mem_of_find?_eq_some hr
  · rw [h.rows_addRole, List.mem_append, List.mem_singleton]
    rfl

theorem ensureRole_name (c : Catalog) (name : String) : (c.ensureRole name).1.name = name := by
  unfold ensureRole
  split
  · rename_i r hr
    simpa using List.find?_some hr
  · rfl

/-- The role of a name is told by its identifier. -/
theorem Intact.id_eq_ensured_iff (h : c.Intact) {role : Role} (hr : role ∈ c.roles.rows) :
    role.id = (c.ensureRole name).1.id ↔ role.name = name := by
  constructor
  · intro he
    have hsame : role = (c.ensureRole name).1 := Ledger.eq_of_number_eq
      (h.mem_ensureRole.mpr (.inl hr)) (h.mem_ensureRole.mpr (.inr rfl)) (congrArg Id.number he)
    rw [hsame, ensureRole_name]
  · intro hn
    rw [ensureRole, h.roleNamed?_eq_some.mpr ⟨hr, hn⟩]

/-- A role that is made holds nothing. -/
theorem ensureRole_pairIds (c : Catalog) (name : String) :
    (c.ensureRole name).1.pairIds = (c.pairsOf? name).getD .empty := by
  unfold ensureRole pairsOf?
  split
  · rename_i r hr
    rw [hr]
    rfl
  · rename_i hr
    rw [hr]
    rfl

/-- Setting the pairs of a role just made sure of cannot be refused. -/
theorem Intact.setRolePairs_ensured (h : c.Intact) (hids : c.Stores ids) :
    (c.ensureRole name).2.setRolePairs (c.ensureRole name).1.id ids =
      .ok (c.giveRole name ids) := by
  have hstored : ids.rows.find? (fun p => !(c.ensureRole name).2.pairs.has p.number) = none := by
    refine List.find?_eq_none.mpr fun id hid => ?_
    obtain ⟨p, hp, rfl⟩ := hids id hid
    have hfound : c.pairs.find? p.id.number = some p := mem_pairs_iff.mpr hp
    rw [(ensureRole_samePairs c name).pairs]
    simp [Ledger.has, hfound]
  have hrole : (c.ensureRole name).2.role? (c.ensureRole name).1.id =
      some (c.ensureRole name).1 :=
    (ownIds _).roles _ _ |>.mpr ⟨h.mem_ensureRole.mpr (.inr rfl), rfl⟩
  unfold setRolePairs
  rw [hstored, hrole]
  rfl

/-- Giving a role stored pairs keeps the catalog intact, whether the role is new or not. -/
theorem Intact.giveRole (h : c.Intact) (hids : c.Stores ids) : (c.giveRole name ids).Intact :=
  Steps.intact ((ensureRole_steps c name).tail (.setRolePairs (h.setRolePairs_ensured hids))) h

theorem giveRole_samePairs (c : Catalog) (name : String) (ids : IdSet .pair) :
    SamePairs c (c.giveRole name ids) := by
  obtain ⟨hn, hp, hr, hx, hu, hdb, hds, hch, hda, hem, hrf⟩ := ensureRole_samePairs c name
  exact ⟨hn, hp, hr, hx, hu, hdb, hds, hch, hda, hem, hrf⟩

theorem Stores.giveRole (h : c.Stores ids) (name : String) (given : IdSet .pair) :
    (c.giveRole name given).Stores ids :=
  h.of_pairs (giveRole_samePairs c name given).pairs

theorem Intact.mem_giveRole (h : c.Intact) {role : Role} :
    role ∈ (c.giveRole name ids).roles.rows ↔
      role = { (c.ensureRole name).1 with pairIds := ids } ∨
        (role ∈ c.roles.rows ∧ role.id ≠ (c.ensureRole name).1.id) := by
  refine Ledger.mem_put.trans (or_congr_right ?_)
  rw [h.mem_ensureRole]
  constructor
  · rintro ⟨hm | rfl, hn⟩
    · exact ⟨hm, fun he => hn (congrArg Id.number he)⟩
    · exact absurd rfl hn
  · rintro ⟨hm, hn⟩
    exact ⟨.inl hm, fun he => hn (Id.number_inj.mp he)⟩

theorem Intact.pairsOf?_giveRole (h : c.Intact) (hids : c.Stores ids) :
    (c.giveRole name ids).pairsOf? name = some ids :=
  (h.giveRole hids).pairsOf?_eq_some.mpr
    ⟨_, h.mem_giveRole.mpr (.inl rfl), ensureRole_name c name, rfl⟩

theorem Intact.roleNamed?_giveRole_of_ne (h : c.Intact) (hids : c.Stores ids)
    (hne : other ≠ name) : (c.giveRole name ids).roleNamed? other = c.roleNamed? other := by
  refine Option.ext fun role => ?_
  rw [(h.giveRole hids).roleNamed?_eq_some, h.roleNamed?_eq_some, h.mem_giveRole]
  constructor
  · rintro ⟨rfl | ⟨hm, _⟩, hn⟩
    · exact absurd (hn.symm.trans (ensureRole_name c name)) hne
    · exact ⟨hm, hn⟩
  · rintro ⟨hm, hn⟩
    refine ⟨.inr ⟨hm, fun he => hne ?_⟩, hn⟩
    exact hn.symm.trans ((h.id_eq_ensured_iff hm).mp he)

theorem Intact.pairsOf?_giveRole_of_ne (h : c.Intact) (hids : c.Stores ids)
    (hne : other ≠ name) : (c.giveRole name ids).pairsOf? other = c.pairsOf? other :=
  congrArg (Option.map _) (h.roleNamed?_giveRole_of_ne hids hne)

/-- A role that holds the gift already stays as it is, and so does all else. -/
theorem giveRole_self (hp : c.pairsOf? name = some ids) : c.giveRole name ids = c := by
  obtain ⟨role, hr, rfl⟩ := Option.map_eq_some_iff.mp hp
  have hfound : c.roles.find? role.id.number = some role :=
    (c.ownIds.roles role.id role).mpr ⟨List.mem_of_find?_eq_some hr, rfl⟩
  unfold giveRole ensureRole
  rw [hr]
  simp only [Ledger.put_self hfound]

theorem Intact.giveRole_giveRole (h : c.Intact) (hids : c.Stores ids) (ids' : IdSet .pair) :
    (c.giveRole name ids).giveRole name ids' = c.giveRole name ids' := by
  have hr : (c.giveRole name ids).roleNamed? name =
      some { (c.ensureRole name).1 with pairIds := ids } :=
    (h.giveRole hids).roleNamed?_eq_some.mpr
      ⟨h.mem_giveRole.mpr (.inl rfl), ensureRole_name c name⟩
  have hput := Ledger.put_put (c.ensureRole name).2.roles
    (a := { (c.ensureRole name).1 with pairIds := ids })
    (b := { (c.ensureRole name).1 with pairIds := ids' }) rfl
  have hmade : (c.giveRole name ids).ensureRole name =
      ({ (c.ensureRole name).1 with pairIds := ids }, c.giveRole name ids) := by
    rw [Catalog.ensureRole, hr]
  rw [Catalog.giveRole, hmade]
  exact congrArg (fun roles => { (c.ensureRole name).2 with roles := roles }) hput

def giveRoles (c : Catalog) (gifts : List (String × IdSet .pair)) : Catalog :=
  gifts.foldl (fun c g => c.giveRole g.1 g.2) c

theorem giveRoles_samePairs (gifts : List (String × IdSet .pair)) (c : Catalog) :
    SamePairs c (c.giveRoles gifts) := by
  induction gifts generalizing c with
  | nil => exact .refl c
  | cons g gifts ih => exact (giveRole_samePairs c g.1 g.2).trans (ih _)

section
variable {gifts : List (String × IdSet .pair)}

theorem Intact.giveRoles (h : c.Intact) (hg : ∀ g ∈ gifts, c.Stores g.2) :
    (c.giveRoles gifts).Intact := by
  induction gifts generalizing c with
  | nil => exact h
  | cons g gifts ih =>
    exact ih (h.giveRole (hg g (by simp))) fun g' hg' => (hg g' (by simp [hg'])).giveRole _ _

/-- A role that none of the gifts is for keeps what it holds. -/
theorem Intact.pairsOf?_giveRoles_of_notMem (h : c.Intact) (hg : ∀ g ∈ gifts, c.Stores g.2)
    (hn : name ∉ gifts.map (·.1)) : (c.giveRoles gifts).pairsOf? name = c.pairsOf? name := by
  induction gifts generalizing c with
  | nil => rfl
  | cons g gifts ih =>
    rw [List.map_cons, List.mem_cons, not_or] at hn
    obtain ⟨hne, hn⟩ := hn
    have hfirst := hg g (by simp)
    rw [← h.pairsOf?_giveRole_of_ne hfirst hne]
    exact ih (h.giveRole hfirst) (fun g' hg' => (hg g' (by simp [hg'])).giveRole _ _) hn

/-- Of gifts to different roles each one stays. -/
theorem Intact.pairsOf?_giveRoles (h : c.Intact) (hg : ∀ g ∈ gifts, c.Stores g.2)
    (distinct : (gifts.map (·.1)).Nodup) (hm : (name, ids) ∈ gifts) :
    (c.giveRoles gifts).pairsOf? name = some ids := by
  induction gifts generalizing c with
  | nil => cases hm
  | cons g gifts ih =>
    obtain ⟨hn, distinct⟩ := List.nodup_cons.mp distinct
    have hi : (c.giveRole g.1 g.2).Intact := h.giveRole (hg g (by simp))
    have hrest : ∀ g' ∈ gifts, (c.giveRole g.1 g.2).Stores g'.2 := fun g' hg' =>
      (hg g' (by simp [hg'])).giveRole _ _
    rcases List.mem_cons.mp hm with rfl | hm
    · exact (hi.pairsOf?_giveRoles_of_notMem hrest hn).trans (h.pairsOf?_giveRole (hg _ (by simp)))
    · exact ih hi hrest distinct hm

/-- Gifts that the other roles hold already do not matter once the one role is given its pairs. -/
theorem Intact.giveRole_giveRoles (h : c.Intact) (hg : ∀ g ∈ gifts, c.Stores g.2)
    (hheld : ∀ g ∈ gifts, g.1 ≠ name → c.pairsOf? g.1 = some g.2) :
    (c.giveRoles gifts).giveRole name ids = c.giveRole name ids := by
  induction gifts generalizing c with
  | nil => rfl
  | cons g gifts ih =>
    have hfirst := hg g (by simp)
    have hrest : ∀ g' ∈ gifts, (c.giveRole g.1 g.2).Stores g'.2 := fun g' hg' =>
      (hg g' (by simp [hg'])).giveRole _ _
    -- a gift to the one role is overwritten in the end, and any other one changes nothing
    refine (ih (h.giveRole hfirst) hrest fun g' hg' hne => ?_).trans ?_
    · by_cases heq : g.1 = name
      · rw [h.pairsOf?_giveRole_of_ne hfirst fun he => hne (he.trans heq)]
        exact hheld g' (by simp [hg']) hne
      · rw [giveRole_self (hheld g (by simp) heq)]
        exact hheld g' (by simp [hg']) hne
    · by_cases heq : g.1 = name
      · subst heq
        exact h.giveRole_giveRole hfirst ids
      · rw [giveRole_self (hheld g (by simp) heq)]

end

theorem giveRoles_self {gifts : List (String × IdSet .pair)}
    (hheld : ∀ g ∈ gifts, c.pairsOf? g.1 = some g.2) : c.giveRoles gifts = c := by
  induction gifts with
  | nil => rfl
  | cons g gifts ih =>
    unfold giveRoles at ih ⊢
    rw [List.foldl_cons, giveRole_self (hheld g (by simp))]
    exact ih fun g' hg' => hheld g' (by simp [hg'])

end Catalog
end Turnstile
