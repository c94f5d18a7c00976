import Turnstile.Proofs.CatalogSteps

namespace Turnstile.Catalog
variable {c c' : Catalog} {p r : String}

/-- A stored pair stands for the two names. -/
def HasPair (c : Catalog) (permission resource : String) : Prop :=
  ∃ x ∈ c.namedPairs, x.permission = permission ∧ x.resource = resource

/-- The counter has passed the sides of all pairs, even those that are gone. A permission or
resource made later is no side of them. -/
def Sided (c : Catalog) : Prop :=
  ∀ x ∈ c.pairs.rows, x.permissionId.number ≤ c.counter ∧ x.resourceId.number ≤ c.counter

/-- Rows that grants are made of may be new. Nothing else differs. -/
structure Grows (c c' : Catalog) : Prop where
  permissions : ∀ x ∈ c.permissions.rows, x ∈ c'.permissions.rows
  resources : ∀ x ∈ c.resources.rows, x ∈ c'.resources.rows
  pairs : ∀ x ∈ c.pairs.rows, x ∈ c'.pairs.rows
  roles : c'.roles = c.roles
  entities : SameEntities c c'

theorem SameEntities.refl (c : Catalog) : SameEntities c c :=
  ⟨rfl, rfl, rfl, rfl, rfl, rfl, rfl⟩

theorem SameEntities.trans {d : Catalog} (h : SameEntities c c') (h' : SameEntities c' d) :
    SameEntities c d :=
  ⟨h'.users.trans h.users, h'.databases.trans h.databases, h'.datasources.trans h.datasources,
    h'.charts.trans h.charts, h'.dashboards.trans h.dashboards,
    h'.embeddings.trans h.embeddings, h'.rowFilters.trans h.rowFilters⟩

theorem Grows.refl (c : Catalog) : Grows c c :=
  ⟨fun _ h => h, fun _ h => h, fun _ h => h, rfl, .refl c⟩

theorem Grows.trans {d : Catalog} (h : Grows c c') (h' : Grows c' d) : Grows c d where
  permissions x hx := h'.permissions x (h.permissions x hx)
  resources x hx := h'.resources x (h.resources x hx)
  pairs x hx := h'.pairs x (h.pairs x hx)
  roles := h'.roles.trans h.roles
  entities := h.entities.trans h'.entities

def PermissionIs (c : Catalog) (id : PermissionId) (name : String) : Prop :=
  ∃ q ∈ c.permissions.rows, q.id = id ∧ q.name = name

def ResourceIs (c : Catalog) (id : ResourceId) (name : String) : Prop :=
  ∃ t ∈ c.resources.rows, t.id = id ∧ t.name = name

/-- A pair stands for two names just if both its sides are stored. -/
theorem resolve?_eq_some {x : Pair} {n : NamedPair} : c.resolve? x = some n ↔
    c.PermissionIs x.permissionId n.permission ∧ c.ResourceIs x.resourceId n.resource ∧
      n.id = x.id := by
  have hp := c.ownIds.permissions x.permissionId
  have hr := c.ownIds.resources x.resourceId
  constructor
  · intro h
    unfold resolve? at h
    split at h
    · rename_i q t hq ht
      cases h
      obtain ⟨hq, hqi⟩ := (hp q).mp hq
      obtain ⟨ht, hti⟩ := (hr t).mp ht
      exact ⟨⟨q, hq, hqi, rfl⟩, ⟨t, ht, hti, rfl⟩, rfl⟩
    · cases h
  · rintro ⟨⟨q, hq, hqi, hqn⟩, ⟨t, ht, hti, htn⟩, hid⟩
    have hq' : c.permission? x.permissionId = some q := (hp q).mpr ⟨hq, hqi⟩
    have ht' : c.resource? x.resourceId = some t := (hr t).mpr ⟨ht, hti⟩
    obtain ⟨id, pn, rn⟩ := n
    simp only at hqn htn hid
    simp only [resolve?, hq', ht', hqn, htn, hid]

theorem mem_namedPairs {n : NamedPair} : n ∈ c.namedPairs ↔
    ∃ x ∈ c.pairs.rows, c.PermissionIs x.permissionId n.permission ∧
      c.ResourceIs x.resourceId n.resource ∧ n.id = x.id := by
  simp only [namedPairs, List.mem_filterMap, resolve?_eq_some]

/-- An identifier stands for two names at most. -/
theorem namedPair_of_id {m n : NamedPair} (hm : m ∈ c.namedPairs) (hn : n ∈ c.namedPairs)
    (h : m.id = n.id) : m = n := by
  obtain ⟨x, hx, hxm⟩ := List.mem_filterMap.mp hm
  obtain ⟨y, hy, hyn⟩ := List.mem_filterMap.mp hn
  have hid : x.id = y.id :=
    (resolve?_eq_some.mp hxm).2.2.symm.trans (h.trans (resolve?_eq_some.mp hyn).2.2)
  have hxy : x = y := Ledger.eq_of_number_eq hx hy (congrArg Id.number hid)
  subst hxy
  exact Option.some.inj (hxm.symm.trans hyn)

theorem hasPair_iff : c.HasPair p r ↔
    ∃ x ∈ c.pairs.rows, c.PermissionIs x.permissionId p ∧ c.ResourceIs x.resourceId r := by
  constructor
  · rintro ⟨n, hn, rfl, rfl⟩
    obtain ⟨x, hx, hp, hr, _⟩ := mem_namedPairs.mp hn
    exact ⟨x, hx, hp, hr⟩
  · rintro ⟨x, hx, hp, hr⟩
    exact ⟨⟨x.id, p, r⟩, mem_namedPairs.mpr ⟨x, hx, hp, hr, rfl⟩, rfl, rfl⟩

theorem Grows.namedPairs (h : Grows c c') {n : NamedPair} (hn : n ∈ c.namedPairs) :
    n ∈ c'.namedPairs := by
  obtain ⟨x, hx, ⟨q, hq, hqn⟩, ⟨t, ht, htn⟩, hid⟩ := mem_namedPairs.mp hn
  exact mem_namedPairs.mpr ⟨x, h.pairs x hx, ⟨q, h.permissions q hq, hqn⟩,
    ⟨t, h.resources t ht, htn⟩, hid⟩

theorem Grows.hasPair (h : Grows c c') (hh : c.HasPair p r) : c'.HasPair p r := by
  obtain ⟨n, hn, hnames⟩ := hh
  exact ⟨n, h.namedPairs hn, hnames⟩

theorem SameGrants.hasPair_iff (h : SameGrants c c') : c'.HasPair p r ↔ c.HasPair p r := by
  simp only [Catalog.hasPair_iff, PermissionIs, ResourceIs, h.pairs, h.permissions, h.resources]

theorem SameGrants.mem_namedPairs (h : SameGrants c c') {n : NamedPair} :
    n ∈ c'.namedPairs ↔ n ∈ c.namedPairs := by
  simp only [Catalog.mem_namedPairs, PermissionIs, ResourceIs, h.pairs, h.permissions,
    h.resources]

/-- New permissions and resources are numbered behind the counter, past the sides of every pair. -/
theorem Sided.of_le (hs : c.Sided) (hp : c'.pairs = c.pairs) (hn : c.counter ≤ c'.counter) :
    c'.Sided := by
  intro x hx
  rw [hp] at hx
  exact ⟨Nat.le_trans (hs x hx).1 hn, Nat.le_trans (hs x hx).2 hn⟩

theorem SameGrants.sided (h : SameGrants c c') (hs : c.Sided) : c'.Sided :=
  hs.of_le h.pairs (Nat.le_of_eq h.counter.symm)

theorem SameGrants.putDatabase (c : Catalog) (row : Database) :
    SameGrants c (c.putDatabase row) := ⟨rfl, rfl, rfl, rfl, rfl⟩

theorem SameGrants.putDatasource (c : Catalog) (row : Datasource) :
    SameGrants c (c.putDatasource row) := ⟨rfl, rfl, rfl, rfl, rfl⟩

theorem Intact.mem_addPermission (h : c.Intact) {name : String} {x : Permission} :
    x ∈ (c.addPermission name).2.permissions.rows ↔
      x ∈ c.permissions.rows ∨ x = ⟨⟨c.counter + 1⟩, name⟩ := by
  rw [h.rows_addPermission, List.mem_append, List.mem_singleton]

theorem Intact.mem_addResource (h : c.Intact) {name : String} {x : Resource} :
    x ∈ (c.addResource name).2.resources.rows ↔
      x ∈ c.resources.rows ∨ x = ⟨⟨c.counter + 1⟩, name⟩ := by
  rw [h.rows_addResource, List.mem_append, List.mem_singleton]

theorem Intact.mem_addPair (h : c.Intact) {a : PermissionId} {b : ResourceId} {x : Pair} :
    x ∈ (c.addPair a b).2.pairs.rows ↔ x ∈ c.pairs.rows ∨ x = ⟨⟨c.counter + 1⟩, a, b⟩ := by
  rw [h.rows_addPair, List.mem_append, List.mem_singleton]

/-- What the counter has passed keeps its name. -/
theorem Intact.permissionIs_addPermission (h : c.Intact) {name : String} {id : PermissionId}
    (hid : id.number ≤ c.counter) :
    (c.addPermission name).2.PermissionIs id p ↔ c.PermissionIs id p := by
  constructor
  · rintro ⟨q, hq, rfl, hn⟩
    rcases h.mem_addPermission.mp hq with hq | rfl
    · exact ⟨q, hq, rfl, hn⟩
    · simp only at hid
      omega
  · rintro ⟨q, hq, hi, hn⟩
    exact ⟨q, h.mem_addPermission.mpr (.inl hq), hi, hn⟩

theorem Intact.resourceIs_addResource (h : c.Intact) {name : String} {id : ResourceId}
    (hid : id.number ≤ c.counter) :
    (c.addResource name).2.ResourceIs id r ↔ c.ResourceIs id r := by
  constructor
  · rintro ⟨t, ht, rfl, hn⟩
    rcases h.mem_addResource.mp ht with ht | rfl
    · exact ⟨t, ht, rfl, hn⟩
    · simp only at hid
      omega
  · rintro ⟨t, ht, hi, hn⟩
    exact ⟨t, h.mem_addResource.mpr (.inl ht), hi, hn⟩

theorem Intact.addPermission_grows (h : c.Intact) (name : String) :
    Grows c (c.addPermission name).2 :=
  ⟨fun _ hx => h.mem_addPermission.mpr (.inl hx), fun _ hx => hx, fun _ hx => hx, rfl,
    ⟨rfl, rfl, rfl, rfl, rfl, rfl, rfl⟩⟩

theorem Intact.addResource_grows (h : c.Intact) (name : String) :
    Grows c (c.addResource name).2 :=
  ⟨fun _ hx => hx, fun _ hx => h.mem_addResource.mpr (.inl hx), fun _ hx => hx, rfl,
    ⟨rfl, rfl, rfl, rfl, rfl, rfl, rfl⟩⟩

theorem ensurePermission_grows (h : c.Intact) (name : String) :
    Grows c (c.ensurePermission name).2 := by
  unfold ensurePermission
  split
  · exact .refl c
  · exact h.addPermission_grows name

theorem ensureResource_grows (h : c.Intact) (name : String) :
    Grows c (c.ensureResource name).2 := by
  unfold ensureResource
  split
  · exact .refl c
  · exact h.addResource_grows name

structure Ensured (c c' : Catalog) : Prop where
  grows : Grows c c'
  intact : c'.Intact
  sided : c'.Sided
  pairs : ∀ p r, c'.HasPair p r ↔ c.HasPair p r

theorem ensurePermission_ensured (h : c.Intact) (hs : c.Sided) (name : String) :
    Ensured c (c.ensurePermission name).2 := by
  have hsteps := ensurePermission_steps c name
  have hpairs : (c.ensurePermission name).2.pairs = c.pairs := by
    unfold ensurePermission
    split <;> rfl
  refine ⟨ensurePermission_grows h name, Steps.intact hsteps h,
    hs.of_le hpairs (Steps.extends hsteps h).counter_le, ?_⟩
  intro p r
  rw [hasPair_iff, hasPair_iff, hpairs]
  refine exists_congr fun x => and_congr_right fun hx => ?_
  unfold ensurePermission
  split
  · rfl
  · exact and_congr_left' (h.permissionIs_addPermission (hs x hx).1)

theorem ensureResource_ensured (h : c.Intact) (hs : c.Sided) (name : String) :
    Ensured c (c.ensureResource name).2 := by
  have hsteps := ensureResource_steps c name
  have hpairs : (c.ensureResource name).2.pairs = c.pairs := by
    unfold ensureResource
    split <;> rfl
  refine ⟨ensureResource_grows h name, Steps.intact hsteps h,
    hs.of_le hpairs (Steps.extends hsteps h).counter_le, ?_⟩
  intro p r
  rw [hasPair_iff, hasPair_iff, hpairs]
  refine exists_congr fun x => and_congr_right fun hx => ?_
  unfold ensureResource
  split
  · rfl
  · exact and_congr_right' (h.resourceIs_addResource (hs x hx).2)

/-- The permission made sure of is stored and has the name. -/
theorem ensurePermission_is (h : c.Intact) (name : String) :
    (c.ensurePermission name).1 ∈ (c.ensurePermission name).2.permissions.rows ∧
      (c.ensurePermission name).1.name = name := by
  unfold ensurePermission
  split
  · rename_i q hq
    exact ⟨List.mem_of_find?_eq_some hq, by simpa using List.find?_some hq⟩
  · exact ⟨h.mem_addPermission.mpr (.inr rfl), rfl⟩

theorem ensureResource_is (h : c.Intact) (name : String) :
    (c.ensureResource name).1 ∈ (c.ensureResource name).2.resources.rows ∧
      (c.ensureResource name).1.name = name := by
  unfold ensureResource
  split
  · rename_i t ht
    exact ⟨List.mem_of_find?_eq_some ht, by simpa using List.find?_some ht⟩
  · exact ⟨h.mem_addResource.mpr (.inr rfl), rfl⟩

theorem permissionIs_iff {q : Permission} (hq : q ∈ c.permissions.rows) :
    c.PermissionIs q.id p ↔ q.name = p := by
  constructor
  · rintro ⟨q', hq', hi, rfl⟩
    have : q' = q := Ledger.eq_of_number_eq hq' hq (congrArg Id.number hi)
    rw [this]
  · intro hn
    exact ⟨q, hq, rfl, hn⟩

theorem resourceIs_iff {t : Resource} (ht : t ∈ c.resources.rows) :
    c.ResourceIs t.id r ↔ t.name = r := by
  constructor
  · rintro ⟨t', ht', hi, rfl⟩
    have : t' = t := Ledger.eq_of_number_eq ht' ht (congrArg Id.number hi)
    rw [this]
  · intro hn
    exact ⟨t, ht, rfl, hn⟩

/-- A new pair of stored sides stands for their names. -/
theorem Intact.hasPair_addPair (h : c.Intact) {q : Permission} {t : Resource}
    (hq : q ∈ c.permissions.rows) (ht : t ∈ c.resources.rows) :
    (c.addPair q.id t.id).2.HasPair p r ↔ c.HasPair p r ∨ (p = q.name ∧ r = t.name) := by
  have hname : c.PermissionIs q.id p ∧ c.ResourceIs t.id r ↔ p = q.name ∧ r = t.name := by
    rw [permissionIs_iff hq, resourceIs_iff ht, eq_comm, @eq_comm _ t.name]
  rw [hasPair_iff, hasPair_iff, ← hname]
  constructor
  · rintro ⟨x, hx, hp, hr⟩
    rcases h.mem_addPair.mp hx with hx | rfl
    · exact .inl ⟨x, hx, hp, hr⟩
    · exact .inr ⟨hp, hr⟩
  · rintro (⟨x, hx, hp, hr⟩ | ⟨hp, hr⟩)
    · exact ⟨x, h.mem_addPair.mpr (.inl hx), hp, hr⟩
    · exact ⟨_, h.mem_addPair.mpr (.inr rfl), hp, hr⟩

theorem Intact.addPair_grows (h : c.Intact) (a : PermissionId) (b : ResourceId) :
    Grows c (c.addPair a b).2 :=
  ⟨fun _ hx => hx, fun _ hx => hx, fun _ hx => h.mem_addPair.mpr (.inl hx), rfl,
    ⟨rfl, rfl, rfl, rfl, rfl, rfl, rfl⟩⟩

/-- What making sure of the pair of two names always leaves behind: the pair besides what was
there. -/
structure MadePair (c c' : Catalog) (permission resource : String) : Prop where
  grows : Grows c c'
  intact : c'.Intact
  pair : c'.HasPair permission resource

/-- The pair exists afterwards and nothing is lost, even where sides of old pairs are missing. -/
theorem ensurePair_made (h : c.Intact) (permission resource : String) :
    MadePair c (c.ensurePair permission resource).2 permission resource := by
  have hi := Steps.intact (ensurePair_steps c permission resource) h
  have h₁ := ensurePermission_grows h permission
  have hi₁ := Steps.intact (ensurePermission_steps c permission) h
  have hq := ensurePermission_is h permission
  have h₂ := ensureResource_grows hi₁ resource
  have hi₂ := Steps.intact (ensureResource_steps _ resource) hi₁
  have ht := ensureResource_is hi₁ resource
  unfold ensurePair at hi ⊢
  dsimp only at hi ⊢
  generalize (c.ensurePermission permission).1 = q at *
  generalize (c.ensurePermission permission).2 = c₁ at *
  generalize (c₁.ensureResource resource).1 = t at *
  generalize (c₁.ensureResource resource).2 = c₂ at *
  obtain ⟨hq, rfl⟩ := hq
  obtain ⟨ht, rfl⟩ := ht
  have hq₂ := h₂.permissions q hq
  split
  -- a pair of these sides is there: it stands for the names already
  · rename_i x hx
    have hsides : x.permissionId = q.id ∧ x.resourceId = t.id := by
      simpa using List.find?_some hx
    refine ⟨h₁.trans h₂, hi₂, hasPair_iff.mpr ⟨x, List.mem_of_find?_eq_some hx, ?_, ?_⟩⟩
    · exact hsides.1 ▸ (permissionIs_iff hq₂).mpr rfl
    · exact hsides.2 ▸ (resourceIs_iff ht).mpr rfl
  · rename_i hn
    rw [hn] at hi
    refine ⟨(h₁.trans h₂).trans (hi₂.addPair_grows q.id t.id), hi, ?_⟩
    exact (hi₂.hasPair_addPair hq₂ ht).mpr (.inr ⟨rfl, rfl⟩)

structure EnsuredPair (c c' : Catalog) (permission resource : String) : Prop where
  grows : Grows c c'
  intact : c'.Intact
  sided : c'.Sided
  /-- The pair, and no other, stands for its names anew. -/
  pairs : ∀ p r, c'.HasPair p r ↔ c.HasPair p r ∨ (p = permission ∧ r = resource)

/-- Where no side is ahead of the counter the new pair is the only new one, for no old one comes to
life. -/
theorem ensurePair_ensured (h : c.Intact) (hs : c.Sided) (permission resource : String) :
    EnsuredPair c (c.ensurePair permission resource).2 permission resource := by
  have hmade := ensurePair_made h permission resource
  have h₁ := ensurePermission_ensured h hs permission
  have hq := ensurePermission_is h permission
  have h₂ := ensureResource_ensured h₁.intact h₁.sided resource
  have ht := ensureResource_is h₁.intact resource
  unfold ensurePair at hmade ⊢
  dsimp only at hmade ⊢
  generalize (c.ensurePermission permission).1 = q at *
  generalize (c.ensurePermission permission).2 = c₁ at *
  generalize (c₁.ensureResource resource).1 = t at *
  generalize (c₁.ensureResource resource).2 = c₂ at *
  obtain ⟨hq, rfl⟩ := hq
  obtain ⟨ht, rfl⟩ := ht
  have hq₂ := h₂.grows.permissions q hq
  have hback : ∀ p r, c₂.HasPair p r ↔ c.HasPair p r := fun p r =>
    (h₂.pairs p r).trans (h₁.pairs p r)
  split
  · rename_i x hx
    rw [hx] at hmade
    refine ⟨hmade.grows, hmade.intact, h₂.sided, ?_⟩
    intro p r
    rw [← hback]
    refine ⟨.inl, ?_⟩
    rintro (hh | ⟨rfl, rfl⟩)
    · exact hh
    · exact hmade.pair
  · rename_i hn
    rw [hn] at hmade
    refine ⟨hmade.grows, hmade.intact, ?_, ?_⟩
    · intro x hx
      rcases h₂.intact.mem_addPair.mp hx with hx | rfl
      · have := h₂.sided x hx
        exact ⟨Nat.le_succ_of_le this.1, Nat.le_succ_of_le this.2⟩
      · exact ⟨Nat.le_succ_of_le (h₂.intact.permission_le hq₂),
          Nat.le_succ_of_le (h₂.intact.resource_le ht)⟩
    · intro p r
      rw [h₂.intact.hasPair_addPair hq₂ ht, hback]

/-- The only element that satisfies the predicate is the first one found. -/
theorem find?_of_unique {α : Type} {f : α → Bool} {xs : List α} {x : α} (hx : x ∈ xs)
    (hf : f x = true) (unique : ∀ y ∈ xs, f y = true → y = x) : xs.find? f = some x := by
  cases h : xs.find? f with
  | none => exact absurd hf (by simpa using List.find?_eq_none.mp h x hx)
  | some y => exact congrArg some (unique y (List.mem_of_find?_eq_some h) (List.find?_some h))

theorem Intact.ensurePermission_eq (h : c.Intact) {q : Permission} (hq : q ∈ c.permissions.rows) :
    c.ensurePermission q.name = (q, c) := by
  have hfound : c.permissionNamed? q.name = some q := find?_of_unique hq (by simp)
    fun y hy hn => List.inj_on_of_nodup_map h.permission_names hy hq (by simpa using hn)
  unfold ensurePermission
  rw [hfound]

theorem Intact.ensureResource_eq (h : c.Intact) {t : Resource} (ht : t ∈ c.resources.rows) :
    c.ensureResource t.name = (t, c) := by
  have hfound : c.resourceNamed? t.name = some t := find?_of_unique ht (by simp)
    fun y hy hn => List.inj_on_of_nodup_map h.resource_names hy ht (by simpa using hn)
  unfold ensureResource
  rw [hfound]

theorem Intact.pair_eq (h : c.Intact) {x y : Pair} (hx : x ∈ c.pairs.rows) (hy : y ∈ c.pairs.rows)
    (hp : x.permissionId = y.permissionId) (hr : x.resourceId = y.resourceId) : x = y :=
  List.inj_on_of_nodup_map h.pair_sides hx hy (Prod.ext hp hr)

/-- Making sure of a pair that is there changes nothing. -/
theorem Intact.ensurePair_eq (h : c.Intact) (hh : c.HasPair p r) : (c.ensurePair p r).2 = c := by
  obtain ⟨x, hx, ⟨q, hq, hqi, rfl⟩, ⟨t, ht, hti, rfl⟩⟩ := hasPair_iff.mp hh
  have hfound : c.pairOf? q.id t.id = some x := by
    refine find?_of_unique hx (by simp [hqi, hti]) fun y hy hsides => ?_
    have hsides : y.permissionId = q.id ∧ y.resourceId = t.id := by simpa using hsides
    exact h.pair_eq hy hx (hsides.1.trans hqi) (hsides.2.trans hti)
  unfold ensurePair
  simp only [h.ensurePermission_eq hq, h.ensureResource_eq ht, hfound]

/-- No two pairs stand for the same names. -/
theorem Intact.namedPair_eq (h : c.Intact) {m n : NamedPair} (hm : m ∈ c.namedPairs)
    (hn : n ∈ c.namedPairs) (hp : m.permission = n.permission) (hr : m.resource = n.resource) :
    m = n := by
  obtain ⟨x, hx, ⟨q, hq, hqi, hqn⟩, ⟨t, ht, hti, htn⟩, hxi⟩ := mem_namedPairs.mp hm
  obtain ⟨y, hy, ⟨q', hq', hqi', hqn'⟩, ⟨t', ht', hti', htn'⟩, hyi⟩ := mem_namedPairs.mp hn
  have hqq : q = q' := List.inj_on_of_nodup_map h.permission_names hq hq'
    (hqn.trans (hp.trans hqn'.symm))
  have htt : t = t' := List.inj_on_of_nodup_map h.resource_names ht ht'
    (htn.trans (hr.trans htn'.symm))
  subst hqq htt
  have hxy : x = y := h.pair_eq hx hy (hqi.symm.trans hqi') (hti.symm.trans hti')
  subst hxy
  obtain ⟨_, _, _⟩ := m
  obtain ⟨_, _, _⟩ := n
  simp only at hp hr hxi hyi
  rw [hp, hr, hxi, hyi]

/-- A pair of the grown catalog whose names were stood for before is the pair that stood for
them. -/
theorem Grows.namedPair_old (h : Grows c c') (hi : c'.Intact) {n : NamedPair}
    (hn : n ∈ c'.namedPairs) (hh : c.HasPair n.permission n.resource) : n ∈ c.namedPairs := by
  obtain ⟨m, hm, hp, hr⟩ := hh
  exact hi.namedPair_eq (h.namedPairs hm) hn hp hr ▸ hm

end Turnstile.Catalog
