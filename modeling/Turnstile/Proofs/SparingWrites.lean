import Turnstile.Proofs.QuietUpkeep

namespace Turnstile
open Catalog

namespace Catalog
variable {c c' : Catalog} {role : RoleId} {name other : String} {n : NamedPair} {ids : IdSet .pair}

/-- The role of that identifier and name holds the pair, and the pair has both sides. -/
structure Holds (c : Catalog) (role : RoleId) (name : String) (n : NamedPair) : Prop where
  holder : ∃ r ∈ c.roles.rows, r.id = role ∧ r.name = name ∧ n.id ∈ r.pairIds.rows
  named : n ∈ c.namedPairs

namespace Holds
variable (h : c.Holds role name n)
include h

theorem mono (hroles : ∀ r ∈ c.roles.rows, r ∈ c'.roles.rows)
    (hnamed : n ∈ c.namedPairs → n ∈ c'.namedPairs) : c'.Holds role name n := by
  obtain ⟨r, hr, hholds⟩ := h.holder
  exact ⟨⟨r, hroles r hr, hholds⟩, hnamed h.named⟩

theorem grows (hg : Grows c c') : c'.Holds role name n := by
  refine h.mono ?_ hg.namedPairs
  rw [hg.roles]
  exact fun _ hr => hr

theorem sameGrants (hg : SameGrants c c') : c'.Holds role name n := by
  refine h.mono ?_ hg.mem_namedPairs.mpr
  rw [hg.roles]
  exact fun _ hr => hr

theorem ensureRole (hi : c.Intact) (other : String) : (c.ensureRole other).2.Holds role name n :=
  h.mono (fun _ hr => hi.mem_ensureRole.mpr (.inl hr))
    (ensureRole_samePairs c other).mem_namedPairs.mpr

theorem setRolePairs {id : RoleId} (hid : id ≠ role) (hset : c.setRolePairs id ids = .ok c') :
    c'.Holds role name n := by
  obtain ⟨_, old, hold, rfl⟩ := setRolePairs_ok hset
  obtain ⟨r, hr, hrole, hholds⟩ := h.holder
  refine ⟨⟨r, Ledger.mem_put.mpr (.inr ⟨hr, fun hnumber => hid ?_⟩), hrole, hholds⟩, h.named⟩
  rw [← id_of_role? hold, ← hrole]
  exact (Id.number_inj.mp hnumber).symm

/-- Cleaning takes only pairs without both sides. -/
theorem cleanPairs : c.cleanPairs.2.Holds role name n := by
  obtain ⟨r, hr, hrole, hname, hid⟩ := h.holder
  refine ⟨⟨stripRole c.danglingPairs r, ?_, hrole, hname, ?_⟩,
    mem_namedPairs_cleanPairs.mpr h.named⟩
  · unfold Catalog.cleanPairs
    rw [rows_deletePairs_roles]
    exact List.mem_map.mpr ⟨r, hr, rfl⟩
  · exact List.mem_filter.mpr ⟨hid, by simpa using named_notMem_danglingPairs h.named⟩

theorem giveRole_of_ne (hi : c.Intact) (hne : name ≠ other) :
    (c.giveRole other ids).Holds role name n := by
  obtain ⟨r, hr, hrole, hname, hid⟩ := h.holder
  refine ⟨⟨r, hi.mem_giveRole.mpr (.inr ⟨hr, fun heq => hne ?_⟩), hrole, hname, hid⟩,
    (giveRole_samePairs c other ids).mem_namedPairs.mpr h.named⟩
  have hsame : r = (c.ensureRole other).1 := Ledger.eq_of_number_eq
    (hi.mem_ensureRole.mpr (.inl hr)) (hi.mem_ensureRole.mpr (.inr rfl)) (congrArg Id.number heq)
  rw [← hname, hsame, ensureRole_name]

theorem giveRole (hi : c.Intact) (hid : n.id ∈ ids.rows) :
    (c.giveRole name ids).Holds role name n := by
  obtain ⟨r, hr, hrole, hname, _⟩ := h.holder
  have hfound : c.roleNamed? name = some r := hi.roleNamed?_eq_some.mpr ⟨hr, hname⟩
  have hmade : (c.ensureRole name).1 = r := by
    rw [Catalog.ensureRole, hfound]
  exact ⟨⟨_, hi.mem_giveRole.mpr (.inl rfl), hmade ▸ hrole, hmade ▸ hname, hid⟩,
    (giveRole_samePairs c name ids).mem_namedPairs.mpr h.named⟩

theorem giveRoles {gifts : List (String × IdSet .pair)} (hi : c.Intact)
    (hg : ∀ g ∈ gifts, c.Stores g.2) (hn : name ∉ gifts.map (·.1)) :
    (c.giveRoles gifts).Holds role name n := by
  induction gifts generalizing c with
  | nil => exact h
  | cons g gifts ih =>
    rw [List.map_cons, List.mem_cons, not_or] at hn
    obtain ⟨hne, hn⟩ := hn
    have hrest : ∀ g' ∈ gifts, (c.giveRole g.1 g.2).Stores g'.2 := fun g' hg' =>
      (hg g' (by simp [hg'])).giveRole _ _
    exact ih (h.giveRole_of_ne hi hne) (hi.giveRole (hg g (by simp))) hrest hn

/-- A role that others are merged into keeps its permissions on data. -/
theorem giveRole_sharedPairs (hi : c.Intact)
    (hdata : PermissionName.isOnData n.permission = true) :
    (c.giveRole name (c.sharedPairs name ids)).Holds role name n := by
  obtain ⟨r, hr, _, hname, hid⟩ := h.holder
  have howned : c.pairsOf? name = some r.pairIds := hi.pairsOf?_eq_some.mpr ⟨r, hr, hname, rfl⟩
  have hown : n.id ∈ ((c.pairsOf? name).getD .empty).rows := by
    rw [howned]
    exact hid
  have hdata : c.isDataPair n.id = true := isDataPair_iff.mpr ⟨n, h.named, rfl, hdata⟩
  exact h.giveRole hi (mem_sharedPairs.mpr (.inr ⟨hown, hdata⟩))

/-- A copy to the role has to merge if it is to keep what the role holds. -/
theorem copiedPairs {target : String} {merge : Bool} (hi : c.Intact)
    (ht : target ≠ name ∨ merge = true) (hdata : PermissionName.isOnData n.permission = true) :
    (c.giveRole target (Synchronizer.copiedPairs c target merge ids)).Holds role name n := by
  by_cases hne : name = target
  · subst hne
    obtain rfl := ht.resolve_left (· rfl)
    exact h.giveRole_sharedPairs hi hdata
  · exact h.giveRole_of_ne hi hne

end Holds
end Catalog

variable {c c' : Catalog} {role : RoleId} {name : String} {n : NamedPair}

/-- The write does not set the role's pairs, nor deletes pairs, permissions or resources. Cleaning
is no such deletion, for it takes only what stands for nothing. -/
def Write.Spares (role : RoleId) : Write → Prop
  | deletePairs _ | deletePermission _ | deleteResource _ => False
  | setRolePairs id _ => id ≠ role
  | _ => True

/-- The cases are the kinds of writes: those that could take the pair away are not sparing. -/
theorem Write.run_holds {w : Write} (h : w.run c = .ok c') (hi : c.Intact) (hw : w.Spares role)
    (hc : c.Holds role name n) : c'.Holds role name n := by
  cases w with
  | deletePairs | deletePermission | deleteResource => cases hw
  | insertPermission s =>
    simp only [run, Catalog.insertPermission] at h
    split at h <;> cases h
    exact hc.grows (hi.addPermission_grows s)
  | insertResource s =>
    simp only [run, Catalog.insertResource] at h
    split at h <;> cases h
    exact hc.grows (hi.addResource_grows s)
  | insertPair p r =>
    simp only [run, Catalog.insertPair] at h
    split at h <;> cases h
    exact hc.grows (hi.addPair_grows p r)
  | insertRole s =>
    have hmade : c' = (c.ensureRole s).2 := by
      simp only [run, Catalog.insertRole] at h
      split at h
      · cases h
      · rename_i hnone
        cases h
        rw [Catalog.ensureRole, hnone]
    exact hmade ▸ hc.ensureRole hi s
  | ensurePermission s => cases h; exact hc.grows (ensurePermission_grows hi s)
  | ensureResource s => cases h; exact hc.grows (ensureResource_grows hi s)
  | ensurePair p r => cases h; exact hc.grows (ensurePair_made hi p r).grows
  | ensureRole s => cases h; exact hc.ensureRole hi s
  | setRolePairs id ids => exact hc.setRolePairs hw h
  | cleanPairs => cases h; exact hc.cleanPairs
  | createMissingPairs =>
    cases h
    rw [hi.createMissingPairs_eq]
    exact hc.grows (ensurePairs_made hi _).grows
  | setDatabasePerm | setDatasourcePerms =>
    simp only [run, Catalog.setDatabasePerm, Catalog.setDatasourcePerms] at h
    split at h <;> cases h
    exact hc.sameGrants ⟨rfl, rfl, rfl, rfl, rfl⟩
  | _ => cases h; exact hc.sameGrants ⟨rfl, rfl, rfl, rfl, rfl⟩

abbrev SparingWrites (role : RoleId) : Catalog → Catalog → Prop := WriteChain (Write.Spares role)

namespace SparingWrites

theorem holds (h : SparingWrites role c c') (hi : c.Intact) (hc : c.Holds role name n) :
    c'.Holds role name n := by
  induction h with
  | refl => exact hc
  | tail hs hw ih =>
    obtain ⟨w, hspares, hrun⟩ := hw
    exact Write.run_holds hrun (Steps.intact (WriteChain.steps hs) hi) hspares ih

/-- What belongs to a save spares every role. -/
theorem of_saves (role : RoleId) (h : WriteChain Write.Saves c c') : SparingWrites role c c' := by
  refine h.mono fun w hw => ?_
  cases w with
  | ensurePair | putDatabase | putDatasource | setDatabasePerm | setDatasourcePerms => trivial
  | _ => cases hw

end SparingWrites

/-- What the hook does is done by writes that spare the role. -/
def Hook.Spares (hook : Hook) (role : RoleId) : Prop :=
  ∀ w c c', hook w c = .ok c' → SparingWrites role c c'

theorem runHooks_sparing {hooks : List Hook} {w : Written} (hh : ∀ hook ∈ hooks, hook.Spares role)
    (h : runHooks hooks w c = .ok c') : SparingWrites role c c' :=
  WriteChain.foldlM (fun hook hm c c' => hh hook hm w c c') h

/-- The hook that comes with the library spares every role. -/
theorem PermissionSync.hook_spares (role : RoleId) : Hook.Spares hook role := by
  intro w c c' h
  exact .of_saves role (hook_chain h)

theorem Chore.run_sparing {s s' : Store} {w : Chore} (hh : ∀ hook ∈ s.hooks, hook.Spares role)
    (h : w.run s = .ok s') : ∃ c', SparingWrites role s.catalog c' ∧
      s' = { s with catalog := c' } := by
  cases w with
  | cleanPairs =>
    obtain ⟨_, c', hc, rfl⟩ := transact_snd_eq_ok.mp h
    exact ⟨c', .single (w := .cleanPairs) trivial hc, rfl⟩
  | createMissingPairs =>
    obtain ⟨_, c', hc, rfl⟩ := transact_snd_eq_ok.mp h
    exact ⟨c', .single (w := .createMissingPairs) trivial hc, rfl⟩
  | ensureCustomPairs =>
    obtain ⟨_, c', hc, rfl⟩ := transact_snd_eq_ok.mp h
    have hmade : s.catalog.ensureCustomPairs = c' := by
      simpa only [Except.map, Except.ok.injEq] using hc
    have hchain : WriteChain Write.Saves s.catalog s.catalog.ensureCustomPairs :=
      ensurePairs_chain customPairs s.catalog
    exact ⟨c', hmade ▸ .of_saves role hchain, rfl⟩
  | saveDatabase row =>
    obtain ⟨_, c', hc, rfl⟩ := transact_snd_eq_ok.mp h
    rw [map_unit_snd] at hc
    have hput := SparingWrites.of_saves role (putDatabase_chain s.catalog row)
    exact ⟨c', hput.trans (runHooks_sparing hh hc), rfl⟩
  | saveDatasource row =>
    obtain ⟨_, c', hc, rfl⟩ := transact_snd_eq_ok.mp h
    rw [map_unit_snd] at hc
    have hput := SparingWrites.of_saves role (putDatasource_chain s.catalog row)
    exact ⟨c', hput.trans (runHooks_sparing hh hc), rfl⟩

end Turnstile
