import Turnstile.Proofs.SparingWrites
import Turnstile.Proofs.AccessChecks

namespace Turnstile
open Catalog
variable {c d : Catalog} {role : RoleId} {held : List PairId}

namespace Catalog

/-- The sides of a stored pair are from the counter, so whatever stands for them later did then. -/
theorem Extends.resolve?_eq_none (h : Extends c d) (hs : c.Sided) {x : Pair}
    (hx : x ∈ c.pairs.rows) (hnone : c.resolve? x = none) : d.resolve? x = none := by
  obtain ⟨hp, hr⟩ := hs x hx
  rw [Option.eq_none_iff_forall_ne_some] at hnone ⊢
  intro n hn
  obtain ⟨⟨q, hq, hqid, hqname⟩, ⟨t, ht, htid, htname⟩, hid⟩ := resolve?_eq_some.mp hn
  have hqold := h.old (.permission q) (mem_counted_permission.mpr hq)
    (show q.id.number ≤ c.counter from hqid ▸ hp)
  have htold := h.old (.resource t) (mem_counted_resource.mpr ht)
    (show t.id.number ≤ c.counter from htid ▸ hr)
  refine hnone n (resolve?_eq_some.mpr ⟨?_, ?_, hid⟩)
  · exact ⟨q, mem_counted_permission.mp hqold, hqid, hqname⟩
  · exact ⟨t, mem_counted_resource.mp htold, htid, htname⟩

/-- A pair that is stored keeps its identifier for itself. -/
theorem Extends.pair_eq (h : Extends c d) (hi : c.Intact) {x y : Pair} (hx : x ∈ c.pairs.rows)
    (hy : y ∈ d.pairs.rows) (hid : y.id = x.id) : y = x := by
  have hold := h.old (.pair y) (mem_counted_pair.mpr hy)
    (show y.id.number ≤ c.counter from hid ▸ hi.pair_le hx)
  exact Ledger.eq_of_number_eq (mem_counted_pair.mp hold) hx (congrArg Id.number hid)

/-- A pair that dangles never stands for names again, whether it is cleaned away or not. -/
theorem Extends.namesOf?_eq_none (h : Extends c d) (hc : c.Sound) {id : PairId}
    (hid : id ∈ c.danglingPairs) : d.namesOf? id = none := by
  obtain ⟨x, hx, hnone, rfl⟩ := mem_danglingPairs.mp hid
  unfold namesOf?
  cases hy : d.pair? x.id with
  | none => rfl
  | some y =>
    obtain ⟨hy, hyid⟩ := (d.ownIds.pairs x.id y).mp hy
    obtain rfl := h.pair_eq hc.intact hx hy hyid
    rw [Option.bind_some, h.resolve?_eq_none hc.sided hx hnone]
    rfl

/-- The role of that identifier, if there is one, holds none but the listed pairs. -/
def HoldsOnly (c : Catalog) (role : RoleId) (held : List PairId) : Prop :=
  ∀ r ∈ c.roles.rows, r.id = role → ∀ id ∈ r.pairIds.rows, id ∈ held

namespace HoldsOnly
variable (h : c.HoldsOnly role held)
include h

theorem of_roles (hroles : d.roles = c.roles) : d.HoldsOnly role held := by
  unfold HoldsOnly
  rw [hroles]
  exact h

theorem ensureRole (hi : c.Intact) (name : String) : (c.ensureRole name).2.HoldsOnly role held := by
  intro r hr hrole
  rcases hi.mem_ensureRole.mp hr with hr | rfl
  · exact h r hr hrole
  · cases hfound : c.roleNamed? name with
    | none =>
      -- a new role holds nothing
      rw [ensureRole_pairIds, pairsOf?, hfound]
      intro id hid
      cases hid
    | some old =>
      have hsame : (c.ensureRole name).1 = old := by rw [Catalog.ensureRole, hfound]
      rw [hsame] at hrole ⊢
      exact h old (List.mem_of_find?_eq_some hfound) hrole

theorem deletePairs (ids : List PairId) : (c.deletePairs ids).2.HoldsOnly role held := by
  intro r hr hrole id hid
  rw [rows_deletePairs_roles] at hr
  obtain ⟨old, hold, rfl⟩ := List.mem_map.mp hr
  exact h old hold hrole id (List.mem_filter.mp hid).1

theorem setRolePairs {id : RoleId} {ids : IdSet .pair}
    (hgives : id = role → ∀ k ∈ ids.rows, k ∈ held) (hset : c.setRolePairs id ids = .ok d) :
    d.HoldsOnly role held := by
  obtain ⟨_, old, hold, rfl⟩ := setRolePairs_ok hset
  intro r hr hrole
  rcases Ledger.mem_put.mp hr with rfl | ⟨hr, _⟩
  · exact hgives ((id_of_role? hold).symm.trans hrole)
  · exact h r hr hrole

end HoldsOnly
end Catalog

/-- The write does not give the role a pair that is not listed. -/
def Write.GivesOnly (role : RoleId) (held : List PairId) : Write → Prop
  | setRolePairs id ids => id = role → ∀ k ∈ ids.rows, k ∈ held
  | _ => True

theorem Write.Spares.givesOnly {w : Write} (h : w.Spares role) : w.GivesOnly role held := by
  cases w with
  | setRolePairs id ids => exact fun hid => absurd hid h
  | _ => trivial

/-- A write changes what the role holds only if it sets its pairs or deletes some. -/
theorem Write.run_holdsOnly {w : Write} (h : w.run c = .ok d) (hi : c.Intact)
    (hw : w.GivesOnly role held) (hc : c.HoldsOnly role held) : d.HoldsOnly role held := by
  cases w with
  | setRolePairs id ids => exact hc.setRolePairs hw h
  | ensureRole s => cases h; exact hc.ensureRole hi s
  | deletePairs ids => cases h; exact hc.deletePairs ids
  | cleanPairs => cases h; exact hc.deletePairs _
  | insertRole s =>
    simp only [run, Catalog.insertRole] at h
    split at h
    · cases h
    · rename_i hnone
      have hmade := hc.ensureRole hi s
      rw [Catalog.ensureRole, hnone] at hmade
      cases h
      exact hmade
  | ensurePermission s => cases h; exact hc.of_roles (ensurePermission_grows hi s).roles
  | ensureResource s => cases h; exact hc.of_roles (ensureResource_grows hi s).roles
  | ensurePair p r => cases h; exact hc.of_roles (ensurePair_made hi p r).grows.roles
  | createMissingPairs =>
    cases h
    rw [hi.createMissingPairs_eq]
    exact hc.of_roles (ensurePairs_made hi _).grows.roles
  | insertPermission | insertResource | insertPair | setDatabasePerm | setDatasourcePerms =>
    simp only [run, Catalog.insertPermission, Catalog.insertResource, Catalog.insertPair,
      Catalog.setDatabasePerm, Catalog.setDatasourcePerms] at h
    split at h <;> cases h
    exact hc.of_roles rfl
  | _ => cases h; exact hc.of_roles rfl

theorem WriteChain.holdsOnly (h : WriteChain (Write.GivesOnly role held) c d) (hi : c.Intact)
    (hc : c.HoldsOnly role held) : d.HoldsOnly role held := by
  induction h with
  | refl => exact hc
  | tail hs hw ih =>
    obtain ⟨w, hgives, hrun⟩ := hw
    exact Write.run_holdsOnly hrun (Steps.intact (WriteChain.steps hs) hi) hgives ih

/-- All writes that a client can ask for in the turn are of one kind. -/
def Turn.Asks (kind : Write → Prop) : Turn → Prop
  | transaction t => ∀ c, ∀ w ∈ t.writes c, kind w
  | chore _ => True

namespace Store
variable {kind : Write → Prop} {s : Store}

theorem take_hooks (s : Store) (t : Turn) : (s.take t).hooks = s.hooks := by
  cases t with
  | transaction t => exact s.perform_hooks t
  | chore w =>
    simp only [take]
    split
    · rename_i s' hs
      cases w
      all_goals
        obtain ⟨_, c', _, rfl⟩ := Chore.transact_snd_eq_ok.mp hs
        rfl
    · rfl

theorem take_chain (hkind : ∀ w : Write, w.Spares role → kind w)
    (hh : s.hooks = standard.hooks) {t : Turn} (ht : t.Asks kind) :
    WriteChain kind s.catalog (s.take t).catalog := by
  cases t with
  | transaction t =>
    rcases s.perform_catalog t with hc | hc
    · simp only [take, hc]
      exact .refl
    · simp only [take, hc]
      exact WriteChain.applyAll (ht s.catalog) s.catalog
  | chore w =>
    simp only [take]
    split
    · rename_i s' hs
      have hspares : ∀ hook ∈ s.hooks, hook.Spares role := by
        intro hook hm
        rw [hh] at hm
        obtain rfl := List.mem_singleton.mp hm
        exact PermissionSync.hook_spares role
      obtain ⟨c, hc, rfl⟩ := Chore.run_sparing hspares hs
      exact hc.mono hkind
    · exact .refl

theorem takeAll_chain (hkind : ∀ w : Write, w.Spares role → kind w)
    (hh : s.hooks = standard.hooks) {ts : List Turn} (hts : ∀ t ∈ ts, t.Asks kind) :
    WriteChain kind s.catalog (ts.foldl take s).catalog := by
  induction ts generalizing s with
  | nil => exact .refl
  | cons t ts ih =>
    have hfirst := take_chain hkind hh (hts t (by simp))
    have hrest := ih ((s.take_hooks t).trans hh) fun t' ht' => hts t' (by simp [ht'])
    exact hfirst.trans hrest

end Store

/-- Take a moment of a store whose pairs were all made by the names of their sides, be it in the
middle of a transaction that goes on with `rest` and commits, and a pair that has lost a side by
then. Whatever is written later, the pair never has both sides again, and no other pair gets its
identifier. So a role that holds only such pairs stands for no names, and gives none to those who
have no other role, until its pairs are set to others. Cleaning makes no difference. -/
theorem revoked_grant_stays_revoked (earlier later : List Turn) (begun rest : List Write)
    (hearlier : ∀ t ∈ earlier, t.NamesSides) (hbegun : ∀ p r, .insertPair p r ∉ begun) :
    let s := earlier.foldl Store.take Store.standard
    let c := begun.foldl Write.apply s.catalog
    let d := (later.foldl Store.take { s with catalog := rest.foldl Write.apply c }).catalog
    (∀ x ∈ c.pairs.rows, c.resolve? x = none →
      d.resolve? x = none ∧ ∀ y ∈ d.pairs.rows, y.id = x.id → y = x) ∧
    ∀ role ∈ c.roles.rows, (∀ id ∈ role.pairIds.rows, id ∈ c.danglingPairs) →
      (∀ w ∈ rest, w.GivesOnly role.id c.danglingPairs) →
      (∀ t ∈ later, t.Asks (Write.GivesOnly role.id c.danglingPairs)) →
      ∀ (settings : AccessSettings) (principal : Principal) (extract : Extractor),
        let v : Viewer := ⟨d, settings, principal, extract⟩
        (∀ id ∈ v.roleIds, id = role.id) → v.pairs = [] := by
  intro s c d
  have hs : s.Orderly := Store.standard_orderly.takeAll hearlier
  have hc : c.Sound := Write.applyAll_sound hs.sound hbegun
  have hchain : ∀ {kind : Write → Prop} (role : RoleId), (∀ w : Write, w.Spares role → kind w) →
      (∀ w ∈ rest, kind w) → (∀ t ∈ later, t.Asks kind) → WriteChain kind c d := by
    intro kind role hkind hrest hlater
    have hgoes : WriteChain kind (rest.foldl Write.apply c) d :=
      Store.takeAll_chain (s := { s with catalog := rest.foldl Write.apply c }) hkind hs.hooks hlater
    exact (WriteChain.applyAll hrest c).trans hgoes
  have hextends : Extends c d := by
    have hany : ∀ t ∈ later, t.Asks fun _ => True := by
      intro t _
      cases t <;> simp [Turn.Asks]
    have hwrites := hchain default (fun _ _ => trivial) (fun _ _ => trivial) hany
    exact Steps.extends hwrites.steps hc.intact
  constructor
  · intro x hx hnone
    exact ⟨hextends.resolve?_eq_none hc.sided hx hnone,
      fun y hy hid => hextends.pair_eq hc.intact hx hy hid⟩
  · intro role hrole hdangling hrest hlater settings principal extract v hids
    have honly : c.HoldsOnly role.id c.danglingPairs := by
      intro r hr hid
      obtain rfl : r = role := Ledger.eq_of_number_eq hr hrole (congrArg Id.number hid)
      exact hdangling
    have hheld : d.HoldsOnly role.id c.danglingPairs :=
      (hchain role.id (fun _ => Write.Spares.givesOnly) hrest hlater).holdsOnly hc.intact honly
    rw [List.eq_nil_iff_forall_not_mem]
    intro names hnames
    obtain ⟨r, hr, id, hid, hnamed⟩ := Viewer.mem_pairs.mp hnames
    obtain ⟨k, hk, hfound⟩ := List.mem_filterMap.mp hr
    obtain ⟨hr, hrk⟩ := (d.ownIds.roles k r).mp hfound
    have hlost := hextends.namesOf?_eq_none hc (hheld r hr (hrk.trans (hids k hk)) id hid)
    rw [hlost] at hnamed
    cases hnamed

def dismissal : List Write :=
  [.ensurePair "can_edit" "Chart", .ensureRole "Editor", .setRolePairs ⟨4⟩ (.ofIds [⟨3⟩]),
    .deletePermission ⟨1⟩]

def reissue : List Write := [.insertPermission "can_edit", .ensurePair "can_edit" "Chart"]

/-- An editor may not edit when there is a pair of the old names again. -/
theorem editor_stays_dismissed :
    let dismissed := dismissal.foldl Write.apply Store.standard.catalog
    let reissued := reissue.foldl Write.apply dismissed
    let d := (Store.take { Store.standard with catalog := reissued } (.chore .cleanPairs)).catalog
    dismissed.danglingPairs = [⟨3⟩] ∧ d.namedPairs = [⟨⟨6⟩, "can_edit", "Chart"⟩] ∧
      Viewer.pairs ⟨d, .standard, .user ⟨1⟩ [⟨4⟩], .blank⟩ = [] := by
  have hlost := (revoked_grant_stays_revoked [] [.chore .cleanPairs] dismissal reissue (by simp)
    (by simp [dismissal])).2 ⟨⟨4⟩, "Editor", .ofIds [⟨3⟩]⟩ (by decide +kernel) (by decide +kernel)
  refine ⟨by decide +kernel, by decide +kernel, ?_⟩
  refine hlost ?_ ?_ .standard (.user ⟨1⟩ [⟨4⟩]) .blank ?_
  · simp [reissue, Write.GivesOnly]
  · simp [Turn.Asks]
  · simp [Viewer.roleIds]

end Turnstile
