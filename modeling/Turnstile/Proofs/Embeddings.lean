import Turnstile.Proofs.GuestGrants
import Turnstile.Proofs.PairUpkeep
import Turnstile.Proofs.Transactions

namespace Turnstile
open Catalog
variable {c c' : Catalog} {e row : Embedding} {u : Uuid}

namespace Catalog

/-- No dashboard has two embeddings, and what is found by uuid is what is found by dashboard. -/
structure EmbedsOnce (c : Catalog) : Prop where
  once : (c.embeddings.rows.map (·.dashboardId)).Nodup
  agree : ∀ u e, c.embedding? u = some e ↔ c.embeddingOf? e.dashboardId = some e ∧ e.uuid = u

theorem embedding?_eq_some_iff :
    c.embedding? u = some e ↔ e ∈ c.embeddings.rows ∧ e.uuid = u :=
  c.ownIds.embeddings u e

/-- Of the embeddings of a dashboard the one with the smallest uuid is found. -/
theorem embeddingOf?_least (he : e ∈ c.embeddings.rows) :
    ∃ e', c.embeddingOf? e.dashboardId = some e' ∧ e'.uuid.number ≤ e.uuid.number := by
  cases hfound : c.embeddingOf? e.dashboardId with
  | none => exact absurd (List.find?_eq_none.mp hfound e he) (by simp)
  | some e' =>
    refine ⟨e', rfl, ?_⟩
    obtain ⟨_, before, after, hrows, hothers⟩ := List.find?_eq_some_iff_append.mp hfound
    have hasc := c.embeddings.ascending
    rw [hrows] at he hasc
    rcases List.mem_append.mp he with he | he
    · exact absurd (hothers e he) (by simp)
    · rcases List.mem_cons.mp he with rfl | he
      · exact Nat.le_refl _
      · have hbelow := (List.pairwise_cons.mp (List.pairwise_append.mp hasc).2.1).1 e he
        exact Nat.le_of_lt hbelow

/-- That each uuid has one row is built into the ledger; the other half is that no two rows are for
one dashboard. -/
theorem embedsOnce_iff : c.EmbedsOnce ↔
    ∀ e ∈ c.embeddings.rows, ∀ e' ∈ c.embeddings.rows, e.dashboardId = e'.dashboardId → e = e' := by
  constructor
  · intro h e he e' he' hsame
    exact List.inj_on_of_nodup_map h.once he he' hsame
  · intro hone
    constructor
    · have hrows : c.embeddings.rows.Nodup :=
        c.embeddings.ascending.imp fun hlt heq =>
          absurd (congrArg Filed.number heq) (Nat.ne_of_lt hlt)
      exact hrows.map_on fun e he e' he' => hone e he e' he'
    · intro u e
      constructor
      · intro hfound
        obtain ⟨he, rfl⟩ := embedding?_eq_some_iff.mp hfound
        obtain ⟨e', hfound', _⟩ := embeddingOf?_least he
        obtain ⟨hfirst, hsame⟩ := embeddingOf?_eq_some hfound'
        obtain rfl := hone e' (embedding?_eq_some_iff.mp hfirst).1 e he hsame
        exact ⟨hfound', rfl⟩
      · rintro ⟨hfound, rfl⟩
        exact (embeddingOf?_eq_some hfound).1

/-- Embedding a dashboard leaves it with one embedding if it had none but that of the same uuid. -/
theorem EmbedsOnce.putEmbedding_iff (h : c.EmbedsOnce) : (c.putEmbedding row).EmbedsOnce ↔
    ∀ e, c.embeddingOf? row.dashboardId = some e → e.uuid = row.uuid := by
  rw [embedsOnce_iff]
  constructor
  · intro hone e hfound
    obtain ⟨hfound, hsame⟩ := embeddingOf?_eq_some hfound
    by_contra hne
    have hkept : e ∈ (c.putEmbedding row).embeddings.rows := Ledger.mem_put.mpr
      (.inr ⟨(embedding?_eq_some_iff.mp hfound).1, fun hn => hne (Uuid.eq_of_number _ _ hn)⟩)
    exact hne (congrArg _ (hone e hkept row (Ledger.mem_put.mpr (.inl rfl)) hsame))
  · intro hfree
    -- an old embedding of the same dashboard has the uuid of the new one, and gave way to it
    have hnew : ∀ e ∈ c.embeddings.rows, Filed.number e ≠ Filed.number row →
        e.dashboardId ≠ row.dashboardId := by
      intro e he hne hsame
      have hfound := ((h.agree e.uuid e).mp (embedding?_eq_some_iff.mpr ⟨he, rfl⟩)).1
      exact hne (congrArg Uuid.number (hfree e (hsame ▸ hfound)))
    intro e he e' he' hsame
    rcases Ledger.mem_put.mp he with heq | ⟨hold, hne⟩ <;>
      rcases Ledger.mem_put.mp he' with heq' | ⟨hold', hne'⟩
    · exact heq.trans heq'.symm
    · exact absurd (hsame.symm.trans (congrArg _ heq)) (hnew e' hold' hne')
    · exact absurd (hsame.trans (congrArg _ heq')) (hnew e hold hne)
    · exact embedsOnce_iff.mp h e hold e' hold' hsame

end Catalog

namespace Write

def embedding? : Write → Option Embedding
  | putEmbedding row => some row
  | _ => none

/-- The embedding that some writes stored last under a uuid. -/
def lastEmbedding? (ws : List Write) (u : Uuid) : Option Embedding :=
  (ws.filterMap embedding?).reverse.find? (·.uuid == u)

/-- Of all writes only the storing of an embedding changes embeddings. -/
theorem run_embeddings {w : Write} (h : w.run c = .ok c') (hi : c.Intact) :
    c'.embeddings = w.embedding?.elim c.embeddings c.embeddings.put := by
  cases w with
  | ensurePermission s => cases h; exact (ensurePermission_grows hi s).entities.embeddings
  | ensureResource s => cases h; exact (ensureResource_grows hi s).entities.embeddings
  | ensurePair p r => cases h; exact (ensurePair_made hi p r).grows.entities.embeddings
  | ensureRole s => cases h; exact (ensureRole_samePairs c s).entities.embeddings
  | setRolePairs id ids => obtain ⟨_, _, _, rfl⟩ := setRolePairs_ok h; rfl
  | createMissingPairs =>
    cases h
    rw [hi.createMissingPairs_eq]
    exact (ensurePairs_made hi _).grows.entities.embeddings
  | insertPermission | insertResource | insertPair | insertRole | setDatabasePerm
  | setDatasourcePerms =>
    simp only [run, Catalog.insertPermission, Catalog.insertResource, Catalog.insertPair,
      Catalog.insertRole, Catalog.setDatabasePerm, Catalog.setDatasourcePerms] at h
    split at h <;> cases h
    rfl
  | _ => cases h; rfl

theorem apply_embeddings (hi : c.Intact) (w : Write) :
    (w.apply c).embeddings = w.embedding?.elim c.embeddings c.embeddings.put := by
  unfold apply
  cases hrun : w.run c with
  | error err =>
    cases w with
    | putEmbedding row => cases hrun
    | _ => rfl
  | ok d => exact run_embeddings hrun hi

/-- What is found under a uuid changes only by a write that stores an embedding under it. -/
theorem apply_embedding? (hi : c.Intact) (w : Write) (u : Uuid) :
    (w.apply c).embedding? u = (w.embedding?.filter (·.uuid == u)).or (c.embedding? u) := by
  simp only [Catalog.embedding?, apply_embeddings hi]
  cases w.embedding? with
  | none => rfl
  | some row =>
    rw [Option.elim_some, Ledger.find?_put]
    by_cases hu : row.uuid = u
    · simp [hu, Option.filter, Filed.number]
    · have hn : u.number ≠ row.uuid.number := fun hn => hu (Uuid.eq_of_number _ _ hn.symm)
      simp [hu, hn, Option.filter, Filed.number]

/-- Under each uuid stands what was last stored there. -/
theorem applyAll_embedding? (hi : c.Intact) (ws : List Write) (u : Uuid) :
    (ws.foldl apply c).embedding? u = (lastEmbedding? ws u).or (c.embedding? u) := by
  induction ws generalizing c with
  | nil => rfl
  | cons w ws ih =>
    rw [List.foldl_cons, ih (Steps.intact (apply_steps c w) hi), apply_embedding? hi,
      ← Option.or_assoc]
    congr 1
    cases hw : w.embedding? with
    | none => simp [lastEmbedding?, hw]
    | some row =>
      simp only [lastEmbedding?, List.filterMap_cons, hw, List.reverse_cons, List.find?_append]
      by_cases hu : row.uuid = u <;> simp [hu, Option.filter]

end Write

namespace Store

/-- The writes of a transaction that come to count. -/
def kept (s : Store) (t : Transaction) : List Write :=
  if s.poisoned then []
  else match t.ending s.catalog with
    | .commit => t.writes s.catalog
    | _ => []

/-- The writes of all transactions that come to count, in order. -/
def keptAll : Store → List Transaction → List Write
  | _, [] => []
  | s, t :: ts => s.kept t ++ (s.perform t).keptAll ts

theorem perform_eq_kept (s : Store) (t : Transaction) :
    (s.perform t).catalog = (s.kept t).foldl Write.apply s.catalog := by
  unfold perform kept transact read
  cases hending : t.ending s.catalog with
  | breakOff => cases s.poisoned <;> rfl
  | refuse err => cases hp : s.poisoned <;> simp [Transaction.body, hending]
  | commit => cases hp : s.poisoned <;> simp [Transaction.body, hending]

/-- A store holds what the writes that count made of the catalog it started with. -/
theorem performAll_eq_kept (s : Store) (ts : List Transaction) :
    (ts.foldl perform s).catalog = (s.keptAll ts).foldl Write.apply s.catalog := by
  induction ts generalizing s with
  | nil => rfl
  | cons t ts ih => rw [List.foldl_cons, ih, keptAll, List.foldl_append, perform_eq_kept]

/-- What is found under a uuid is what was stored under it last, by whichever client. -/
theorem life_embedding? (hooks : List Hook) (ts : List Transaction) (u : Uuid) :
    (life hooks ts).catalog.embedding? u =
      Write.lastEmbedding? (keptAll ⟨.empty, hooks, false⟩ ts) u := by
  rw [life, performAll_eq_kept, Write.applyAll_embedding? intact_empty]
  exact Option.or_none

end Store

/-- At every moment of a store's life each uuid stands for the embedding that was last stored under
it, and of the embeddings of a dashboard the one with the smallest uuid is found. So no dashboard
has two embeddings and both ways to look one up agree just if none was last stored under two uuids;
and of the writes only one that embeds a dashboard under a new uuid, while another has it, ends
that. -/
theorem embeds_once_iff (hooks : List Hook) (ts : List Transaction) :
    let c := (Store.life hooks ts).catalog
    let stored := Write.lastEmbedding? (Store.keptAll ⟨.empty, hooks, false⟩ ts)
    (∀ u, c.embedding? u = stored u) ∧
    (∀ u e, c.embedding? u = some e → ∃ e', c.embeddingOf? e.dashboardId = some e' ∧
      c.embedding? e'.uuid = some e' ∧ e'.dashboardId = e.dashboardId ∧
      e'.uuid.number ≤ u.number) ∧
    (c.EmbedsOnce ↔ ∀ u u' e e', stored u = some e → stored u' = some e' →
      e.dashboardId = e'.dashboardId → u = u') ∧
    (c.EmbedsOnce → ∀ w : Write, (w.apply c).EmbedsOnce ↔
      ∀ row, w = .putEmbedding row → ∀ e, c.embeddingOf? row.dashboardId = some e →
        e.uuid = row.uuid) := by
  intro c stored
  have hstored : ∀ u, c.embedding? u = stored u := Store.life_embedding? hooks ts
  have hi : c.Intact := Store.life_intact hooks ts
  refine ⟨hstored, ?_, ?_, ?_⟩
  · intro u e hfound
    obtain ⟨he, rfl⟩ := embedding?_eq_some_iff.mp hfound
    obtain ⟨e', hfound', hle⟩ := embeddingOf?_least he
    obtain ⟨hfirst, hsame⟩ := embeddingOf?_eq_some hfound'
    exact ⟨e', hfound', hfirst, hsame, hle⟩
  · simp only [← hstored, embedding?_eq_some_iff, embedsOnce_iff]
    constructor
    · rintro hone u u' e e' ⟨he, rfl⟩ ⟨he', rfl⟩ hsame
      rw [hone e he e' he' hsame]
    · intro hone e he e' he' hsame
      have huuid := hone _ _ e e' ⟨he, rfl⟩ ⟨he', rfl⟩ hsame
      exact Ledger.eq_of_number_eq he he' (congrArg Uuid.number huuid)
  · intro hc w
    have hkept : w.embedding? = none → (w.apply c).EmbedsOnce := by
      intro hw
      rw [embedsOnce_iff, Write.apply_embeddings hi, hw]
      exact embedsOnce_iff.mp hc
    cases w with
    | putEmbedding row =>
      simp only [Write.putEmbedding.injEq, forall_eq']
      exact hc.putEmbedding_iff
    | _ => exact ⟨fun _ _ hput => (nomatch hput), fun _ => hkept rfl⟩

/-- A uuid that moves to another dashboard leaves its first one free for another uuid. -/
theorem left_dashboard_embeds_once :
    let c := (Store.life [] [⟨fun _ => [.putEmbedding ⟨⟨1⟩, ⟨7⟩⟩, .putEmbedding ⟨⟨1⟩, ⟨8⟩⟩],
      fun _ => .commit⟩]).catalog
    c.EmbedsOnce ∧ ((Write.putEmbedding ⟨⟨2⟩, ⟨7⟩⟩).apply c).EmbedsOnce := by
  intro c
  have hc : c.EmbedsOnce := embedsOnce_iff.mpr (by decide +kernel)
  have hleft : c.embeddingOf? ⟨7⟩ = none := by decide +kernel
  refine ⟨hc, ((embeds_once_iff [] _).2.2.2 hc _).mpr ?_⟩
  rintro row hput e hfound
  cases hput
  rw [hleft] at hfound
  cases hfound

/-- Two uuids for one dashboard: the second is found for it, the first is not. -/
theorem dashboard_embedded_twice :
    let ts : List Transaction := [⟨fun _ => [.putEmbedding ⟨⟨2⟩, ⟨7⟩⟩], fun _ => .commit⟩,
      ⟨fun _ => [.putEmbedding ⟨⟨1⟩, ⟨7⟩⟩], fun _ => .commit⟩]
    let c := (Store.life [] ts).catalog
    ¬ (c.embeddings.rows.map (·.dashboardId)).Nodup ∧ c.embedding? ⟨2⟩ = some ⟨⟨2⟩, ⟨7⟩⟩ ∧
      c.embeddingOf? ⟨7⟩ = some ⟨⟨1⟩, ⟨7⟩⟩ := by
  decide +kernel

end Turnstile
