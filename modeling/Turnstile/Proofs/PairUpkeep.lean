import Turnstile.Proofs.Holdings

namespace Turnstile.Catalog
variable {c c' : Catalog} {p r name : String} {ws known : List (String × String)}

/-- Makes sure of all pairs of the given names, permission first. -/
def ensurePairs (c : Catalog) (ws : List (String × String)) : Catalog :=
  ws.foldl (fun c w => (c.ensurePair w.1 w.2).2) c

theorem ensurePairs_cons (c : Catalog) (w : String × String) (ws : List (String × String)) :
    c.ensurePairs (w :: ws) = (c.ensurePair w.1 w.2).2.ensurePairs ws := rfl

structure MadePairs (c c' : Catalog) (ws : List (String × String)) : Prop where
  grows : Grows c c'
  intact : c'.Intact
  pairs : ∀ w ∈ ws, c'.HasPair w.1 w.2

theorem ensurePairs_made (h : c.Intact) (ws : List (String × String)) :
    MadePairs c (c.ensurePairs ws) ws := by
  induction ws generalizing c with
  | nil => exact ⟨.refl c, h, by simp⟩
  | cons w ws ih =>
    have hw := ensurePair_made h w.1 w.2
    have hws := ih hw.intact
    refine ⟨hw.grows.trans hws.grows, hws.intact, fun v hv => ?_⟩
    rcases List.mem_cons.mp hv with rfl | hv
    · exact hws.grows.hasPair hw.pair
    · exact hws.pairs v hv

/-- If the counter has passed all sides, no other pair stands for its names anew. -/
theorem ensurePairs_only (h : c.Intact) (hs : c.Sided) (ws : List (String × String)) :
    (c.ensurePairs ws).Sided ∧
      ∀ p r, (c.ensurePairs ws).HasPair p r → c.HasPair p r ∨ (p, r) ∈ ws := by
  induction ws generalizing c with
  | nil => exact ⟨hs, fun _ _ hh => .inl hh⟩
  | cons w ws ih =>
    have hw := ensurePair_ensured h hs w.1 w.2
    obtain ⟨hsided, honly⟩ := ih hw.intact hw.sided
    refine ⟨hsided, fun p r hh => ?_⟩
    rcases honly p r hh with hh | hm
    · rcases (hw.pairs p r).mp hh with hh | ⟨rfl, rfl⟩
      · exact .inl hh
      · exact .inr (by simp)
    · exact .inr (by simp [hm])

/-- Making sure of pairs that exist changes nothing, the counter included. -/
theorem Intact.ensurePairs_eq (h : c.Intact) (hh : ∀ w ∈ ws, c.HasPair w.1 w.2) :
    c.ensurePairs ws = c := by
  induction ws with
  | nil => rfl
  | cons w ws ih =>
    rw [ensurePairs_cons, h.ensurePair_eq (hh w (by simp))]
    exact ih fun v hv => hh v (by simp [hv])

theorem createPairs_known (hk : ∀ w ∈ ws, w ∈ known) : c.createPairs known ws = (0, c) := by
  induction ws with
  | nil => rfl
  | cons w ws ih =>
    unfold createPairs
    rw [if_pos (by simpa using hk w (by simp))]
    exact ih fun v hv => hk v (by simp [hv])

/-- The known names only spare the search for pairs that are there. -/
theorem Intact.createPairs_eq (h : c.Intact) (hk : ∀ w ∈ known, c.HasPair w.1 w.2) :
    (c.createPairs known ws).2 = c.ensurePairs ws := by
  induction ws generalizing c known with
  | nil => rfl
  | cons w ws ih =>
    unfold createPairs
    split
    · rename_i hw
      rw [ensurePairs_cons, h.ensurePair_eq (hk w (by simpa using hw))]
      exact ih h hk
    · have hw := ensurePair_made h w.1 w.2
      refine ih hw.intact fun v hv => ?_
      rcases List.mem_cons.mp hv with rfl | hv
      · exact hw.pair
      · exact hw.grows.hasPair (hk v hv)

theorem mem_names_iff {w : String × String} :
    w ∈ c.namedPairs.map (fun n => (n.permission, n.resource)) ↔ c.HasPair w.1 w.2 := by
  rw [List.mem_map]
  exact exists_congr fun n => and_congr_right fun _ => Prod.ext_iff

/-- Skipping the known names only saves work: the outcome is that of making sure of every wanted
pair. -/
theorem Intact.createMissingPairs_eq (h : c.Intact) :
    c.createMissingPairs.2 = c.ensurePairs c.wantedPairs :=
  h.createPairs_eq fun _ hw => mem_names_iff.mp hw

theorem createMissingPairs_eq_self (hh : ∀ w ∈ c.wantedPairs, c.HasPair w.1 w.2) :
    c.createMissingPairs = (0, c) :=
  createPairs_known fun w hw => mem_names_iff.mpr (hh w hw)

/-- What pairs are wanted hangs only on the databases and datasources. -/
theorem SameEntities.wantedPairs (h : SameEntities c c') : c'.wantedPairs = c.wantedPairs := by
  have hdb : c'.database? = c.database? := by
    funext id
    rw [Catalog.database?, h.databases, Catalog.database?]
  have hone : c'.wantedByDatasource = c.wantedByDatasource := by
    funext d
    rw [wantedByDatasource, hdb, wantedByDatasource]
  simp only [Catalog.wantedPairs, hone, h.datasources, h.databases]

/-- Only permissions on single objects are wanted. -/
theorem onObject_of_wanted (hw : (p, r) ∈ c.wantedPairs) : p ∈ PermissionName.onObjects := by
  rcases List.mem_append.mp hw with hw | hw
  · obtain ⟨d, _, hw⟩ := List.mem_flatMap.mp hw
    unfold wantedByDatasource at hw
    split at hw
    · cases hw
    · rcases List.mem_cons.mp hw with hw | hw
      · cases hw
        simp [PermissionName.onObjects]
      · obtain ⟨s, _, hs⟩ := Option.map_eq_some_iff.mp (Option.mem_toList.mp hw)
        cases hs
        simp [PermissionName.onObjects]
  · obtain ⟨db, _, hdb⟩ := List.mem_map.mp hw
    cases hdb
    simp [PermissionName.onObjects]

theorem mem_danglingPairs {id : PairId} :
    id ∈ c.danglingPairs ↔ ∃ x ∈ c.pairs.rows, c.resolve? x = none ∧ x.id = id := by
  simp [danglingPairs, and_assoc]

theorem SamePairs.danglingPairs (h : SamePairs c c') : c'.danglingPairs = c.danglingPairs := by
  unfold Catalog.danglingPairs
  rw [h.pairs, h.resolve?]

theorem pair_notMem_danglingPairs {x : Pair} (hx : x ∈ c.pairs.rows) :
    x.id ∉ c.danglingPairs ↔ c.resolve? x ≠ none := by
  rw [mem_danglingPairs]
  constructor
  · exact fun h hnone => h ⟨x, hx, hnone, rfl⟩
  · rintro hsome ⟨y, hy, hnone, hid⟩
    have hyx : y = x := Ledger.eq_of_number_eq hy hx (congrArg Id.number hid)
    exact hsome (hyx ▸ hnone)

theorem named_notMem_danglingPairs {n : NamedPair} (hn : n ∈ c.namedPairs) :
    n.id ∉ c.danglingPairs := by
  obtain ⟨x, hx, hres⟩ := List.mem_filterMap.mp hn
  rw [(resolve?_eq_some.mp hres).2.2, pair_notMem_danglingPairs hx, hres]
  exact Option.some_ne_none n

/-- Cleaning takes pairs and not their sides, so it makes no pair dangle. -/
theorem resolve?_cleanPairs (c : Catalog) : c.cleanPairs.2.resolve? = c.resolve? := rfl

theorem mem_cleanPairs {x : Pair} :
    x ∈ c.cleanPairs.2.pairs.rows ↔ x ∈ c.pairs.rows ∧ c.resolve? x ≠ none :=
  mem_deletePairs.trans (and_congr_right fun hx => pair_notMem_danglingPairs hx)

theorem cleanPairs_intact (h : c.Intact) : c.cleanPairs.2.Intact :=
  (Step.deletePairs _).intact h

theorem cleanPairs_entities (c : Catalog) : SameEntities c c.cleanPairs.2 :=
  ⟨rfl, rfl, rfl, rfl, rfl, rfl, rfl⟩

theorem mem_namedPairs_cleanPairs {n : NamedPair} :
    n ∈ c.cleanPairs.2.namedPairs ↔ n ∈ c.namedPairs := by
  unfold namedPairs
  simp only [List.mem_filterMap, mem_cleanPairs, resolve?_cleanPairs]
  refine exists_congr fun x =>
    ⟨fun ⟨⟨hx, _⟩, hres⟩ => ⟨hx, hres⟩, fun ⟨hx, hres⟩ => ⟨⟨hx, ?_⟩, hres⟩⟩
  rw [hres]
  exact Option.some_ne_none n

/-- One cleaning leaves nothing for a second. -/
theorem danglingPairs_cleanPairs (c : Catalog) : c.cleanPairs.2.danglingPairs = [] := by
  refine List.eq_nil_iff_forall_not_mem.mpr fun id hid => ?_
  obtain ⟨x, hx, hnone, _⟩ := mem_danglingPairs.mp hid
  exact (mem_cleanPairs.mp hx).2 hnone

theorem stripRole_nil (role : Role) : stripRole [] role = role := by
  simp [stripRole, Ledger.filter]

theorem cleanPairs_eq_self (h : c.danglingPairs = []) : c.cleanPairs = (0, c) := by
  have hroles : c.roles.map (stripRole []) (fun _ => rfl) = c.roles :=
    Ledger.ext ((List.map_congr_left fun role _ => stripRole_nil role).trans (List.map_id _))
  unfold cleanPairs deletePairs
  rw [h, hroles]
  simp

/-- Roles lose the dangling pairs and keep the others. -/
theorem pairsOf?_cleanPairs (c : Catalog) (name : String) :
    c.cleanPairs.2.pairsOf? name =
      (c.pairsOf? name).map fun ids => ids.filter fun id => !c.danglingPairs.contains id := by
  unfold pairsOf? roleNamed? cleanPairs
  rw [rows_deletePairs_roles, List.find?_map]
  simp only [Option.map_map]
  rfl

end Turnstile.Catalog
