import Mathlib
import Turnstile.Sql.Statement
import Turnstile.Access.Viewer

namespace Turnstile.Sql

/-- Whether a name of one part is among the declared ones. -/
def isAmong (keys : List String) : List String → Bool
  | [name] => keys.contains (cteKey name)
  | _ => false

/-- A name in the place of a table, with the declared names that may be used there, and with those
that a walk has met when it comes there. -/
structure Place where
  parts : List String
  scope : List String
  met : List String
deriving DecidableEq, Repr

/-- The name stands for what a query around it declares. -/
def Place.bound (p : Place) : Bool := isAmong p.scope p.parts

/-- The walk takes the name for a declared one. -/
def Place.hidden (p : Place) : Bool := isAmong p.met p.parts

mutual
/-- The names that the queries in a source declare, the last one first. -/
def Source.declares : Source → List String
  | .table _ => []
  | .query _ ctes body => declaresAll body ++ (declaresCtes ctes ++ ctes.map fun c => cteKey c.1)
def declaresCtes : List (String × Source) → List String
  | [] => []
  | (_, s) :: rest => declaresCtes rest ++ s.declares
def declaresAll : List Source → List String
  | [] => []
  | s :: rest => declaresAll rest ++ s.declares
end

mutual
/-- The names in the places of tables, in order. A declared name may be used in the rest of its
query and in later declarations of the same list; in declarations that may refer to themselves, in
all of that list. -/
def Source.places (scope met : List String) : Source → List Place
  | .table parts => [⟨parts, scope, met⟩]
  | .query recursive ctes body =>
    let own := ctes.map fun c => cteKey c.1
    placesCtes (if recursive then own ++ scope else scope) (own ++ met) ctes ++
      placesAll (own ++ scope) (declaresCtes ctes ++ (own ++ met)) body
def placesCtes (scope met : List String) : List (String × Source) → List Place
  | [] => []
  | (name, s) :: rest =>
    s.places scope met ++ placesCtes (cteKey name :: scope) (s.declares ++ met) rest
def placesAll (scope met : List String) : List Source → List Place
  | [] => []
  | s :: rest => s.places scope met ++ placesAll scope (s.declares ++ met) rest
end

/-- The names that the walk takes for tables. -/
def shown (ps : List Place) : List (List String) := (ps.filter fun p => !p.hidden).map (·.parts)

theorem shown_append (ps qs : List Place) : shown (ps ++ qs) = shown ps ++ shown qs := by
  simp only [shown, List.filter_append, List.map_append]

theorem shown_singleton (p : Place) : shown [p] = if p.hidden then [] else [p.parts] := by
  cases h : p.hidden <;> simp [shown, h]

theorem Found.meet_eq (f : Found) (parts : List String) :
    f.meet parts =
      if isAmong f.declared parts then f else { f with names := f.names ++ [parts] } := by
  unfold meet
  split
  · rfl
  · rename_i h
    have : isAmong f.declared parts = false := by
      unfold isAmong
      split
      · rename_i name
        exact absurd rfl (h name)
      · rfl
    rw [this]
    rfl

mutual
/-- A walk adds the declared names to those it has met, and the names it takes for tables to those
it has found. -/
theorem Source.walk_eq (scope : List String) : ∀ (s : Source) (f : Found),
    s.walk f = ⟨s.declares ++ f.declared, f.names ++ shown (s.places scope f.declared)⟩
  | .table parts, f => by
    rw [Source.walk, f.meet_eq, Source.places, shown_singleton, Place.hidden]
    split <;> simp [Source.declares]
  | .query recursive ctes body, f => by
    -- no step of the walk looks at the scope, so each list of places may have its own
    rw [Source.walk, walkCtes_eq _ ctes, walkAll_eq _ body, Source.declares, Source.places]
    simp only [Found.declare, List.map_map, Function.comp_def, shown_append, List.append_assoc]
    rfl
theorem walkCtes_eq (scope : List String) : ∀ (ctes : List (String × Source)) (f : Found),
    walkCtes f ctes =
      ⟨declaresCtes ctes ++ f.declared, f.names ++ shown (placesCtes scope f.declared ctes)⟩
  | [], f => by simp [walkCtes, declaresCtes, placesCtes, shown]
  | (name, s) :: rest, f => by
    rw [walkCtes, Source.walk_eq scope s, walkCtes_eq (cteKey name :: scope) rest, declaresCtes,
      placesCtes]
    simp only [shown_append, List.append_assoc]
theorem walkAll_eq (scope : List String) : ∀ (ss : List Source) (f : Found),
    walkAll f ss =
      ⟨declaresAll ss ++ f.declared, f.names ++ shown (placesAll scope f.declared ss)⟩
  | [], f => by simp [walkAll, declaresAll, placesAll, shown]
  | s :: rest, f => by
    rw [walkAll, Source.walk_eq scope s, walkAll_eq scope rest, declaresAll, placesAll]
    simp only [shown_append, List.append_assoc]
end

mutual
/-- A name that may be used at a place has been met when the walk comes there. -/
theorem Source.scope_met : ∀ (s : Source) (scope met : List String), scope ⊆ met →
    ∀ p ∈ s.places scope met, p.scope ⊆ p.met
  | .table parts, scope, met, h, p, hp => by
    rw [Source.places, List.mem_singleton] at hp
    rw [hp]
    exact h
  | .query recursive ctes body, scope, met, h, p, hp => by
    rw [Source.places, List.mem_append] at hp
    have hown : ∀ c ∈ ctes, cteKey c.1 ∈ ctes.map fun c => cteKey c.1 := fun c hc =>
      List.mem_map_of_mem hc
    have hbody : (ctes.map fun c => cteKey c.1) ++ scope ⊆ (ctes.map fun c => cteKey c.1) ++ met :=
      List.append_subset.mpr
        ⟨List.subset_append_left _ _, List.subset_append_of_subset_right _ h⟩
    rcases hp with hp | hp
    · refine placesCtes_scope_met ctes _ _ ?_ (fun c hc => List.mem_append_left _ (hown c hc)) p hp
      split
      · exact hbody
      · exact List.subset_append_of_subset_right _ h
    · exact placesAll_scope_met body _ _ (List.subset_append_of_subset_right _ hbody) p hp
theorem placesCtes_scope_met : ∀ (ctes : List (String × Source)) (scope met : List String),
    scope ⊆ met → (∀ c ∈ ctes, cteKey c.1 ∈ met) →
    ∀ p ∈ placesCtes scope met ctes, p.scope ⊆ p.met
  | [], scope, met, h, hown, p, hp => by simp [placesCtes] at hp
  | (name, s) :: rest, scope, met, h, hown, p, hp => by
    rw [placesCtes, List.mem_append] at hp
    rcases hp with hp | hp
    · exact Source.scope_met s scope met h p hp
    · refine placesCtes_scope_met rest _ _ ?_ ?_ p hp
      · -- the walk met all names of the list before the first of its queries
        refine List.cons_subset.mpr ⟨?_, List.subset_append_of_subset_right _ h⟩
        exact List.mem_append_right _ (hown (name, s) (by simp))
      · exact fun c hc => List.mem_append_right _ (hown c (by simp [hc]))
theorem placesAll_scope_met : ∀ (ss : List Source) (scope met : List String), scope ⊆ met →
    ∀ p ∈ placesAll scope met ss, p.scope ⊆ p.met
  | [], scope, met, h, p, hp => by simp [placesAll] at hp
  | s :: rest, scope, met, h, p, hp => by
    rw [placesAll, List.mem_append] at hp
    rcases hp with hp | hp
    · exact Source.scope_met s scope met h p hp
    · exact placesAll_scope_met rest _ _ (List.subset_append_of_subset_right _ h) p hp
end

section Texts
variable {schema : Option String} {sources : List Source}

def places (sources : List Source) : List Place := placesAll [] [] sources

/-- The tables that a text reads: those of the names that stand for nothing declared. -/
def tablesRead (schema : Option String) (sources : List Source) : List Table :=
  ((places sources).filter fun p => !p.bound).filterMap fun p => tableOf schema p.parts

/-- Where the walk wrongly takes a name for a declared one, the table is also read under a name that
it takes for a table. -/
def NothingMissed (schema : Option String) (sources : List Source) : Prop :=
  ∀ p ∈ places sources, p.bound = false → p.hidden = true →
    ∃ q ∈ places sources, q.hidden = false ∧ tableOf schema q.parts = tableOf schema p.parts

instance : Decidable (NothingMissed schema sources) :=
  inferInstanceAs (Decidable (∀ p ∈ places sources, p.bound = false → p.hidden = true →
    ∃ q ∈ places sources, q.hidden = false ∧ tableOf schema q.parts = tableOf schema p.parts))

theorem isAmong_mono {keys keys' parts : List String} (h : keys ⊆ keys')
    (ha : isAmong keys parts = true) : isAmong keys' parts = true := by
  unfold isAmong at ha ⊢
  split at ha
  · simp only [List.contains_iff_mem] at ha ⊢
    exact h ha
  · cases ha

/-- What may be used as declared is always taken for declared. -/
theorem hidden_of_bound {p : Place} (hp : p ∈ places sources) (h : p.bound = true) :
    p.hidden = true :=
  isAmong_mono (placesAll_scope_met sources [] [] (List.Subset.refl _) p hp) h

theorem tableOf_of_hidden (schema : Option String) {p : Place} (h : p.hidden = true) :
    ∃ t, tableOf schema p.parts = some t := by
  unfold Place.hidden isAmong at h
  split at h
  · rename_i name he
    exact ⟨Table.of name schema, by rw [he]; rfl⟩
  · cases h

theorem mem_tablesRead {t : Table} : t ∈ tablesRead schema sources ↔
    ∃ p ∈ places sources, p.bound = false ∧ tableOf schema p.parts = some t := by
  simp [tablesRead, and_assoc]

/-- The walk finds the tables of the names that it does not take for declared ones. -/
theorem mem_tablesOf {t : Table} : t ∈ (tablesOf schema sources).rows ↔
    ∃ p ∈ places sources, p.hidden = false ∧ tableOf schema p.parts = some t := by
  rw [tablesOf, TableSet.mem_ofList, walkAll_eq []]
  simp [shown, places, and_assoc]

theorem tablesOf_subset {t : Table} (h : t ∈ (tablesOf schema sources).rows) :
    t ∈ tablesRead schema sources := by
  obtain ⟨p, hp, hh, ht⟩ := mem_tablesOf.mp h
  refine mem_tablesRead.mpr ⟨p, hp, ?_, ht⟩
  cases hb : p.bound with
  | false => rfl
  | true => exact absurd ((hidden_of_bound hp hb).symm.trans hh) (by simp)

/-- It reports all of them just if it misses nothing: a name that is wrongly hidden may still be
reported through another place. -/
theorem tablesRead_subset_iff :
    (∀ t ∈ tablesRead schema sources, t ∈ (tablesOf schema sources).rows) ↔
      NothingMissed schema sources := by
  constructor
  · intro h p hp hb hh
    obtain ⟨t, ht⟩ := tableOf_of_hidden schema hh
    obtain ⟨q, hq, hqh, hqt⟩ := mem_tablesOf.mp (h t (mem_tablesRead.mpr ⟨p, hp, hb, ht⟩))
    exact ⟨q, hq, hqh, hqt.trans ht.symm⟩
  · intro h t ht
    obtain ⟨p, hp, hb, hpt⟩ := mem_tablesRead.mp ht
    cases hh : p.hidden with
    | false => exact mem_tablesOf.mpr ⟨p, hp, hh, hpt⟩
    | true =>
      obtain ⟨q, hq, hqh, hqt⟩ := h p hp hb hh
      exact mem_tablesOf.mpr ⟨q, hq, hqh, hqt.trans hpt⟩

end Texts

theorem requireTables_iff {v : Viewer} {db : Database} {ts : List Table} :
    v.requireTables db ts = .ok () ↔ ∀ t ∈ ts, v.reachesTable db t = true := by
  unfold Viewer.requireTables
  split
  · rename_i h
    simpa using List.filter_eq_nil_iff.mp h
  · rename_i denied hne
    simp only [reduceCtorEq, false_iff]
    intro h
    exact hne (List.filter_eq_nil_iff.mpr fun t ht => by simp [h t ht])

theorem requireQuery_iff {v : Viewer} {db : Database} {sql : String} {schema : Option String}
    {ts : TableSet} (hdb : v.canAccessDatabase db = false) (h : v.extract sql schema = .ok ts) :
    v.requireAccess (.query db sql schema) = .ok () ↔
      ∀ t ∈ ts.rows, v.reachesTable db t = true := by
  rw [Viewer.requireQuery_found hdb h]
  exact requireTables_iff

theorem extractor_of_extract {sql : String} {schema : Option String} {ts : TableSet}
    (h : extract sql schema = some ts) (complaint : String → String) :
    extractor complaint sql schema = .ok ts := by
  rw [extractor, h]

/-- For any sources, however they were read: the walk takes only tables that they read, and it takes
all of them just if it misses nothing. Where an extractor answers with what the walk took, access to
the text is then access to every table that it reads. -/
theorem tablesOf_complete_iff (schema : Option String) (sources : List Source) :
    (∀ t ∈ (tablesOf schema sources).rows, t ∈ tablesRead schema sources) ∧
      ((∀ t ∈ tablesRead schema sources, t ∈ (tablesOf schema sources).rows) ↔
        NothingMissed schema sources) ∧
      (NothingMissed schema sources → ∀ (v : Viewer) (db : Database) (sql : String),
        v.extract sql schema = .ok (tablesOf schema sources) → v.canAccessDatabase db = false →
        (v.requireAccess (.query db sql schema) = .ok () ↔
          ∀ t ∈ tablesRead schema sources, v.reachesTable db t = true)) := by
  refine ⟨fun _ => tablesOf_subset, tablesRead_subset_iff, ?_⟩
  intro hmissed v db sql hv hdb
  rw [requireQuery_iff hdb hv]
  constructor
  · intro hr t ht
    exact hr t (tablesRead_subset_iff.mpr hmissed t ht)
  · intro hr t ht
    exact hr t (tablesOf_subset ht)

/-- What is extracted from a text are tables that it reads, and they are all of them just if the
walk misses nothing. Then one without access to the whole database may run the text just if every
table it reads is in reach. -/
theorem extract_complete_iff (sql : String) (schema : Option String) (sources : List Source)
    (h : sources? sql = some sources) :
    ∃ ts, extract sql schema = some ts ∧
      (∀ t ∈ ts.rows, t ∈ tablesRead schema sources) ∧
      ((∀ t ∈ tablesRead schema sources, t ∈ ts.rows) ↔ NothingMissed schema sources) ∧
      (NothingMissed schema sources → ∀ (v : Viewer) (db : Database) (complaint : String → String),
        v.extract = extractor complaint → v.canAccessDatabase db = false →
        (v.requireAccess (.query db sql schema) = .ok () ↔
          ∀ t ∈ tablesRead schema sources, v.reachesTable db t = true)) := by
  have hts : extract sql schema = some (tablesOf schema sources) := by
    rw [extract, h]
    rfl
  obtain ⟨hsub, hiff, haccess⟩ := tablesOf_complete_iff schema sources
  refine ⟨tablesOf schema sources, hts, hsub, hiff, ?_⟩
  intro hmissed v db complaint hv hdb
  exact haccess hmissed v db sql (hv ▸ extractor_of_extract hts complaint) hdb

/-- A table read through a declared name is extracted, and reading it takes access to it. -/
theorem table_behind_declared_name_extracted :
    ∃ ts, extract "WITH recent AS (SELECT * FROM orders) SELECT * FROM recent" none = some ts ∧
      ⟨none, "orders"⟩ ∈ ts.rows ∧
      ∀ (v : Viewer) (db : Database) (complaint : String → String),
        v.extract = extractor complaint → v.canAccessDatabase db = false →
        v.requireAccess
          (.query db "WITH recent AS (SELECT * FROM orders) SELECT * FROM recent" none) = .ok () →
        v.reachesTable db ⟨none, "orders"⟩ = true := by
  obtain ⟨ts, hts, _, hiff, haccess⟩ := extract_complete_iff
    "WITH recent AS (SELECT * FROM orders) SELECT * FROM recent" none
    [.query false [("recent", .query false [] [.table ["orders"]])] [.table ["recent"]]] (by cbv)
  have hmissed : NothingMissed none [.query false
      [("recent", .query false [] [.table ["orders"]])] [.table ["recent"]]] := by decide +kernel
  have hread : ⟨none, "orders"⟩ ∈ tablesRead none [.query false
      [("recent", .query false [] [.table ["orders"]])] [.table ["recent"]]] := by decide +kernel
  exact ⟨ts, hts, hiff.mpr hmissed _ hread,
    fun v db complaint hv hdb hok => (haccess hmissed v db complaint hv hdb).mp hok _ hread⟩

def stranger : Viewer := ⟨Catalog.empty, .standard, .anonymous, extractor id⟩

/-- The query behind a declared name reads a table of that name, which is not extracted. So it may
be run by one who has access to nothing. -/
theorem table_behind_its_own_name_missed :
    ∃ sources,
      sources? "WITH orders AS (SELECT * FROM orders) SELECT * FROM orders" = some sources ∧
      ⟨none, "orders"⟩ ∈ tablesRead none sources ∧
      (extract "WITH orders AS (SELECT * FROM orders) SELECT * FROM orders" none).map (·.rows) =
        some [] ∧
      stranger.canAccessDatabase ⟨⟨1⟩, "a", none⟩ = false ∧
      stranger.reachesTable ⟨⟨1⟩, "a", none⟩ ⟨none, "orders"⟩ = false ∧
      stranger.requireAccess (.query ⟨⟨1⟩, "a", none⟩
        "WITH orders AS (SELECT * FROM orders) SELECT * FROM orders" none) = .ok () := by
  have parsed : sources? "WITH orders AS (SELECT * FROM orders) SELECT * FROM orders" =
      some [.query false [("orders", .query false [] [.table ["orders"]])]
        [.table ["orders"]]] := by cbv
  have missed :
      (extract "WITH orders AS (SELECT * FROM orders) SELECT * FROM orders" none).map (·.rows) =
        some [] := by
    rw [extract, parsed]
    decide +kernel
  have hdb : stranger.canAccessDatabase ⟨⟨1⟩, "a", none⟩ = false := by decide +kernel
  refine ⟨_, parsed, by decide +kernel, missed, hdb, by decide +kernel, ?_⟩
  obtain ⟨ts, hts, hnone⟩ := Option.map_eq_some_iff.mp missed
  have hx : stranger.extract = extractor id := rfl
  apply (requireQuery_iff hdb (hx ▸ extractor_of_extract hts id)).mpr
  simp [hnone]

end Turnstile.Sql
