import Turnstile.Proofs.SingleGrants

namespace Turnstile

/-- The detail given last is found under its name, whether or not there was one before. -/
theorem Denial.lookup_withExtra (d : Denial) (name : String) (value : Json.Value) :
    (d.withExtra name value).extra.lookup name = some value := by
  have hfresh : (d.extra.filter fun e => e.1 != name).lookup name = none := by
    apply List.lookup_eq_none_iff.mpr
    intro e he
    have hother : e.1 ≠ name := by simpa using (List.mem_filter.mp he).2
    exact bne_iff_ne.mpr hother.symm
  unfold withExtra
  rw [List.lookup_append, hfresh, Option.none_or, List.lookup_cons_self]

theorem Denial.lookup_tables (ts : List Table) (link : Option String) :
    (Denial.tables ts link).extra.lookup "tables" = some (Json.toJson (ts.map Table.text)) :=
  lookup_withExtra _ _ _

namespace Viewer
variable {v : Viewer} {db : Database} {t : Table} {ts : List Table}

def closedTables (v : Viewer) (db : Database) (ts : List Table) : List Table :=
  ts.filter fun t => !v.canAccessTable db t

theorem mem_closedTables :
    t ∈ v.closedTables db ts ↔ t ∈ ts ∧ v.canAccessTable db t = false := by
  simp [closedTables]

/-- The closed tables stand in the order of all, so none is named twice. -/
theorem inOrder_closedTables (h : Table.InOrder ts) : Table.InOrder (v.closedTables db ts) :=
  List.Pairwise.filter _ h

/-- To one who may not read the whole database, a table is open just if it is in reach. -/
theorem canAccessTable_eq_reaches (hdb : v.canAccessDatabase db = false) :
    v.canAccessTable db = v.reachesTable db := by
  funext t
  simp [canAccessTable, hdb]

theorem unreached_eq_closedTables (hdb : v.canAccessDatabase db = false) :
    v.unreached db ts = v.closedTables db ts := by
  unfold unreached closedTables
  rw [canAccessTable_eq_reaches hdb]

theorem closedTables_ne_nil (h : ¬ ∀ t ∈ ts, v.canAccessTable db t = true) :
    v.closedTables db ts ≠ [] := by
  intro hnone
  apply h
  intro t ht
  cases hopen : v.canAccessTable db t with
  | true => rfl
  | false =>
    have hmem : t ∈ v.closedTables db ts := mem_closedTables.mpr ⟨ht, hopen⟩
    rw [hnone] at hmem
    cases hmem

/-- The check on one table refuses with that table just if it is not open. -/
theorem requireTable_eq (v : Viewer) (db : Database) (t : Table) :
    v.requireAccess (.table db t) =
      if v.canAccessTable db t then .ok ()
      else .error (.tablesDenied (Denial.tables [t] v.settings.instructionsLink)) := by
  cases hdb : v.canAccessDatabase db with
  | true => simp [requireAccess, canAccessTable, hdb]
  | false =>
    cases h : v.reachesTable db t with
    | true => simp [requireAccess, canAccessTable, requireTables, hdb, h]
    | false => simp [requireAccess, canAccessTable, requireTables, hdb, h]

/-- Many tables are refused with just those of them that are closed. -/
theorem requireTables_closed (hdb : v.canAccessDatabase db = false)
    (h : ¬ ∀ t ∈ ts, v.canAccessTable db t = true) :
    v.requireTables db ts = .error (.tablesDenied
      (Denial.tables (v.closedTables db ts) v.settings.instructionsLink)) := by
  have hclosed := closedTables_ne_nil h
  rw [← unreached_eq_closedTables hdb] at hclosed ⊢
  exact requireTables_denied.mpr ⟨hclosed, rfl⟩

/-- A query is open to those who may read the whole database, whatever an extractor would say. For
all others an error of the extractor is the verdict. Otherwise the query is open just if each table
found in it is, by the same check that single tables undergo, and a refusal names just the closed
ones, in the order of tables. -/
theorem query_judged_by_tables (v : Viewer) (db : Database) (sql : String)
    (schema : Option String) :
    (v.canAccessDatabase db = true → ∀ x : Extractor,
      { v with extract := x }.requireAccess (.query db sql schema) = .ok ()) ∧
    (v.canAccessDatabase db = false → ∀ e, v.extract sql schema = .error e →
      v.requireAccess (.query db sql schema) = .error e) ∧
    (v.canAccessDatabase db = false → ∀ ts, v.extract sql schema = .ok ts →
      (v.requireAccess (.query db sql schema) = .ok () ↔
        ∀ t ∈ ts.rows, v.canAccessTable db t = true) ∧
      (¬ (∀ t ∈ ts.rows, v.canAccessTable db t = true) →
        ∃ d, v.requireAccess (.query db sql schema) = .error (.tablesDenied d) ∧
          d = Denial.tables (v.closedTables db ts.rows) v.settings.instructionsLink ∧
          d.extra.lookup "tables" =
            some (Json.toJson ((v.closedTables db ts.rows).map Table.text)))) ∧
    (∀ ts : TableSet, Table.InOrder (v.closedTables db ts.rows) ∧
      (v.closedTables db ts.rows).Nodup ∧
      ∀ t, t ∈ v.closedTables db ts.rows ↔ t ∈ ts.rows ∧ v.canAccessTable db t = false) ∧
    ∀ t, v.requireAccess (.table db t) =
      if v.canAccessTable db t then .ok ()
      else .error (.tablesDenied (Denial.tables [t] v.settings.instructionsLink)) := by
  refine ⟨?opened, ?failed, ?found, ?named, requireTable_eq v db⟩
  case opened =>
    intro hdb x
    exact requireQuery_open hdb
  case failed =>
    intro hdb e he
    exact requireQuery_failed hdb he
  case found =>
    intro hdb ts hts
    rw [requireQuery_found hdb hts]
    constructor
    · rw [canAccessTable_eq_reaches hdb]
      exact Sql.requireTables_iff
    · intro hclosed
      exact ⟨_, requireTables_closed hdb hclosed, rfl, Denial.lookup_tables _ _⟩
  case named =>
    intro ts
    have hordered : Table.InOrder (v.closedTables db ts.rows) := inOrder_closedTables ts.inOrder
    exact ⟨hordered, hordered.nodup, fun t => mem_closedTables⟩

/-- One who may read only schema `s` is refused a query over three tables. The refusal names the
table without a schema and then that of schema `p`. An extractor's own error comes back to such a
principal, and not to one who may read the whole database. -/
theorem query_refused_over_two_tables :
    let db : Database := ⟨⟨1⟩, "a", some "[a].(id:1)"⟩
    let ts := [Table.of "u" none, Table.of "t" (some "p"), Table.of "t" (some "s")]
    let v := { holderOf PermissionName.schemaAccess "[a].[s]" [db] [] with
      extract := fun _ _ => .ok (.ofList ts.reverse) }
    let failing : Extractor := fun _ _ => .error (.roleNotFound "Reader")
    let w := { v with extract := failing }
    let o := holderOf PermissionName.databaseAccess "[a].(id:1)" [db] []
    v.canAccessDatabase db = false ∧ ts.map (v.canAccessTable db) = [false, false, true] ∧
      (∃ d, v.requireAccess (.query db "SELECT * FROM u, p.t, s.t" none) =
          .error (.tablesDenied d) ∧
        d.extra.lookup "tables" = some (Json.toJson ["u", "p.t"])) ∧
      w.requireAccess (.query db "SELECT * FROM u, p.t, s.t" none) =
        .error (.roleNotFound "Reader") ∧
      { o with extract := failing }.requireAccess
        (.query db "SELECT * FROM u, p.t, s.t" none) = .ok () := by
  intro db ts v failing w o
  have hdb : v.canAccessDatabase db = false := by decide +kernel
  have hclosed : v.closedTables db (TableSet.ofList ts.reverse).rows = ts.take 2 := by
    decide +kernel
  obtain ⟨_, _, hfound, _⟩ := query_judged_by_tables v db "SELECT * FROM u, p.t, s.t" none
  obtain ⟨_, hfailed, _⟩ := query_judged_by_tables w db "SELECT * FROM u, p.t, s.t" none
  obtain ⟨hopened, _⟩ := query_judged_by_tables o db "SELECT * FROM u, p.t, s.t" none
  obtain ⟨d, hd, _, hnames⟩ := (hfound hdb _ rfl).2 (by decide +kernel)
  refine ⟨hdb, by decide +kernel, ⟨d, hd, ?_⟩, hfailed hdb _ rfl,
    hopened (by decide +kernel) failing⟩
  rw [hnames, hclosed]
  rfl

end Viewer
end Turnstile
