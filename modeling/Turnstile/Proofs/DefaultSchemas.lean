import Turnstile.Proofs.QueryScope
import Turnstile.Proofs.TableListing

namespace Turnstile.Sql
variable {parts : List String} {sources : List Source} {schema : Option String} {s : String}
  {t : Table}

/-- The name says that its schema, the part before the last, is the empty one. -/
def BlankQualified (parts : List String) : Prop := parts.reverse[1]? = some ""

instance : Decidable (BlankQualified parts) := inferInstanceAs (Decidable (_ = _))

/-- Only a single name is ever taken for a declared one. -/
theorem BlankQualified.not_hidden {p : Place} (h : BlankQualified p.parts) : p.hidden = false := by
  unfold Place.hidden isAmong
  split
  · rename_i name hparts
    rw [BlankQualified, hparts] at h
    cases h
  · rfl

/-- A name that is qualified by the empty name takes no schema at all. -/
theorem BlankQualified.tableOf_eq (h : BlankQualified parts) :
    ∃ name, ∀ schema, tableOf schema parts = some ⟨none, name⟩ := by
  unfold BlankQualified at h
  unfold tableOf
  match hparts : parts.reverse with
  | [] => simp [hparts] at h
  | [name] => simp [hparts] at h
  | name :: q :: more =>
    obtain rfl : q = "" := by simpa [hparts] using h
    exact ⟨name, fun _ => by simp [Table.of, Option.filter]⟩

/-- Any other name takes the schema if it has none. -/
theorem tableOf_eq_under (h : ¬ BlankQualified parts) :
    tableOf (some s) parts = (tableOf none parts).map (Table.under (some s)) := by
  unfold tableOf
  split
  · rfl
  · simp [Table.of, Table.under, Option.filter]
  · rename_i name q more hparts
    have hq : q ≠ "" := by simpa [BlankQualified, hparts] using h
    simp [Table.of, Table.under, Option.filter, hq]

theorem under_schema_ne_none (hs : s ≠ "") (t : Table) : (t.under (some s)).schema ≠ none := by
  obtain ⟨own, name⟩ := t
  cases own with
  | none => simp [Table.under, Table.of, Option.filter, hs]
  | some own => simp [Table.under]

/-- A text without names that are qualified by the empty name is extracted with a schema as it is
without, but for that schema. -/
theorem tablesOf_default (h : ∀ p ∈ places sources, ¬ BlankQualified p.parts) :
    tablesOf (some s) sources =
      .ofList ((tablesOf none sources).rows.map (Table.under (some s))) := by
  apply TableSet.ext_mem
  intro t
  simp only [TableSet.mem_ofList, List.mem_map, mem_tablesOf]
  constructor
  · rintro ⟨p, hp, hshown, ht⟩
    rw [tableOf_eq_under (h p hp)] at ht
    obtain ⟨u, hu, hut⟩ := Option.map_eq_some_iff.mp ht
    exact ⟨u, ⟨p, hp, hshown, hu⟩, hut⟩
  · rintro ⟨u, ⟨p, hp, hshown, hu⟩, hut⟩
    refine ⟨p, hp, hshown, ?_⟩
    rw [tableOf_eq_under (h p hp), hu, ← hut]
    rfl

/-- Every table that is extracted with a schema has one, just if no name is qualified by the empty
name. -/
theorem tablesOf_qualified_iff (hs : s ≠ "") :
    (∀ t ∈ (tablesOf (some s) sources).rows, t.schema ≠ none) ↔
      ∀ p ∈ places sources, ¬ BlankQualified p.parts := by
  constructor
  · intro hall p hp hblank
    obtain ⟨name, hname⟩ := hblank.tableOf_eq
    exact hall ⟨none, name⟩ (mem_tablesOf.mpr ⟨p, hp, hblank.not_hidden, hname _⟩) rfl
  · intro h t ht
    obtain ⟨p, hp, _, ht⟩ := mem_tablesOf.mp ht
    rw [tableOf_eq_under (h p hp)] at ht
    obtain ⟨u, _, rfl⟩ := Option.map_eq_some_iff.mp ht
    exact under_schema_ne_none hs u

theorem tablesOf_default_iff (hs : s ≠ "") :
    tablesOf (some s) sources =
        .ofList ((tablesOf none sources).rows.map (Table.under (some s))) ↔
      ∀ p ∈ places sources, ¬ BlankQualified p.parts := by
  refine ⟨fun heq => (tablesOf_qualified_iff hs).mp fun t ht => ?_, tablesOf_default⟩
  rw [heq, TableSet.mem_ofList] at ht
  obtain ⟨u, _, rfl⟩ := List.mem_map.mp ht
  exact under_schema_ne_none hs u

/-- No name of a table in the text is qualified by the empty name. -/
def PlainlyQualified (sql : String) : Prop :=
  ∀ sources, sources? sql = some sources → ∀ p ∈ places sources, ¬ BlankQualified p.parts

/-- A text is extracted with a schema as it is without, but for the schema, just if no name is
qualified by the empty name. -/
theorem extract_default_iff (sql : String) (hs : s ≠ "") :
    extract sql (some s) =
        (extract sql none).map (fun ts => .ofList (ts.rows.map (Table.under (some s)))) ↔
      PlainlyQualified sql := by
  unfold extract PlainlyQualified
  cases sources? sql with
  | none => simp
  | some sources => simpa using tablesOf_default_iff hs

theorem extract_qualified_iff (sql : String) (hs : s ≠ "") :
    (∀ ts, extract sql (some s) = some ts → ∀ t ∈ ts.rows, t.schema ≠ none) ↔
      PlainlyQualified sql := by
  unfold extract PlainlyQualified
  cases sources? sql with
  | none => simp
  | some sources => simpa using tablesOf_qualified_iff hs

/-- An empty schema is taken for none. -/
theorem extract_blank (sql : String) : extract sql (some "") = extract sql none := by
  have hname : ∀ parts, tableOf (some "") parts = tableOf none parts := by
    intro parts
    unfold tableOf
    split <;> simp [Table.of, Option.filter]
  have htables : ∀ sources, tablesOf (some "") sources = tablesOf none sources := by
    intro sources
    rw [tablesOf, tablesOf, funext hname]
  simp only [extract, funext htables]

end Turnstile.Sql
