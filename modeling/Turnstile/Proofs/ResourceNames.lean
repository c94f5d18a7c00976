import Mathlib.Data.List.Basic
import Turnstile.Catalog.Naming

namespace Turnstile

/-- What stands behind the last mark can be told from what stands in front of it. -/
theorem append_cons_inj_of_notMem_right {α : Type} {mark : α} {xs ys as bs : List α}
    (ha : mark ∉ as) (hb : mark ∉ bs) :
    xs ++ mark :: as = ys ++ mark :: bs ↔ xs = ys ∧ as = bs := by
  constructor
  · intro h
    rcases List.append_eq_append_iff.mp h with ⟨zs, hys, has⟩ | ⟨zs, hxs, hbs⟩
    · cases zs with
      | nil => exact ⟨by simpa using hys.symm, by simpa using has⟩
      | cons z zs =>
        obtain ⟨_, rfl⟩ := List.cons.inj has
        exact absurd (by simp) ha
    · cases zs with
      | nil => exact ⟨by simpa using hxs, by simpa using hbs.symm⟩
      | cons z zs =>
        obtain ⟨_, rfl⟩ := List.cons.inj hbs
        exact absurd (by simp) hb
  · rintro ⟨rfl, rfl⟩
    rfl

/-- Identifiers are written in digits, so the colon before one can be told. -/
theorem Id.colon_notMem_text {kind : Kind} (id : Id kind) : ':' ∉ id.text.toList := by
  intro h
  unfold text Decimal.text at h
  rw [String.toList_ofList] at h
  have := Nat.isDigit_of_mem_toDigits (by omega) (by omega) h
  exact absurd this (by decide)

namespace ResourceName

/-- An identifier at the end of a name can be told from the rest of the name. -/
theorem id_inj {kind : Kind} {front front' : String} {a b : Id kind} :
    front ++ ":" ++ a.text ++ ")" = front' ++ ":" ++ b.text ++ ")" ↔ front = front' ∧ a = b := by
  rw [String.append_left_inj, ← String.toList_inj, ← String.toList_inj, ← Id.text_inj,
    ← String.toList_inj]
  simp only [String.toList_append, List.append_assoc]
  exact append_cons_inj_of_notMem_right a.colon_notMem_text b.colon_notMem_text

/-- The identifier at the end tells the names of databases apart, whatever brackets the names
hold. -/
theorem database_inj {name name' : String} {a b : DatabaseId} :
    database name a = database name' b ↔ name = name' ∧ a = b := by
  have hfront : ∀ n (id : DatabaseId),
      database n id = "[" ++ n ++ "].(id" ++ ":" ++ id.text ++ ")" := by
    intro n id
    simp [database, String.append_assoc]
  rw [hfront, hfront, id_inj, String.append_left_inj, String.append_right_inj]

/-- Datasources of the same name are the same, though their databases and tables may be told from
the name in more than one way. -/
theorem id_of_datasource_eq {db db' table table' : String} {a b : DatasourceId}
    (h : datasource db table a = datasource db' table' b) : a = b := by
  have hfront : ∀ d t (id : DatasourceId),
      datasource d t id = "[" ++ d ++ "].[" ++ t ++ "](id" ++ ":" ++ id.text ++ ")" := by
    intro d t id
    simp [datasource, String.append_assoc]
  rw [hfront, hfront, id_inj] at h
  exact h.2

/-- The second database's name goes on behind the first's, and takes in the separator and the front
of the first's schema, of which the second's schema is the rest. -/
def Straddles (db schema db' schema' : String) : Prop :=
  ∃ middle, db' = db ++ "].[" ++ middle ∧ schema = middle ++ "].[" ++ schema'

/-- The separator cannot overlap itself: what it is followed by on one side starts behind it, or at
it, on the other. -/
theorem separator_append_eq_iff {as xs ys : List Char} :
    "].[".toList ++ xs = as ++ ("].[".toList ++ ys) ↔
      (as = [] ∧ xs = ys) ∨ ∃ zs, as = "].[".toList ++ zs ∧ xs = zs ++ ("].[".toList ++ ys) := by
  constructor
  · intro h
    match as, h with
    | [], h => exact .inl ⟨rfl, List.append_cancel_left h⟩
    | [a], h => simp at h
    | [a, b], h => simp at h
    | a :: b :: c :: zs, h =>
      obtain ⟨rfl, rfl, rfl, rfl⟩ :
          ']' = a ∧ '.' = b ∧ '[' = c ∧ xs = zs ++ ("].[".toList ++ ys) := by
        simpa using h
      exact .inr ⟨zs, rfl, rfl⟩
  · rintro (⟨rfl, rfl⟩ | ⟨zs, rfl, rfl⟩)
    · rfl
    · simp

theorem schema_some {db schema : String} (hs : schema ≠ "") :
    ResourceName.schema db (some schema) = some ("[" ++ db ++ "].[" ++ schema ++ "]") := by
  simp [ResourceName.schema, Option.filter, hs]

theorem Straddles.of_lists {db schema db' schema' : String} {middle : List Char}
    (hdb : db'.toList = db.toList ++ ("].[".toList ++ middle))
    (hschema : schema.toList = middle ++ ("].[".toList ++ schema'.toList)) :
    Straddles db schema db' schema' := by
  refine ⟨String.ofList middle, ?_, ?_⟩
  · rw [← String.toList_inj]
    simpa using hdb
  · rw [← String.toList_inj]
    simpa using hschema

/-- The separator within the longer name is taken for the one between the two parts. -/
theorem Straddles.text_eq {db schema db' schema' : String}
    (h : Straddles db schema db' schema') :
    "[" ++ db ++ "].[" ++ schema ++ "]" = "[" ++ db' ++ "].[" ++ schema' ++ "]" := by
  obtain ⟨middle, rfl, rfl⟩ := h
  simp only [String.append_assoc]

/-- Schemas of two databases that go by the same name. -/
def Namesakes (db schema db' schema' : String) : Prop :=
  Straddles db schema db' schema' ∨ Straddles db' schema' db schema

/-- Schemas of one database have different names. Those of two databases have the same name just if
one of them straddles the other. -/
theorem schema_text_eq_iff {db schema db' schema' : String} :
    "[" ++ db ++ "].[" ++ schema ++ "]" = "[" ++ db' ++ "].[" ++ schema' ++ "]" ↔
      (db = db' ∧ schema = schema') ∨ Namesakes db schema db' schema' := by
  constructor
  · intro h
    have hlists : db.toList ++ ("].[".toList ++ schema.toList) =
        db'.toList ++ ("].[".toList ++ schema'.toList) := by
      rw [String.append_left_inj] at h
      simpa [← String.toList_inj] using h
    rcases List.append_eq_append_iff.mp hlists with ⟨as, hdb, hrest⟩ | ⟨as, hdb, hrest⟩
    · rcases separator_append_eq_iff.mp hrest with ⟨rfl, hs⟩ | ⟨middle, rfl, hs⟩
      · exact .inl ⟨String.toList_inj.mp (by simpa using hdb.symm), String.toList_inj.mp hs⟩
      · exact .inr (.inl (.of_lists hdb hs))
    · rcases separator_append_eq_iff.mp hrest with ⟨rfl, hs⟩ | ⟨middle, rfl, hs⟩
      · exact .inl ⟨String.toList_inj.mp (by simpa using hdb), String.toList_inj.mp hs.symm⟩
      · exact .inr (.inr (.of_lists hdb hs))
  · rintro (⟨rfl, rfl⟩ | h | h)
    · rfl
    · exact h.text_eq
    · exact h.text_eq.symm

/-- The schemas that go by the name of a given one, of which there is none for an empty schema. -/
theorem schema_eq_some_iff {db schema db' resource : String} {schema? : Option String}
    (hr : ResourceName.schema db (some schema) = some resource) :
    ResourceName.schema db' schema? = some resource ↔ ∃ s, schema? = some s ∧ s ≠ "" ∧
      ((db = db' ∧ schema = s) ∨ Namesakes db schema db' s) := by
  have hs : schema ≠ "" := by
    rintro rfl
    cases hr
  rw [schema_some hs, Option.some.injEq] at hr
  subst hr
  constructor
  · intro h
    obtain ⟨s, hfilter, htext⟩ := Option.map_eq_some_iff.mp h
    obtain ⟨rfl, hne⟩ := Option.filter_eq_some_iff.mp hfilter
    exact ⟨s, rfl, of_decide_eq_true hne, schema_text_eq_iff.mp htext.symm⟩
  · rintro ⟨s, rfl, hne, h⟩
    rw [schema_some hne, schema_text_eq_iff.mpr h]

theorem Straddles.length_le {db schema db' schema' : String}
    (h : Straddles db schema db' schema') : db.length + 3 ≤ db'.length := by
  obtain ⟨middle, rfl, _⟩ := h
  have hseparator : "].[".length = 3 := rfl
  rw [String.length_append, String.length_append]
  omega

theorem Namesakes.ne {db schema db' schema' : String} (h : Namesakes db schema db' schema') :
    db ≠ db' := by
  rintro rfl
  rcases h with h | h <;> exact absurd h.length_le (by omega)

/-- The text contains no separator. -/
def Unseparated (s : String) : Prop := ¬ "].[".toList <:+: s.toList

theorem splitAtSeparator_eq_some_iff {cs as bs : List Char} :
    splitAtSeparator cs = some (as, bs) ↔
      cs = as ++ ("].[".toList ++ bs) ∧ ¬ "].[".toList <:+: as := by
  induction cs using splitAtSeparator.induct generalizing as with
  | case1 rest =>
    have hcs : ']' :: '.' :: '[' :: rest = "].[".toList ++ rest := rfl
    rw [splitAtSeparator, hcs, separator_append_eq_iff]
    constructor
    · intro h
      cases h
      exact ⟨.inl ⟨rfl, rfl⟩, by simp⟩
    · rintro ⟨⟨rfl, rfl⟩ | ⟨zs, rfl, _⟩, hno⟩
      · rfl
      · exact absurd (List.prefix_append _ zs).isInfix hno
  | case2 c rest hfirst ih =>
    have hno : ∀ zs, c :: rest ≠ "].[".toList ++ zs := by
      intro zs hzs
      obtain ⟨hc, hrest⟩ := List.cons.inj hzs
      exact hfirst zs hc hrest
    rw [splitAtSeparator.eq_2 _ _ hfirst, Option.map_eq_some_iff]
    cases as with
    | nil => simpa using hno bs
    | cons a as =>
      rw [List.infix_cons_iff, not_or]
      constructor
      · rintro ⟨⟨as', bs'⟩, hp, heq⟩
        obtain ⟨⟨rfl, rfl⟩, rfl⟩ : (c = a ∧ as' = as) ∧ bs' = bs := by simpa using heq
        obtain ⟨hrest, hinfix⟩ := ih.mp hp
        refine ⟨congrArg (c :: ·) hrest, fun ⟨zs, hzs⟩ => ?_, hinfix⟩
        exact hno (zs ++ ("].[".toList ++ bs')) (by
          rw [hrest, ← List.append_assoc "].[".toList, hzs, List.cons_append])
      · rintro ⟨heq, _, hinfix⟩
        obtain ⟨rfl, hrest⟩ := List.cons.inj heq
        exact ⟨(as, bs), ih.mpr ⟨hrest, hinfix⟩, rfl⟩
  | case3 => simp [splitAtSeparator]

/-- Without a separator there is nothing to split at. -/
theorem splitAtSeparator_eq_none_iff {cs : List Char} :
    splitAtSeparator cs = none ↔ ¬ "].[".toList <:+: cs := by
  constructor
  · rintro h ⟨as, bs, rfl⟩
    induction as with
    | nil => cases h
    | cons a as ih =>
      rw [List.cons_append, List.cons_append] at h
      unfold splitAtSeparator at h
      split at h
      · cases h
      · rename_i heq
        obtain ⟨rfl, rfl⟩ := List.cons.inj heq
        exact ih (Option.map_eq_none_iff.mp h)
      · rename_i heq
        cases heq
  · intro hno
    cases hsplit : splitAtSeparator cs with
    | none => rfl
    | some parts =>
      obtain ⟨rfl, _⟩ := splitAtSeparator_eq_some_iff.mp hsplit
      exact absurd ⟨parts.1, parts.2, by simp⟩ hno

/-- A schema's name is read at its first separator. -/
theorem unpackSchema_eq_some_iff {name db schema : String} :
    unpackSchema name = some (db, schema) ↔
      name = "[" ++ db ++ "].[" ++ schema ++ "]" ∧ Unseparated db := by
  unfold unpackSchema Unseparated
  constructor
  · intro h
    split at h
    · rename_i rest hname
      split at h
      · rename_i hlast
        obtain ⟨inner, rfl⟩ := List.getLast?_eq_some_iff.mp hlast
        rw [List.dropLast_concat] at h
        obtain ⟨⟨as, bs⟩, hsplit, heq⟩ := Option.map_eq_some_iff.mp h
        cases heq
        obtain ⟨rfl, hno⟩ := splitAtSeparator_eq_some_iff.mp hsplit
        refine ⟨?_, by simpa using hno⟩
        rw [← String.toList_inj, hname]
        simp
      · cases h
    · cases h
  · rintro ⟨rfl, hno⟩
    have hname : ("[" ++ db ++ "].[" ++ schema ++ "]").toList =
        '[' :: ((db.toList ++ ("].[".toList ++ schema.toList)) ++ [']']) := by
      simp
    simp only [hname, List.getLast?_concat, ↓reduceIte, List.dropLast_concat,
      splitAtSeparator_eq_some_iff.mpr ⟨rfl, hno⟩, Option.map_some, String.ofList_toList]

/-- Every text of the form of a schema's name is read, and no other text is. -/
theorem unpackSchema_eq_none_iff {name : String} :
    unpackSchema name = none ↔ ∀ db schema, name ≠ "[" ++ db ++ "].[" ++ schema ++ "]" := by
  constructor
  · rintro h db schema rfl
    have hname : ("[" ++ db ++ "].[" ++ schema ++ "]").toList =
        '[' :: ((db.toList ++ ("].[".toList ++ schema.toList)) ++ [']']) := by
      simp
    simp only [unpackSchema, hname, List.getLast?_concat, ↓reduceIte, List.dropLast_concat,
      Option.map_eq_none_iff, splitAtSeparator_eq_none_iff] at h
    exact h ⟨db.toList, schema.toList, by simp⟩
  · intro hform
    cases hread : unpackSchema name with
    | none => rfl
    | some parts =>
      obtain ⟨db, schema⟩ := parts
      exact absurd (unpackSchema_eq_some_iff.mp hread).1 (hform db schema)

/-- The text stands between the opening bracket of a name and some separator in it. -/
def EndsAtSeparator (front name : String) : Prop := ∃ rest, name = "[" ++ front ++ "].[" ++ rest

/-- The separator behind the database is the first in the name just if the database has none. -/
theorem unseparated_iff_first {db schema : String} : Unseparated db ↔
    ∀ front, EndsAtSeparator front ("[" ++ db ++ "].[" ++ schema ++ "]") →
      db.length ≤ front.length := by
  constructor
  · rintro hno front ⟨rest, hname⟩
    have hlists : db.toList ++ ("].[".toList ++ (schema.toList ++ [']'])) =
        front.toList ++ ("].[".toList ++ rest.toList) := by
      simpa [← String.toList_inj] using hname
    rw [← String.length_toList, ← String.length_toList]
    rcases List.append_eq_append_iff.mp hlists with ⟨as, hfront, _⟩ | ⟨as, hdb, hrest⟩
    · simp [hfront]
    · rcases separator_append_eq_iff.mp hrest with ⟨rfl, _⟩ | ⟨zs, rfl, _⟩
      · simp [hdb]
      · exact absurd ⟨front.toList, zs, by simp [hdb]⟩ hno
  · rintro hfirst ⟨as, bs, hdb⟩
    have hname : "[" ++ db ++ "].[" ++ schema ++ "]" =
        "[" ++ String.ofList as ++ "].[" ++ (String.ofList bs ++ "].[" ++ schema ++ "]") := by
      rw [← String.toList_inj]
      simp [← hdb]
    have hle := hfirst (String.ofList as) ⟨_, hname⟩
    rw [String.length_ofList, ← String.length_toList, ← hdb, List.length_append,
      List.length_append] at hle
    have hseparator : "].[".toList.length = 3 := rfl
    omega

/-- The name of a schema is read back as it was made just if the database's name has no separator.
A text is read as a database and a schema just if it has these between its brackets and its first
separator between them, so the name that they make is the text again; every other text is
refused. -/
theorem schema_read_back_iff :
    (∀ db schema, (ResourceName.schema db (some schema)).bind unpackSchema = some (db, schema) ↔
      schema ≠ "" ∧ Unseparated db) ∧
    (∀ name db schema, unpackSchema name = some (db, schema) ↔
      name = "[" ++ db ++ "].[" ++ schema ++ "]" ∧
        ∀ front, EndsAtSeparator front name → db.length ≤ front.length) ∧
    (∀ name db schema, unpackSchema name = some (db, schema) → schema ≠ "" →
      ResourceName.schema db (some schema) = some name) ∧
    ∀ name, unpackSchema name = none ↔
      ∀ db schema, name ≠ "[" ++ db ++ "].[" ++ schema ++ "]" := by
  refine ⟨?_, ?_, ?_, fun _ => unpackSchema_eq_none_iff⟩
  · intro db schema
    by_cases hs : schema = ""
    · subst hs
      simp [ResourceName.schema, Option.filter]
    · rw [schema_some hs, Option.bind_some, unpackSchema_eq_some_iff]
      simp [hs]
  · intro name db schema
    rw [unpackSchema_eq_some_iff]
    refine and_congr_right fun hname => ?_
    rw [hname]
    exact unseparated_iff_first
  · intro name db schema hread hs
    rw [schema_some hs, (unpackSchema_eq_some_iff.mp hread).1]

/-- A database whose name ends like the front of a separator, and a schema that starts like the end
of one, are told apart. -/
theorem bracketed_names_read_back :
    unpackSchema "[a].].[[s]" = some ("a].", "[s") ∧ "[s" ≠ "" ∧
      ResourceName.schema "a]." (some "[s") = some "[a].].[[s]" := by
  have hread : unpackSchema "[a].].[[s]" = some ("a].", "[s") := by decide +kernel
  exact ⟨hread, by decide, schema_read_back_iff.2.2.1 _ _ _ hread (by decide)⟩

/-- The name of the schema of database `db'` starts as the names of all schemas of `db` do. -/
def StartsUnder (db db' schema : String) : Prop :=
  db' = db ∨ (∃ more, db' = db ++ "]." ++ more) ∨
    ∃ middle more, db = db' ++ "].[" ++ middle ∧ schema = middle ++ "]." ++ more

/-- A closing bracket with a dot behind it is not the last one. -/
theorem append_bracket_eq {xs as more : List Char}
    (h : xs ++ [']'] = as ++ ("].".toList ++ more)) :
    ∃ ys, xs = as ++ ("].".toList ++ ys) := by
  rcases List.eq_nil_or_concat' more with rfl | ⟨ys, c, rfl⟩
  · have hlast := congrArg List.getLast? h
    simp at hlast
  · have hconcat : xs ++ [']'] = (as ++ ("].".toList ++ ys)) ++ [c] := by simpa using h
    exact ⟨ys, (List.append_inj' hconcat rfl).1⟩

theorem StartsUnder.of_lists {db db' schema : String} {more : List Char}
    (h : db.toList ++ ("].".toList ++ more) =
      db'.toList ++ ("].[".toList ++ (schema.toList ++ [']']))) :
    StartsUnder db db' schema := by
  rcases List.append_eq_append_iff.mp h with ⟨as, hdb, hrest⟩ | ⟨as, hdb, hrest⟩
  · match as, hrest with
    | [], _ => exact .inl (String.toList_inj.mp (by simpa using hdb))
    | [a], hrest => simp at hrest
    | a :: b :: as, hrest =>
      obtain ⟨rfl, rfl, _⟩ : ']' = a ∧ '.' = b ∧ _ := by simpa using hrest
      exact .inr (.inl ⟨String.ofList as, String.toList_inj.mp (by simpa using hdb)⟩)
  · match as, hrest with
    | [], _ => exact .inl (String.toList_inj.mp (by simpa using hdb.symm))
    | [a], hrest => simp at hrest
    | [a, b], hrest => simp at hrest
    | a :: b :: c :: as, hrest =>
      obtain ⟨rfl, rfl, rfl, hschema⟩ : ']' = a ∧ '.' = b ∧ '[' = c ∧
          schema.toList ++ [']'] = as ++ ("].".toList ++ more) := by
        simpa using hrest
      obtain ⟨ys, hys⟩ := append_bracket_eq hschema
      refine .inr (.inr ⟨String.ofList as, String.ofList ys, ?_, ?_⟩)
      · exact String.toList_inj.mp (by simpa using hdb)
      · exact String.toList_inj.mp (by simpa using hys)

theorem isPrefixOf_schema_iff {db db' schema : String} :
    ("[" ++ db ++ "].").toList.isPrefixOf ("[" ++ db' ++ "].[" ++ schema ++ "]").toList = true ↔
      StartsUnder db db' schema := by
  have hlists : ("[" ++ db ++ "].").toList <+: ("[" ++ db' ++ "].[" ++ schema ++ "]").toList ↔
      ∃ more, db.toList ++ ("].".toList ++ more) =
        db'.toList ++ ("].[".toList ++ (schema.toList ++ [']'])) := by
    simp [List.IsPrefix]
  rw [List.isPrefixOf_iff_prefix, hlists]
  constructor
  · exact fun ⟨_, h⟩ => .of_lists h
  · rintro (rfl | ⟨more, rfl⟩ | ⟨middle, more, rfl, rfl⟩)
    · exact ⟨'[' :: (schema.toList ++ [']']), by simp⟩
    · exact ⟨more.toList ++ ("].[".toList ++ (schema.toList ++ [']'])), by simp⟩
    · exact ⟨more.toList ++ [']'], by simp⟩

/-- Under a database whose name has no separator. -/
theorem StartsUnder.eq_or_longer {db db' schema : String} (hdb : Unseparated db)
    (h : StartsUnder db db' schema) : db' = db ∨ ∃ more, db' = db ++ "]." ++ more := by
  rcases h with h | h | ⟨middle, _, rfl, _⟩
  · exact .inl h
  · exact .inr h
  · exact absurd ⟨db'.toList, middle.toList, by simp⟩ hdb

end ResourceName
end Turnstile
