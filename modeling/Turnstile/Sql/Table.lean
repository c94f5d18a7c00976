import Turnstile.Text.Sorted

namespace Turnstile

structure Table where
  schema : Option String
  name : String
deriving DecidableEq, Repr

namespace Table

def of (name : String) (schema : Option String) : Table := ⟨schema.filter (· ≠ ""), name⟩

def text (t : Table) : String :=
  match t.schema with
  | some s => s ++ "." ++ t.name
  | none => t.name

/-- Tables without a schema come first, then by schema, then by name. -/
def before (a b : Table) : Bool :=
  match a.schema, b.schema with
  | none, none => a.name < b.name
  | none, some _ => true
  | some _, none => false
  | some s, some t => s < t || (s == t && a.name < b.name)

theorem before_none (a b : String) : before ⟨none, a⟩ ⟨none, b⟩ = Text.below a b := rfl

theorem before_some (s t a b : String) :
    before ⟨some s, a⟩ ⟨some t, b⟩ = Text.pairBelow (s, a) (t, b) := rfl

/-- Tables without a schema come first; within each group the orders of texts and of pairs carry
over. -/
theorem orders_before : Text.Orders before where
  irrefl a := by
    obtain ⟨schema, name⟩ := a
    cases schema with
    | none => exact before_none name name ▸ Text.orders_below.irrefl name
    | some s => exact before_some s s name name ▸ Text.orders_pairBelow.irrefl (s, name)
  trans := by
    intro a b c hab hbc
    obtain ⟨schema, name⟩ := a
    obtain ⟨schema', name'⟩ := b
    obtain ⟨schema'', name''⟩ := c
    cases schema with
    | none =>
      cases schema'' with
      | some u => rfl
      | none =>
        cases schema' with
        | none =>
          rw [before_none] at hab hbc ⊢
          exact Text.orders_below.trans hab hbc
        | some t => cases hbc
    | some s =>
      cases schema' with
      | none => cases hab
      | some t =>
        cases schema'' with
        | none => cases hbc
        | some u =>
          rw [before_some] at hab hbc ⊢
          exact Text.orders_pairBelow.trans hab hbc
  connected := by
    intro a b hne hnot
    obtain ⟨schema, name⟩ := a
    obtain ⟨schema', name'⟩ := b
    cases schema with
    | none =>
      cases schema' with
      | none =>
        rw [before_none] at hnot ⊢
        exact Text.orders_below.connected (fun h => hne (congrArg _ h)) hnot
      | some t => cases hnot
    | some s =>
      cases schema' with
      | none => rfl
      | some t =>
        rw [before_some] at hnot ⊢
        apply Text.orders_pairBelow.connected _ hnot
        intro h
        cases h
        exact hne rfl

def sort : List Table → List Table := Text.sortUnique before

def InOrder (ts : List Table) : Prop := ts.Pairwise (before · · = true)

instance {ts : List Table} : Decidable (InOrder ts) :=
  inferInstanceAs (Decidable (ts.Pairwise (before · · = true)))

theorem inOrder_sort (ts : List Table) : InOrder (sort ts) :=
  Text.pairwise_sortUnique orders_before ts

theorem mem_sort {t : Table} {ts : List Table} : t ∈ sort ts ↔ t ∈ ts := Text.mem_sortUnique

theorem InOrder.nodup {ts : List Table} (h : InOrder ts) : ts.Nodup := orders_before.nodup h

end Table

/-- A set of tables, held as a list in order without repetition. -/
structure TableSet where
  rows : List Table
  inOrder : Table.InOrder rows
deriving DecidableEq

namespace TableSet

def ofList (ts : List Table) : TableSet := ⟨Table.sort ts, Table.inOrder_sort ts⟩

@[simp] theorem mem_ofList {t : Table} {ts : List Table} : t ∈ (ofList ts).rows ↔ t ∈ ts :=
  Table.mem_sort

theorem ext_mem {s s' : TableSet} (h : ∀ t, t ∈ s.rows ↔ t ∈ s'.rows) : s = s' := by
  obtain ⟨ts, hts⟩ := s
  obtain ⟨us, hus⟩ := s'
  obtain rfl : ts = us := Table.orders_before.eq_of_mem_iff hts hus h
  rfl

end TableSet
end Turnstile
