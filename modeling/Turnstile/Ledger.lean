namespace Turnstile

class Filed (α : Type) where
  number : α → Nat

def Ascending {α : Type} [Filed α] (rows : List α) : Prop :=
  rows.Pairwise (fun a b => Filed.number a < Filed.number b)

instance {α : Type} [Filed α] (rows : List α) : Decidable (Ascending rows) :=
  inferInstanceAs (Decidable (rows.Pairwise _))

/-- Files a row at its place; a row of the same number gives way to it. -/
def fileRow {α : Type} [Filed α] (row : α) : List α → List α
  | [] => [row]
  | r :: rs =>
    if Filed.number row < Filed.number r then row :: r :: rs
    else if Filed.number row = Filed.number r then row :: rs
    else r :: fileRow row rs

theorem mem_fileRow {α : Type} [Filed α] {row x : α} {rs : List α} (h : x ∈ fileRow row rs) :
    x = row ∨ x ∈ rs := by
  induction rs with
  | nil => simpa [fileRow] using h
  | cons r rs ih =>
    unfold fileRow at h
    split at h
    · simpa using h
    · split at h
      · rcases List.mem_cons.mp h with h | h <;> simp [h]
      · rcases List.mem_cons.mp h with h | h
        · simp [h]
        · rcases ih h with h | h <;> simp [h]

theorem ascending_fileRow {α : Type} [Filed α] (row : α) {rs : List α} (h : Ascending rs) :
    Ascending (fileRow row rs) := by
  induction rs with
  | nil => simp [fileRow, Ascending]
  | cons r rs ih =>
    obtain ⟨hr, hrs⟩ := List.pairwise_cons.mp h
    unfold fileRow
    split
    · next hlt =>
      refine List.pairwise_cons.mpr ⟨fun x hx => ?_, h⟩
      rcases List.mem_cons.mp hx with rfl | hx
      · exact hlt
      · exact Nat.lt_trans hlt (hr x hx)
    · split
      · next heq => exact List.pairwise_cons.mpr ⟨fun x hx => heq ▸ hr x hx, hrs⟩
      · next hlt hne =>
        refine List.pairwise_cons.mpr ⟨fun x hx => ?_, ih hrs⟩
        rcases mem_fileRow hx with rfl | hx
        · omega
        · exact hr x hx

/-- Rows filed by number, at most one under each. -/
structure Ledger (α : Type) [Filed α] where
  rows : List α
  ascending : Ascending rows

namespace Ledger
variable {α : Type} [Filed α]

/-- Two ledgers with the same rows are the same. -/
theorem ext {l m : Ledger α} (h : l.rows = m.rows) : l = m := by
  cases l; cases m; cases h; rfl

instance [DecidableEq α] : DecidableEq (Ledger α) := fun l m =>
  if h : l.rows = m.rows then isTrue (ext h) else isFalse fun e => h (e ▸ rfl)

def empty : Ledger α := ⟨[], List.Pairwise.nil⟩

instance : Inhabited (Ledger α) := ⟨empty⟩

def find? (l : Ledger α) (n : Nat) : Option α :=
  l.rows.find? (fun r => Filed.number r == n)

def has (l : Ledger α) (n : Nat) : Bool := (l.find? n).isSome

def put (l : Ledger α) (row : α) : Ledger α :=
  ⟨fileRow row l.rows, ascending_fileRow row l.ascending⟩

/-- Files `row` unless a row of its number is there already. -/
def putNew (l : Ledger α) (row : α) : Ledger α :=
  if l.has (Filed.number row) then l else l.put row

def erase (l : Ledger α) (n : Nat) : Ledger α :=
  ⟨l.rows.filter (fun r => Filed.number r != n), l.ascending.filter _⟩

def filter (l : Ledger α) (p : α → Bool) : Ledger α :=
  ⟨l.rows.filter p, l.ascending.filter p⟩

def map (l : Ledger α) (f : α → α) (keeps : ∀ r, Filed.number (f r) = Filed.number r) : Ledger α :=
  ⟨l.rows.map f, List.pairwise_map.mpr (by simp only [keeps]; exact l.ascending)⟩

/-- The ledger that results from filing the rows in order; of equal numbers the last stays. -/
def ofList (rows : List α) : Ledger α := rows.foldl put empty

theorem number_find? {l : Ledger α} {n : Nat} {r : α} (h : l.find? n = some r) :
    Filed.number r = n := by
  simpa using List.find?_some h

theorem mem_of_find? {l : Ledger α} {n : Nat} {r : α} (h : l.find? n = some r) : r ∈ l.rows :=
  List.mem_of_find?_eq_some h

@[simp] theorem find?_empty (n : Nat) : (empty : Ledger α).find? n = none := rfl

/-- The number tells a row from all others. -/
theorem eq_of_number_eq {l : Ledger α} {a b : α} (ha : a ∈ l.rows) (hb : b ∈ l.rows)
    (h : Filed.number a = Filed.number b) : a = b := by
  obtain ⟨rows, asc⟩ := l
  simp only at ha hb
  induction rows with
  | nil => simp at ha
  | cons r rs ih =>
    obtain ⟨hr, hrs⟩ := List.pairwise_cons.mp asc
    rcases List.mem_cons.mp ha with ha' | ha' <;> rcases List.mem_cons.mp hb with hb' | hb'
    · exact ha'.trans hb'.symm
    · have := hr b hb'; subst ha'; omega
    · have := hr a ha'; subst hb'; omega
    · exact ih hrs ha' hb'

/-- Looking up a number finds just the row that carries it. -/
theorem find?_eq_some_iff {l : Ledger α} {n : Nat} {r : α} :
    l.find? n = some r ↔ r ∈ l.rows ∧ Filed.number r = n := by
  refine ⟨fun h => ⟨mem_of_find? h, number_find? h⟩, fun ⟨hm, hn⟩ => ?_⟩
  cases hf : l.find? n with
  | none =>
    have := List.find?_eq_none.mp hf r hm
    simp [hn] at this
  | some s => exact congrArg some (eq_of_number_eq (mem_of_find? hf) hm ((number_find? hf).trans hn.symm))

/-- Filing changes what is found under the number of the row, and nothing else. -/
theorem find?_fileRow (row : α) (rs : List α) (n : Nat) :
    (fileRow row rs).find? (fun r => Filed.number r == n)
      = if n = Filed.number row then some row else rs.find? (fun r => Filed.number r == n) := by
  induction rs with
  | nil =>
    by_cases h : n = Filed.number row
    · simp [fileRow, h]
    · have : (Filed.number row == n) = false := by simp; omega
      simp [fileRow, h, this]
  | cons r rs ih =>
    unfold fileRow
    split
    · by_cases h : n = Filed.number row
      · simp [h]
      · have : (Filed.number row == n) = false := by simp; omega
        simp [h, List.find?_cons, this]
    · split
      · next heq =>
        by_cases h : n = Filed.number row
        · simp [h]
        · have h1 : (Filed.number row == n) = false := by simp; omega
          have h2 : (Filed.number r == n) = false := by simp; omega
          simp [h, h1, h2]
      · next hlt hne =>
        by_cases hr : Filed.number r = n
        · have : ¬ n = Filed.number row := by omega
          simp [hr, this]
        · simp [hr, ih]

/-- Filing a row shows it under its number and nothing else anew. -/
@[simp] theorem find?_put (l : Ledger α) (row : α) (n : Nat) :
    (l.put row).find? n = if n = Filed.number row then some row else l.find? n :=
  find?_fileRow row l.rows n

/-- Erasing a number hides it and no other. -/
@[simp] theorem find?_erase (l : Ledger α) (m n : Nat) :
    (l.erase m).find? n = if n = m then none else l.find? n := by
  unfold erase find?
  rw [List.find?_filter]
  split
  · next h =>
    refine List.find?_eq_none.mpr fun r _ => ?_
    simp [h]
  · next h =>
    congr 1
    funext r
    by_cases hr : Filed.number r = n <;> simp [hr, h]

/-- Changing every row in place changes what is found and nothing else. -/
@[simp] theorem find?_map (l : Ledger α) (f : α → α)
    (keeps : ∀ r, Filed.number (f r) = Filed.number r) (n : Nat) :
    (l.map f keeps).find? n = (l.find? n).map f := by
  unfold map find?
  rw [List.find?_map]
  congr 2
  funext r
  exact congrArg (· == n) (keeps r)

theorem mem_put {l : Ledger α} {row x : α} :
    x ∈ (l.put row).rows ↔ x = row ∨ (x ∈ l.rows ∧ Filed.number x ≠ Filed.number row) := by
  have h := find?_put l row (Filed.number x)
  constructor
  · intro hx
    rw [find?_eq_some_iff.mpr ⟨hx, rfl⟩] at h
    split at h
    · exact .inl (Option.some.inj h)
    · next hn => exact .inr ⟨mem_of_find? h.symm, hn⟩
  · rintro (rfl | ⟨hx, hn⟩)
    · exact mem_of_find? (n := Filed.number x) (by simp)
    · rw [if_neg hn, find?_eq_some_iff.mpr ⟨hx, rfl⟩] at h
      exact mem_of_find? h

/-- A row with a number above all others is filed last. -/
theorem rows_put_of_lt {l : Ledger α} {row : α}
    (h : ∀ r ∈ l.rows, Filed.number r < Filed.number row) :
    (l.put row).rows = l.rows ++ [row] := by
  obtain ⟨rows, asc⟩ := l
  simp only [put] at h ⊢
  clear asc
  induction rows with
  | nil => rfl
  | cons r rs ih =>
    have hr : Filed.number r < Filed.number row := h r (by simp)
    have hlt : ¬ Filed.number row < Filed.number r := by omega
    have hne : ¬ Filed.number row = Filed.number r := by omega
    simp only [fileRow, hlt, hne, ↓reduceIte, List.cons_append,
      ih (fun x hx => h x (by simp [hx]))]

/-- What a function tells of the rows stays when a row gives way to one it tells the same of. -/
theorem map_rows_put {β : Type} (f : α → β) {l : Ledger α} {row old : α}
    (hf : l.find? (Filed.number row) = some old) (he : f row = f old) :
    (l.put row).rows.map f = l.rows.map f := by
  obtain ⟨rows, asc⟩ := l
  simp only [put, find?] at hf ⊢
  induction rows with
  | nil => simp at hf
  | cons r rs ih =>
    obtain ⟨hr, hrs⟩ := List.pairwise_cons.mp asc
    by_cases hn : Filed.number r = Filed.number row
    · have : r = old := by simpa [hn] using hf
      subst this
      simp [fileRow, hn, he]
    · have hf' : rs.find? (fun r => Filed.number r == Filed.number row) = some old := by
        simpa [hn] using hf
      have hmem := hr old (List.mem_of_find?_eq_some hf')
      have hnum : Filed.number old = Filed.number row := by simpa using List.find?_some hf'
      have hlt : ¬ Filed.number row < Filed.number r := by omega
      simp [fileRow, hlt, Ne.symm hn, ih hrs hf']

/-- Filing the row that is there already changes nothing. -/
theorem put_self {l : Ledger α} {row : α} (h : l.find? (Filed.number row) = some row) :
    l.put row = l :=
  ext (by simpa using map_rows_put id h rfl)

@[simp] theorem mem_erase {l : Ledger α} {n : Nat} {x : α} :
    x ∈ (l.erase n).rows ↔ x ∈ l.rows ∧ Filed.number x ≠ n := by
  simp [erase]

theorem rows_erase_sublist (l : Ledger α) (n : Nat) : (l.erase n).rows.Sublist l.rows :=
  List.filter_sublist

end Ledger
end Turnstile
