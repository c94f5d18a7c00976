namespace Turnstile.Text

def insertSorted {α : Type} [DecidableEq α] (below : α → α → Bool) (x : α) : List α → List α
  | [] => [x]
  | y :: ys =>
    if x = y then y :: ys else if below x y then x :: y :: ys else y :: insertSorted below x ys

def sortUnique {α : Type} [DecidableEq α] (below : α → α → Bool) (xs : List α) : List α :=
  xs.foldl (fun acc x => insertSorted below x acc) []

theorem mem_insertSorted {α : Type} [DecidableEq α] {below : α → α → Bool} {x y : α}
    {ys : List α} : y ∈ insertSorted below x ys ↔ y = x ∨ y ∈ ys := by
  induction ys with
  | nil => simp [insertSorted]
  | cons z zs ih =>
    unfold insertSorted
    split
    · next h => subst h; simp
    · split
      · simp
      · simp only [List.mem_cons, ih]
        constructor
        · rintro (h | h | h) <;> simp [h]
        · rintro (h | h | h) <;> simp [h]

theorem mem_foldl_insertSorted {α : Type} [DecidableEq α] {below : α → α → Bool} {y : α}
    (xs acc : List α) :
    y ∈ xs.foldl (fun acc x => insertSorted below x acc) acc ↔ y ∈ xs ∨ y ∈ acc := by
  induction xs generalizing acc with
  | nil => simp
  | cons x xs ih =>
    simp only [List.foldl_cons, ih, mem_insertSorted, List.mem_cons]
    constructor
    · rintro (h | h | h) <;> simp [h]
    · rintro ((h | h) | h) <;> simp [h]

/-- Sorting keeps the elements. -/
@[simp] theorem mem_sortUnique {α : Type} [DecidableEq α] {below : α → α → Bool} {y : α}
    {xs : List α} : y ∈ sortUnique below xs ↔ y ∈ xs := by
  simp [sortUnique, mem_foldl_insertSorted]

/-- A strict order in which of two different elements one is below the other. -/
structure Orders {α : Type} (below : α → α → Bool) : Prop where
  irrefl : ∀ x, below x x = false
  trans : ∀ {x y z}, below x y = true → below y z = true → below x z = true
  connected : ∀ {x y}, x ≠ y → below x y = false → below y x = true

theorem Orders.nodup {α : Type} {below : α → α → Bool} (ho : Orders below) {xs : List α}
    (h : xs.Pairwise (below · · = true)) : xs.Nodup := by
  apply h.imp
  intro a b hab hsame
  subst hsame
  rw [ho.irrefl] at hab
  cases hab

/-- Lists in order are told apart by what is in them. -/
theorem Orders.eq_of_mem_iff {α : Type} {below : α → α → Bool} (ho : Orders below)
    {xs ys : List α} (hx : xs.Pairwise (below · · = true)) (hy : ys.Pairwise (below · · = true))
    (h : ∀ x, x ∈ xs ↔ x ∈ ys) : xs = ys := by
  have hperm : xs.Perm ys := (List.perm_ext_iff_of_nodup (ho.nodup hx) (ho.nodup hy)).mpr h
  apply hperm.eq_of_pairwise _ hx hy
  intro a b _ _ hab hba
  have hloop := ho.trans hab hba
  rw [ho.irrefl] at hloop
  cases hloop

theorem pairwise_insertSorted {α : Type} [DecidableEq α] {below : α → α → Bool}
    (ho : Orders below) {x : α} {ys : List α} (h : ys.Pairwise (below · · = true)) :
    (insertSorted below x ys).Pairwise (below · · = true) := by
  induction ys with
  | nil => exact List.pairwise_singleton _ x
  | cons y ys ih =>
    obtain ⟨hy, hys⟩ := List.pairwise_cons.mp h
    unfold insertSorted
    split
    · exact h
    · next hne =>
      split
      · next hlt =>
        apply List.pairwise_cons.mpr
        refine ⟨?_, h⟩
        intro z hz
        cases List.mem_cons.mp hz with
        | inl hz => exact hz ▸ hlt
        | inr hz => exact ho.trans hlt (hy z hz)
      · next hnlt =>
        apply List.pairwise_cons.mpr
        refine ⟨?_, ih hys⟩
        intro z hz
        cases mem_insertSorted.mp hz with
        | inl hz => exact hz ▸ ho.connected hne (Bool.eq_false_iff.mpr hnlt)
        | inr hz => exact hy z hz

/-- Sorting puts the elements in order. -/
theorem pairwise_sortUnique {α : Type} [DecidableEq α] {below : α → α → Bool}
    (ho : Orders below) (xs : List α) : (sortUnique below xs).Pairwise (below · · = true) := by
  have hfold : ∀ acc : List α, acc.Pairwise (below · · = true) →
      (xs.foldl (fun acc x => insertSorted below x acc) acc).Pairwise (below · · = true) := by
    induction xs with
    | nil =>
      intro acc h
      exact h
    | cons x xs ih =>
      intro acc h
      exact ih _ (pairwise_insertSorted ho h)
  exact hfold [] List.Pairwise.nil

def below (a b : String) : Bool := a < b

theorem orders_below : Orders below where
  irrefl x := by simp [below]
  trans hxy hyz := by
    simp only [below, decide_eq_true_eq] at hxy hyz ⊢
    exact String.lt_trans hxy hyz
  connected hne hnot := by
    simp only [below, decide_eq_false_iff_not, decide_eq_true_eq] at hnot ⊢
    exact Std.lt_of_le_of_ne hnot (Ne.symm hne)

def pairBelow (a b : String × String) : Bool := a.1 < b.1 || (a.1 == b.1 && a.2 < b.2)

theorem orders_pairBelow : Orders pairBelow where
  irrefl x := by simp [pairBelow]
  trans := by
    intro x y z hxy hyz
    simp only [pairBelow, Bool.or_eq_true, Bool.and_eq_true, beq_iff_eq] at hxy hyz ⊢
    rcases hxy with hxy | ⟨hsame, hxy⟩
    · rcases hyz with hyz | ⟨hsame, _⟩
      · exact .inl (orders_below.trans hxy hyz)
      · exact .inl (hsame ▸ hxy)
    · rw [hsame]
      exact hyz.imp id (.imp id (orders_below.trans hxy))
  connected := by
    intro x y hne hnot
    obtain ⟨x₁, x₂⟩ := x
    obtain ⟨y₁, y₂⟩ := y
    simp only [pairBelow, Bool.or_eq_false_iff, Bool.and_eq_false_iff, Bool.or_eq_true,
      Bool.and_eq_true, beq_iff_eq] at hnot ⊢
    by_cases hsame : x₁ = y₁
    · subst hsame
      have hne : x₂ ≠ y₂ := fun h => hne (h ▸ rfl)
      refine .inr ⟨rfl, ?_⟩
      exact orders_below.connected hne (hnot.2.resolve_left (by simp))
    · exact .inl (orders_below.connected hsame hnot.1)

def sortTexts : List String → List String := sortUnique below

def sortPairs : List (String × String) → List (String × String) := sortUnique pairBelow

end Turnstile.Text
