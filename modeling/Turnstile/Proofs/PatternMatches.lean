import Mathlib.Data.Finset.Card
import Turnstile.Pattern.Reader

namespace Turnstile.Pattern
variable {isWord : Char → Bool} {w : Array Char} {i j k n m : Nat} {is : List Nat}

/-- `n` rounds lead from one place to another. -/
def Rounds (R : Nat → Nat → Prop) : Nat → Nat → Nat → Prop
  | 0, i, j => j = i
  | n + 1, i, k => ∃ j, R i j ∧ Rounds R n j k

/-- The expression matches what stands between two places of the text. -/
def Matches (isWord : Char → Bool) (w : Array Char) : Pattern → Nat → Nat → Prop
  | empty, i, j => j = i
  | one _ has, i, j => w[i]?.any has = true ∧ j = i + 1
  | assert a, i, j => a.holds isWord (if i = 0 then none else w[i - 1]?) w[i]? = true ∧ j = i
  | seq a b, i, k => ∃ j, Matches isWord w a i j ∧ Matches isWord w b j k
  | alt a b, i, j => Matches isWord w a i j ∨ Matches isWord w b i j
  | times p low high, i, j =>
    ∃ n, low ≤ n ∧ (∀ h ∈ high, n ≤ h) ∧ Rounds (Matches isWord w p) n i j

/-- No repetition has an upper bound below its lower one. -/
def InOrder : Pattern → Prop
  | empty | one .. | assert _ => True
  | seq a b | alt a b => a.InOrder ∧ b.InOrder
  | times p low high => p.InOrder ∧ ∀ h ∈ high, low ≤ h

theorem Rounds.inside {R : Nat → Nat → Prop} {size : Nat}
    (hR : ∀ i j, R i j → i ≤ size → j ≤ size) (h : Rounds R n i j) (hi : i ≤ size) :
    j ≤ size := by
  induction n generalizing i with
  | zero => exact h ▸ hi
  | succ n ih =>
    obtain ⟨k, hk, h⟩ := h
    exact ih h (hR i k hk hi)

/-- A match from inside the text ends inside it. -/
theorem Matches.inside {p : Pattern} (h : Matches isWord w p i j) (hi : i ≤ w.size) :
    j ≤ w.size := by
  induction p generalizing i j with
  | empty => exact h ▸ hi
  | one weight has =>
    obtain ⟨hc, rfl⟩ := h
    cases hget : w[i]? with
    | none => simp [hget] at hc
    | some c => exact (Array.getElem?_eq_some_iff.mp hget).1
  | assert a => exact h.2 ▸ hi
  | seq a b iha ihb =>
    obtain ⟨k, ha, hb⟩ := h
    exact ihb hb (iha ha hi)
  | alt a b iha ihb => exact h.elim (fun h => iha h hi) (fun h => ihb h hi)
  | times p low high ih =>
    obtain ⟨n, _, _, hn⟩ := h
    exact hn.inside (fun _ _ h hi => ih h hi) hi

section
variable {R : Nat → Nat → Prop} {size : Nat}

theorem rounds_add : Rounds R (n + m) i k ↔ ∃ j, Rounds R n i j ∧ Rounds R m j k := by
  induction n generalizing i with
  | zero => simp [Rounds]
  | succ n ih =>
    rw [Nat.succ_add]
    simp only [Rounds, ih]
    constructor
    · rintro ⟨l, hl, j, hj, hk⟩
      exact ⟨j, ⟨l, hl, hj⟩, hk⟩
    · rintro ⟨j, ⟨l, hl, hj⟩, hk⟩
      exact ⟨l, hl, j, hj, hk⟩

/-- More rounds than there are places come to one of the places twice. -/
theorem Rounds.shorten (hR : ∀ i j, R i j → i ≤ size → j ≤ size) (h : Rounds R n i k)
    (hi : i ≤ size) (hn : size < n) : ∃ m < n, Rounds R m i k := by
  have hplace : ∀ a ≤ n, ∃ j, Rounds R a i j ∧ Rounds R (n - a) j k := fun a ha =>
    rounds_add.mp (by rwa [Nat.add_sub_cancel' ha])
  choose! place hplace using hplace
  have hinside : ∀ a ∈ Finset.range (n + 1), place a ∈ Finset.range (size + 1) := by
    intro a ha
    have hle := Nat.lt_succ_iff.mp (Finset.mem_range.mp ha)
    exact Finset.mem_range.mpr (Nat.lt_succ_of_le ((hplace a hle).1.inside hR hi))
  -- two of the places between the rounds are one, and the rounds between them can go
  obtain ⟨a, ha, b, hb, hne, hsame⟩ :=
    Finset.exists_ne_map_eq_of_card_lt_of_maps_to (by simpa using hn) hinside
  simp only [Finset.mem_range, Nat.lt_succ_iff] at ha hb
  rcases Nat.lt_or_gt_of_ne hne with hlt | hlt
  · exact ⟨a + (n - b), by omega, rounds_add.mpr ⟨_, (hplace a ha).1, hsame ▸ (hplace b hb).2⟩⟩
  · exact ⟨b + (n - a), by omega, rounds_add.mpr ⟨_, (hplace b hb).1, hsame ▸ (hplace a ha).2⟩⟩

/-- As many rounds as there are places are enough. -/
theorem Rounds.bounded (hR : ∀ i j, R i j → i ≤ size → j ≤ size) (h : Rounds R n i k)
    (hi : i ≤ size) : ∃ m ≤ n, m ≤ size ∧ Rounds R m i k := by
  induction n using Nat.strong_induction_on with
  | h n ih =>
    by_cases hn : n ≤ size
    · exact ⟨n, Nat.le_refl n, hn, h⟩
    · obtain ⟨m, hm, hshort⟩ := h.shorten hR hi (Nat.lt_of_not_le hn)
      obtain ⟨l, hl, hsize, hbounded⟩ := ih m hm hshort
      exact ⟨l, by omega, hsize, hbounded⟩

end

theorem mem_mergePlaces {js : List Nat} : j ∈ mergePlaces is js ↔ j ∈ is ∨ j ∈ js := by
  by_cases h : j ∈ is <;> simp [mergePlaces, h]

section
variable {f : List Nat → List Nat} {R : Nat → Nat → Prop}

/-- From places inside the text `f` leads just where single rounds lead. -/
def Follows (size : Nat) (R : Nat → Nat → Prop) (f : List Nat → List Nat) : Prop :=
  ∀ is : List Nat, (∀ i ∈ is, i ≤ size) → ∀ j, j ∈ f is ↔ ∃ i ∈ is, R i j

variable {size : Nat} (hf : Follows size R f) (hR : ∀ i j, R i j → i ≤ size → j ≤ size)
include hf hR

theorem follows_inside (his : ∀ i ∈ is, i ≤ size) : ∀ j ∈ f is, j ≤ size := by
  intro j hj
  obtain ⟨i, hi, hij⟩ := (hf is his j).mp hj
  exact hR i j hij (his i hi)

/-- Taking a step from all places at once loses none and adds none. -/
theorem mem_stepTimes (his : ∀ i ∈ is, i ≤ size) :
    j ∈ stepTimes f n is ↔ ∃ i ∈ is, Rounds R n i j := by
  induction n generalizing is with
  | zero => simp [stepTimes, Rounds]
  | succ n ih =>
    rw [stepTimes, ih (follows_inside hf hR his)]
    simp only [hf is his, Rounds]
    constructor
    · rintro ⟨l, ⟨i, hi, hl⟩, hj⟩
      exact ⟨i, hi, l, hl, hj⟩
    · rintro ⟨i, hi, l, hl, hj⟩
      exact ⟨l, ⟨i, hi, hl⟩, hj⟩

theorem mem_stepUpTo (his : ∀ i ∈ is, i ≤ size) :
    j ∈ stepUpTo f n is ↔ ∃ i ∈ is, ∃ m ≤ n, Rounds R m i j := by
  induction n generalizing is with
  | zero => simp [stepUpTo, Rounds]
  | succ n ih =>
    rw [stepUpTo, mem_mergePlaces, ih (follows_inside hf hR his)]
    simp only [hf is his]
    constructor
    · rintro (hj | ⟨l, ⟨i, hi, hl⟩, m, hm, hj⟩)
      · exact ⟨j, hj, 0, Nat.zero_le _, rfl⟩
      · exact ⟨i, hi, m + 1, Nat.succ_le_succ hm, l, hl, hj⟩
    · rintro ⟨i, hi, _ | m, hm, hj⟩
      · exact .inl (hj ▸ hi)
      · obtain ⟨l, hl, hj⟩ := hj
        exact .inr ⟨l, ⟨i, hi, hl⟩, m, Nat.le_of_succ_le_succ hm, hj⟩

/-- The rounds of a repetition: those that are needed, and then as many as may be, but no more than
there are places. -/
theorem mem_repetition (his : ∀ i ∈ is, i ≤ size) {low : Nat} {high : Option Nat}
    (hbounds : ∀ h ∈ high, low ≤ h) :
    j ∈ stepUpTo f (high.elim (size + 1) fun h => min (h - low) (size + 1))
        (stepTimes f low is) ↔
      ∃ i ∈ is, ∃ n, low ≤ n ∧ (∀ h ∈ high, n ≤ h) ∧ Rounds R n i j := by
  have hlow : ∀ k ∈ stepTimes f low is, k ≤ size := by
    intro k hk
    obtain ⟨i, hi, hrounds⟩ := (mem_stepTimes hf hR his).mp hk
    exact hrounds.inside hR (his i hi)
  rw [mem_stepUpTo hf hR hlow]
  simp only [mem_stepTimes hf hR his]
  constructor
  · rintro ⟨l, ⟨i, hi, hl⟩, m, hm, hj⟩
    refine ⟨i, hi, low + m, Nat.le_add_right .., fun h hh => ?_, rounds_add.mpr ⟨l, hl, hj⟩⟩
    obtain rfl := Option.mem_def.mp hh
    have := hbounds h rfl
    simp only [Option.elim_some] at hm
    omega
  · rintro ⟨i, hi, n, hn, hhigh, hrounds⟩
    obtain ⟨l, hl, hj⟩ := rounds_add.mp (by rwa [Nat.add_sub_cancel' hn] :
      Rounds R (low + (n - low)) i j)
    obtain ⟨m, hm, hsize, hj⟩ := hj.bounded hR (hl.inside hR (his i hi))
    refine ⟨l, ⟨i, hi, hl⟩, m, ?_, hj⟩
    cases high with
    | none => exact Nat.le_succ_of_le hsize
    | some h =>
      have := hhigh h rfl
      simp only [Option.elim_some]
      omega

end

/-- A match stays within the text. -/
theorem matches_inside (p : Pattern) :
    ∀ i j, Matches isWord w p i j → i ≤ w.size → j ≤ w.size := fun _ _ h hi => h.inside hi

/-- The search finds the ends of all matches and nothing else. -/
theorem mem_ends {p : Pattern} (hp : p.InOrder) :
    Follows w.size (Matches isWord w p) (p.ends isWord w) := by
  induction p with
  | empty =>
    intro is _ j
    simp [ends, Matches]
  | one weight has =>
    intro is _ j
    simp only [ends, Matches, List.mem_filterMap]
    refine exists_congr fun i => and_congr_right fun _ => ?_
    by_cases h : w[i]?.any has = true <;> simp [h, eq_comm]
  | assert a =>
    intro is _ j
    simp only [ends, Matches, List.mem_filter]
    constructor
    · rintro ⟨hj, ha⟩
      exact ⟨j, hj, ha, rfl⟩
    · rintro ⟨i, hi, ha, rfl⟩
      exact ⟨hi, ha⟩
  | seq a b iha ihb =>
    intro is his j
    have hinside := follows_inside (iha hp.1) (matches_inside a) his
    simp only [ends, Matches, ihb hp.2 _ hinside, iha hp.1 is his]
    constructor
    · rintro ⟨k, ⟨i, hi, hk⟩, hj⟩
      exact ⟨i, hi, k, hk, hj⟩
    · rintro ⟨i, hi, k, hk, hj⟩
      exact ⟨k, ⟨i, hi, hk⟩, hj⟩
  | alt a b iha ihb =>
    intro is his j
    simp only [ends, Matches, mem_mergePlaces, iha hp.1 is his, ihb hp.2 is his, and_or_left,
      exists_or]
  | times p low high ih =>
    intro is his j
    have hrepetition := mem_repetition (j := j) (ih hp.1) (matches_inside p) his hp.2
    cases high <;> exact hrepetition

/-- The expression occurs in the text if it matches from some place. -/
theorem occursIn_iff {p : Pattern} (hp : p.InOrder) {text : String} :
    p.occursIn isWord text = true ↔ ∃ i ≤ text.toList.toArray.size, ∃ j,
      Matches isWord text.toList.toArray p i j := by
  have hall : ∀ i ∈ List.range (text.toList.toArray.size + 1), i ≤ text.toList.toArray.size :=
    fun i hi => Nat.lt_succ_iff.mp (List.mem_range.mp hi)
  have hends : Follows text.toList.toArray.size (Matches isWord text.toList.toArray p)
      (p.ends isWord text.toList.toArray) := mem_ends hp
  simp only [occursIn, Bool.not_eq_true', List.isEmpty_eq_false_iff_exists_mem, hends _ hall,
    List.mem_range, Nat.lt_succ_iff]
  constructor
  · rintro ⟨j, i, hi, hj⟩
    exact ⟨i, hi, j, hj⟩
  · rintro ⟨i, hi, j, hj⟩
    exact ⟨j, i, hi, hj⟩

end Turnstile.Pattern
