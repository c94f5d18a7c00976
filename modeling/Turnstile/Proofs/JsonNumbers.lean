import Turnstile.Json.Reader

namespace Turnstile.Json

/-- All natural numbers in a value have 64 bits. -/
inductive Value.Bounded : Value → Prop where
  | null : Bounded .null
  | bool (b : Bool) : Bounded (.bool b)
  | number {n : Number} (h : ∀ m, n = .natural m → m ≤ Decimal.wordMax) : Bounded (.number n)
  | text (s : Option String) : Bounded (.text s)
  | array {items : List Value} (h : ∀ v ∈ items, Bounded v) : Bounded (.array items)
  | object {ms : List (Option String × Value)} (h : ∀ m ∈ ms, Bounded m.2) : Bounded (.object ms)

/-- Digits beyond 64 bits make another kind of number. -/
theorem wholeNumber_bounded (negative : Bool) (digits : List Char) :
    (Value.number (wholeNumber negative digits)).Bounded := by
  refine .number fun m hm => ?_
  unfold wholeNumber at hm
  dsimp only at hm
  split at hm
  · split at hm <;> cases hm
  · split at hm
    · rename_i hfits
      cases hm
      exact hfits
    · cases hm

theorem readUnsigned_bounded {negative : Bool} {cs rest : List Char} {n : Number}
    (h : readUnsigned negative cs = some (n, rest)) : (Value.number n).Bounded := by
  obtain ⟨⟨whole, _⟩, _, h⟩ := Option.bind_eq_some_iff.mp h
  obtain ⟨⟨fraction, _⟩, _, h⟩ := Option.bind_eq_some_iff.mp h
  obtain ⟨⟨exponent, _⟩, _, h⟩ := Option.bind_eq_some_iff.mp h
  dsimp only at h
  split at h
  · cases h
    exact wholeNumber_bounded negative whole
  · cases h
    exact .number nofun

theorem readNumber_bounded {cs rest : List Char} {n : Number}
    (h : readNumber cs = some (n, rest)) : (Value.number n).Bounded := by
  unfold readNumber at h
  split at h <;> exact readUnsigned_bounded h

/-- Every value that the reader gives with so many rounds is bounded. -/
def BoundsValues (fuel : Nat) : Prop :=
  ∀ cs v rest, readValue fuel cs = some (v, rest) → v.Bounded

def BoundsItems (fuel : Nat) : Prop :=
  ∀ cs vs rest, readItems fuel cs = some (vs, rest) → ∀ v ∈ vs, v.Bounded

def BoundsMembers (fuel : Nat) : Prop :=
  ∀ cs ms rest, readMembers fuel cs = some (ms, rest) → ∀ m ∈ ms, m.2.Bounded

/-- With one round more the readers of items and members vouch for the values inside. -/
theorem boundsValues_step {fuel : Nat} (hitems : BoundsItems fuel)
    (hmembers : BoundsMembers fuel) : BoundsValues (fuel + 1) := by
  intro cs v rest h
  rw [readValue] at h
  split at h
  case h_1 => cases h; exact .null
  case h_2 => cases h; exact .bool true
  case h_3 => cases h; exact .bool false
  case h_4 =>
    obtain ⟨⟨t, _⟩, _, h⟩ := Option.map_eq_some_iff.mp h
    cases h
    exact .text t
  case h_5 =>
    split at h
    · cases h
      exact .array nofun
    · obtain ⟨⟨vs, _⟩, hread, h⟩ := Option.map_eq_some_iff.mp h
      cases h
      exact .array (hitems _ _ _ hread)
  case h_6 =>
    split at h
    · cases h
      exact .object nofun
    · obtain ⟨⟨ms, _⟩, hread, h⟩ := Option.map_eq_some_iff.mp h
      cases h
      exact .object (hmembers _ _ _ hread)
  case h_7 =>
    obtain ⟨⟨n, _⟩, hread, h⟩ := Option.map_eq_some_iff.mp h
    cases h
    exact readNumber_bounded hread

theorem boundsItems_step {fuel : Nat} (hvalues : BoundsValues fuel) (hitems : BoundsItems fuel) :
    BoundsItems (fuel + 1) := by
  intro cs vs rest h
  rw [readItems] at h
  obtain ⟨⟨v, behind⟩, hread, h⟩ := Option.bind_eq_some_iff.mp h
  have hv := hvalues _ _ _ hread
  dsimp only at h
  split at h
  · cases h
    exact fun w hw => List.mem_singleton.mp hw ▸ hv
  · obtain ⟨⟨ws, _⟩, hrest, h⟩ := Option.bind_eq_some_iff.mp h
    cases h
    exact List.forall_mem_cons.mpr ⟨hv, hitems _ _ _ hrest⟩
  · cases h

theorem boundsMembers_step {fuel : Nat} (hvalues : BoundsValues fuel)
    (hmembers : BoundsMembers fuel) : BoundsMembers (fuel + 1) := by
  intro cs ms rest h
  rw [readMembers] at h
  split at h
  case h_2 => cases h
  obtain ⟨⟨name, _⟩, _, h⟩ := Option.bind_eq_some_iff.mp h
  dsimp only at h
  split at h
  case h_2 => cases h
  obtain ⟨⟨v, _⟩, hread, h⟩ := Option.bind_eq_some_iff.mp h
  have hv := hvalues _ _ _ hread
  dsimp only at h
  split at h
  · cases h
    exact fun m hm => List.mem_singleton.mp hm ▸ hv
  · obtain ⟨⟨ns, _⟩, hrest, h⟩ := Option.bind_eq_some_iff.mp h
    cases h
    exact List.forall_mem_cons.mpr ⟨hv, hmembers _ _ _ hrest⟩
  · cases h

/-- Values, items and members are read by each other with one round less, so all three are bounded
together. -/
theorem bounds_all (fuel : Nat) : BoundsValues fuel ∧ BoundsItems fuel ∧ BoundsMembers fuel := by
  induction fuel with
  | zero => exact ⟨nofun, nofun, nofun⟩
  | succ fuel ih =>
    obtain ⟨hvalues, hitems, hmembers⟩ := ih
    exact ⟨boundsValues_step hitems hmembers, boundsItems_step hvalues hitems,
      boundsMembers_step hvalues hmembers⟩

/-- Whatever a text is read as, its natural numbers have 64 bits. -/
theorem parse_bounded {s : String} {v : Value} (h : parse s = some v) : v.Bounded := by
  unfold parse at h
  dsimp only at h
  split at h
  · rename_i w rest hread
    split at h
    · cases h
      exact (bounds_all _).1 _ _ _ hread
    · cases h
  · cases h

end Turnstile.Json
