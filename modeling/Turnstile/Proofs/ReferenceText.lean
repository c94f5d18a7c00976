import Turnstile.Uuid
import Turnstile.Proofs.JsonText

namespace Turnstile

namespace Decimal

theorem digit?_of_isDigit {c : Char} (h : c.isDigit = true) :
    digit? c = some (c.toNat - '0'.toNat) := by
  have hrange : '0' ≤ c ∧ c ≤ '9' := by
    simpa [Char.isDigit, Char.le_def] using h
  exact if_pos hrange

theorem le_ofDigitChars (cs : List Char) (acc : Nat) : acc ≤ Nat.ofDigitChars 10 cs acc := by
  induction cs generalizing acc with
  | nil => exact Nat.le_refl _
  | cons c cs ih =>
    rw [Nat.ofDigitChars_cons]
    have := ih (10 * acc + (c.toNat - '0'.toNat))
    omega

/-- Digits are read as the number they write if that is within the limit, and refused otherwise. -/
theorem foldlM_pushDigit {limit : Nat} {cs : List Char} (hcs : ∀ c ∈ cs, c.isDigit = true)
    {acc m : Nat} (hacc : acc ≤ limit) :
    cs.foldlM (pushDigit limit) acc = .ok m ↔ m = Nat.ofDigitChars 10 cs acc ∧ m ≤ limit := by
  induction cs generalizing acc with
  | nil =>
    constructor
    · intro h
      obtain rfl := Except.ok.inj h
      exact ⟨rfl, hacc⟩
    · rintro ⟨rfl, _⟩
      rfl
  | cons c cs ih =>
    have hdigit := digit?_of_isDigit (hcs c (by simp))
    have hrest : ∀ c' ∈ cs, c'.isDigit = true := fun c' hc' => hcs c' (by simp [hc'])
    rw [List.foldlM_cons, Nat.ofDigitChars_cons, Nat.mul_comm 10]
    unfold pushDigit
    simp only [hdigit]
    split
    · rename_i hle
      exact ih hrest hle
    · rename_i hgt
      constructor
      · intro h
        cases h
      · rintro ⟨rfl, hle⟩
        have := le_ofDigitChars cs (acc * 10 + (c.toNat - '0'.toNat))
        omega

/-- Of a number's own text just the number is read, if it has no more than 64 bits. -/
theorem readWord_text {n m : Nat} : readWord (text n) = .ok m ↔ m = n ∧ n ≤ wordMax := by
  have hdigits := Json.isDigit_of_mem_digits (n := n)
  have hread : readWord (text n) = (Nat.toDigits 10 n).foldlM (pushDigit wordMax) 0 := by
    unfold readWord text
    rw [String.toList_ofList]
    cases hds : Nat.toDigits 10 n with
    | nil => exact absurd hds Nat.toDigits_ne_nil
    | cons d ds =>
      have hplus : d ≠ '+' := by
        rintro rfl
        exact absurd (hdigits '+' (by simp [hds])) (by decide)
      unfold readUpTo
      split <;> simp_all
  rw [hread, foldlM_pushDigit hdigits (Nat.zero_le _), Nat.ofDigitChars_ten_toDigits]
  constructor
  · rintro ⟨rfl, hle⟩
    exact ⟨rfl, hle⟩
  · rintro ⟨rfl, hle⟩
    exact ⟨rfl, hle⟩

end Decimal

namespace Uuid

def pushHex (acc : Nat) (c : Char) : Option Nat := (Decimal.hexDigit? c).map (acc * 16 + ·)

def lastDigits (k n : Nat) : List Char :=
  (List.range k).map fun i => Json.hexChar (n / Nat.pow 16 (k - 1 - i) % 16)

theorem lastDigits_succ (k n : Nat) :
    lastDigits (k + 1) n = lastDigits k (n / 16) ++ [Json.hexChar (n % 16)] := by
  have hfirst : ∀ i ∈ List.range k,
      Json.hexChar (n / Nat.pow 16 (k + 1 - 1 - i) % 16) =
        Json.hexChar (n / 16 / Nat.pow 16 (k - 1 - i) % 16) := by
    intro i hi
    have hi : i < k := List.mem_range.mp hi
    have hpow : Nat.pow 16 (k + 1 - 1 - i) = 16 * Nat.pow 16 (k - 1 - i) := by
      rw [show k + 1 - 1 - i = (k - 1 - i) + 1 by omega, Nat.mul_comm]
      rfl
    rw [hpow, Nat.div_div_eq_div_mul]
  have hlast : n / Nat.pow 16 (k + 1 - 1 - k) = n := by
    rw [show k + 1 - 1 - k = 0 by omega]
    exact Nat.div_one n
  unfold lastDigits
  rw [List.range_succ, List.map_append, List.map_congr_left hfirst, List.map_singleton, hlast]

theorem foldlM_pushHex (k n : Nat) :
    (lastDigits k n).foldlM pushHex 0 = some (n % Nat.pow 16 k) := by
  induction k generalizing n with
  | zero => exact congrArg some (Nat.mod_one n).symm
  | succ k ih =>
    have hhex := Json.hexDigit?_hexChar (n % 16) (Nat.mod_lt n (by omega))
    have hmod : n % Nat.pow 16 (k + 1) = n / 16 % Nat.pow 16 k * 16 + n % 16 := by
      rw [show Nat.pow 16 (k + 1) = 16 * Nat.pow 16 k from Nat.mul_comm _ 16, Nat.mod_mul]
      omega
    rw [lastDigits_succ, List.foldlM_append, ih, hmod]
    simp [pushHex, hhex]

theorem ofDigits?_digits {u : Uuid} (h : u.number < Nat.pow 2 128) :
    ofDigits? u.digits = some u := by
  have hlength : u.digits.length = 32 := rfl
  have hread : u.digits.foldlM pushHex 0 = some (u.number % Nat.pow 16 32) :=
    foldlM_pushHex 32 u.number
  unfold ofDigits?
  rw [if_pos hlength]
  change (u.digits.foldlM pushHex 0).map Uuid.mk = some u
  rw [hread, Nat.mod_eq_of_lt h]
  rfl

theorem unhyphenated?_text (u : Uuid) : unhyphenated? u.text.toList = some u.digits := by
  unfold text
  rw [String.toList_ofList]
  rfl

/-- A uuid is read back from its own text. -/
theorem ofText?_text {u : Uuid} (h : u.number < Nat.pow 2 128) : ofText? u.text = some u := by
  have hlength : u.text.toList.length = 36 := by
    unfold text
    rw [String.toList_ofList]
    rfl
  unfold ofText?
  simp only [hlength]
  unfold ofHyphenated?
  rw [unhyphenated?_text]
  exact ofDigits?_digits h

end Uuid
end Turnstile
