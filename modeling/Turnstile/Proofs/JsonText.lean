import Turnstile.Json.Printer
import Turnstile.Json.Reader

namespace Turnstile.Json

/-- No number goes on with these characters. -/
def EndsNumber (rest : List Char) : Prop :=
  ∀ c ∈ rest.head?, c.isDigit = false ∧ c ≠ '.' ∧ c ≠ 'e' ∧ c ≠ 'E'

variable {rest : List Char}

theorem spanDigits_append {ds : List Char} (hd : ∀ c ∈ ds, c.isDigit = true)
    (hrest : EndsNumber rest) : spanDigits (ds ++ rest) = (ds, rest) := by
  have hnone : rest.takeWhile Char.isDigit = [] ∧ rest.dropWhile Char.isDigit = rest := by
    cases rest with
    | nil => exact ⟨rfl, rfl⟩
    | cons c cs =>
      have hc := (hrest c rfl).1
      simp [hc]
  unfold spanDigits
  rw [List.takeWhile_append_of_pos hd, List.dropWhile_append_of_pos hd, hnone.1, hnone.2,
    List.append_nil]

theorem isDigit_of_mem_digits {n : Nat} : ∀ c ∈ Nat.toDigits 10 n, c.isDigit = true :=
  fun _ hc => Nat.isDigit_of_mem_toDigits (by omega) (by omega) hc

/-- Only zero is written with a zero in front. -/
theorem digits_of_zero_first {n : Nat} {ds : List Char} (h : Nat.toDigits 10 n = '0' :: ds) :
    ds = [] := by
  induction n using Nat.strongRecOn generalizing ds with
  | ind n ih =>
    by_cases hn : n < 10
    · rw [Nat.toDigits_of_lt_base hn] at h
      exact (List.cons.inj h).2.symm
    · rw [Nat.toDigits_of_base_le (by omega) (by omega)] at h
      cases hq : Nat.toDigits 10 (n / 10) with
      | nil => exact absurd hq Nat.toDigits_ne_nil
      | cons c cs =>
        rw [hq] at h
        obtain ⟨rfl, _⟩ := List.cons.inj h
        have hcs := ih (n / 10) (by omega) hq
        subst hcs
        -- the digits in front are those of a number above zero
        have hzero : n / 10 = 0 := Nat.ofDigitChars_ten_toDigits.symm.trans (by rw [hq]; rfl)
        omega

theorem readIntegral_digits (n : Nat) (hrest : EndsNumber rest) :
    readIntegral (Nat.toDigits 10 n ++ rest) = some (Nat.toDigits 10 n, rest) := by
  cases hds : Nat.toDigits 10 n with
  | nil => exact absurd hds Nat.toDigits_ne_nil
  | cons c cs =>
    by_cases hc : c = '0'
    · subst hc
      obtain rfl := digits_of_zero_first hds
      have hhead : (rest.head?.map Char.isDigit).getD false = false := by
        cases rest with
        | nil => rfl
        | cons c cs => simpa using (hrest c rfl).1
      simp [readIntegral, hhead]
    · have hspan := spanDigits_append (isDigit_of_mem_digits (n := n)) hrest
      rw [hds, List.cons_append] at hspan
      rw [List.cons_append, readIntegral, hspan]
      exact fun _ h => hc (List.cons.inj h).1

theorem digitsValue_digits (n : Nat) : digitsValue (Nat.toDigits 10 n) = n := by
  have h := @Nat.ofDigitChars_ten_toDigits n
  simpa only [Nat.ofDigitChars, digitsValue, Nat.mul_comm] using h

theorem readFraction_absent (hrest : EndsNumber rest) : readFraction rest = some ([], rest) := by
  cases rest with
  | nil => rfl
  | cons c cs =>
    have hc := (hrest c rfl).2.1
    rw [readFraction]
    exact fun _ h => hc (List.cons.inj h).1

theorem readExponent_absent (hrest : EndsNumber rest) : readExponent rest = some ([], rest) := by
  cases rest with
  | nil => rfl
  | cons c cs =>
    obtain ⟨_, _, he, hE⟩ := hrest c rfl
    simp [readExponent, he, hE]

theorem readUnsigned_digits (negative : Bool) (n : Nat) (hrest : EndsNumber rest) :
    readUnsigned negative (Nat.toDigits 10 n ++ rest) =
      some (wholeNumber negative (Nat.toDigits 10 n), rest) := by
  unfold readUnsigned
  simp [readIntegral_digits n hrest, readFraction_absent hrest, readExponent_absent hrest]

/-- Whether a number is one of 64 bits, as the reader tells them apart. -/
def Number.Fits : Number → Prop
  | .natural n => n ≤ Decimal.wordMax
  | .negative n => 0 < n ∧ n ≤ 9223372036854775808
  | .real _ => False

/-- A number starts with a digit or with its sign. -/
theorem writeNumber_first {n : Number} (h : n.Fits) :
    ∃ c cs, writeNumber n = c :: cs ∧ (c.isDigit = true ∨ c = '-') := by
  cases n with
  | natural n =>
    cases hds : Nat.toDigits 10 n with
    | nil => exact absurd hds Nat.toDigits_ne_nil
    | cons d ds => exact ⟨d, ds, hds, .inl (isDigit_of_mem_digits d (hds ▸ List.mem_cons_self))⟩
  | negative n => exact ⟨_, _, rfl, .inr rfl⟩
  | real literal => exact absurd h id

/-- A number that fits is read back from its text, whatever follows that is no part of a number. -/
theorem readNumber_write {n : Number} (h : n.Fits) (hrest : EndsNumber rest) :
    readNumber (writeNumber n ++ rest) = some (n, rest) := by
  cases n with
  | natural n =>
    have hsign : ∀ cs, Nat.toDigits 10 n ++ rest ≠ '-' :: cs := by
      intro cs heq
      cases hds : Nat.toDigits 10 n with
      | nil => exact Nat.toDigits_ne_nil hds
      | cons d ds =>
        rw [hds] at heq
        have hd := isDigit_of_mem_digits d (hds ▸ List.mem_cons_self)
        rw [(List.cons.inj heq).1] at hd
        cases hd
    have hn : n ≤ Decimal.wordMax := h
    rw [writeNumber, readNumber, readUnsigned_digits false n hrest]
    · simp [wholeNumber, digitsValue_digits, hn]
    · exact hsign
  | negative n =>
    obtain ⟨hpos, hle⟩ := h
    have hreal : ¬ (n = 0 ∨ 9223372036854775808 < n) := by omega
    rw [writeNumber, List.cons_append, readNumber, readUnsigned_digits true n hrest]
    simp [wholeNumber, digitsValue_digits, hreal]
  | real literal => exact absurd h id

theorem hexDigit?_hexChar : ∀ n < 16, Decimal.hexDigit? (hexChar n) = some n := by
  decide

/-- What the reader gives back behind one more character. -/
def behind (c : Char) (r : Option (List (Option Char) × List Char)) :
    Option (List (Option Char) × List Char) :=
  r.map fun (t, rest) => (some c :: t, rest)

theorem readChars_simple {e c : Char} (h : simpleEscape? e = some c) (fuel : Nat)
    (cs : List Char) :
    readChars (fuel + 1) ('\\' :: e :: cs) = behind c (readChars fuel cs) := by
  rw [readChars, h]
  · cases readChars fuel cs <;> rfl
  · rintro rfl
    cases h

theorem readHex4_control {n : Nat} (hn : n < 0x20) (cs : List Char) :
    readHex4 ('0' :: '0' :: hexChar (n / 16) :: hexChar (n % 16) :: cs) = some (n, cs) := by
  have hzero : Decimal.hexDigit? '0' = some 0 := rfl
  have hvalue : ((0 * 16 + 0) * 16 + n / 16) * 16 + n % 16 = n := by omega
  simp [readHex4, hzero, hexDigit?_hexChar (n / 16) (by omega),
    hexDigit?_hexChar (n % 16) (by omega), Nat.div_add_mod']

theorem readChars_control {c : Char} (h : c.toNat < 0x20) (fuel : Nat) (cs : List Char) :
    readChars (fuel + 1) ('\\' :: 'u' :: '0' :: '0' :: hexChar (c.toNat / 16)
      :: hexChar (c.toNat % 16) :: cs) = behind c (readChars fuel cs) := by
  have hhigh : isHighSurrogate c.toNat = false := by
    simp [isHighSurrogate]
    omega
  have hlow : isLowSurrogate c.toNat = false := by
    simp [isLowSurrogate]
    omega
  have hfinish : finishEscape c.toNat cs = (some c, cs) := by
    simp [finishEscape, hhigh, hlow, Char.ofNat_toNat]
  rw [readChars, readHex4_control h]
  simp only [Option.bind_eq_bind, Option.bind_some, hfinish]
  cases readChars fuel cs <;> rfl

theorem readChars_plain {c : Char} (hquote : c ≠ '"') (hslash : c ≠ '\\') (h : ¬ c.toNat < 0x20)
    (fuel : Nat) (cs : List Char) :
    readChars (fuel + 1) (c :: cs) = behind c (readChars fuel cs) := by
  rw [readChars]
  · simp only [beq_iff_eq, hslash, h, Bool.or_eq_true, decide_eq_true_eq, or_self, ↓reduceIte]
    cases readChars fuel cs <;> rfl
  · exact fun he => hquote he
  · exact fun _ he => absurd he hslash
  · exact fun _ _ he => absurd he hslash

/-- The reader takes one round for each character, whatever stands for it. -/
theorem readChars_escapeChar (fuel : Nat) (c : Char) (cs : List Char) :
    readChars (fuel + 1) (escapeChar c ++ cs) = behind c (readChars fuel cs) := by
  unfold escapeChar
  iterate 7
    split
    · subst_vars
      exact readChars_simple rfl fuel cs
  split
  · rename_i h
    exact readChars_control h fuel cs
  · rename_i hquote hslash _ _ _ _ _ h
    exact readChars_plain hquote hslash h fuel cs

/-- Every character is escaped in a form that is read back as that character. -/
theorem readChars_write (s : List Char) {fuel : Nat} (hfuel : s.length < fuel) :
    readChars fuel (s.flatMap escapeChar ++ '"' :: rest) = some (s.map some, rest) := by
  induction s generalizing fuel with
  | nil =>
    obtain ⟨fuel, rfl⟩ := Nat.exists_eq_add_one_of_ne_zero (Nat.ne_of_gt hfuel)
    rfl
  | cons c s ih =>
    obtain ⟨fuel, rfl⟩ := Nat.exists_eq_add_one_of_ne_zero (Nat.ne_zero_of_lt hfuel)
    rw [List.flatMap_cons, List.append_assoc, readChars_escapeChar, ih (by simpa using hfuel)]
    rfl

theorem joinChars_some (s : List Char) : joinChars (s.map some) = some (String.ofList s) := by
  have hall : (s.map some).mapM id = some s := by
    induction s with
    | nil => rfl
    | cons c s ih => simp [List.mapM_cons, ih]
  rw [joinChars, hall]
  rfl

theorem length_le_escaped (s : List Char) : s.length ≤ (s.flatMap escapeChar).length := by
  have hone : ∀ c, 0 < (escapeChar c).length := by
    intro c
    unfold escapeChar
    repeat' split
    all_goals exact Nat.zero_lt_succ _
  induction s with
  | nil => exact Nat.le_refl 0
  | cons c s ih =>
    have := hone c
    rw [List.flatMap_cons, List.length_append, List.length_cons]
    omega

theorem readText_write (s : String) :
    readText (s.toList.flatMap escapeChar ++ '"' :: rest) = some (some s, rest) := by
  let cs := s.toList.flatMap escapeChar ++ '"' :: rest
  have hfuel : s.toList.length < cs.length + 1 := by
    have hlen := length_le_escaped s.toList
    rw [List.length_append]
    omega
  have hread := @readChars_write rest s.toList (cs.length + 1) hfuel
  unfold readText
  rw [hread, Option.map_some]
  dsimp only
  rw [joinChars_some, String.ofList_toList]

mutual
/-- Whether a value can be told from its text: its numbers have 64 bits and its texts are texts. -/
def Value.Fits : Value → Prop
  | .number n => n.Fits
  | .text s => s.isSome = true
  | .array items => ItemsFit items
  | .object ms => MembersFit ms
  | _ => True
def ItemsFit : List Value → Prop
  | [] => True
  | v :: vs => v.Fits ∧ ItemsFit vs
def MembersFit : List (Option String × Value) → Prop
  | [] => True
  | (name, v) :: ms => name.isSome = true ∧ v.Fits ∧ MembersFit ms
end

theorem isBlank_number {c : Char} (hc : c.isDigit = true ∨ c = '-') : isBlank c = false := by
  cases hb : isBlank c with
  | false => rfl
  | true =>
    simp only [isBlank, Bool.or_eq_true, beq_iff_eq] at hb
    rcases hb with ((rfl | rfl) | rfl) | rfl <;> rcases hc with hc | hc <;> cases hc

theorem skipBlank_cons {c : Char} (h : isBlank c = false) (cs : List Char) :
    skipBlank (c :: cs) = c :: cs := by
  simp [skipBlank, h]

/-- A value starts with a character that is neither a blank nor a closing bracket. -/
theorem writeValue_first {v : Value} (h : v.Fits) :
    ∃ c cs, writeValue v = c :: cs ∧ isBlank c = false ∧ c ≠ ']' := by
  cases v with
  | null => exact ⟨_, _, rfl, rfl, by decide⟩
  | bool b => cases b <;> exact ⟨_, _, rfl, rfl, by decide⟩
  | number n =>
    obtain ⟨c, cs, hcs, hc⟩ := writeNumber_first h
    refine ⟨c, cs, hcs, isBlank_number hc, ?_⟩
    rintro rfl
    rcases hc with hc | hc <;> cases hc
  | text s =>
    cases s with
    | none => cases h
    | some s => exact ⟨_, _, rfl, rfl, by decide⟩
  | array items => cases items <;> exact ⟨_, _, rfl, rfl, by decide⟩
  | object ms => rcases ms with _ | ⟨⟨name, v⟩, ms⟩ <;> exact ⟨_, _, rfl, rfl, by decide⟩

/-- The reader reads all values that are no longer than it may take rounds. -/
def ReadsValues (fuel : Nat) : Prop :=
  ∀ v rest, v.Fits → (writeValue v).length ≤ fuel → EndsNumber rest →
    readValue fuel (writeValue v ++ rest) = some (v, rest)

def ReadsItems (fuel : Nat) : Prop :=
  ∀ v vs rest, v.Fits → ItemsFit vs → (writeValue v ++ writeItems vs).length ≤ fuel →
    readItems fuel (writeValue v ++ (writeItems vs ++ rest)) = some (v :: vs, rest)

def ReadsMembers (fuel : Nat) : Prop :=
  ∀ name v ms rest, v.Fits → MembersFit ms →
    (writeText name ++ ':' :: writeValue v ++ writeMembers ms).length ≤ fuel →
      readMembers fuel (writeText name ++ ':' :: (writeValue v ++ (writeMembers ms ++ rest))) =
        some ((some name, v) :: ms, rest)

theorem endsNumber_cons {c : Char} (hc : c ∈ [',', ']', '\x7d']) (cs : List Char) :
    EndsNumber (c :: cs) := by
  intro d hd
  obtain rfl : c = d := by simpa using hd
  simp only [List.mem_cons, List.not_mem_nil, or_false] at hc
  rcases hc with rfl | rfl | rfl <;> decide

theorem readValue_number {c : Char} (hc : c.isDigit = true ∨ c = '-') (fuel : Nat)
    (cs : List Char) : readValue (fuel + 1) (c :: cs) =
      (readNumber (c :: cs)).map fun (n, rest) => (.number n, rest) := by
  rw [readValue, skipBlank_cons (isBlank_number hc)]
  split
  case h_7 => rfl
  -- every other branch starts with a character that no number does
  all_goals
    rename_i heq
    obtain ⟨rfl, _⟩ := List.cons.inj heq
    rcases hc with hc | hc <;> cases hc

/-- A value within the rounds left is read back if what is inside it is. -/
theorem readsValues_step {fuel : Nat} (hitems : ReadsItems fuel) (hmembers : ReadsMembers fuel) :
    ReadsValues (fuel + 1) := by
  intro v rest hv hlen hrest
  cases v with
  | null => rfl
  | bool b => cases b <;> rfl
  | number n =>
    have hread := readNumber_write hv hrest
    obtain ⟨c, cs, hcs, hc⟩ := writeNumber_first hv
    rw [writeValue, hcs, List.cons_append, readValue_number hc, ← List.cons_append, ← hcs, hread]
    rfl
  | text s =>
    cases s with
    | none => cases hv
    | some s =>
      simp only [writeValue, writeOptionalText, writeText, List.cons_append, List.append_assoc,
        List.nil_append]
      rw [readValue, skipBlank_cons rfl]
      simp only [readText_write]
      rfl
  | array items =>
    cases items with
    | nil => rfl
    | cons v vs =>
      obtain ⟨hv, hvs⟩ := hv
      obtain ⟨c, cs, hcs, hblank, hclose⟩ := writeValue_first hv
      have hread := hitems v vs rest hv hvs (by simpa [writeValue] using hlen)
      simp only [writeValue, List.cons_append, List.append_assoc]
      rw [readValue, skipBlank_cons rfl]
      rw [hcs, List.cons_append] at hread ⊢
      simp only [skipBlank_cons hblank]
      split
      · rename_i heq
        exact absurd (List.cons.inj heq).1 hclose
      · rw [hread]
        rfl
  | object ms =>
    rcases ms with _ | ⟨⟨name, v⟩, ms⟩
    · rfl
    · obtain ⟨hname, hv, hms⟩ := hv
      obtain ⟨name, rfl⟩ := Option.isSome_iff_exists.mp hname
      have hread := hmembers name v ms rest hv hms (by
        simpa [writeValue, writeOptionalText] using hlen)
      simp only [writeValue, writeOptionalText, List.cons_append, List.append_assoc]
      rw [readValue, skipBlank_cons rfl]
      simp only [writeText, List.cons_append] at hread ⊢
      rw [skipBlank_cons rfl]
      split
      · rename_i heq
        exact absurd (List.cons.inj heq).1 (by decide)
      · rw [hread]
        rfl

theorem readsItems_step {fuel : Nat} (hvalues : ReadsValues fuel) (hitems : ReadsItems fuel) :
    ReadsItems (fuel + 1) := by
  intro v vs rest hv hvs hlen
  cases vs with
  | nil =>
    have hread := hvalues v (']' :: rest) hv (by simpa [writeItems] using hlen)
      (endsNumber_cons (by simp) rest)
    simp only [writeItems, List.cons_append, List.nil_append]
    rw [readItems, hread]
    rfl
  | cons w ws =>
    obtain ⟨hw, hws⟩ := hvs
    simp only [writeItems, List.length_append, List.length_cons] at hlen
    have hread := hvalues v (',' :: (writeValue w ++ (writeItems ws ++ rest))) hv (by omega)
      (endsNumber_cons (by simp) _)
    have hrest := hitems w ws rest hw hws (by simp only [List.length_append]; omega)
    simp only [writeItems, List.cons_append, List.append_assoc]
    rw [readItems, hread]
    simp only [Option.bind_eq_bind, Option.bind_some]
    rw [skipBlank_cons rfl]
    simp only [hrest]
    rfl

theorem readsMembers_step {fuel : Nat} (hvalues : ReadsValues fuel)
    (hmembers : ReadsMembers fuel) : ReadsMembers (fuel + 1) := by
  intro name v ms rest hv hms hlen
  simp only [writeText, List.cons_append, List.append_assoc, List.nil_append]
  rw [readMembers, skipBlank_cons rfl]
  simp only [readText_write, Option.bind_eq_bind, Option.bind_some]
  rw [skipBlank_cons rfl]
  simp only [writeText, List.length_append, List.length_cons] at hlen
  rcases ms with _ | ⟨⟨name', w⟩, ms⟩
  · have hread := hvalues v ('\x7d' :: rest) hv (by omega) (endsNumber_cons (by simp) rest)
    simp only [writeMembers, List.cons_append, List.nil_append, hread]
    rfl
  · obtain ⟨hname, hw, hms⟩ := hms
    obtain ⟨name', rfl⟩ := Option.isSome_iff_exists.mp hname
    simp only [writeMembers, writeOptionalText, List.length_append, List.length_cons] at hlen
    have hread := hvalues v (',' :: (writeText name' ++ (':' :: (writeValue w ++
      (writeMembers ms ++ rest))))) hv (by omega) (endsNumber_cons (by simp) _)
    have hrest := hmembers name' w ms rest hw hms (by
      simp only [List.length_append, List.length_cons]
      omega)
    simp only [writeMembers, writeOptionalText, List.cons_append, List.append_assoc, hread]
    simp only [Option.bind_some]
    rw [skipBlank_cons rfl]
    simp only [hrest]
    rfl

/-- A written value takes at least one character, so the rounds of the reader suffice. -/
theorem writeValue_pos {v : Value} (h : v.Fits) : 0 < (writeValue v).length := by
  obtain ⟨c, cs, hcs, _⟩ := writeValue_first h
  rw [hcs]
  exact Nat.zero_lt_succ _

/-- What is written reads back, with what stands behind it left over. -/
theorem reads_all (fuel : Nat) : ReadsValues fuel ∧ ReadsItems fuel ∧ ReadsMembers fuel := by
  induction fuel with
  | zero =>
    refine ⟨fun v _ hv hlen => ?_, fun v _ _ hv _ hlen => ?_, fun _ v _ _ hv _ hlen => ?_⟩
    · exact absurd (writeValue_pos hv) (Nat.not_lt.mpr hlen)
    · have := writeValue_pos hv
      rw [List.length_append] at hlen
      omega
    · rw [List.length_append, List.length_append, List.length_cons] at hlen
      omega
  | succ fuel ih =>
    obtain ⟨hvalues, hitems, hmembers⟩ := ih
    exact ⟨readsValues_step hitems hmembers, readsItems_step hvalues hitems,
      readsMembers_step hvalues hmembers⟩

/-- A value reads back from its text. -/
theorem parse_render {v : Value} (h : v.Fits) : parse v.render = some v := by
  have hread := (reads_all (2 * (writeValue v).length + 2)).1 v [] h (by omega)
    (by simp [EndsNumber])
  unfold parse Value.render
  rw [List.append_nil] at hread
  simp only [String.toList_ofList, hread]
  rfl

end Turnstile.Json
