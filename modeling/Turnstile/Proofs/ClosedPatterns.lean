import Turnstile.Proofs.PatternReaders

namespace Turnstile.Pattern
variable {f : Flags} {cs cs' rest : List Char} {c : Char} {α β : Type}

/-- The second text is the first one with `)` behind it, unless a comment took that. -/
inductive Sealed : List Char → List Char → Prop
  | closed (cs : List Char) : Sealed cs (cs ++ [')'])
  | taken : Sealed [] []

/-- Both readers found the same and left a text and that text closed. -/
inductive Alike : α × List Char → α × List Char → Prop
  | intro (a : α) {cs cs' : List Char} (h : Sealed cs cs') : Alike (a, cs) (a, cs')

theorem Alike.map {x y : α × List Char} (h : Alike x y) (g : α → β) :
    Alike (g x.1, x.2) (g y.1, y.2) := by
  obtain ⟨a, hrest⟩ := h
  exact .intro (g a) hrest

/-- What a reader finds in a closed text, by what it finds in the text: the same, or where it finds
nothing, what is `cut` at most. -/
def Seals (cut : α → List Char → Prop) (x y : Option (α × List Char)) : Prop :=
  match x with
  | some p => ∃ q, y = some q ∧ Alike p q
  | none => ∀ a rest, y = some (a, rest) → cut a rest

def never (_ : α) (_ : List Char) : Prop := False

def atEnd (_ : α) (rest : List Char) : Prop := rest = []

/-- What closing a text changes for a reader. -/
def Closing (cut : α → List Char → Prop) (read : List Char → Option (α × List Char)) : Prop :=
  ∀ cs, Seals cut (read cs) (read (cs ++ [')']))

theorem seals_none {cut : α → List Char → Prop} : Seals cut none none := by
  intro a rest h
  cases h

theorem Closing.seals {cut : α → List Char → Prop} {read : List Char → Option (α × List Char)}
    (h : Closing cut read) (hleaves : Leaves read) (hcs : Sealed cs cs') :
    Seals cut (read cs) (read cs') := by
  cases hcs with
  | closed => exact h cs
  | taken =>
    cases hread : read [] with
    | none => exact seals_none
    | some p =>
      obtain ⟨a, rest⟩ := p
      obtain rfl : rest = [] := List.suffix_nil.mp (hleaves hread)
      exact ⟨_, rfl, .intro a .taken⟩

theorem Seals.eq_none {y : Option (α × List Char)} (h : Seals never none y) : y = none :=
  Option.eq_none_iff_forall_ne_some.mpr fun p hp => h p.1 p.2 hp

theorem seals_some {cut : α → List Char → Prop} (a : α) (h : Sealed cs cs') :
    Seals cut (some (a, cs)) (some (a, cs')) := ⟨_, rfl, .intro a h⟩

/-- A reader that finds the same in both texts and leaves a text and that text closed. -/
theorem seals_map {cut : α → List Char → Prop} (x : Option α) (h : Sealed cs cs') :
    Seals cut (x.map (·, cs)) (x.map (·, cs')) := by
  cases x with
  | none => exact seals_none
  | some a => exact seals_some a h

theorem Seals.bind {cut : α → List Char → Prop} {cut' : β → List Char → Prop}
    {x y : Option (α × List Char)} {k k' : α × List Char → Option (β × List Char)}
    (h : Seals cut x y)
    (hk : ∀ a r r', x = some (a, r) → y = some (a, r') → Sealed r r' →
      Seals cut' (k (a, r)) (k' (a, r')))
    (hcut : ∀ a r, cut a r → ∀ b rest, k' (a, r) = some (b, rest) → cut' b rest) :
    Seals cut' (x >>= k) (y >>= k') := by
  match x with
  | some (a, r) =>
    obtain ⟨_, rfl, ⟨_, hr⟩⟩ := h
    exact hk a r _ rfl rfl hr
  | none =>
    intro b rest hy
    obtain ⟨⟨a, r⟩, hread, heq⟩ := Option.bind_eq_some_iff.mp hy
    exact hcut a r (h a r hread) b rest heq

theorem Seals.map {cut : α → List Char → Prop} {cut' : β → List Char → Prop}
    {x y : Option (α × List Char)} (h : Seals cut x y) (g : α → β)
    (hcut : ∀ a r, cut a r → cut' (g a) r) :
    Seals cut' (x.map fun (a, rest) => (g a, rest)) (y.map fun (a, rest) => (g a, rest)) := by
  rw [Option.map_eq_bind, Option.map_eq_bind]
  refine h.bind (fun a r r' _ _ hr => seals_some (g a) hr) fun a r hr b rest heq => ?_
  cases heq
  exact hcut a r hr

section
variable {p : Char → Bool}

theorem dropWhile_closed (h : p ')' = false) (cs : List Char) :
    (cs ++ [')']).dropWhile p = cs.dropWhile p ++ [')'] := by
  rw [List.dropWhile_append]
  split <;> simp_all

theorem takeWhile_closed (h : p ')' = false) (cs : List Char) :
    (cs ++ [')']).takeWhile p = cs.takeWhile p := by
  induction cs with
  | nil => simp [h]
  | cons c cs ih => simp [List.takeWhile_cons, ih]

/-- What is not found before the parenthesis is not found at all. -/
theorem dropWhile_closed_nil (h : cs.dropWhile p = []) (hp : p ')' = true) :
    (cs ++ [')']).dropWhile p = [] := by
  simp [List.dropWhile_append, h, hp]

/-- What is found before the parenthesis is found as before. -/
theorem split_closed (h : cs.dropWhile p = c :: rest) :
    (cs ++ [')']).dropWhile p = c :: (rest ++ [')']) ∧
      (cs ++ [')']).takeWhile p = cs.takeWhile p := by
  induction cs with
  | nil => cases h
  | cons d cs ih =>
    rw [List.dropWhile_cons] at h
    simp only [List.cons_append, List.takeWhile_cons, List.dropWhile_cons]
    split at h
    · rename_i hd
      simp [hd, ih h]
    · rename_i hd
      cases h
      simp [hd]

theorem dropWhile_sealed (p : Char → Bool) (cs : List Char) :
    Sealed (cs.dropWhile p) ((cs ++ [')']).dropWhile p) := by
  cases h : cs.dropWhile p with
  | cons c rest =>
    rw [(split_closed h).1]
    exact .closed (c :: rest)
  | nil =>
    rw [List.dropWhile_append, h]
    by_cases hp : p ')' = true
    · simpa [hp] using Sealed.taken
    · simpa [hp] using Sealed.closed []

end

/-- A closed text starts with a sign other than the parenthesis just if the text does. -/
theorem Sealed.head (h : Sealed cs cs') (c : Char) (hc : ')' ≠ c) :
    (∃ rest, cs = c :: rest ∧ cs' = c :: (rest ++ [')'])) ∨
      (∀ rest, cs ≠ c :: rest) ∧ ∀ rest, cs' ≠ c :: rest := by
  cases h with
  | taken => exact .inr ⟨fun _ => (List.cons_ne_nil _ _).symm, fun _ => (List.cons_ne_nil _ _).symm⟩
  | closed =>
    cases cs with
    | nil => exact .inr ⟨fun _ => (List.cons_ne_nil _ _).symm, fun _ h => hc (List.cons.inj h).1⟩
    | cons d cs =>
      by_cases hd : d = c
      · exact .inl ⟨cs, by rw [hd], by rw [hd]; rfl⟩
      · exact .inr ⟨fun _ h => hd (List.cons.inj h).1, fun _ h => hd (List.cons.inj h).1⟩

/-- The parenthesis is neither a blank nor the start of a comment. -/
theorem skipVerbose_parenthesis (fuel : Nat) (cs : List Char) :
    skipVerbose f fuel (')' :: cs) = ')' :: cs := by
  cases fuel with
  | zero => rfl
  | succ fuel =>
    have hblank : Text.isBlank ')' = false := by decide
    simp [skipVerbose, hblank]

theorem skipVerbose_sealed {fuel fuel' : Nat} (h : Sealed cs cs') (hfuel : cs.length < fuel)
    (hfuel' : cs'.length < fuel') :
    Sealed (skipVerbose f fuel cs) (skipVerbose f fuel' cs') := by
  induction fuel generalizing fuel' cs cs' with
  | zero => cases hfuel
  | succ fuel ih =>
    obtain _ | fuel' := fuel'
    · cases hfuel'
    cases h with
    | taken => exact .taken
    | closed =>
      cases cs with
      | nil =>
        rw [List.nil_append, skipVerbose_parenthesis]
        exact .closed []
      | cons c cs =>
        simp only [List.cons_append, List.length_cons] at hfuel hfuel'
        rw [List.cons_append, skipVerbose, skipVerbose]
        split
        · exact .closed (c :: cs)
        · split
          · exact ih (.closed cs) (by omega) (by omega)
          · split
            · have hcomment := dropWhile_sealed (· != '\n') cs
              have hle := (List.dropWhile_suffix (· != '\n') (l := cs)).length_le
              have hle' := (List.dropWhile_suffix (· != '\n') (l := cs ++ [')'])).length_le
              exact ih hcomment (by omega) (by omega)
            · exact .closed (c :: cs)

/-- Only a comment takes the parenthesis with it, and only if it runs to the end of the text. -/
theorem skip_sealed (f : Flags) (h : Sealed cs cs') : Sealed (skip f cs) (skip f cs') :=
  skipVerbose_sealed h (Nat.lt_succ_self _) (Nat.lt_succ_self _)

theorem hexValue_closed (ds : List Char) : hexValue? (ds ++ [')']) = none := by
  have hdigit : Decimal.hexDigit? ')' = none := by decide
  simp [hexValue?, hdigit]

theorem readHexChar_closing (width : Nat) : Closing never (readHexChar width) := by
  intro cs
  rcases (Sealed.closed cs).head '\x7b' (by decide) with ⟨ds, rfl, _⟩ | ⟨h, h'⟩
  · rw [List.cons_append, readHexChar, readHexChar]
    cases hclose : ds.dropWhile (· != '\x7d') with
    | nil =>
      rw [dropWhile_closed_nil hclose rfl]
      exact seals_none
    | cons d rest =>
      obtain ⟨hdrop, htake⟩ := split_closed hclose
      rw [hdrop, htake]
      exact seals_map _ (.closed rest)
  · rw [readHexChar.eq_2 width cs h, readHexChar.eq_2 width _ h', List.length_append,
      List.length_singleton]
    split
    · split
      · exact seals_none
      · have htake : (cs ++ [')']).take width = cs ++ [')'] :=
          List.take_of_length_le (by simp; omega)
        rw [htake, hexValue_closed]
        exact seals_none
    · have hle : width ≤ cs.length := by omega
      rw [if_neg (by omega), List.take_append_of_le_length hle, List.drop_append_of_le_length hle]
      exact seals_map _ (.closed _)

theorem readBoundary_closed (cs : List Char) :
    Alike (readBoundary cs) (readBoundary (cs ++ [')'])) := by
  rcases (Sealed.closed cs).head '\x7b' (by decide) with ⟨ds, rfl, _⟩ | ⟨h, h'⟩
  · rw [List.cons_append, readBoundary, readBoundary]
    cases hclose : ds.dropWhile (· != '\x7d') with
    | nil =>
      rw [dropWhile_closed_nil hclose rfl]
      split
      · contradiction
      · split
        · contradiction
        · exact .intro _ (.closed _)
    | cons d rest =>
      obtain ⟨hdrop, htake⟩ := split_closed hclose
      rw [hdrop, htake]
      cases List.lookup (ds.takeWhile (· != '\x7d')) _ with
      | none => exact .intro _ (.closed _)
      | some a => exact .intro a (.closed rest)
  · rw [readBoundary.eq_2 cs h, readBoundary.eq_2 _ h']
    exact .intro _ (.closed cs)

/-- A backslash at the end of the text stands for the parenthesis. -/
theorem readEscape_closing (f : Flags) : Closing atEnd (readEscape f) := by
  intro cs
  cases cs with
  | nil =>
    intro e rest h
    change (escapeOf? f ')').map (·, []) = some (e, rest) at h
    obtain ⟨_, _, heq⟩ := Option.map_eq_some_iff.mp h
    cases heq
    rfl
  | cons c cs =>
    rw [List.cons_append]
    unfold readEscape
    split
    case h_1 h => cases h
    case h_2 h | h_3 h | h_4 h =>
      cases h
      exact (readHexChar_closing _ cs).map Escape.char fun _ _ => False.elim
    case h_5 h =>
      cases h
      exact ⟨_, rfl, (readBoundary_closed cs).map Escape.assertion⟩
    case h_6 hx hu hU hb h =>
      cases h
      split
      case h_1 h => cases h
      case h_6 h =>
        cases h
        exact seals_map _ (.closed _)
      case h_2 h | h_3 h | h_4 h | h_5 h => simp_all

theorem readAsciiName_closing (negated : Bool) : Closing never (readAsciiName negated) := by
  intro cs
  unfold readAsciiName
  cases hcolon : cs.dropWhile (· != ':') with
  | nil =>
    rw [dropWhile_closed_nil hcolon rfl]
    exact seals_none
  | cons c rest =>
    obtain ⟨hdrop, htake⟩ := split_closed hcolon
    obtain rfl : c = ':' := by
      simpa [hcolon] using List.head?_dropWhile_not (· != ':') cs
    rw [hdrop, htake]
    rcases (Sealed.closed rest).head ']' (by decide) with ⟨rest, rfl, heq⟩ | ⟨h, h'⟩
    · rw [heq]
      cases asciiSet? (String.ofList (cs.takeWhile (· != ':'))) with
      | none => exact seals_none
      | some s => exact seals_some _ (.closed _)
    · split
      · rename_i heq
        exact absurd (List.cons.inj heq).2 (h _)
      · split
        · rename_i heq
          exact absurd (List.cons.inj heq).2 (h' _)
        · exact seals_none

theorem readAsciiSet_closing : Closing never readAsciiSet := by
  intro cs
  rcases (Sealed.closed cs).head ':' (by decide) with ⟨cs, rfl, _⟩ | ⟨h, h'⟩
  · rcases (Sealed.closed cs).head '^' (by decide) with ⟨cs, rfl, _⟩ | ⟨h, h'⟩
    · exact readAsciiName_closing true cs
    · rw [List.cons_append, readAsciiSet.eq_2 cs h, readAsciiSet.eq_2 _ h']
      exact readAsciiName_closing false cs
  · rw [readAsciiSet.eq_3 cs (fun _ => h _) h, readAsciiSet.eq_3 _ (fun _ => h' _) h']
    exact seals_none

theorem readClassItem_closing (f : Flags) : Closing atEnd (readClassItem f) := by
  intro cs
  rcases (Sealed.closed cs).head '\\' (by decide) with ⟨cs, rfl, _⟩ | ⟨h, _⟩
  · exact readEscape_closing f cs
  · cases cs with
    | nil =>
      intro e rest h
      cases h
      rfl
    | cons c cs =>
      have hc : c ≠ '\\' := fun hc => h cs (by rw [hc])
      rw [List.cons_append, readClassItem.eq_2 f c cs hc, readClassItem.eq_2 f c _ hc]
      exact seals_some _ (.closed cs)

def nearEnd (_ : α) (rest : List Char) : Prop := rest <:+ [')']

theorem readRangeEnd_closing (f : Flags) (a : Escape) : Closing nearEnd (readRangeEnd f a) := by
  intro cs
  have hskip := skip_sealed f (.closed cs)
  unfold readRangeEnd
  generalize skip f cs = t, skip f (cs ++ [')']) = t' at hskip
  rcases hskip.head ']' (by decide) with ⟨rest, rfl, rfl⟩ | ⟨hbracket, hbracket'⟩
  · exact seals_map _ (.closed _)
  rcases hskip.head '-' (by decide) with ⟨rest, rfl, rfl⟩ | ⟨hhyphen, hhyphen'⟩
  · exact seals_map _ (.closed _)
  split
  · exact absurd rfl (hbracket _)
  · exact absurd rfl (hhyphen _)
  refine ((readClassItem_closing f).seals (readClassItem_takes f).leaves hskip).bind ?_ ?_
  · exact fun b r r' _ _ hr => seals_map _ hr
  · rintro b r rfl s rest h
    obtain ⟨s, _, heq⟩ := Option.map_eq_some_iff.mp h
    cases heq
    exact List.nil_suffix

theorem readBehindMember_closing (f : Flags) (a : Escape) :
    Closing nearEnd (readBehindMember f a) := by
  intro cs
  have hskip := skip_sealed f (.closed cs)
  unfold readBehindMember
  generalize skip f cs = t, skip f (cs ++ [')']) = t' at hskip
  rcases hskip.head '-' (by decide) with ⟨rest, rfl, rfl⟩ | ⟨h, h'⟩
  · exact readRangeEnd_closing f a rest
  cases hskip with
  | taken => exact seals_none
  | closed =>
    cases t with
    | nil =>
      intro s rest h
      obtain ⟨s, _, heq⟩ := Option.map_eq_some_iff.mp h
      cases heq
      exact List.suffix_rfl
    | cons c t =>
      split
      · contradiction
      · rename_i heq
        exact absurd heq (h _)
      · split
        · contradiction
        · rename_i heq
          exact absurd heq (h' _)
        · exact seals_map _ (.closed _)

theorem readClassRange_closing (f : Flags) : Closing nearEnd (readClassRange f) := by
  intro cs
  refine (readClassItem_closing f cs).bind ?_ ?_
  · exact fun a r r' _ _ => (readBehindMember_closing f a).seals (readBehindMember_leaves f a)
  · rintro a r rfl s rest h
    exact (readBehindMember_leaves f a h).trans List.nil_suffix

theorem leadingHyphens_closed {fuel fuel' : Nat} (h : Sealed cs cs') (hfuel : cs.length < fuel)
    (hfuel' : cs'.length < fuel') :
    Alike (leadingHyphens f fuel cs) (leadingHyphens f fuel' cs') := by
  induction fuel generalizing fuel' cs cs' with
  | zero => cases hfuel
  | succ fuel ih =>
    obtain _ | fuel' := fuel'
    · cases hfuel'
    unfold leadingHyphens
    rcases h.head '-' (by decide) with ⟨cs, rfl, rfl⟩ | ⟨hne, hne'⟩
    · have hle := (skip_suffix f cs).length_le
      have hle' := (skip_suffix f (cs ++ [')'])).length_le
      simp only [List.length_cons] at hfuel hfuel'
      have hrest : Alike (leadingHyphens f fuel (skip f cs))
          (leadingHyphens f fuel' (skip f (cs ++ [')']))) :=
        ih (skip_sealed f (.closed cs)) (by omega) (by omega)
      exact hrest.map (· + 1)
    · split
      · exact absurd rfl (hne _)
      · exact .intro _ h

theorem readNegation_closed (f : Flags) (h : Sealed cs cs') :
    Alike (readNegation f cs) (readNegation f cs') := by
  have hskip := skip_sealed f h
  unfold readNegation
  generalize skip f cs = t, skip f cs' = t' at hskip
  rcases hskip.head '^' (by decide) with ⟨t, rfl, rfl⟩ | ⟨hne, hne'⟩
  · exact .intro _ (skip_sealed f (.closed t))
  · split
    · exact absurd rfl (hne _)
    · exact .intro _ hskip

theorem readFirst_closed (f : Flags) (h : Sealed cs cs') :
    Alike (readFirst f cs) (readFirst f cs') := by
  have hhyphens := leadingHyphens_closed (f := f) h (Nat.lt_succ_self _) (Nat.lt_succ_self _)
  unfold readFirst
  generalize leadingHyphens f (cs.length + 1) cs = x, leadingHyphens f (cs'.length + 1) cs' = y
    at hhyphens
  obtain ⟨n, ht⟩ := hhyphens
  cases n with
  | succ n => exact .intro _ ht
  | zero =>
    rcases ht.head ']' (by decide) with ⟨t, rfl, rfl⟩ | ⟨hne, hne'⟩
    · exact .intro _ (.closed t)
    · split
      · rename_i heq
        exact absurd (congrArg Prod.snd heq) (hne _)
      · rename_i heq
        cases heq
        exact .intro _ ht
      · rename_i heq
        cases heq

/-- What opens a class is the same in a closed text. -/
theorem readClassOpening_closed (f : Flags) (h : Sealed cs cs') :
    (readClassOpening f cs').1 = (readClassOpening f cs).1 ∧
      Alike (readClassOpening f cs).2 (readClassOpening f cs').2 := by
  have hnegation := readNegation_closed f h
  unfold readClassOpening
  generalize readNegation f cs = x, readNegation f cs' = y at hnegation
  obtain ⟨b, hrest⟩ := hnegation
  exact ⟨rfl, readFirst_closed f hrest⟩

theorem readInnerBracket_closed (f : Flags) (cs : List Char) :
    Alike (readInnerBracket f cs) (readInnerBracket f (cs ++ [')'])) := by
  have hset := readAsciiSet_closing cs
  unfold readInnerBracket
  cases hread : readAsciiSet cs with
  | some p =>
    rw [hread] at hset
    obtain ⟨_, hset, ⟨s, hrest⟩⟩ := hset
    rw [hset]
    exact .intro _ hrest
  | none =>
    rw [hread] at hset
    rw [hset.eq_none]
    obtain ⟨hnegated, hopening⟩ := readClassOpening_closed f (.closed cs)
    dsimp only
    rw [hnegated]
    exact hopening.map (ClassPart.nested _)

/-- A member of a class, and at most the parenthesis behind it. -/
def lastMember (part : ClassPart) (rest : List Char) : Prop :=
  (∃ s, part = .items s) ∧ rest <:+ [')']

/-- Only a member of a class is cut short by the end of the text. -/
theorem readClassPart_closing (f : Flags) : Closing lastMember (readClassPart f) := by
  intro cs
  have hmember : ∀ s rest, nearEnd s rest → lastMember (.items s) rest := fun s _ hrest =>
    ⟨⟨s, rfl⟩, hrest⟩
  have hskip := skip_sealed f (.closed cs)
  unfold readClassPart
  generalize skip f cs = t, skip f (cs ++ [')']) = t' at hskip
  cases hskip with
  | taken => exact seals_none
  | closed =>
    rcases t with _ | ⟨c, t⟩
    · exact (readClassRange_closing f []).map ClassPart.items hmember
    rw [List.cons_append]
    split
    case h_1 h => cases h
    case h_2 h =>
      cases h
      exact seals_some _ (.closed t)
    case h_3 h =>
      cases h
      exact ⟨_, rfl, readInnerBracket_closed f t⟩
    case h_4 h | h_5 h | h_6 h =>
      cases h
      exact seals_some _ (.closed _)
    case h_7 =>
      split
      case h_1 h => cases h
      case h_2 h | h_3 h => simp_all
      case h_4 h | h_5 h | h_6 h =>
        rcases t with _ | ⟨d, t⟩ <;> simp_all
      case h_7 => exact (readClassRange_closing f (c :: t)).map ClassPart.items hmember

/-- The parenthesis closes no class. -/
theorem readClassPart_short (f : Flags) (h : cs <:+ [')']) : readClassPart f cs = none := by
  obtain rfl | rfl : cs = [] ∨ cs = [')'] := by simpa [List.suffix_cons_iff, or_comm] using h
  · rfl
  · rw [readClassPart, skip, skipVerbose_parenthesis]
    rfl

/-- A class that the text leaves open is refused with the parenthesis as without. -/
theorem readClass_seals {fuel fuel' : Nat} {d : ClassDraft} (h : Sealed cs cs')
    (hfuel : cs.length < fuel) (hfuel' : cs'.length < fuel') :
    Seals never (readClass f fuel d cs) (readClass f fuel' d cs') := by
  induction fuel generalizing fuel' d cs cs' with
  | zero => cases hfuel
  | succ fuel ih =>
    obtain _ | fuel' := fuel'
    · cases hfuel'
    refine ((readClassPart_closing f).seals (readClassPart_takes f).leaves h).bind ?_ ?_
    · intro part r r' hread hread' hrest
      have hr := (readClassPart_takes f hread).2
      have hr' := (readClassPart_takes f hread').2
      cases part with
      | close => exact seals_some _ hrest
      | operation op => exact ih hrest (by omega) (by omega)
      | items s => exact ih hrest (by omega) (by omega)
      | nested negated first =>
        refine (ih hrest (by omega) (by omega)).bind ?_ fun _ _ => False.elim
        intro s t t' hinner hinner' ht
        have hle := (readClass_leaves _ _ hinner).length_le
        have hle' := (readClass_leaves _ _ hinner').length_le
        exact ih ht (by omega) (by omega)
    · rintro part r ⟨⟨s, rfl⟩, hr⟩ t rest h
      cases fuel' with
      | zero => cases h
      | succ fuel' =>
        obtain ⟨p, hpart, _⟩ := Option.bind_eq_some_iff.mp h
        rw [readClassPart_short f hr] at hpart
        cases hpart

theorem readBrackets_closing (f : Flags) : Closing never (readBrackets f) := by
  intro cs
  obtain ⟨hnegated, hopening⟩ := readClassOpening_closed f (.closed cs)
  unfold readBrackets
  generalize readClassOpening f cs = x, readClassOpening f (cs ++ [')']) = y at hnegated hopening
  obtain ⟨negated, x⟩ := x
  obtain ⟨_, y⟩ := y
  obtain rfl := hnegated
  obtain ⟨first, hrest⟩ := hopening
  refine (readClass_seals hrest (Nat.lt_succ_self _) (Nat.lt_succ_self _)).bind ?_ fun _ _ => False.elim
  exact fun s r r' _ _ hr => seals_some _ hr

theorem readFlags_seals {value dangling : Bool} {seen : List Char} :
    Closing (fun _ rest => rest = [')']) (readFlags value dangling seen f) := by
  intro cs
  induction cs generalizing value dangling seen f with
  | nil =>
    intro g rest h
    change (if dangling then none else some (f, [')'])) = some (g, rest) at h
    split at h
    · cases h
    · cases h
      rfl
  | cons c cs ih =>
    rw [List.cons_append]
    unfold readFlags
    split
    · split
      · exact seals_none
      · exact seals_some _ (.closed (c :: cs))
    · split
      · split
        · exact ih
        · exact seals_none
      · split
        · exact seals_none
        · cases f.set? c value with
          | none => exact seals_none
          | some g => exact ih

theorem readGroupName_closing : Closing never readGroupName := by
  intro cs
  unfold readGroupName
  cases hbracket : cs.dropWhile (· != '>') with
  | nil =>
    rw [dropWhile_closed_nil hbracket rfl]
    exact seals_none
  | cons c rest =>
    obtain ⟨hdrop, htake⟩ := split_closed hbracket
    rw [hdrop, htake]
    dsimp only
    split
    · exact seals_some _ (.closed rest)
    · exact seals_none

theorem readFlagsOpening_closing (f : Flags) : Closing atEnd (readFlagsOpening f) := by
  intro cs
  -- where the flags end with the text, they end with the parenthesis at most
  have hshort : ∀ g o rest, (if (cs ++ [')']).head? = some ')' then none
      else some (GroupOpening.flags g, [])) = some (o, rest) → atEnd o rest := by
    intro g o rest h
    split at h
    · cases h
    · cases h
      rfl
  unfold readFlagsOpening
  refine (readFlags_seals cs).bind ?_ ?_
  · intro g r r' hread _ hr
    have hhead : (cs ++ [')']).head? = cs.head? := by
      cases cs with
      | nil => cases hread
      | cons c cs => rfl
    cases hr with
    | taken => exact seals_none
    | closed =>
      rcases r with _ | ⟨c, r⟩
      · exact hshort g
      · dsimp only [List.cons_append]
        rw [hhead]
        split
        case h_1 h =>
          cases h
          split
          · exact seals_none
          · exact seals_some _ (.closed r)
        case h_2 hclose h =>
          cases h
          split
          case h_1 h => exact absurd (List.cons.inj h).1 hclose
          case h_2 h =>
            cases h
            exact seals_some _ (.closed r)
          case h_3 h => cases h
        case h_3 h => cases h
  · rintro g r rfl o rest h
    exact hshort g o rest h

theorem readGroupOpening_closing (f : Flags) : Closing atEnd (readGroupOpening f) := by
  intro cs
  have hskip := skip_sealed f (.closed cs)
  unfold readGroupOpening
  generalize skip f cs = t, skip f (cs ++ [')']) = t' at hskip
  cases hskip with
  | taken => exact seals_some _ .taken
  | closed =>
    rcases t with _ | ⟨c, t⟩
    · exact seals_some _ (.closed [])
    rw [List.cons_append]
    split
    case h_1 h | h_2 h =>
      cases h
      exact (readGroupName_closing _).map (fun name => GroupOpening.group f (some name))
        fun _ _ => False.elim
    case h_3 hnamed hangle h =>
      cases h
      split
      case h_1 h | h_2 h =>
        rcases t with _ | ⟨d, _ | ⟨e, t⟩⟩ <;> simp_all
      case h_3 h =>
        cases h
        exact readFlagsOpening_closing f t
      case h_4 h => exact absurd rfl (h _)
    case h_4 h =>
      split
      case h_1 h | h_2 h | h_3 h => simp_all
      case h_4 => exact seals_some _ (.closed (c :: t))

theorem readCount_closing : Closing never readCount := by
  intro cs
  have hblank : Text.isBlank ')' = false := by decide
  have hdigit : Char.isDigit ')' = false := by decide
  unfold readCount
  dsimp only
  rw [dropWhile_closed hblank, dropWhile_closed hdigit, dropWhile_closed hblank,
    takeWhile_closed hdigit]
  split
  · exact seals_some _ (.closed _)
  · split
    · exact seals_some _ (.closed _)
    · exact seals_none

theorem readUpperBound_closing (f : Flags) (low : Nat) : Closing never (readUpperBound f low) := by
  intro cs
  have hskip := skip_sealed f (.closed cs)
  unfold readUpperBound
  generalize skip f cs = t, skip f (cs ++ [')']) = t' at hskip
  rcases hskip.head '\x7d' (by decide) with ⟨rest, rfl, rfl⟩ | ⟨h, h'⟩
  · exact seals_some _ (.closed _)
  split
  · exact absurd rfl (h _)
  refine (readCount_closing.seals readCount_leaves hskip).bind ?_ fun _ _ => False.elim
  intro high r r' _ _ hr
  refine Option.rec seals_none (fun high => ?_) high
  by_cases hle : low ≤ high
  · simpa [hle] using seals_some (some high) hr
  · simp [hle, Seals]

theorem readBoundsEnd_closing (f : Flags) (low : Nat) : Closing never (readBoundsEnd f low) := by
  intro cs
  unfold readBoundsEnd
  rcases (Sealed.closed cs).head ',' (by decide) with ⟨rest, rfl, heq⟩ | ⟨h, h'⟩
  · exact readUpperBound_closing f low rest
  split
  · exact absurd rfl (h _)
  · exact seals_some _ (.closed cs)

/-- Bounds that the text leaves open are not closed by a parenthesis. -/
theorem readBounds_closing (f : Flags) : Closing never (readBounds f) := by
  intro cs
  have hlow := readCount_closing.seals readCount_leaves (skip_sealed f (.closed cs))
  refine hlow.bind ?_ fun _ _ => False.elim
  intro low r r' _ _ hr
  refine Option.rec seals_none (fun low => ?_) low
  refine ((readBoundsEnd_closing f low).seals (readBoundsEnd_leaves f low) hr).bind ?_ fun _ _ => False.elim
  intro high r r' _ _ hr
  rcases hr.head '\x7d' (by decide) with ⟨rest, rfl, rfl⟩ | ⟨h, h'⟩
  · exact seals_some _ (.closed rest)
  split
  · rename_i heq
    exact absurd (congrArg Prod.snd heq) (h _)
  split
  · rename_i heq
    exact absurd (congrArg Prod.snd heq) (h' _)
  exact seals_none

theorem dropLazy_closed (h : Sealed cs cs') : Sealed (dropLazy cs) (dropLazy cs') := by
  unfold dropLazy
  rcases h.head '?' (by decide) with ⟨rest, rfl, rfl⟩ | ⟨hne, hne'⟩
  · exact .closed rest
  · split
    · exact absurd rfl (hne _)
    · exact h

/-- So of all items only one at the very end can tell whether the text was closed. -/
theorem readItem_closing (f : Flags) : Closing atEnd (readItem f) := by
  intro cs
  have hskip := skip_sealed f (.closed cs)
  unfold readItem
  generalize skip f cs = t, skip f (cs ++ [')']) = t' at hskip
  cases hskip with
  | taken => exact seals_some _ .taken
  | closed =>
    rcases t with _ | ⟨c, t⟩
    · exact seals_some _ (.closed [])
    rw [List.cons_append]
    split
    case h_1 h => cases h
    case h_2 h | h_3 h | h_4 h | h_5 h | h_6 h | h_11 h | h_12 h | h_13 h =>
      cases h
      exact seals_some _ (.closed _)
    case h_7 h =>
      cases h
      exact (readBounds_closing f t).map (fun b => Item.repetition b.1 b.2)
        fun _ _ => False.elim
    case h_8 h =>
      cases h
      exact (readGroupOpening_closing f t).map Item.opening fun _ _ => id
    case h_9 h =>
      cases h
      exact (readBrackets_closing f t).map (fun s => Item.part ⟨setPattern s.set, s.depth⟩)
        fun _ _ => False.elim
    case h_10 h =>
      cases h
      exact (readEscape_closing f t).map (fun e => Item.part ⟨escapePattern f e, 0⟩) fun _ _ => id
    case h_14 h =>
      cases h
      split
      case h_1 h => cases h
      case h_14 h =>
        cases h
        exact seals_some _ (.closed t)
      all_goals simp_all

/-- What follows a group, if its parenthesis does: the parenthesis behind the text closes the group
if nothing else stands there. -/
theorem afterGroup_seals {inner : Group} {k k' : Group → List Char → Option (Group × List Char)}
    (h : Sealed cs cs')
    (hnext : ∀ left, cs = ')' :: left → Seals atEnd (k inner left) (k' inner (left ++ [')'])))
    (hend : ∀ g rest, k' inner [] = some (g, rest) → rest = []) :
    Seals atEnd
      (match (inner, cs) with
        | (inner, ')' :: rest) => k inner rest
        | _ => none)
      (match (inner, cs') with
        | (inner, ')' :: rest) => k' inner rest
        | _ => none) := by
  cases h with
  | taken => exact seals_none
  | closed =>
    rcases cs with _ | ⟨c, left⟩
    · exact hend
    by_cases hc : c = ')'
    · subst hc
      exact hnext left rfl
    · rw [List.cons_append]
      split
      · rename_i heq
        exact absurd (List.cons.inj (congrArg Prod.snd heq)).1 hc
      split
      · rename_i heq
        exact absurd (List.cons.inj (congrArg Prod.snd heq)).1 hc
      exact seals_none

/-- A group that the text is too short for is not closed by the parenthesis behind it: either that
closes another group inside it or is taken for something else. -/
theorem readGroup_seals {fuel fuel' : Nat} {names : List (List Char)} {d : Draft}
    (h : Sealed cs cs') (hfuel : cs.length < fuel) (hfuel' : cs'.length < fuel') :
    Seals atEnd (readGroup fuel f names d cs) (readGroup fuel' f names d cs') := by
  induction fuel generalizing fuel' f names d cs cs' with
  | zero => cases hfuel
  | succ fuel ih =>
    obtain _ | fuel' := fuel'
    · cases hfuel'
    -- what goes on at the end of the closed text stays there
    have hend : ∀ {f names d g rest}, readGroup fuel' f names d [] = some (g, rest) → rest = [] :=
      fun h => List.suffix_nil.mp (readGroup_leaves _ _ _ _ h)
    refine ((readItem_closing f).seals (readItem_leaves f) h).bind ?_ ?_
    · intro item r r' hread hread' hrest
      have hnext : item ≠ .stop → ∀ {f names d t t'}, Sealed t t' → t <:+ r → t' <:+ r' →
          Seals atEnd (readGroup fuel f names d t) (readGroup fuel' f names d t') := by
        intro hitem f names d t t' ht hr hr'
        have hlt := readItem_takes hread hitem
        have hlt' := readItem_takes hread' hitem
        have hle := hr.length_le
        have hle' := hr'.length_le
        exact ih ht (by omega) (by omega)
      cases item with
      | stop => exact seals_some _ hrest
      | alternative => exact hnext nofun hrest List.suffix_rfl List.suffix_rfl
      | repetition low high =>
        dsimp only
        cases d.repeatLast low high with
        | none => exact seals_none
        | some d =>
          exact hnext nofun (dropLazy_closed hrest) (dropLazy_suffix r) (dropLazy_suffix r')
      | part p => exact hnext nofun hrest List.suffix_rfl List.suffix_rfl
      | opening o =>
        cases o with
        | flags g => exact hnext nofun hrest List.suffix_rfl List.suffix_rfl
        | group g name =>
          dsimp only
          split
          · exact seals_none
          · refine (hnext nofun hrest List.suffix_rfl List.suffix_rfl).bind ?_ ?_
            · intro inner t t' hinner hinner' ht
              have hleft := readGroup_leaves _ _ _ _ hinner
              have hleft' := readGroup_leaves _ _ _ _ hinner'
              refine afterGroup_seals ht (fun left heq => ?_) fun _ _ => hend
              subst heq
              cases ht
              exact hnext nofun (.closed left) ((List.suffix_cons _ _).trans hleft)
                ((List.suffix_cons _ _).trans hleft')
            · rintro inner t rfl g rest h
              cases h
    · rintro item r rfl g rest h
      cases item with
      | stop =>
        cases h
        rfl
      | alternative => exact hend h
      | repetition low high =>
        obtain ⟨p, _, h⟩ := Option.bind_eq_some_iff.mp h
        exact hend h
      | part p => exact hend h
      | opening o =>
        cases o with
        | flags g => exact hend h
        | group g name =>
          dsimp only at h
          split at h
          · cases h
          · obtain ⟨⟨inner, left⟩, hinner, h⟩ := Option.bind_eq_some_iff.mp h
            obtain rfl := hend hinner
            cases h

end Turnstile.Pattern
