import Turnstile.Proofs.PatternMatches

namespace Turnstile.Pattern
variable {f : Flags} {cs cs' rest : List Char} {c : Char} {α : Type}

theorem skipVerbose_suffix (fuel : Nat) (cs : List Char) : skipVerbose f fuel cs <:+ cs := by
  induction fuel generalizing cs with
  | zero => exact List.suffix_rfl
  | succ fuel ih =>
    cases cs with
    | nil => exact List.suffix_rfl
    | cons c cs =>
      unfold skipVerbose
      split
      · exact List.suffix_rfl
      · split
        · exact (ih cs).trans (List.suffix_cons c cs)
        · split
          · exact ((ih _).trans (List.dropWhile_suffix _)).trans (List.suffix_cons c cs)
          · exact List.suffix_rfl

theorem skip_suffix (f : Flags) (cs : List Char) : skip f cs <:+ cs := skipVerbose_suffix _ cs

/-- What a reader leaves stands at the end of what it got. -/
def Leaves (read : List Char → Option (α × List Char)) : Prop :=
  ∀ ⦃cs a rest⦄, read cs = some (a, rest) → rest <:+ cs

/-- A reader takes a character at least, and leaves an end of the rest. -/
def Takes (read : List Char → Option (α × List Char)) : Prop :=
  ∀ ⦃cs a rest⦄, read cs = some (a, rest) → rest <:+ cs ∧ rest.length < cs.length

theorem Takes.leaves {read : List Char → Option (α × List Char)} (h : Takes read) : Leaves read :=
  fun _ _ _ hread => (h hread).1

theorem takes_of_cons (hcs : c :: cs' <:+ cs) (h : rest <:+ cs') :
    rest <:+ cs ∧ rest.length < cs.length := by
  refine ⟨h.trans ((List.suffix_cons c cs').trans hcs), ?_⟩
  have hle := hcs.length_le
  have hle' := h.length_le
  rw [List.length_cons] at hle
  omega

theorem suffix_of_cons {p : Char → Bool} {d : Char} (h : cs.dropWhile p = d :: rest) : rest <:+ cs :=
  (List.suffix_cons d rest).trans (h ▸ List.dropWhile_suffix p)

theorem map_leaves {β : Type} {read : List Char → Option (α × List Char)} (h : Leaves read)
    (g : α → β) : Leaves fun cs => (read cs).map fun (a, rest) => (g a, rest) := by
  intro cs b rest hmap
  obtain ⟨⟨a, rest⟩, hread, heq⟩ := Option.map_eq_some_iff.mp hmap
  cases heq
  exact h hread

theorem readHexChar_leaves (width : Nat) : Leaves (readHexChar width) := by
  intro cs a rest h
  unfold readHexChar at h
  split at h
  · rename_i cs
    split at h
    · rename_i hbrace
      obtain ⟨c, _, heq⟩ := Option.map_eq_some_iff.mp h
      cases heq
      exact (suffix_of_cons hbrace).trans (List.suffix_cons _ _)
    · cases h
  · split at h
    · cases h
    · obtain ⟨c, _, heq⟩ := Option.map_eq_some_iff.mp h
      cases heq
      exact List.drop_suffix _ _

theorem readBoundary_suffix (cs : List Char) : (readBoundary cs).2 <:+ cs := by
  unfold readBoundary
  split
  · rename_i rest
    dsimp only
    split
    · rename_i hafter
      exact (suffix_of_cons hafter).trans (List.suffix_cons _ _)
    · exact List.suffix_rfl
  · exact List.suffix_rfl

theorem readEscape_leaves (f : Flags) : Leaves (readEscape f) := by
  intro cs a rest h
  unfold readEscape at h
  split at h
  case h_1 => cases h
  case h_2 | h_3 | h_4 =>
    exact (map_leaves (readHexChar_leaves _) Escape.char h).trans (List.suffix_cons _ _)
  case h_5 =>
    cases h
    exact (readBoundary_suffix _).trans (List.suffix_cons _ _)
  case h_6 =>
    obtain ⟨e, _, heq⟩ := Option.map_eq_some_iff.mp h
    cases heq
    exact List.suffix_cons _ _

theorem readAsciiName_leaves (negated : Bool) : Leaves (readAsciiName negated) := by
  intro cs a rest h
  unfold readAsciiName at h
  split at h
  · rename_i hcolon
    obtain ⟨s, _, h⟩ := Option.bind_eq_some_iff.mp h
    cases h
    exact (List.suffix_cons _ _).trans (suffix_of_cons hcolon)
  · cases h

theorem readAsciiSet_leaves : Leaves readAsciiSet := by
  intro cs a rest h
  unfold readAsciiSet at h
  split at h
  · exact (readAsciiName_leaves true h).trans ((List.suffix_cons _ _).trans (List.suffix_cons _ _))
  · exact (readAsciiName_leaves false h).trans (List.suffix_cons _ _)
  · cases h

theorem readClassItem_takes (f : Flags) : Takes (readClassItem f) := by
  intro cs a rest h
  unfold readClassItem at h
  split at h
  · exact takes_of_cons List.suffix_rfl (readEscape_leaves f h)
  · cases h
    exact takes_of_cons List.suffix_rfl List.suffix_rfl
  · cases h

theorem readRangeEnd_suffix {a : Escape} {s : CharSet} (h : readRangeEnd f a cs = some (s, rest)) :
    rest <:+ '-' :: cs := by
  unfold readRangeEnd at h
  split at h
  iterate 2
    obtain ⟨s, _, heq⟩ := Option.map_eq_some_iff.mp h
    cases heq
    exact List.suffix_rfl
  obtain ⟨⟨b, after⟩, hitem, h⟩ := Option.bind_eq_some_iff.mp h
  obtain ⟨s, _, heq⟩ := Option.map_eq_some_iff.mp h
  cases heq
  exact ((readClassItem_takes f hitem).1.trans (skip_suffix f cs)).trans (List.suffix_cons _ _)

theorem readBehindMember_leaves (f : Flags) (a : Escape) : Leaves (readBehindMember f a) := by
  intro cs s rest h
  refine List.IsSuffix.trans ?_ (skip_suffix f cs)
  unfold readBehindMember at h
  generalize skip f cs = t at h ⊢
  split at h
  · cases h
  · exact readRangeEnd_suffix h
  · obtain ⟨s, _, heq⟩ := Option.map_eq_some_iff.mp h
    cases heq
    exact List.suffix_rfl

theorem readClassRange_takes (f : Flags) : Takes (readClassRange f) := by
  intro cs s rest h
  obtain ⟨⟨a, left⟩, hitem, h⟩ := Option.bind_eq_some_iff.mp h
  obtain ⟨hleft, hlt⟩ := readClassItem_takes f hitem
  have hrest := readBehindMember_leaves f a h
  exact ⟨hrest.trans hleft, Nat.lt_of_le_of_lt hrest.length_le hlt⟩

theorem leadingHyphens_suffix (fuel : Nat) (cs : List Char) :
    (leadingHyphens f fuel cs).2 <:+ cs := by
  induction fuel generalizing cs with
  | zero => exact List.suffix_rfl
  | succ fuel ih =>
    unfold leadingHyphens
    split
    · exact ((ih _).trans (skip_suffix f _)).trans (List.suffix_cons _ _)
    · exact List.suffix_rfl

theorem readClassOpening_suffix (f : Flags) (cs : List Char) :
    (readClassOpening f cs).2.2 <:+ cs := by
  have hnegation : (readNegation f cs).2 <:+ cs := by
    unfold readNegation
    split
    · rename_i rest hskip
      exact (skip_suffix f rest).trans ((List.suffix_cons _ _).trans (hskip ▸ skip_suffix f cs))
    · exact skip_suffix f cs
  refine List.IsSuffix.trans ?_ hnegation
  have hhyphens := leadingHyphens_suffix (f := f) ((readNegation f cs).2.length + 1)
    (readNegation f cs).2
  unfold readClassOpening readFirst
  dsimp only
  split
  · rename_i hsplit
    rw [hsplit] at hhyphens
    exact (List.suffix_cons _ _).trans hhyphens
  · rename_i hsplit
    rwa [hsplit] at hhyphens
  · rename_i hsplit
    rwa [hsplit] at hhyphens

theorem readInnerBracket_suffix (f : Flags) (cs : List Char) :
    (readInnerBracket f cs).2 <:+ cs := by
  unfold readInnerBracket
  split
  · rename_i hset
    exact readAsciiSet_leaves hset
  · exact readClassOpening_suffix f cs

theorem readClassPart_takes (f : Flags) : Takes (readClassPart f) := by
  intro cs a rest h
  have hskip := skip_suffix f cs
  unfold readClassPart at h
  generalize skip f cs = t at h hskip
  split at h
  · cases h
  · cases h
    exact takes_of_cons hskip List.suffix_rfl
  · rename_i inner
    have hinner := readInnerBracket_suffix f inner
    rw [Option.some.inj h] at hinner
    exact takes_of_cons hskip hinner
  iterate 3
    cases h
    exact takes_of_cons hskip (List.suffix_cons _ _)
  · obtain ⟨⟨s, left⟩, hrange, heq⟩ := Option.map_eq_some_iff.mp h
    cases heq
    obtain ⟨hleft, hlt⟩ := readClassRange_takes f hrange
    exact ⟨hleft.trans hskip, Nat.lt_of_lt_of_le hlt hskip.length_le⟩

theorem readClass_leaves (fuel : Nat) (d : ClassDraft) : Leaves (readClass f fuel d) := by
  induction fuel generalizing d with
  | zero => exact fun _ _ _ h => nomatch h
  | succ fuel ih =>
    intro cs s rest h
    obtain ⟨⟨part, left⟩, hpart, h⟩ := Option.bind_eq_some_iff.mp h
    refine List.IsSuffix.trans ?_ (readClassPart_takes f hpart).1
    cases part with
    | close =>
      cases h
      exact List.suffix_rfl
    | operation op => exact ih _ h
    | items s => exact ih _ h
    | nested negated first =>
      obtain ⟨⟨s, after⟩, hinner, h⟩ := Option.bind_eq_some_iff.mp h
      exact (ih _ h).trans (ih _ hinner)

theorem readBrackets_leaves (f : Flags) : Leaves (readBrackets f) := by
  intro cs s rest h
  obtain ⟨⟨s, left⟩, hclass, h⟩ := Option.bind_eq_some_iff.mp h
  cases h
  exact (readClass_leaves _ _ hclass).trans (readClassOpening_suffix f cs)

theorem readCount_leaves : Leaves readCount := by
  intro cs n rest h
  have hrest : ((cs.dropWhile Text.isBlank).dropWhile Char.isDigit).dropWhile Text.isBlank <:+ cs :=
    ((List.dropWhile_suffix _).trans (List.dropWhile_suffix _)).trans (List.dropWhile_suffix _)
  unfold readCount at h
  dsimp only at h
  split at h
  · cases h
    exact hrest
  · split at h
    · cases h
      exact hrest
    · cases h

theorem readUpperBound_leaves (f : Flags) (low : Nat) : Leaves (readUpperBound f low) := by
  intro cs b rest h
  refine List.IsSuffix.trans ?_ (skip_suffix f cs)
  unfold readUpperBound at h
  generalize skip f cs = t at h ⊢
  split at h
  · cases h
    exact List.suffix_rfl
  · obtain ⟨⟨high, left⟩, hhigh, h⟩ := Option.bind_eq_some_iff.mp h
    obtain ⟨high, _, h⟩ := Option.bind_eq_some_iff.mp h
    split at h
    · cases h
      exact readCount_leaves hhigh
    · cases h

theorem readBoundsEnd_leaves (f : Flags) (low : Nat) : Leaves (readBoundsEnd f low) := by
  intro cs b rest h
  unfold readBoundsEnd at h
  split at h
  · exact (readUpperBound_leaves f low h).trans (List.suffix_cons _ _)
  · cases h
    exact List.suffix_rfl

theorem readBounds_leaves (f : Flags) : Leaves (readBounds f) := by
  intro cs b rest h
  obtain ⟨⟨low, left⟩, hlow, h⟩ := Option.bind_eq_some_iff.mp h
  obtain ⟨low, _, h⟩ := Option.bind_eq_some_iff.mp h
  obtain ⟨⟨high, after⟩, hhigh, h⟩ := Option.bind_eq_some_iff.mp h
  have hafter := (readBoundsEnd_leaves f low hhigh).trans
    ((readCount_leaves hlow).trans (skip_suffix f cs))
  split at h
  · rename_i heq
    cases heq
    cases h
    exact (List.suffix_cons _ _).trans hafter
  · cases h

theorem readFlags_suffix {value dangling : Bool} {seen : List Char} {g : Flags}
    (h : readFlags value dangling seen f cs = some (g, rest)) : rest <:+ cs := by
  induction cs generalizing value dangling seen f with
  | nil => cases h
  | cons c cs ih =>
    unfold readFlags at h
    split at h
    · split at h
      · cases h
      · cases h
        exact List.suffix_rfl
    · refine List.IsSuffix.trans ?_ (List.suffix_cons c cs)
      split at h
      · split at h
        · exact ih h
        · cases h
      · split at h
        · cases h
        · obtain ⟨f', _, h⟩ := Option.bind_eq_some_iff.mp h
          exact ih h

theorem readGroupName_leaves : Leaves readGroupName := by
  intro cs name rest h
  unfold readGroupName at h
  split at h
  · rename_i hbracket
    split at h
    · cases h
      exact suffix_of_cons hbracket
    · cases h
  · cases h

theorem readFlagsOpening_leaves (f : Flags) : Leaves (readFlagsOpening f) := by
  intro cs o rest h
  obtain ⟨⟨g, left⟩, hflags, h⟩ := Option.bind_eq_some_iff.mp h
  refine List.IsSuffix.trans ?_ (readFlags_suffix hflags)
  dsimp only at h
  split at h
  · split at h
    · cases h
    · cases h
      exact List.suffix_cons _ _
  · cases h
    exact List.suffix_cons _ _
  · cases h

theorem readGroupOpening_leaves (f : Flags) : Leaves (readGroupOpening f) := by
  intro cs o rest h
  refine List.IsSuffix.trans ?_ (skip_suffix f cs)
  unfold readGroupOpening at h
  generalize skip f cs = t at h ⊢
  split at h
  · exact (map_leaves readGroupName_leaves (fun name => GroupOpening.group f (some name)) h).trans
      ((List.suffix_cons _ _).trans ((List.suffix_cons _ _).trans (List.suffix_cons _ _)))
  · exact (map_leaves readGroupName_leaves (fun name => GroupOpening.group f (some name)) h).trans
      ((List.suffix_cons _ _).trans (List.suffix_cons _ _))
  · exact (readFlagsOpening_leaves f h).trans (List.suffix_cons _ _)
  · cases h
    exact List.suffix_rfl

theorem dropLazy_suffix (cs : List Char) : dropLazy cs <:+ cs := by
  unfold dropLazy
  split
  · exact List.suffix_cons _ _
  · exact List.suffix_rfl

/-- Only the end of a group takes no character. -/
theorem readItem_taken {item : Item} (h : readItem f cs = some (item, rest)) :
    item = .stop ∧ rest <:+ cs ∨ rest <:+ cs ∧ rest.length < cs.length := by
  have hskip := skip_suffix f cs
  unfold readItem at h
  generalize skip f cs = t at h hskip
  split at h
  case h_1 | h_2 =>
    cases h
    exact .inl ⟨rfl, hskip⟩
  all_goals refine .inr (takes_of_cons hskip ?_)
  case h_3 | h_4 | h_5 | h_6 | h_11 | h_12 | h_13 | h_14 =>
    cases h
    exact List.suffix_rfl
  case h_7 => exact map_leaves (readBounds_leaves f) (fun b => Item.repetition b.1 b.2) h
  case h_8 => exact map_leaves (readGroupOpening_leaves f) Item.opening h
  case h_9 =>
    exact map_leaves (readBrackets_leaves f) (fun s => Item.part ⟨setPattern s.set, s.depth⟩) h
  case h_10 =>
    exact map_leaves (readEscape_leaves f) (fun e => Item.part ⟨escapePattern f e, 0⟩) h

theorem readItem_leaves (f : Flags) : Leaves (readItem f) := by
  intro cs item rest h
  rcases readItem_taken h with ⟨_, hrest⟩ | ⟨hrest, _⟩
  · exact hrest
  · exact hrest

/-- Every item but a stop takes a character, so a group is read in as many rounds as it has
characters. -/
theorem readItem_takes {item : Item} (h : readItem f cs = some (item, rest))
    (hitem : item ≠ .stop) : rest.length < cs.length := by
  rcases readItem_taken h with ⟨hstop, _⟩ | ⟨_, hlt⟩
  · exact absurd hstop hitem
  · exact hlt

/-- Reading stops at the end of the text or at a closing parenthesis, and nowhere else. -/
theorem readItem_stop (h : readItem f cs = some (.stop, rest)) :
    rest = [] ∨ ∃ left, rest = ')' :: left := by
  unfold readItem at h
  split at h
  case h_1 =>
    cases h
    exact .inl rfl
  case h_2 =>
    cases h
    exact .inr ⟨_, rfl⟩
  case h_3 | h_4 | h_5 | h_6 | h_11 | h_12 | h_13 | h_14 => cases h
  all_goals
    obtain ⟨_, _, heq⟩ := Option.map_eq_some_iff.mp h
    cases heq

section
variable {names : List (List Char)} {d : Draft} {g : Group}

theorem readGroup_leaves (fuel : Nat) (f : Flags) (names : List (List Char)) (d : Draft) :
    Leaves (readGroup fuel f names d) := by
  induction fuel generalizing f names d with
  | zero => exact fun _ _ _ h => nomatch h
  | succ fuel ih =>
    intro cs g rest h
    obtain ⟨⟨item, left⟩, hitem, h⟩ := Option.bind_eq_some_iff.mp h
    refine List.IsSuffix.trans ?_ (readItem_leaves f hitem)
    cases item with
    | stop =>
      cases h
      exact List.suffix_rfl
    | alternative => exact ih _ _ _ h
    | repetition low high =>
      obtain ⟨p, _, h⟩ := Option.bind_eq_some_iff.mp h
      exact (ih _ _ _ h).trans (dropLazy_suffix left)
    | part p => exact ih _ _ _ h
    | opening o =>
      cases o with
      | flags g => exact ih _ _ _ h
      | group g name =>
        dsimp only at h
        split at h
        · cases h
        · obtain ⟨⟨inner, after⟩, hinner, h⟩ := Option.bind_eq_some_iff.mp h
          split at h
          · rename_i heq
            cases heq
            exact (ih _ _ _ h).trans ((List.suffix_cons _ _).trans (ih _ _ _ hinner))
          · cases h

/-- A group ends at a parenthesis or with the text. -/
theorem readGroup_stops {fuel : Nat} (h : readGroup fuel f names d cs = some (g, rest)) :
    rest = [] ∨ ∃ left, rest = ')' :: left := by
  induction fuel generalizing f names d cs g rest with
  | zero => cases h
  | succ fuel ih =>
    obtain ⟨⟨item, left⟩, hitem, h⟩ := Option.bind_eq_some_iff.mp h
    cases item with
    | stop =>
      cases h
      exact readItem_stop hitem
    | alternative => exact ih h
    | repetition low high =>
      obtain ⟨p, _, h⟩ := Option.bind_eq_some_iff.mp h
      exact ih h
    | part p => exact ih h
    | opening o =>
      cases o with
      | flags g => exact ih h
      | group g name =>
        dsimp only at h
        split at h
        · cases h
        · obtain ⟨⟨inner, after⟩, hinner, h⟩ := Option.bind_eq_some_iff.mp h
          split at h
          · exact ih h
          · cases h

/-- Fuel beyond the length of the text changes nothing. -/
theorem readGroup_fuel {fuel fuel' : Nat} (h : cs.length < fuel) (h' : cs.length < fuel') :
    readGroup fuel f names d cs = readGroup fuel' f names d cs := by
  induction fuel generalizing fuel' f names d cs with
  | zero => cases h
  | succ fuel ih =>
    obtain _ | fuel' := fuel'
    · cases h'
    -- an item that is not the last leaves a shorter text, for which the fuel is enough too
    have hrest : ∀ {item rest}, readItem f cs = some (item, rest) → item ≠ .stop →
        ∀ {f names d}, readGroup fuel f names d rest = readGroup fuel' f names d rest := by
      intro item rest hitem hne f names d
      have hlt := readItem_takes hitem hne
      exact ih (by omega) (by omega)
    unfold readGroup
    refine Option.bind_congr fun (item, rest) hitem => ?_
    cases item with
    | stop => rfl
    | alternative => exact hrest hitem nofun
    | repetition low high =>
      refine Option.bind_congr fun p _ => ?_
      have hlt := readItem_takes hitem nofun
      have hle := (dropLazy_suffix rest).length_le
      exact ih (by omega) (by omega)
    | part p => exact hrest hitem nofun
    | opening o =>
      cases o with
      | flags g => exact hrest hitem nofun
      | group g name =>
        dsimp only
        rw [hrest hitem nofun]
        split
        · rfl
        · refine Option.bind_congr fun (inner, left) hinner => ?_
          split
          · rename_i heq
            cases heq
            have hlt := readItem_takes hitem nofun
            have hle := (readGroup_leaves _ _ _ _ hinner).length_le
            rw [List.length_cons] at hle
            exact ih (by omega) (by omega)
          · rfl

theorem readBoundsEnd_ordered {low : Nat} {high : Option Nat}
    (h : readBoundsEnd f low cs = some (high, rest)) : ∀ n ∈ high, low ≤ n := by
  unfold readBoundsEnd at h
  split at h
  · unfold readUpperBound at h
    split at h
    · cases h
      exact nofun
    · obtain ⟨_, _, h⟩ := Option.bind_eq_some_iff.mp h
      obtain ⟨high, _, h⟩ := Option.bind_eq_some_iff.mp h
      split at h
      · cases h
        simpa
      · cases h
  · cases h
    simp

/-- Bounds in the wrong order are refused when they are read. -/
theorem readBounds_ordered {low : Nat} {high : Option Nat}
    (h : readBounds f cs = some ((low, high), rest)) : ∀ n ∈ high, low ≤ n := by
  obtain ⟨_, _, h⟩ := Option.bind_eq_some_iff.mp h
  obtain ⟨low, _, h⟩ := Option.bind_eq_some_iff.mp h
  obtain ⟨_, hend, h⟩ := Option.bind_eq_some_iff.mp h
  split at h
  · cases h
    exact readBoundsEnd_ordered hend
  · cases h

/-- The bounds in an item are in order, and so are those in its part. -/
def Item.InOrder : Item → Prop
  | .repetition low high => ∀ n ∈ high, low ≤ n
  | .part p => p.pattern.InOrder
  | .stop | .alternative | .opening _ => True

theorem readItem_inOrder {item : Item} (h : readItem f cs = some (item, rest)) :
    item.InOrder := by
  unfold readItem at h
  split at h
  case h_1 | h_2 | h_3 | h_11 | h_12 | h_13 | h_14 =>
    cases h
    trivial
  case h_4 | h_5 | h_6 =>
    cases h
    simp [Item.InOrder]
  case h_7 =>
    obtain ⟨⟨⟨low, high⟩, left⟩, hbounds, heq⟩ := Option.map_eq_some_iff.mp h
    cases heq
    exact readBounds_ordered hbounds
  case h_8 | h_9 =>
    obtain ⟨_, _, heq⟩ := Option.map_eq_some_iff.mp h
    cases heq
    trivial
  case h_10 =>
    obtain ⟨⟨e, left⟩, _, heq⟩ := Option.map_eq_some_iff.mp h
    cases heq
    cases e <;> trivial

namespace Draft

/-- All that is read so far is in order. -/
structure InOrder (d : Draft) : Prop where
  closed : ∀ p ∈ d.closed, p.pattern.InOrder
  before : d.before.pattern.InOrder
  last : ∀ p ∈ d.last, p.pattern.InOrder

theorem inOrder_start : start.InOrder := ⟨nofun, trivial, nofun⟩

namespace InOrder

variable (h : d.InOrder)
include h

theorem parts : d.parts.pattern.InOrder := by
  unfold Draft.parts
  split
  · rename_i p hlast
    exact ⟨h.before, h.last p hlast⟩
  · exact h.before

theorem alternatives : d.alternatives.pattern.InOrder := by
  unfold Draft.alternatives
  split
  · rename_i p hclosed
    exact ⟨h.closed p hclosed, h.parts⟩
  · exact h.parts

theorem push {p : Part} (hp : p.pattern.InOrder) : (d.push p).InOrder :=
  ⟨h.closed, h.parts, fun q hq => by
    obtain rfl := Option.some_inj.mp hq
    exact hp⟩

theorem settle : d.settle.InOrder := ⟨h.closed, h.parts, nofun⟩

theorem nextAlternative : d.nextAlternative.InOrder :=
  ⟨fun p hp => by
    obtain rfl := Option.some_inj.mp hp
    exact h.alternatives, trivial, nofun⟩

theorem repeatLast {low : Nat} {high : Option Nat} {d' : Draft}
    (hd' : d.repeatLast low high = some d') (hbounds : ∀ n ∈ high, low ≤ n) : d'.InOrder := by
  obtain ⟨p, hp, rfl⟩ := Option.map_eq_some_iff.mp hd'
  exact ⟨h.closed, h.before, fun q hq => by
    obtain rfl := Option.some_inj.mp hq
    exact ⟨h.last p hp, hbounds⟩⟩

end InOrder

end Draft

/-- So no expression that is read has a repetition with its bounds in the wrong order. -/
theorem readGroup_inOrder {fuel : Nat} (hd : d.InOrder)
    (h : readGroup fuel f names d cs = some (g, rest)) : g.pattern.InOrder := by
  induction fuel generalizing f names d cs g rest with
  | zero => cases h
  | succ fuel ih =>
    obtain ⟨⟨item, left⟩, hitem, h⟩ := Option.bind_eq_some_iff.mp h
    have hbounds := readItem_inOrder hitem
    cases item with
    | stop =>
      cases h
      exact hd.alternatives
    | alternative => exact ih hd.nextAlternative h
    | repetition low high =>
      obtain ⟨d', hd', h⟩ := Option.bind_eq_some_iff.mp h
      exact ih (hd.repeatLast hd' hbounds) h
    | part p => exact ih (hd.push hbounds) h
    | opening o =>
      cases o with
      | flags g => exact ih hd.settle h
      | group g name =>
        dsimp only at h
        split at h
        · cases h
        · obtain ⟨⟨inner, after⟩, hinner, h⟩ := Option.bind_eq_some_iff.mp h
          split at h
          · rename_i heq
            cases heq
            have hgroup : inner.part.pattern.InOrder := ih Draft.inOrder_start hinner
            exact ih (hd.push hgroup) h
          · cases h

/-- The bounds in what is read are in order. -/
theorem read_inOrder {text : String} {p : Pattern} (h : read text = some p) : p.InOrder := by
  unfold read at h
  dsimp only at h
  split at h
  · rename_i g hgroup
    split at h
    · cases h
      exact readGroup_inOrder Draft.inOrder_start hgroup
    · cases h
  · cases h

end

end Turnstile.Pattern
