import Turnstile.Proofs.FailedPasses
import Turnstile.Proofs.ClosedPatterns

namespace Turnstile

namespace Pattern
variable {text : String} {p q : Pattern} {g : Group} {cs rest : List Char}

/-- A text read alone: the group it makes, and what stands behind it if it closes that itself. -/
def ownGroup (text : String) : Option (Group × List Char) :=
  readGroup (text.toList.length + 1) .standard [] .start text.toList

/-- What is read when the group behind the anchor is closed. -/
def anchored (g : Group) : Draft := (Draft.start.push ⟨.assert .textStart, 0⟩).push g.part

/-- Whether the text closes the group that it is put into, and goes on behind it as an expression
does. -/
def escapes (text : String) : Bool :=
  match ownGroup text with
  | some (g, ')' :: rest) =>
    match readGroup (rest.length + 2) .standard g.names (anchored g) (rest ++ [')']) with
    | some (whole, []) => whole.fits
    | _ => false
  | _ => false

/-- The limits leave room for an anchor and a group around. -/
def Part.hasRoom (p : Part) : Bool :=
  p.pattern.weight + 2 ≤ weightLimit && p.depth + 2 ≤ nestingLimit

/-- The text keeps to the group that it is put into. -/
structure Contained (text : String) : Prop where
  /-- It does not close that group. -/
  inside : escapes text = false
  /-- It does not end in a comment that takes the parenthesis behind it. -/
  uncommented : (read text).isSome → (read (text ++ ")")).isNone
  /-- It does not exhaust the limits. -/
  roomy : (read text).isSome → (ownGroup text).all (·.1.hasRoom)

instance (text : String) : Decidable (Contained text) :=
  decidable_of_iff
    (escapes text = false ∧ ((read text).isSome → (read (text ++ ")")).isNone) ∧
      ((read text).isSome → (ownGroup text).all (·.1.hasRoom)))
    ⟨fun ⟨hinside, huncommented, hroomy⟩ => ⟨hinside, huncommented, hroomy⟩,
      fun ⟨hinside, huncommented, hroomy⟩ => ⟨hinside, huncommented, hroomy⟩⟩

/-- A text is an expression of its own if it is one group to its end, within the limits. -/
theorem read_eq_some_iff : read text = some p ↔
    ∃ g, ownGroup text = some (g, []) ∧ g.fits = true ∧ g.pattern = p := by
  unfold read ownGroup
  dsimp only
  split
  · rename_i g hgroup
    by_cases hfits : g.fits = true <;> simp [hgroup, hfits]
  · rename_i hgroup
    constructor
    · exact nofun
    · rintro ⟨g, hwhole, _⟩
      exact absurd hwhole (hgroup g)

theorem Part.fits_of_hasRoom {p : Part} (h : p.hasRoom = true) : p.fits = true := by
  simp only [hasRoom, fits, Bool.and_eq_true, decide_eq_true_eq] at h ⊢
  omega

/-- The anchor and the group add two units of weight and two levels. -/
theorem fits_anchored (g : Group) : (anchored g).value.fits = g.hasRoom := by
  have hweight : (anchored g).value.pattern.weight = g.pattern.weight + 2 := by
    change 1 + 1 + g.pattern.weight = _
    omega
  have hdepth : (anchored g).value.depth = g.depth + 2 := by
    change max (max 0 0) (g.depth + 1) + 1 = _
    omega
  rw [Part.fits, Part.hasRoom, hweight, hdepth]

theorem toList_closed (text : String) : (text ++ ")").toList = text.toList ++ [')'] := by
  rw [String.toList_append]
  rfl

theorem ownGroup_closed (text : String) :
    Seals atEnd (ownGroup text) (ownGroup (text ++ ")")) := by
  unfold ownGroup
  rw [toList_closed]
  exact readGroup_seals (.closed _) (Nat.lt_succ_self _) (Nat.lt_succ_self _)

/-- The group behind the anchor is what the text and a parenthesis behind it make, up to the first
parenthesis that closes it; all else is read outside. -/
theorem ownGroup_anchored (text : String) : ownGroup ("^(?:" ++ text ++ ")") =
    ownGroup (text ++ ")") >>= fun
      | (g, ')' :: rest) => readGroup (rest.length + 1) .standard g.names (anchored g) rest
      | _ => none := by
  have htext : ("^(?:" ++ text ++ ")").toList =
      '^' :: '(' :: '?' :: ':' :: (text ++ ")").toList := by
    rw [String.append_assoc, String.toList_append]
    rfl
  have hstep : ∀ fuel cs,
      readGroup (fuel + 2) .standard [] .start ('^' :: '(' :: '?' :: ':' :: cs) =
      readGroup fuel .standard [] .start cs >>= fun
        | (g, ')' :: rest) => readGroup fuel .standard g.names (anchored g) rest
        | _ => none := fun _ _ => rfl
  rw [ownGroup, htext]
  generalize hcs : (text ++ ")").toList = cs
  rw [ownGroup, hcs]
  simp only [List.length_cons]
  have hfuel : readGroup (cs.length + 3) .standard [] .start cs =
      readGroup (cs.length + 1) .standard [] .start cs := readGroup_fuel (by omega) (by omega)
  rw [hstep, hfuel]
  refine Option.bind_congr fun (g, left) hgroup => ?_
  rcases readGroup_stops hgroup with rfl | ⟨rest, rfl⟩
  · rfl
  · have hle := (readGroup_leaves _ _ _ _ hgroup).length_le
    rw [List.length_cons] at hle
    exact readGroup_fuel (by omega) (by omega)

/-- A text that makes no group alone makes none behind the anchor. -/
theorem readAnchored_of_cut (h : ownGroup text = none) : readAnchored text = none := by
  have hclosed := ownGroup_closed text
  rw [h] at hclosed
  have hnone : ownGroup ("^(?:" ++ text ++ ")") = none := by
    rw [ownGroup_anchored]
    cases hgroup : ownGroup (text ++ ")") with
    | none => rfl
    | some p =>
      obtain ⟨g, rest⟩ := p
      obtain rfl : rest = [] := hclosed g rest hgroup
      rfl
  refine Option.eq_none_iff_forall_ne_some.mpr fun p hp => ?_
  obtain ⟨g, hg, _⟩ := read_eq_some_iff.mp hp
  rw [hnone] at hg
  cases hg

theorem readAnchored_isSome_of_stray (h : ownGroup text = some (g, ')' :: rest)) :
    (readAnchored text).isSome = escapes text := by
  have hclosed := ownGroup_closed text
  rw [h] at hclosed
  obtain ⟨_, hgroup, ⟨_, hrest⟩⟩ := hclosed
  cases hrest
  have hbehind : ownGroup ("^(?:" ++ text ++ ")") =
      readGroup (rest.length + 2) .standard g.names (anchored g) (rest ++ [')']) := by
    have hlength : (rest ++ [')']).length + 1 = rest.length + 2 := by simp
    rw [ownGroup_anchored, hgroup, ← hlength]
    rfl
  rw [Bool.eq_iff_iff, Option.isSome_iff_exists, escapes, h]
  simp only [readAnchored, read_eq_some_iff, hbehind]
  split
  · rename_i whole hwhole
    simp [hwhole]
  · rename_i hwhole
    simpa using fun whole hsome => absurd hsome (hwhole whole)

/-- A whole expression is read in a group as it is alone. -/
theorem readAnchored_of_whole (h : ownGroup text = some (g, [])) : readAnchored text = some q ↔
    ownGroup (text ++ ")") = some (g, [')']) ∧ g.hasRoom = true ∧
      q = .seq (.seq .empty (.assert .textStart)) g.pattern := by
  have hclosed := ownGroup_closed text
  rw [h] at hclosed
  obtain ⟨_, hgroup, ⟨_, hrest⟩⟩ := hclosed
  have hanchored := ownGroup_anchored text
  rw [hgroup] at hanchored
  rw [readAnchored, read_eq_some_iff, hanchored, hgroup]
  cases hrest with
  | taken =>
    -- the group behind the anchor is not closed
    constructor
    · rintro ⟨_, hg, _⟩
      cases hg
    · rintro ⟨hg, _⟩
      cases hg
  | closed =>
    constructor
    · rintro ⟨_, hg, hfits, rfl⟩
      cases hg
      exact ⟨rfl, fits_anchored g ▸ hfits, rfl⟩
    · rintro ⟨_, hroom, rfl⟩
      exact ⟨⟨(anchored g).value, g.names⟩, rfl, fits_anchored g ▸ hroom, rfl⟩

/-- The parenthesis behind a whole expression is left over unless a comment takes it, and then the
text and the parenthesis are a whole expression too. -/
theorem ownGroup_closed_of_read (h : ownGroup text = some (g, [])) (hfits : g.fits = true) :
    ownGroup (text ++ ")") = some (g, [')']) ↔ read (text ++ ")") = none := by
  have hclosed := ownGroup_closed text
  rw [h] at hclosed
  obtain ⟨_, hgroup, ⟨_, hrest⟩⟩ := hclosed
  rw [Option.eq_none_iff_forall_ne_some]
  cases hrest with
  | taken =>
    have hread : read (text ++ ")") = some g.pattern :=
      read_eq_some_iff.mpr ⟨g, hgroup, hfits, rfl⟩
    simp [hgroup, hread]
  | closed =>
    refine iff_of_true hgroup fun p hp => ?_
    obtain ⟨_, hwhole, _⟩ := read_eq_some_iff.mp hp
    rw [hgroup] at hwhole
    cases hwhole

theorem read_of_escapes (h : escapes text = true) : read text = none := by
  refine Option.eq_none_iff_forall_ne_some.mpr fun p hp => ?_
  obtain ⟨g, hgroup, _⟩ := read_eq_some_iff.mp hp
  rw [escapes, hgroup] at h
  cases h

/-- A text that closes the group early and goes on as an expression is accepted behind the anchor,
though alone it is none. -/
theorem readAnchored_of_escapes (h : escapes text = true) : readAnchored text ≠ none := by
  unfold escapes at h
  split at h
  · rename_i hgroup
    rw [Option.ne_none_iff_isSome, readAnchored_isSome_of_stray hgroup, escapes, hgroup]
    exact h
  · cases h

/-- An expression is accepted in the group if its parenthesis counts and there is room. -/
theorem readAnchored_ne_none_of_read (h : read text = some p) : readAnchored text ≠ none ↔
    read (text ++ ")") = none ∧ (ownGroup text).all (·.1.hasRoom) = true := by
  obtain ⟨g, hgroup, hfits, rfl⟩ := read_eq_some_iff.mp h
  rw [Option.ne_none_iff_exists']
  simp only [readAnchored_of_whole hgroup, ownGroup_closed_of_read hgroup hfits, hgroup]
  simp

/-- What is no expression is accepted in the group just if it escapes from it. -/
theorem readAnchored_ne_none_of_malformed (h : read text = none) :
    readAnchored text ≠ none ↔ escapes text = true := by
  refine ⟨fun haccepted => ?_, readAnchored_of_escapes⟩
  cases hgroup : ownGroup text with
  | none => exact absurd (readAnchored_of_cut hgroup) haccepted
  | some x =>
    obtain ⟨g, rest⟩ := x
    rcases readGroup_stops hgroup with rfl | ⟨rest, rfl⟩
    · -- a whole group that is too large alone
      obtain ⟨q, hq⟩ := Option.ne_none_iff_exists'.mp haccepted
      obtain ⟨_, hroom, _⟩ := (readAnchored_of_whole hgroup).mp hq
      have hread : read text = some g.pattern :=
        read_eq_some_iff.mpr ⟨g, hgroup, Part.fits_of_hasRoom hroom, rfl⟩
      rw [h] at hread
      cases hread
    · rwa [Option.ne_none_iff_isSome, readAnchored_isSome_of_stray hgroup] at haccepted

/-- Just the texts that keep to the group are accepted if and only if they are expressions. -/
theorem contained_iff : Contained text ↔ (readAnchored text = none ↔ read text = none) := by
  cases hread : read text with
  | none =>
    have hescapes : readAnchored text = none ↔ escapes text = false := by
      rw [← not_iff_not, Bool.not_eq_false]
      exact readAnchored_ne_none_of_malformed hread
    rw [iff_true_right rfl, hescapes]
    exact ⟨Contained.inside, fun hinside => ⟨hinside, by simp [hread], by simp [hread]⟩⟩
  | some p =>
    have haccepted := readAnchored_ne_none_of_read hread
    have hiff : (readAnchored text = none ↔ some p = none) ↔ readAnchored text ≠ none :=
      iff_false_right nofun
    rw [hiff, haccepted]
    constructor
    · intro h
      have hsome : (read text).isSome = true := by rw [hread]; rfl
      exact ⟨Option.isNone_iff_eq_none.mp (h.uncommented hsome), h.roomy hsome⟩
    · rintro ⟨huncommented, hroomy⟩
      refine ⟨Bool.eq_false_iff.mpr fun hescapes => ?_, fun _ => ?_, fun _ => hroomy⟩
      · rw [read_of_escapes hescapes] at hread
        cases hread
      · rw [huncommented]
        rfl

example : ¬ Contained "(?x)a # b" := by decide +kernel

/-- The expression matches what the text starts with. -/
def MatchesStart (p : Pattern) (text : String) : Prop :=
  ∃ j, Matches Text.isWordChar text.toList.toArray p 0 j

/-- Behind the anchor an expression matches only from the start. -/
theorem isMatch_anchored (hp : p.InOrder) (name : String) :
    isMatch (.seq (.seq .empty (.assert .textStart)) p) name = true ↔ p.MatchesStart name := by
  have horder : InOrder (.seq (.seq .empty (.assert .textStart)) p) := ⟨⟨trivial, trivial⟩, hp⟩
  rw [isMatch, occursIn_iff horder, MatchesStart]
  constructor
  · rintro ⟨_, hi, j, _, ⟨_, rfl, hstart, rfl⟩, hj⟩
    rename_i i
    have hzero : i = 0 := by
      by_contra hne
      have hlt : i - 1 < name.toList.toArray.size := by omega
      rw [if_neg hne, Array.getElem?_eq_getElem hlt] at hstart
      cases hstart
    exact ⟨j, hzero ▸ hj⟩
  · rintro ⟨j, hj⟩
    exact ⟨0, Nat.zero_le _, j, 0, ⟨0, rfl, rfl, rfl⟩, hj⟩

/-- An expression of its own, put behind the anchor, matches where a match of it stands at the
start. -/
theorem isMatch_of_read (h : read text = some p) (ha : readAnchored text = some q) (name : String) :
    isMatch q name = true ↔ p.MatchesStart name := by
  obtain ⟨g, hgroup, _, rfl⟩ := read_eq_some_iff.mp h
  obtain ⟨_, _, rfl⟩ := (readAnchored_of_whole hgroup).mp ha
  exact isMatch_anchored (read_inOrder h) name

end Pattern

/-- Both names start with a match of their pattern. -/
def PairPattern.Selects (q : PairPattern) (p : NamedPair) : Prop :=
  (∃ r, Pattern.read q.resource = some r ∧ r.MatchesStart p.resource) ∧
    ∃ r, Pattern.read q.permission = some r ∧ r.MatchesStart p.permission

/-- The patterns are refused if one of them is no expression, and else select the pairs whose names
both start with a match. -/
structure SelectsByPrefix (ps : List PairPattern) : Prop where
  /-- A pattern that is no expression is reported, and nothing is synchronized. -/
  malformed : (∃ text ∈ (RoleRule.patterns ps).expressions, Pattern.read text = none) →
    (∃ text ∈ (RoleRule.patterns ps).expressions, Pattern.read text = none ∧
      (RoleRule.patterns ps).ready = .error text) ∧
    ∀ (s : Synchronizer) (store : Store), (∃ d ∈ s.definitions, d.rule = .patterns ps) →
      ∃ text, s.sync store = .error (.invalidPattern text)
  wellFormed : (∀ text ∈ (RoleRule.patterns ps).expressions, Pattern.read text ≠ none) →
    ∃ rule, (RoleRule.patterns ps).ready = .ok rule ∧
      ∀ policy p, rule.admits policy p = true ↔ ∃ q ∈ ps, q.Selects p

theorem readSide_eq_ok {text : String} {p : Pattern} :
    readSide text = .ok p ↔ Pattern.readAnchored text = some p := by
  unfold readSide
  cases Pattern.readAnchored text <;> simp

theorem isMatch_of_readSide {text : String} {p : Pattern} (h : Pattern.read text ≠ none)
    (hp : readSide text = .ok p) (name : String) : Pattern.isMatch p name = true ↔
      ∃ r, Pattern.read text = some r ∧ r.MatchesStart name := by
  obtain ⟨r, hr⟩ := Option.ne_none_iff_exists'.mp h
  rw [Pattern.isMatch_of_read hr (readSide_eq_ok.mp hp)]
  simp [hr]

/-- Of a rule that is read a pair falls under the patterns that select it. -/
theorem any_isMatch_iff {ps : List PairPattern} {qs : List (Pattern × Pattern)}
    (hread : ∀ text ∈ (RoleRule.patterns ps).expressions, Pattern.read text ≠ none)
    (h : ps.mapM PairPattern.ready = .ok qs) (p : NamedPair) :
    (qs.any fun q => Pattern.isMatch q.1 p.resource && Pattern.isMatch q.2 p.permission) = true ↔
      ∃ q ∈ ps, q.Selects p := by
  induction ps generalizing qs with
  | nil =>
    cases h
    simp
  | cons q ps ih =>
    rw [List.mapM_cons] at h
    obtain ⟨first, hfirst, h⟩ := bind_eq_ok.mp h
    obtain ⟨rest, hrest, h⟩ := bind_eq_ok.mp h
    cases h
    obtain ⟨resource, hresource, hfirst⟩ := bind_eq_ok.mp hfirst
    obtain ⟨permission, hpermission, hfirst⟩ := bind_eq_ok.mp hfirst
    cases hfirst
    have hsides : ∀ text ∈ q.expressions, Pattern.read text ≠ none := fun text htext =>
      hread text (List.mem_append_left _ htext)
    rw [List.any_cons, Bool.or_eq_true, Bool.and_eq_true,
      ih (fun text htext => hread text (List.mem_append_right _ htext)) hrest,
      isMatch_of_readSide (hsides _ (by simp [PairPattern.expressions])) hresource,
      isMatch_of_readSide (hsides _ (by simp [PairPattern.expressions])) hpermission]
    simp [PairPattern.Selects]

/-- A definition with an expression that is not accepted stops every synchronization. -/
theorem Synchronizer.sync_invalidPattern {s : Synchronizer} {d : RoleDefinition} {text : String}
    (hd : d ∈ s.definitions) (htext : text ∈ d.rule.expressions)
    (hnone : Pattern.readAnchored text = none) (store : Store) :
    ∃ text, s.sync store = .error (.invalidPattern text) := by
  have hmem : text ∈ s.expressions := List.mem_flatMap.mpr ⟨d, hd, htext⟩
  obtain ⟨e, he⟩ := s.ready_readsAll.fails_iff.mpr ⟨text, hmem, hnone⟩
  obtain ⟨reported, _, _, rfl⟩ := s.ready_readsAll.error e he
  exact ⟨reported, bind_eq_error.mpr (.inl he)⟩

section
variable {ps : List PairPattern}
  (hps : ∀ text ∈ (RoleRule.patterns ps).expressions, Pattern.Contained text)
include hps

theorem selectsByPrefix_of_contained : SelectsByPrefix ps := by
  have hreads := (RoleRule.patterns ps).ready_readsAll
  constructor
  · rintro ⟨text, htext, hmalformed⟩
    have hnone := (Pattern.contained_iff.mp (hps text htext)).mpr hmalformed
    obtain ⟨e, he⟩ := hreads.fails_iff.mpr ⟨text, htext, hnone⟩
    obtain ⟨_, hreported, hrefused, rfl⟩ := hreads.error e he
    refine ⟨⟨_, hreported, ?_, he⟩, ?_⟩
    · exact (Pattern.contained_iff.mp (hps _ hreported)).mp hrefused
    · rintro s store ⟨d, hd, hrule⟩
      exact Synchronizer.sync_invalidPattern hd (hrule ▸ htext) hnone store
  · intro hread
    cases hready : (RoleRule.patterns ps).ready with
    | error e =>
      obtain ⟨reported, hreported, hrefused, _⟩ := hreads.error e hready
      have hmalformed := (Pattern.contained_iff.mp (hps reported hreported)).mp hrefused
      exact absurd hmalformed (hread reported hreported)
    | ok rule =>
      obtain ⟨qs, hqs, rfl⟩ := map_eq_ok.mp hready
      exact ⟨_, rfl, fun _ p => any_isMatch_iff hread hqs p⟩

end

/-- If matching by the start is right for a single pattern, the pattern keeps to its group. -/
theorem contained_of_selectsByPrefix {text : String} (h : SelectsByPrefix [⟨text, text⟩]) :
    Pattern.Contained text := by
  have hexpressions : ∀ t ∈ (RoleRule.patterns [⟨text, text⟩]).expressions, t = text := by
    simp [RoleRule.expressions, PairPattern.expressions]
  have hmem : text ∈ (RoleRule.patterns [⟨text, text⟩]).expressions := by
    simp [RoleRule.expressions, PairPattern.expressions]
  have hreads := (RoleRule.patterns [⟨text, text⟩]).ready_readsAll
  rw [Pattern.contained_iff]
  constructor
  · intro hrefused
    by_contra hread
    obtain ⟨rule, hready, _⟩ := h.wellFormed fun t ht => hexpressions t ht ▸ hread
    exact hreads.ok rule hready text hmem hrefused
  · intro hmalformed
    obtain ⟨⟨reported, _, _, hready⟩, _⟩ := h.malformed ⟨text, hmem, hmalformed⟩
    obtain ⟨t, ht, hrefused, _⟩ := hreads.error reported hready
    exact hexpressions t ht ▸ hrefused

/-- The rules that are made of certain patterns all select by prefix if the patterns keep to the
groups they are put into, and only then. -/
theorem patterns_select_from_start_iff (texts : List String) :
    (∀ ps : List PairPattern, (∀ text ∈ (RoleRule.patterns ps).expressions, text ∈ texts) →
      SelectsByPrefix ps) ↔ ∀ text ∈ texts, Pattern.Contained text := by
  constructor
  · intro h text htext
    refine contained_of_selectsByPrefix (h [⟨text, text⟩] fun t ht => ?_)
    obtain rfl : t = text := by
      simpa [RoleRule.expressions, PairPattern.expressions] using ht
    exact htext
  · intro h ps hps
    exact selectsByPrefix_of_contained fun text htext => h text (hps text htext)

/-- A rule whose alternatives are all sought at the start, and one that cannot be read. -/
theorem alternatives_select_from_start :
    (∃ rule, (RoleRule.patterns [⟨"board|chart", "can_re(ad|port)"⟩]).ready = .ok rule ∧
      ∀ policy p, rule.admits policy p = true ↔
        PairPattern.Selects ⟨"board|chart", "can_re(ad|port)"⟩ p) ∧
    (RoleRule.patterns [⟨"(", "("⟩]).ready = .error "(" := by
  have hselects := (patterns_select_from_start_iff ["board|chart", "can_re(ad|port)", "("]).mpr
    (by decide +kernel)
  have hread : ∀ text ∈ ["board|chart", "can_re(ad|port)"], (Pattern.read text).isSome := by
    decide +kernel
  have hopen : (Pattern.read "(").isNone := by decide +kernel
  constructor
  · obtain ⟨rule, hready, hadmits⟩ :=
      (hselects [⟨"board|chart", "can_re(ad|port)"⟩] (by decide)).wellFormed fun text htext =>
        Option.ne_none_iff_isSome.mpr (hread text htext)
    exact ⟨rule, hready, fun policy p => by simpa using hadmits policy p⟩
  · obtain ⟨⟨text, htext, _, hready⟩, _⟩ := (hselects [⟨"(", "("⟩] (by decide)).malformed
      ⟨"(", by decide, Option.isNone_iff_eq_none.mp hopen⟩
    obtain rfl : text = "(" := by simpa [RoleRule.expressions, PairPattern.expressions] using htext
    exact hready

/-- A pattern that closes the group it is put into is no expression, but makes a rule, and that
selects names by what stands in the midst of them. -/
theorem escaping_pattern_selects_amid :
    (Pattern.read "a)|(?:.*board").isNone = true ∧
      (∃ rule, (RoleRule.patterns [⟨"a)|(?:.*board", ".*"⟩]).ready = .ok rule ∧
        rule.admits .standard ⟨⟨1⟩, "can_read", "keyboard"⟩ = true) ∧
      ¬ SelectsByPrefix [⟨"a)|(?:.*board", ".*"⟩] := by
  have hnone : (Pattern.read "a)|(?:.*board").isNone = true := by decide +kernel
  have hadmits : (RoleRule.patterns [⟨"a)|(?:.*board", ".*"⟩]).ready.toOption.any
      (·.admits .standard ⟨⟨1⟩, "can_read", "keyboard"⟩) = true := by decide +kernel
  cases hready : (RoleRule.patterns [⟨"a)|(?:.*board", ".*"⟩]).ready with
  | error e =>
    rw [hready] at hadmits
    cases hadmits
  | ok rule =>
    rw [hready] at hadmits
    refine ⟨hnone, ⟨rule, rfl, hadmits⟩, fun hselects => ?_⟩
    obtain ⟨⟨text, _, _, hrefused⟩, _⟩ := hselects.malformed
      ⟨"a)|(?:.*board", by decide, Option.isNone_iff_eq_none.mp hnone⟩
    rw [hready] at hrefused
    cases hrefused

end Turnstile
