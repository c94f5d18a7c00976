import Mathlib
import Turnstile.Config.Load
import Turnstile.Proofs.GuestTokens

namespace Turnstile

namespace Setting
variable {m v : Setting} {o : Option Setting} {name : String} {names : List String}

def at? : List String → Setting → Option Setting
  | [], s => some s
  | name :: names, s => (s.entries.lookup name).bind (at? names)

def Compound : Setting → Prop
  | group _ => True
  | list _ => True
  | _ => False

/-- The names lead to that setting, or else to one with parts. -/
def Shows (m : Setting) (names : List String) (o : Option Setting) : Prop :=
  m.at? names = o ∨ ∃ v, m.at? names = some v ∧ v.Compound

theorem lookup_putEntry (es : List (String × Setting)) (other : String) :
    (putEntry name v es).lookup other = if other = name then some v else es.lookup other := by
  have hcons : ∀ own (w : Setting) rest, List.lookup other ((own, w) :: rest) =
      if other = own then some w else rest.lookup other := by
    intro own w rest
    by_cases hown : other = own
    · simp [hown]
    · simp [List.lookup_cons, beq_eq_false_iff_ne.mpr hown, hown]
  induction es with
  | nil => rw [putEntry, hcons]
  | cons e es ih =>
    obtain ⟨own, w⟩ := e
    unfold putEntry
    by_cases hown : own = name
    · subst hown
      rw [if_pos rfl, hcons, hcons]
      split <;> rfl
    · rw [if_neg hown, hcons, hcons, ih]
      by_cases hother : other = own
      · subst hother
        rw [if_pos rfl, if_neg hown, if_pos rfl]
      · rw [if_neg hother, if_neg hother]

theorem at?_singleton (m : Setting) (name : String) : m.at? [name] = m.entries.lookup name :=
  Option.bind_fun_some _

theorem at?_pair_eq_some {own : String} (h : m.at? [name, own] = some v) :
    ∃ w, m.entries.lookup name = some w ∧ w.entries.lookup own = some v := by
  obtain ⟨w, hw, hv⟩ := Option.bind_eq_some_iff.mp h
  exact ⟨w, hw, (at?_singleton w own).symm.trans hv⟩

/-- Setting a name changes what stands at and below it, and nothing beside it. -/
theorem at?_set (m v : Setting) (name other : String) (names : List String) :
    (m.set name v).at? (other :: names) =
      if other = name then v.at? names else m.at? (other :: names) := by
  have hfound : (m.set name v).at? (other :: names) =
      ((putEntry name v m.entries).lookup other).bind (at? names) := rfl
  rw [hfound, lookup_putEntry]
  split <;> rfl

theorem shows_set (h : v.Shows names o) : (m.set name v).Shows (name :: names) o := by
  have hat : (m.set name v).at? (name :: names) = v.at? names := by
    rw [at?_set, if_pos rfl]
  rw [Shows, hat]
  exact h

theorem shows_set_other {other : String} (hne : other ≠ name) (h : m.Shows (other :: names) o) :
    (m.set name v).Shows (other :: names) o := by
  have hat : (m.set name v).at? (other :: names) = m.at? (other :: names) := by
    rw [at?_set, if_neg hne]
  rw [Shows, hat]
  exact h

/-- Where nothing stands under a name, an empty group is taken for it; that has parts, or leads
nowhere. -/
theorem shows_get (h : m.Shows (name :: names) o) : (m.get name).Shows names o := by
  unfold Shows at h
  simp only [at?] at h
  cases hfound : m.entries.lookup name with
  | some s =>
    rw [hfound] at h
    simpa [Shows, get, hfound] using h
  | none =>
    obtain rfl : none = o := by simpa [hfound] using h
    have hget : m.get name = group [] := by rw [get, hfound, Option.getD_none]
    rw [hget]
    cases names with
    | nil => exact .inr ⟨group [], rfl, trivial⟩
    | cons next names => exact .inl rfl

/-- What a setting puts where the names lead, if it is laid over another. A group puts no more there
than what is in it; of several entries of a name the last counts. -/
def given? : List String → Setting → Option Setting
  | [], group _ => none
  | [], v => some v
  | name :: names, v =>
    v.entries.reverse.findSome? fun e => if e.1 = name then given? names e.2 else none

/-- What a setting puts where the names lead, if it is laid over what the steps lead to. -/
def givenAt? (v : Setting) : List Step → List String → Option Setting
  | [], names => v.given? names
  | .name own :: steps, name :: names => if own = name then v.givenAt? steps names else none
  | _, _ => none

/-- The setting has a group wherever the names lead on. -/
def Clear : List String → Setting → Prop
  | [], _ => True
  | name :: names, v => ∃ es, v = group es ∧ ∀ e ∈ es, e.1 = name → Clear names e.2

/-- The steps lead past the names, or else to a setting that has a group wherever they lead on. -/
def ClearAt (v : Setting) : List Step → List String → Prop
  | [], names => v.Clear names
  | _ :: _, [] => True
  | .name own :: steps, name :: names => own = name → v.ClearAt steps names
  | .place _ :: _, _ :: _ => False

theorem layEach_cons (e : String × Setting) (es : List (String × Setting)) (m : Setting) :
    layEach (e :: es) m = layEach es (m.set e.1 (e.2.laidOver (m.get e.1))) := by
  rw [layEach]

theorem compound_layEach (e : String × Setting) (es : List (String × Setting)) (m : Setting) :
    (layEach (e :: es) m).Compound := by
  rw [layEach_cons]
  induction es generalizing e m with
  | nil =>
    rw [layEach]
    trivial
  | cons e' es ih =>
    rw [layEach_cons]
    exact ih e' _

theorem laidOver_of_not_compound (hv : ¬ v.Compound) (m : Setting) : v.laidOver m = v := by
  cases v with
  | group es => exact absurd trivial hv
  | _ =>
    rw [laidOver]
    simp

/-- A setting laid over another shows where it gives something, and the other shows elsewhere, as
long as it keeps a group wherever the names lead on. -/
theorem shows_laidOver (names : List String) {v : Setting} (hv : v.Clear names)
    (h : m.Shows names o) : (v.laidOver m).Shows names ((v.given? names).or o) := by
  induction names generalizing v m o with
  | nil =>
    match v with
    | group [] =>
      rw [laidOver, layEach]
      exact h
    | group (e :: es) =>
      rw [laidOver]
      exact .inr ⟨_, rfl, compound_layEach e es m⟩
    | nothing | flag _ | integer _ | real _ | text _ | list _ =>
      rw [laidOver]
      · exact .inl rfl
      · simp
  | cons name names ih =>
    obtain ⟨es, rfl, hes⟩ := hv
    rw [laidOver]
    -- Each entry is laid over what those before it left, so what shows so far goes along.
    induction es generalizing m o with
    | nil =>
      rw [layEach]
      exact h
    | cons e es ihe =>
      have hgiven : ((group (e :: es)).given? (name :: names)).or o =
          ((group es).given? (name :: names)).or
            ((if e.1 = name then e.2.given? names else none).or o) := by
        simp [given?, entries, Option.or_assoc]
      rw [hgiven, layEach_cons]
      apply ihe _ fun e' he' => hes e' (by simp [he'])
      by_cases hname : e.1 = name
      · subst hname
        rw [if_pos rfl]
        exact shows_set (ih (hes e (by simp) rfl) (shows_get h))
      · rw [if_neg hname]
        exact shows_set_other (Ne.symm hname) h

theorem shows_putAt (steps : List Step) (hv : v.ClearAt steps names) (h : m.Shows names o) :
    (v.putAt steps m).Shows names ((v.givenAt? steps names).or o) := by
  induction steps generalizing m names o with
  | nil => exact shows_laidOver names hv h
  | cons step steps ih =>
    match step, names with
    | .name own, [] => exact .inr ⟨_, rfl, trivial⟩
    | .place n, [] => exact .inr ⟨_, rfl, trivial⟩
    | .name own, name :: names =>
      unfold putAt givenAt?
      by_cases hown : own = name
      · subst hown
        rw [if_pos rfl]
        exact shows_set (ih (hv rfl) (shows_get h))
      · rw [if_neg hown]
        exact shows_set_other (Ne.symm hown) h

/-- What a layer puts where the names lead. -/
def layerGiven? (layer : List (String × Setting)) (names : List String) : Option Setting :=
  layer.reverse.findSome? fun (key, v) => v.givenAt? (Step.ofKey key) names

theorem putLayer_cons (m : Setting) (e : String × Setting) (layer : List (String × Setting)) :
    m.putLayer (e :: layer) = (e.2.putAt (Step.ofKey e.1) m).putLayer layer := rfl

theorem putLayer_append (m : Setting) (below above : List (String × Setting)) :
    m.putLayer (below ++ above) = (m.putLayer below).putLayer above :=
  List.foldl_append

/-- Along a layer the entries that give something come before what is below, and of several the last
one. -/
theorem shows_putLayer {layer : List (String × Setting)}
    (hclear : ∀ e ∈ layer, e.2.ClearAt (Step.ofKey e.1) names) (h : m.Shows names o) :
    (m.putLayer layer).Shows names ((layerGiven? layer names).or o) := by
  induction layer generalizing m o with
  | nil => exact h
  | cons e layer ih =>
    have hgiven : (layerGiven? (e :: layer) names).or o =
        (layerGiven? layer names).or ((e.2.givenAt? (Step.ofKey e.1) names).or o) := by
      simp [layerGiven?, Option.or_assoc]
    rw [hgiven, putLayer_cons]
    exact ih (fun e' he' => hclear e' (by simp [he']))
      (shows_putAt (Step.ofKey e.1) (hclear e (by simp)) h)

theorem ofKey_eq (key : String) : ∃ own steps, Step.ofKey key = .name own :: steps := by
  unfold Step.ofKey
  dsimp only
  split
  · exact ⟨_, _, rfl⟩
  · exact ⟨_, _, rfl⟩

/-- Keys that start elsewhere change nothing. -/
theorem at?_putLayer_other {layer : List (String × Setting)}
    (hother : ∀ e ∈ layer, (Step.ofKey e.1).head? ≠ some (.name name)) :
    (m.putLayer layer).at? (name :: names) = m.at? (name :: names) := by
  induction layer generalizing m with
  | nil => rfl
  | cons e layer ih =>
    obtain ⟨own, steps, hkey⟩ := ofKey_eq e.1
    have hne : name ≠ own := by
      intro hsame
      apply hother e (by simp)
      rw [hkey, hsame]
      rfl
    have hstep : (e.2.putAt (Step.ofKey e.1) m).at? (name :: names) = m.at? (name :: names) := by
      rw [hkey, putAt, at?_set, if_neg hne]
    rw [putLayer_cons, ← hstep]
    exact ih fun e' he' => hother e' (by simp [he'])

end Setting

namespace Config
open Setting

inductive Key where
  | publicRole
  | template
  | adminRole
  | embedded
  | dashboardRoles
  | broadAccess
  | secret
  | algorithm
  | lifetime
  | audience
  | headerName
  | roleName
  | instructionsLink
deriving DecidableEq, Repr

/-- The names that lead to a setting. -/
def Key.names : Key → List String
  | publicRole => ["auth", "role_public"]
  | template => ["auth", "public_role_like"]
  | adminRole => ["auth", "admin_role"]
  | embedded => ["features", "embedded"]
  | dashboardRoles => ["features", "dashboard_rbac"]
  | broadAccess => ["activity", "broad_access"]
  | secret => ["guest_token", "secret"]
  | algorithm => ["guest_token", "algorithm"]
  | lifetime => ["guest_token", "exp_seconds"]
  | audience => ["guest_token", "audience"]
  | headerName => ["guest_token", "header_name"]
  | roleName => ["guest_token", "role_name"]
  | instructionsLink => ["permission_instructions_link"]

/-- The configuration has what is read from `v` for the setting. -/
def Key.IsRead (k : Key) (c : Config) (v : Setting) : Prop :=
  let f := Format.setting
  match k with
  | publicRole => f.optionalText? v = some c.auth.publicRole
  | template => f.optionalText? v = some c.auth.template
  | adminRole => f.text? v = some c.auth.adminRole
  | embedded => f.flag? v = some c.features.embedded
  | dashboardRoles => f.flag? v = some c.features.dashboardRoles
  | broadAccess => f.flag? v = some c.activity.broadAccess
  | secret => f.text? v = some c.guestToken.secret
  | algorithm => f.text? v = some c.guestToken.algorithm
  | lifetime => f.count? v = some c.guestToken.lifetime
  | audience => f.optionalText? v = some c.guestToken.audience
  | headerName => f.text? v = some c.guestToken.headerName
  | roleName => f.optionalText? v = some c.guestToken.roleName
  | instructionsLink => f.optionalText? v = some c.instructionsLink

variable {k : Key} {c : Config} {m v w : Setting} {name : String}

instance : Decidable (k.IsRead c v) :=
  match k with
  | .publicRole | .template | .adminRole | .embedded | .dashboardRoles | .broadAccess | .secret
  | .algorithm | .lifetime | .audience | .headerName | .roleName | .instructionsLink =>
    inferInstanceAs (Decidable (_ = _))

/-- No setting is read from a group or a list. -/
theorem Key.IsRead.not_compound (h : k.IsRead c v) : ¬ v.Compound := by
  intro hcompound
  cases v with
  | group es =>
    cases k <;> simp [IsRead, Format.setting, Format.optionalText?, isNothing, text?, flag?,
      count?] at h
  | list vs =>
    cases k <;> simp [IsRead, Format.setting, Format.optionalText?, isNothing, text?, flag?,
      count?] at h
  | _ => exact hcompound

theorem fields?_of_lookup (h : w.entries.lookup name = some v) (names : List String) :
    Format.setting.fields? names w = some w.entries := by
  cases w with
  | group es => rfl
  | _ => simp [entries] at h

theorem orElse_of_lookup {δ α : Type} {given : List (String × δ)} {v : δ} {standard : α}
    {read : δ → Option α} (h : given.lookup name = some v) :
    Format.orElse given name standard read = read v := by
  rw [Format.orElse, h]

/-- What is read for a setting is what its names lead to. -/
theorem isRead_of_config? (hc : Format.setting.config? m = some c) (hv : m.at? k.names = some v) :
    k.IsRead c v := by
  cases k with
  | publicRole | template | adminRole =>
    obtain ⟨w, hw, hv⟩ := at?_pair_eq_some hv
    simp only [Format.config?, fields?_of_lookup hw, orElse_of_lookup hw, Option.bind_eq_bind,
      Option.bind_some, Option.bind_eq_some_iff] at hc
    obtain ⟨auth, hread, _, _, _, _, _, _, _, _, hc⟩ := hc
    cases hc
    simp only [Format.auth?, fields?_of_lookup hv, orElse_of_lookup hv, Option.bind_eq_bind,
      Option.bind_some, Option.bind_eq_some_iff] at hread
    obtain ⟨_, hpublicRole, _, htemplate, _, hadminRole, hread⟩ := hread
    cases hread
    first | exact hpublicRole | exact htemplate | exact hadminRole
  | embedded | dashboardRoles =>
    obtain ⟨w, hw, hv⟩ := at?_pair_eq_some hv
    simp only [Format.config?, fields?_of_lookup hw, orElse_of_lookup hw, Option.bind_eq_bind,
      Option.bind_some, Option.bind_eq_some_iff] at hc
    obtain ⟨_, _, features, hread, _, _, _, _, _, _, hc⟩ := hc
    cases hc
    simp only [Format.features?, fields?_of_lookup hv, orElse_of_lookup hv, Option.bind_eq_bind,
      Option.bind_some, Option.bind_eq_some_iff] at hread
    obtain ⟨_, hembedded, _, hdashboardRoles, hread⟩ := hread
    cases hread
    first | exact hembedded | exact hdashboardRoles
  | broadAccess =>
    obtain ⟨w, hw, hv⟩ := at?_pair_eq_some hv
    simp only [Format.config?, fields?_of_lookup hw, orElse_of_lookup hw, Option.bind_eq_bind,
      Option.bind_some, Option.bind_eq_some_iff] at hc
    obtain ⟨_, _, _, _, activity, hread, _, _, _, _, hc⟩ := hc
    cases hc
    simp only [Format.activity?, fields?_of_lookup hv, orElse_of_lookup hv, Option.bind_eq_bind,
      Option.bind_some, Option.bind_eq_some_iff] at hread
    obtain ⟨_, hbroadAccess, hread⟩ := hread
    cases hread
    exact hbroadAccess
  | secret | algorithm | lifetime | audience | headerName | roleName =>
    obtain ⟨w, hw, hv⟩ := at?_pair_eq_some hv
    simp only [Format.config?, fields?_of_lookup hw, orElse_of_lookup hw, Option.bind_eq_bind,
      Option.bind_some, Option.bind_eq_some_iff] at hc
    obtain ⟨_, _, _, _, _, _, token, hread, _, _, hc⟩ := hc
    cases hc
    simp only [Format.guestToken?, fields?_of_lookup hv, orElse_of_lookup hv, Option.bind_eq_bind,
      Option.bind_some, Option.bind_eq_some_iff] at hread
    obtain ⟨_, hsecret, _, halgorithm, _, hlifetime, _, haudience, _, hheaderName, _, hroleName,
      hread⟩ := hread
    cases hread
    first
      | exact hsecret
      | exact halgorithm
      | exact hlifetime
      | exact haudience
      | exact hheaderName
      | exact hroleName
  | instructionsLink =>
    have hv := (at?_singleton m _).symm.trans hv
    simp only [Format.config?, fields?_of_lookup hv, orElse_of_lookup hv, Option.bind_eq_bind,
      Option.bind_some, Option.bind_eq_some_iff] at hc
    obtain ⟨_, _, _, _, _, _, _, _, _, hlink, hc⟩ := hc
    cases hc
    exact hlink

def sections : List String := ["auth", "features", "activity", "guest_token"]

theorem Key.names_eq (k : Key) :
    (∃ name, k.names = [name]) ∨ ∃ s ∈ sections, ∃ name, k.names = [s, name] := by
  cases k <;> simp [names, sections]

/-- A key leads into a section only if it is the section's name, and then with a table. -/
def TablesOnly (layer : List (String × Setting)) : Prop :=
  ∀ e ∈ layer, ∀ s ∈ sections, (Step.ofKey e.1).head? = some (.name s) →
    Step.ofKey e.1 = [.name s] ∧ ∃ es, e.2 = .group es

/-- The file gives every section that it mentions as a table. -/
def GivesTables (file : Option String) : Prop :=
  ∀ layer, fileLayer? file = some layer → TablesOnly layer

theorem givesTables_none : GivesTables none := by
  intro layer hlayer
  obtain rfl : [] = layer := Option.some.inj hlayer
  intro e he
  cases he

theorem givesTables_section {file : Option String} {name : String} {es : List (String × Setting)}
    (hfile : fileLayer? file = some [(name, .group es)])
    (hkey : Step.ofKey name = [.name name]) : GivesTables file := by
  intro layer hlayer
  obtain rfl := Option.some.inj (hfile.symm.trans hlayer)
  intro e he s _ hhead
  obtain rfl := List.mem_singleton.mp he
  obtain rfl : name = s := by simpa [hkey] using hhead
  exact ⟨hkey, es, rfl⟩

/-- No two keys lead to the same place, nor one to a place below the other. -/
def KeysApart (layer : List (String × Setting)) : Prop :=
  layer.Pairwise fun a b =>
    ¬ Step.ofKey a.1 <+: Step.ofKey b.1 ∧ ¬ Step.ofKey b.1 <+: Step.ofKey a.1

/-- No key goes from a section to a place in a list. -/
def Placeless (layer : List (String × Setting)) : Prop :=
  ∀ e ∈ layer, ∀ s ∈ sections, ∀ n, ¬ [.name s, .place n] <+: Step.ofKey e.1

variable {layer : List (String × Setting)}

theorem clearAt_single (e : String × Setting) (name : String) :
    e.2.ClearAt (Step.ofKey e.1) [name] := by
  obtain ⟨own, steps, hkey⟩ := ofKey_eq e.1
  rw [hkey]
  intro _
  cases steps <;> trivial

/-- A layer that gives sections as tables never hides the settings below in them. -/
theorem TablesOnly.clearAt (h : TablesOnly layer) (k : Key) {e : String × Setting}
    (he : e ∈ layer) : e.2.ClearAt (Step.ofKey e.1) k.names := by
  rcases k.names_eq with ⟨name, hnames⟩ | ⟨s, hs, name, hnames⟩
  · rw [hnames]
    exact clearAt_single e name
  · obtain ⟨own, steps, hkey⟩ := ofKey_eq e.1
    rw [hnames, hkey]
    rintro rfl
    obtain ⟨hexact, es, hes⟩ := h e he own hs (by rw [hkey]; rfl)
    obtain rfl : steps = [] := by simpa [hkey] using hexact
    exact ⟨es, hes, fun _ _ _ => trivial⟩

/-- What is read field by field has parts. -/
theorem compound_of_read {α : Type} {names : List String}
    {read : List (String × Setting) → Option α} {a : α}
    (h : (Format.setting.fields? names w).bind read = some a) : w.Compound := by
  obtain ⟨given, hgiven, _⟩ := Option.bind_eq_some_iff.mp h
  cases w with
  | group es => trivial
  | list vs => trivial
  | _ => cases hgiven

theorem compound_section (hc : Format.setting.config? m = some c) {s : String} (hs : s ∈ sections)
    (hw : m.entries.lookup s = some w) : w.Compound := by
  simp only [Format.config?, fields?_of_lookup hw, Option.bind_eq_bind, Option.bind_some,
    Option.bind_eq_some_iff] at hc
  obtain ⟨_, hauth, _, hfeatures, _, hactivity, _, htoken, _⟩ := hc
  simp only [sections, List.mem_cons, List.not_mem_nil, or_false] at hs
  rcases hs with rfl | rfl | rfl | rfl
  · exact compound_of_read ((orElse_of_lookup hw).symm.trans hauth)
  · exact compound_of_read ((orElse_of_lookup hw).symm.trans hfeatures)
  · exact compound_of_read ((orElse_of_lookup hw).symm.trans hactivity)
  · exact compound_of_read ((orElse_of_lookup hw).symm.trans htoken)

/-- A variable that is a section, without parts, makes the whole unreadable: no other variable leads
into the section, so none mends it. -/
theorem section_not_given (hapart : KeysApart layer) (hscalar : ∀ e ∈ layer, ¬ e.2.Compound)
    (hc : Format.setting.config? (m.putLayer layer) = some c) {s : String} (hs : s ∈ sections)
    {e : String × Setting} (he : e ∈ layer) : Step.ofKey e.1 ≠ [.name s] := by
  intro hkey
  obtain ⟨before, after, rfl⟩ := List.append_of_mem he
  -- A variable further on that leads into the section would be one below this one.
  have hbehind : ∀ e' ∈ after, (Step.ofKey e'.1).head? ≠ some (.name s) := by
    intro e' he' hhead
    have hpair := (List.pairwise_cons.mp (List.pairwise_append.mp hapart).2.1).1 e' he'
    obtain ⟨more, hmore⟩ := List.head?_eq_some_iff.mp hhead
    exact hpair.1 ⟨more, by rw [hkey, hmore]; rfl⟩
  have hstands : (m.putLayer (before ++ e :: after)).at? [s] = some e.2 := by
    rw [putLayer_append, putLayer_cons, at?_putLayer_other hbehind, hkey, putAt, putAt, at?_set,
      if_pos rfl, laidOver_of_not_compound (hscalar e he)]
    rfl
  exact hscalar e he (compound_section hc hs ((at?_singleton _ s).symm.trans hstands))

/-- Neither does a layer whose keys are apart, if the whole can be read at all: a section that
turned into something else could not. -/
theorem clearAt_of_apart (hapart : KeysApart layer) (hplaceless : Placeless layer)
    (hscalar : ∀ e ∈ layer, ¬ e.2.Compound)
    (hc : Format.setting.config? (m.putLayer layer) = some c) (k : Key) {e : String × Setting}
    (he : e ∈ layer) : e.2.ClearAt (Step.ofKey e.1) k.names := by
  rcases k.names_eq with ⟨name, hnames⟩ | ⟨s, hs, name, hnames⟩
  · rw [hnames]
    exact clearAt_single e name
  · obtain ⟨own, steps, hkey⟩ := ofKey_eq e.1
    rw [hnames, hkey]
    rintro rfl
    match steps with
    | [] => exact absurd hkey (section_not_given hapart hscalar hc hs he)
    | .place n :: more => exact absurd ⟨more, hkey.symm⟩ (hplaceless e he own hs n)
    | .name next :: more =>
      intro _
      cases more <;> trivial

theorem not_compound_setting (s : String) : ¬ (Environment.setting s).Compound := by
  unfold Environment.setting
  dsimp only
  repeat' split
  all_goals exact id

theorem not_compound_layer {word : String} {vars : Environment.Variables} {e : String × Setting}
    (he : e ∈ Environment.layer word vars) : ¬ e.2.Compound := by
  obtain ⟨⟨name, s⟩, _, hkey⟩ := List.mem_filterMap.mp he
  obtain ⟨key, _, rfl⟩ := Option.map_eq_some_iff.mp hkey
  exact not_compound_setting s

theorem isSome_standard (k : Key) : ((Setting.ofConfig .standard).at? k.names).isSome := by
  cases k <;> rfl

namespace Sources
variable {s : Sources}

/-- What the highest layer gives that gives something where the names lead: the environment, the
file of the machine, that of the project, that of the user, and below them what is standard. -/
def highest? (s : Sources) (names : List String) : Option Setting := do
  let user ← fileLayer? s.user
  let project ← fileLayer? s.project
  let machine ← fileLayer? s.machine
  (layerGiven? (Environment.layer s.word s.vars) names).or <| (layerGiven? machine names).or <|
    (layerGiven? project names).or <| (layerGiven? user names).or <|
    (Setting.ofConfig .standard).at? names

/-- Files give every section as a table. Variables lead to different places, none below another, and
not from a section to a place in a list. -/
structure Regular (s : Sources) : Prop where
  user : GivesTables s.user
  project : GivesTables s.project
  machine : GivesTables s.machine
  apart : KeysApart (Environment.layer s.word s.vars)
  placeless : Placeless (Environment.layer s.word s.vars)

theorem load_of_toOption (h : s.load.toOption = some c) : s.load = .ok c := by
  cases hload : s.load with
  | error e =>
    rw [hload] at h
    cases h
  | ok c' =>
    rw [hload] at h
    exact congrArg Except.ok (Option.some.inj h)

theorem merged_of_load (h : s.load = .ok c) :
    ∃ m, s.merged? = some m ∧ Format.setting.config? m = some c ∧ c.fault? = none := by
  unfold load at h
  split at h
  · cases h
  · rename_i m hm
    split at h
    · cases h
    · rename_i c' hc
      split at h
      · cases h
      · rename_i hfault
        cases h
        exact ⟨m, hm, hc, hfault⟩

theorem layers_of_merged {m : Setting} (h : s.merged? = some m) :
    ∃ user project machine, fileLayer? s.user = some user ∧ fileLayer? s.project = some project ∧
      fileLayer? s.machine = some machine ∧
      m = ((((Setting.ofConfig .standard).putLayer user).putLayer project).putLayer
        machine).putLayer (Environment.layer s.word s.vars) ∧
      ∀ names, s.highest? names =
        (layerGiven? (Environment.layer s.word s.vars) names).or ((layerGiven? machine names).or
          ((layerGiven? project names).or ((layerGiven? user names).or
            ((Setting.ofConfig .standard).at? names)))) := by
  simp only [merged?, layers?, Option.bind_eq_bind, Option.bind_eq_some_iff,
    Option.some.injEq] at h
  obtain ⟨_, ⟨user, huser, project, hproject, machine, hmachine, rfl⟩, rfl⟩ := h
  refine ⟨user, project, machine, huser, hproject, hmachine, rfl, fun names => ?_⟩
  simp only [highest?, huser, hproject, hmachine, Option.bind_eq_bind, Option.bind_some]

/-- The standard settings lack none. -/
theorem isSome_highest? {m : Setting} (h : s.merged? = some m) (k : Key) :
    (s.highest? k.names).isSome := by
  obtain ⟨_, _, _, _, _, _, _, hhighest⟩ := layers_of_merged h
  simp [hhighest, isSome_standard k]

/-- Everything that was merged shows, for every setting, what the highest layer gives. -/
theorem Regular.shows (h : s.Regular) {m : Setting} (hm : s.merged? = some m)
    (hc : Format.setting.config? m = some c) (k : Key) : m.Shows k.names (s.highest? k.names) := by
  obtain ⟨user, project, machine, huser, hproject, hmachine, rfl, hhighest⟩ := layers_of_merged hm
  rw [hhighest]
  refine shows_putLayer (fun e => clearAt_of_apart h.apart h.placeless
    (fun e => not_compound_layer) hc k) ?_
  refine shows_putLayer (fun e => (h.machine machine hmachine).clearAt k) ?_
  refine shows_putLayer (fun e => (h.project project hproject).clearAt k) ?_
  refine shows_putLayer (fun e => (h.user user huser).clearAt k) ?_
  exact .inl rfl

/-- Valid settings make a manager. -/
theorem exists_manager (h : c.validate = .ok ()) (complaint : String → String) (store : Store)
    (now : Instant) : ∃ m, Manager.ofConfig complaint store c now = .ok m := by
  obtain ⟨signing, htokens⟩ := tokenConfig_of_valid h
  rw [Manager.ofConfig, h, htokens]
  exact ⟨_, rfl⟩

/-- When all sources can be read, every setting is what is read from the highest layer that gives
it, and nothing else that a layer gives matters to it. The settings are valid and make a manager. If
they cannot be had, the standard ones take their place. -/
theorem load_reads_highest (s : Sources) (h : s.Regular) :
    (∀ c, s.load = .ok c →
      (∀ k : Key, ∃ v, s.highest? k.names = some v ∧ k.IsRead c v) ∧
      c.validate = .ok () ∧
      (∀ complaint store now, ∃ m, Manager.ofConfig complaint store c now = .ok m) ∧
      s.loadOrStandard = c) ∧
    ∀ e, s.load = .error e → s.loadOrStandard = .standard := by
  refine ⟨fun c hload => ?_, fun e hload => by rw [loadOrStandard, hload]⟩
  obtain ⟨m, hm, hc, hfault⟩ := merged_of_load hload
  have hvalid : c.validate = .ok () := by rw [validate, hfault]
  refine ⟨fun k => ?_, hvalid, exists_manager hvalid, by rw [loadOrStandard, hload]⟩
  -- A setting with parts has no reading, so it cannot stand where a setting was read.
  rcases h.shows hm hc k with hfound | ⟨v, hfound, hcompound⟩
  · obtain ⟨v, hv⟩ := Option.isSome_iff_exists.mp (isSome_highest? hm k)
    exact ⟨v, hv, isRead_of_config? hc (hfound.trans hv)⟩
  · exact absurd hcompound (isRead_of_config? hc hfound).not_compound

/-- The secret of the project lies over that of the user, and the lifetime that a variable gives
over that of the project. All else stays standard. -/
theorem layered_settings_loaded :
    let s : Sources := ⟨some "[guest_token]\nsecret = \"user\"\n",
      some "[guest_token]\nsecret = \"project\"\nexp_seconds = 900\n", none, "PALISADE",
      [("PALISADE_GUEST_TOKEN__EXP_SECONDS", "600")]⟩
    let c := { Config.standard with
      guestToken := { GuestToken.standard with secret := "project", lifetime := 600 } }
    s.Regular ∧ s.load = .ok c ∧
      (∀ k : Key, ∃ v, s.highest? k.names = some v ∧ k.IsRead c v) ∧ s.loadOrStandard = c := by
  intro s c
  have huser : fileLayer? s.user = some [("guest_token", .group [("secret", .text "user")])] := by
    cbv
  have hproject : fileLayer? s.project = some [("guest_token",
      .group [("secret", .text "project"), ("exp_seconds", .integer 900)])] := by cbv
  have henv : Environment.layer s.word s.vars = [("guest_token.exp_seconds", .integer 600)] := by
    have hkey : Environment.key? "PALISADE" "PALISADE_GUEST_TOKEN__EXP_SECONDS" =
        some "guest_token.exp_seconds" := by decide +kernel
    have hvalue : Environment.setting "600" = .integer 600 := by
      have hlower : Text.lowercase "600" = "600" := by decide +kernel
      rw [Environment.setting, hlower]
      rfl
    simp [s, Environment.layer, hkey, hvalue]
  have hregular : s.Regular := by
    have hsection : Step.ofKey "guest_token" = [.name "guest_token"] := by decide +kernel
    have hkey : Step.ofKey "guest_token.exp_seconds" =
        [.name "guest_token", .name "exp_seconds"] := by decide +kernel
    refine ⟨givesTables_section huser hsection, givesTables_section hproject hsection,
      givesTables_none, ?_, ?_⟩
    · rw [henv]
      exact List.pairwise_singleton _ _
    · rw [henv]
      intro e he t _ n
      obtain rfl := List.mem_singleton.mp he
      simp [hkey]
  have hload : s.load = .ok c := load_of_toOption (by decide +kernel)
  obtain ⟨hread, _, _, hloaded⟩ := (load_reads_highest s hregular).1 c hload
  exact ⟨hregular, hload, hread, hloaded⟩

/-- A variable that gives a section by place takes all of its settings away, those too that no
variable gives. -/
theorem section_taken_by_place :
    let s : Sources := ⟨none, some "[auth]\nadmin_role = \"Root\"\n", none, "PALISADE",
      [("PALISADE_AUTH[0]", "Viewer")]⟩
    let c := { Config.standard with auth := ⟨some "Viewer", none, "Admin"⟩ }
    (GivesTables s.user ∧ GivesTables s.project ∧ GivesTables s.machine) ∧
    KeysApart (Environment.layer s.word s.vars) ∧ s.load = .ok c ∧
      (s.highest? Key.adminRole.names = some (.text "Root") ∧
        ¬ Key.adminRole.IsRead c (.text "Root")) ∧
      s.highest? Key.publicRole.names = some (.text "Public") ∧
      ¬ Key.publicRole.IsRead c (.text "Public") := by
  intro s c
  have hproject : fileLayer? s.project =
      some [("auth", .group [("admin_role", .text "Root")])] := by cbv
  have henv : Environment.layer s.word s.vars = [("auth[0]", .text "Viewer")] := by
    have hkey : Environment.key? "PALISADE" "PALISADE_AUTH[0]" = some "auth[0]" := by
      decide +kernel
    have hvalue : Environment.setting "Viewer" = .text "Viewer" := by
      have hlower : Text.lowercase "Viewer" = "viewer" := by decide +kernel
      rw [Environment.setting, hlower]
      cbv
    simp [s, Environment.layer, hkey, hvalue]
  have hvariable : ∀ names, layerGiven? [("auth[0]", .text "Viewer")] ("auth" :: names) = none := by
    have hkey : Step.ofKey "auth[0]" = [.name "auth", .place 0] := by decide +kernel
    intro names
    simp only [layerGiven?, List.reverse_singleton, List.findSome?_singleton, hkey, givenAt?]
    cases names <;> rfl
  have hhighest : ∀ names, s.highest? ("auth" :: names) =
      (layerGiven? [("auth", .group [("admin_role", .text "Root")])] ("auth" :: names)).or
        ((Setting.ofConfig .standard).at? ("auth" :: names)) := by
    intro names
    rw [highest?, hproject, henv, hvariable]
    rfl
  have hauth : Step.ofKey "auth" = [.name "auth"] := by decide +kernel
  have hfile : ∀ names, layerGiven? [("auth", .group [("admin_role", .text "Root")])]
      ("auth" :: names) = (Setting.group [("admin_role", .text "Root")]).given? names := by
    intro names
    simp only [layerGiven?, List.reverse_singleton, List.findSome?_singleton, hauth]
    rfl
  refine ⟨?_, ?_, load_of_toOption (by decide +kernel), ⟨?_, ?_⟩, ?_, ?_⟩
  · exact ⟨givesTables_none, givesTables_section hproject hauth, givesTables_none⟩
  · rw [henv]
    exact List.pairwise_singleton _ _
  · rw [Key.names, hhighest, hfile]
    rfl
  · decide
  · rw [Key.names, hhighest, hfile]
    rfl
  · decide

end Sources
end Config
end Turnstile
