import Turnstile.Proofs.JsonText
import Turnstile.Token.Claims

namespace Turnstile.Json

theorem itemsFit_map {α : Type} {f : α → Value} {xs : List α} (h : ∀ x ∈ xs, (f x).Fits) :
    ItemsFit (xs.map f) := by
  induction xs with
  | nil => exact trivial
  | cons x xs ih =>
    exact ⟨h x List.mem_cons_self, ih fun y hy => h y (List.mem_cons_of_mem _ hy)⟩

theorem ofMembers_fits {ms : List (String × Value)} (h : ∀ m ∈ ms, m.2.Fits) :
    (Value.ofMembers ms).Fits := by
  show MembersFit (ms.map fun m => (some m.1, m.2))
  induction ms with
  | nil => exact trivial
  | cons m ms ih =>
    exact ⟨rfl, h m List.mem_cons_self, ih fun y hy => h y (List.mem_cons_of_mem _ hy)⟩

/-- Every item of `xs` has a value, and the values are `ys`. -/
theorem mapM_eq_some_iff {α β : Type} {p : α → Option β} {xs : List α} {ys : List β} :
    xs.mapM p = some ys ↔ xs.map p = ys.map some := by
  induction xs generalizing ys with
  | nil => cases ys <;> simp
  | cons x xs ih =>
    rw [List.mapM_cons, List.map_cons]
    constructor
    · intro h
      obtain ⟨y, hy, h⟩ := Option.bind_eq_some_iff.mp h
      obtain ⟨zs, hzs, h⟩ := Option.bind_eq_some_iff.mp h
      cases h
      rw [hy, ih.mp hzs, List.map_cons]
    · intro h
      obtain ⟨y, zs, rfl, hy, hzs⟩ := List.map_eq_cons_iff.mp h.symm
      rw [← hy, ih.mpr hzs.symm]
      rfl

/-- A list whose items come back comes back. -/
theorem mapM_map_some {α β : Type} {f : α → β} {g : β → Option α} {xs : List α}
    (h : ∀ x ∈ xs, g (f x) = some x) : (xs.map f).mapM g = some xs := by
  rw [mapM_eq_some_iff, List.map_map]
  exact List.map_congr_left h

theorem mem_readableMembers {ms : List (Option String × Value)} {rs : List (String × Value)}
    (h : readableMembers ms = some rs) {name : String} {w : Value} :
    (name, w) ∈ rs ↔ (some name, w) ∈ ms := by
  have hmem : (name, w) ∈ rs ↔ some (name, w) ∈ rs.map some := by simp
  rw [hmem, ← mapM_eq_some_iff.mp h, List.mem_map]
  constructor
  · rintro ⟨⟨called, v⟩, hm, hread⟩
    obtain ⟨called, rfl, hsame⟩ := Option.map_eq_some_iff.mp hread
    cases hsame
    exact hm
  · exact fun hm => ⟨_, hm, rfl⟩

/-- Members in the order of the fields, none twice, are the record that is read. -/
theorem record?_ofMembers {names : List String} {ms : List (String × Value)}
    (hnames : names.Nodup) (h : (ms.map (·.1)).Sublist names) :
    (Value.ofMembers ms).record? names = some ⟨false, ms⟩ := by
  have hread : readableMembers (ms.map fun m => (some m.1, m.2)) = some ms :=
    mapM_map_some fun _ _ => rfl
  have hknown : ms.filter (fun m => names.contains m.1) = ms := by
    refine List.filter_eq_self.mpr fun m hm => ?_
    exact List.contains_iff_mem.mpr (h.subset (List.mem_map_of_mem hm))
  simp only [Value.ofMembers, Value.record?, hread, Option.bind_eq_bind, Option.bind_some, hknown,
    hnames.sublist h, ↓reduceIte]

/-- What a record states for a field; null states nothing. -/
def Record.stated? (r : Record) (name : String) : Option Value :=
  match r.get? name with
  | some .null => none
  | given => given

/-- What a value states for the field `name` of those called `names`. -/
def Value.stated? (names : List String) (name : String) (v : Value) : Option Value :=
  (v.record? names).bind (·.stated? name)

theorem Record.stated?_eq_some_iff {r : Record} {name : String} {w : Value} :
    r.stated? name = some w ↔ r.get? name = some w ∧ w ≠ .null := by
  unfold stated?
  split
  · rename_i hnull
    rw [hnull]
    constructor
    · nofun
    · rintro ⟨hw, hne⟩
      exact absurd (Option.some.inj hw).symm hne
  · rename_i hne
    constructor
    · intro hw
      exact ⟨hw, fun hnull => hne (hnull ▸ hw)⟩
    · exact And.left

/-- A field that may be left out is read through what is stated for it. -/
theorem Record.omissible_eq_some_iff {α : Type} [FromJson α] {r : Record} {name : String}
    {o : Option α} : r.omissible name = some o ↔ (r.stated? name).map ofJson? = o.map some := by
  unfold omissible stated?
  cases r.get? name with
  | none => cases o <;> simp
  | some w => cases w <;> cases o <;> simp [nullable]

/-- What is written of `a` is a value that is not null and is read as `a`. -/
structure Returns {α : Type} [ToJson α] [FromJson α] (a : α) : Prop where
  fits : (toJson a).Fits
  notNull : toJson a ≠ .null
  read : ofJson? (toJson a) = some a

theorem Returns.nullable {α : Type} [ToJson α] [FromJson α] {a : α} (h : Returns a) :
    Record.nullable (toJson a) = some (some a) := by
  have hnull := h.notNull
  unfold Record.nullable
  split
  · contradiction
  · rw [h.read, Option.map_some]

/-- What may be null is written as null if it is missing, which nothing present is written as. -/
theorem nullable_option {α : Type} [ToJson α] [FromJson α] {o : Option α}
    (h : ∀ a ∈ o, Returns a) : Record.nullable (toJson o) = some o := by
  cases o with
  | none => rfl
  | some a => exact (h a rfl).nullable

theorem option_fits {α : Type} [ToJson α] [FromJson α] {o : Option α}
    (h : ∀ a ∈ o, Returns a) : (toJson o).Fits := by
  cases o with
  | none => exact trivial
  | some a => exact (h a rfl).fits

theorem memberIfSome_fits {α : Type} [ToJson α] [FromJson α] {name : String} {o : Option α}
    (h : ∀ a ∈ o, Returns a) : ∀ m ∈ memberIfSome name o, m.2.Fits := by
  cases o with
  | none => exact fun _ hm => absurd hm List.not_mem_nil
  | some a => exact fun m hm => List.mem_singleton.mp hm ▸ (h a rfl).fits

theorem Returns.string (s : String) : Returns s := ⟨rfl, Value.noConfusion, rfl⟩

theorem Returns.list {α : Type} [ToJson α] [FromJson α] {xs : List α} (h : ∀ x ∈ xs, Returns x) :
    Returns xs := by
  refine ⟨itemsFit_map fun x hx => (h x hx).fits, Value.noConfusion, ?_⟩
  exact mapM_map_some fun x hx => (h x hx).read

end Turnstile.Json

namespace Turnstile
open Json

/-- The reference can be written as a number of 64 bits, or is a text. -/
def GuestRef.Fits : GuestRef → Prop
  | number n => n ≤ Decimal.wordMax
  | text _ => True

instance (ref : GuestRef) : Decidable ref.Fits :=
  match ref with
  | .number n => inferInstanceAs (Decidable (n ≤ Decimal.wordMax))
  | .text _ => isTrue trivial

structure Claims.Fits (c : Claims) : Prop where
  grants : ∀ gs ∈ c.grants, ∀ g ∈ gs, g.id.Fits
  rules : ∀ rs ∈ c.rules, ∀ r ∈ rs, ∀ ref ∈ r.dataset, ref.Fits
  issued : c.issued.seconds ≤ Decimal.wordMax
  expires : c.expires.seconds ≤ Decimal.wordMax

/-- What is written of a reference is the only value that is read as it. -/
theorem GuestRef.read_iff {v : Value} {ref : GuestRef} :
    Json.ofJson? v = some ref ↔ v = toJson ref := by
  constructor
  · intro h
    change GuestRef.ofJson? v = some ref at h
    unfold GuestRef.ofJson? at h
    split at h <;> cases h <;> rfl
  · rintro rfl
    cases ref <;> rfl

namespace GuestGrant

def fieldNames : List String := ["type", "id"]

theorem read_iff {v : Value} {g : GuestGrant} : ofJson? v = some g ↔
    ∃ r, v.record? fieldNames = some r ∧
      r.required "type" = some g.type ∧ r.required "id" = some g.id := by
  constructor
  · intro h
    obtain ⟨r, hr, h⟩ := Option.bind_eq_some_iff.mp h
    obtain ⟨type, htype, h⟩ := Option.bind_eq_some_iff.mp h
    obtain ⟨id, hid, h⟩ := Option.bind_eq_some_iff.mp h
    cases h
    exact ⟨r, hr, htype, hid⟩
  · rintro ⟨r, hr, htype, hid⟩
    have hr : v.record? ["type", "id"] = some r := hr
    simp only [ofJson?, hr, htype, hid, Option.bind_eq_bind, Option.bind_some]

end GuestGrant

namespace GuestRule

def fieldNames : List String := ["dataset", "clause"]

theorem read_iff {v : Value} {rule : GuestRule} : ofJson? v = some rule ↔
    ∃ r, v.record? fieldNames = some r ∧
      r.omissible "dataset" = some rule.dataset ∧ r.required "clause" = some rule.clause := by
  constructor
  · intro h
    obtain ⟨r, hr, h⟩ := Option.bind_eq_some_iff.mp h
    obtain ⟨dataset, hdataset, h⟩ := Option.bind_eq_some_iff.mp h
    obtain ⟨clause, hclause, h⟩ := Option.bind_eq_some_iff.mp h
    cases h
    exact ⟨r, hr, hdataset, hclause⟩
  · rintro ⟨r, hr, hdataset, hclause⟩
    have hr : v.record? ["dataset", "clause"] = some r := hr
    simp only [ofJson?, hr, hdataset, hclause, Option.bind_eq_bind, Option.bind_some]

end GuestRule

namespace Claims

def fieldNames : List String := ["user", "resources", "rls_rules", "iat", "exp", "aud", "type"]

/-- Each claim is what the record gives for its field. -/
structure GivenBy (c : Claims) (r : Record) : Prop where
  profile : r.omissible "user" = some c.profile
  grants : r.omissible "resources" = some c.grants
  rules : r.omissible "rls_rules" = some c.rules
  issued : r.required "iat" = some c.issued
  expires : r.required "exp" = some c.expires
  audience : r.required "aud" = some c.audience
  type : r.omissible "type" = some c.type

theorem read_iff {v : Value} {c : Claims} :
    ofJson? v = some c ↔ ∃ r, v.record? fieldNames = some r ∧ c.GivenBy r := by
  constructor
  · intro h
    obtain ⟨r, hr, h⟩ := Option.bind_eq_some_iff.mp h
    obtain ⟨profile, hprofile, h⟩ := Option.bind_eq_some_iff.mp h
    obtain ⟨grants, hgrants, h⟩ := Option.bind_eq_some_iff.mp h
    obtain ⟨rules, hrules, h⟩ := Option.bind_eq_some_iff.mp h
    obtain ⟨issued, hissued, h⟩ := Option.bind_eq_some_iff.mp h
    obtain ⟨expires, hexpires, h⟩ := Option.bind_eq_some_iff.mp h
    obtain ⟨audience, haudience, h⟩ := Option.bind_eq_some_iff.mp h
    obtain ⟨type, htype, h⟩ := Option.bind_eq_some_iff.mp h
    cases h
    exact ⟨r, hr, hprofile, hgrants, hrules, hissued, hexpires, haudience, htype⟩
  · rintro ⟨r, hr, h⟩
    have hr : v.record? ["user", "resources", "rls_rules", "iat", "exp", "aud", "type"] = some r :=
      hr
    simp only [ofJson?, hr, h.profile, h.grants, h.rules, h.issued, h.expires, h.audience, h.type,
      Option.bind_eq_bind, Option.bind_some]

end Claims

theorem Instant.returns {t : Instant} (h : t.seconds ≤ Decimal.wordMax) : Returns t :=
  ⟨h, Value.noConfusion, rfl⟩

/-- A number is written as a number and a text as a text, so the two are never confused. -/
theorem GuestRef.returns {ref : GuestRef} (h : ref.Fits) : Returns ref := by
  cases ref with
  | number n => exact ⟨h, Value.noConfusion, rfl⟩
  | text s => exact ⟨rfl, Value.noConfusion, rfl⟩

theorem GrantType.returns (t : GrantType) : Returns t := by
  cases t with
  | dashboard => exact ⟨rfl, Value.noConfusion, by decide⟩
  | unknown => exact ⟨rfl, Value.noConfusion, by decide⟩

theorem GuestProfile.returns (p : GuestProfile) : Returns p := by
  have hfits : (toJson p).Fits := by
    refine ofMembers_fits fun m hm => ?_
    rw [List.mem_append, List.mem_append] at hm
    rcases hm with (hm | hm) | hm
    all_goals exact memberIfSome_fits (fun s _ => Returns.string s) m hm
  refine ⟨hfits, Value.noConfusion, ?_⟩
  rcases p with ⟨_ | u, _ | f, _ | l⟩ <;> rfl

theorem GuestGrant.returns {g : GuestGrant} (h : g.id.Fits) : Returns g := by
  have hid := GuestRef.returns h
  have htype := GrantType.returns g.type
  refine ⟨⟨rfl, htype.fits, rfl, hid.fits, trivial⟩, Value.noConfusion, ?_⟩
  let r : Record := ⟨false, [("type", toJson g.type), ("id", toJson g.id)]⟩
  have hrecord : (toJson g).record? fieldNames = some r :=
    record?_ofMembers (by decide) (List.Sublist.refl _)
  exact read_iff.mpr ⟨r, hrecord, htype.read, hid.read⟩

theorem GuestRule.returns {r : GuestRule} (h : ∀ ref ∈ r.dataset, ref.Fits) : Returns r := by
  obtain ⟨dataset, clause⟩ := r
  cases dataset with
  | none => exact ⟨⟨rfl, rfl, trivial⟩, Value.noConfusion, rfl⟩
  | some ref =>
    have href := GuestRef.returns (h ref rfl)
    refine ⟨⟨rfl, href.fits, rfl, rfl, trivial⟩, Value.noConfusion, ?_⟩
    let r : Record := ⟨false, [("dataset", toJson ref), ("clause", toJson clause)]⟩
    have hrecord : (toJson (⟨some ref, clause⟩ : GuestRule)).record? fieldNames = some r :=
      record?_ofMembers (by decide) (List.Sublist.refl _)
    exact read_iff.mpr ⟨r, hrecord, href.nullable, rfl⟩

/-- Claims are read as they were written. -/
theorem Claims.returns {c : Claims} (h : c.Fits) : Returns c := by
  have hprofile : ∀ p ∈ c.profile, Returns p := fun p _ => p.returns
  have hgrants : ∀ gs ∈ c.grants, Returns gs := fun gs hgs =>
    Returns.list fun g hg => GuestGrant.returns (h.grants gs hgs g hg)
  have hrules : ∀ rs ∈ c.rules, Returns rs := fun rs hrs =>
    Returns.list fun r hr => GuestRule.returns (h.rules rs hrs r hr)
  have hissued := Instant.returns h.issued
  have hexpires := Instant.returns h.expires
  have haudience := Returns.string c.audience
  have htype : ∀ t ∈ c.type, Returns t := fun t _ => Returns.string t
  refine ⟨⟨rfl, option_fits hprofile, rfl, option_fits hgrants, rfl, option_fits hrules, rfl,
    hissued.fits, rfl, hexpires.fits, rfl, haudience.fits, rfl, option_fits htype, trivial⟩,
    Value.noConfusion, ?_⟩
  let r : Record := ⟨false, [("user", toJson c.profile), ("resources", toJson c.grants),
    ("rls_rules", toJson c.rules), ("iat", toJson c.issued), ("exp", toJson c.expires),
    ("aud", toJson c.audience), ("type", toJson c.type)]⟩
  have hrecord : (toJson c).record? fieldNames = some r :=
    record?_ofMembers (by decide) (List.Sublist.refl _)
  exact read_iff.mpr ⟨r, hrecord, {
    profile := nullable_option hprofile
    grants := nullable_option hgrants
    rules := nullable_option hrules
    issued := hissued.read
    expires := hexpires.read
    audience := haudience.read
    type := nullable_option htype }⟩

end Turnstile
