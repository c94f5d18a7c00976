import Turnstile.Proofs.JsonNumbers
import Turnstile.Proofs.WrittenClaims

namespace Turnstile.Json

/-- Lists agree item by item if they do wherever a value is found. -/
theorem map_eq_map_of_found {α β γ : Type} {p : α → Option β} {f : α → γ} {g : β → γ}
    {xs : List α} {ys : List β} (h : xs.map p = ys.map some)
    (hfound : ∀ x y, p x = some y → f x = g y) : xs.map f = ys.map g := by
  induction xs generalizing ys with
  | nil =>
    rw [List.map_eq_nil_iff.mp h.symm]
    rfl
  | cons x xs ih =>
    obtain ⟨y, ys, rfl, hy, hys⟩ := List.map_eq_cons_iff.mp h.symm
    rw [List.map_cons, List.map_cons, hfound x y hy.symm, ih hys.symm]

variable {α : Type} [FromJson α] {names : List String} {name : String} {r : Record} {v w : Value}

theorem read_list_iff {xs : List α} :
    ofJson? v = some xs ↔ ∃ items, v = .array items ∧ items.map ofJson? = xs.map some := by
  constructor
  · intro h
    obtain ⟨items, hitems, h⟩ := Option.bind_eq_some_iff.mp h
    cases v with
    | array =>
      cases hitems
      exact ⟨items, rfl, mapM_eq_some_iff.mp h⟩
    | _ => cases hitems
  · rintro ⟨items, rfl, h⟩
    exact mapM_eq_some_iff.mpr h

/-- What `f` finds in the items of a list is what `g` finds in the entries that are read of them, if
it is so for each. -/
theorem items_stated {list : String} {o : Option (List α)} (h : r.omissible list = some o)
    {f : Value → Option Value} {g : α → Option Value}
    (hitem : ∀ item a, ofJson? item = some a → f item = g a) :
    ((r.stated? list).bind Value.items?).map (·.map f) = o.map (·.map g) := by
  have hstated := Record.omissible_eq_some_iff.mp h
  cases o with
  | none =>
    rw [Option.map_none, Option.map_eq_none_iff] at hstated
    rw [hstated]
    rfl
  | some xs =>
    obtain ⟨w, hw, hread⟩ := Option.map_eq_some_iff.mp hstated
    obtain ⟨items, rfl, hitems⟩ := read_list_iff.mp hread
    rw [hw]
    exact congrArg some (map_eq_map_of_found hitems hitem)

/-- Whatever is read of a bounded value has the property. -/
def Ensures (P : α → Prop) : Prop := ∀ v a, Value.Bounded v → ofJson? v = some a → P a

theorem get?_bounded (hv : v.Bounded) (hr : v.record? names = some r)
    (hw : r.get? name = some w) : w.Bounded := by
  obtain ⟨before, after, hgiven, _⟩ := List.lookup_eq_some_iff.mp hw
  have hmem : (name, w) ∈ r.given := by simp [hgiven]
  unfold Value.record? at hr
  split at hr
  · obtain ⟨rs, hrs, hr⟩ := Option.bind_eq_some_iff.mp hr
    dsimp only at hr
    split at hr
    · cases hr
      cases hv with
      | object hms => exact hms _ ((mem_readableMembers hrs).mp (List.mem_filter.mp hmem).1)
    · cases hr
  · split at hr
    · cases hr
      cases hv with
      | array hitems => exact hitems w (List.of_mem_zip hmem).2
    · cases hr
  · cases hr

namespace Ensures
variable {P : α → Prop}

theorem required (h : Ensures P) (hv : v.Bounded) (hr : v.record? names = some r) {a : α}
    (hread : r.required name = some a) : P a := by
  obtain ⟨w, hget, hw⟩ := Option.bind_eq_some_iff.mp hread
  exact h w a (get?_bounded hv hr hget) hw

theorem omissible (h : Ensures P) (hv : v.Bounded) (hr : v.record? names = some r) {o : Option α}
    (hread : r.omissible name = some o) : ∀ a ∈ o, P a := by
  rintro a rfl
  obtain ⟨w, hstated, hw⟩ := Option.map_eq_some_iff.mp (Record.omissible_eq_some_iff.mp hread)
  exact h w a (get?_bounded hv hr (Record.stated?_eq_some_iff.mp hstated).1) hw

theorem list (h : Ensures P) : Ensures fun xs : List α => ∀ x ∈ xs, P x := by
  intro v xs hv hread x hx
  obtain ⟨items, rfl, hitems⟩ := read_list_iff.mp hread
  have hmem : some x ∈ items.map ofJson? := hitems ▸ List.mem_map_of_mem hx
  obtain ⟨item, hitem, hx⟩ := List.mem_map.mp hmem
  cases hv with
  | array hbounded => exact h item x (hbounded item hitem) hx

end Ensures
end Turnstile.Json

namespace Turnstile
open Json

theorem GuestRef.toJson_ne_null (ref : GuestRef) : toJson ref ≠ .null := by
  cases ref <;> exact Value.noConfusion

theorem GuestRef.ensures_fits : Ensures GuestRef.Fits := by
  intro v ref hv h
  cases GuestRef.read_iff.mp h
  cases ref with
  | number n =>
    cases hv with
    | number hbounded => exact hbounded n rfl
  | text s => trivial

theorem GuestGrant.ensures_fits : Ensures fun g : GuestGrant => g.id.Fits := by
  intro v g hv h
  obtain ⟨r, hr, _, hid⟩ := read_iff.mp h
  exact GuestRef.ensures_fits.required hv hr hid

theorem GuestRule.ensures_fits :
    Ensures fun rule : GuestRule => ∀ ref ∈ rule.dataset, ref.Fits := by
  intro v rule hv h
  obtain ⟨r, hr, hdataset, _⟩ := read_iff.mp h
  exact GuestRef.ensures_fits.omissible hv hr hdataset

/-- A grant's reference is the value that stands for it. -/
theorem GuestGrant.stated_id {v : Value} {g : GuestGrant} (h : ofJson? v = some g) :
    v.stated? fieldNames "id" = some (toJson g.id) := by
  obtain ⟨r, hr, _, hid⟩ := read_iff.mp h
  obtain ⟨w, hget, hread⟩ := Option.bind_eq_some_iff.mp hid
  cases GuestRef.read_iff.mp hread
  rw [Value.stated?, hr, Option.bind_some]
  exact Record.stated?_eq_some_iff.mpr ⟨hget, g.id.toJson_ne_null⟩

theorem GuestRule.stated_dataset {v : Value} {rule : GuestRule} (h : ofJson? v = some rule) :
    v.stated? fieldNames "dataset" = rule.dataset.map toJson := by
  obtain ⟨r, hr, hdataset, _⟩ := read_iff.mp h
  have hstated := Record.omissible_eq_some_iff.mp hdataset
  rw [Value.stated?, hr, Option.bind_some]
  cases hrule : rule.dataset with
  | none =>
    rw [hrule] at hstated
    exact Option.map_eq_none_iff.mp hstated
  | some ref =>
    rw [hrule] at hstated
    obtain ⟨w, hw, hread⟩ := Option.map_eq_some_iff.mp hstated
    rw [hw, GuestRef.read_iff.mp hread]
    rfl

theorem Instant.ensures_fits : Ensures fun t : Instant => t.seconds ≤ Decimal.wordMax := by
  intro v t hv h
  obtain ⟨n, hn, rfl⟩ := Option.map_eq_some_iff.mp h
  unfold Value.natural? at hn
  split at hn
  · cases hn
    cases hv with
    | number hbounded => exact hbounded n rfl
  · cases hn

namespace Claims

/-- Every number that is read into claims has 64 bits, so the claims can be written again. -/
theorem ensures_fits : Ensures Claims.Fits := by
  intro v c hv h
  obtain ⟨r, hr, hgiven⟩ := read_iff.mp h
  exact {
    grants := GuestGrant.ensures_fits.list.omissible hv hr hgiven.grants
    rules := GuestRule.ensures_fits.list.omissible hv hr hgiven.rules
    issued := Instant.ensures_fits.required hv hr hgiven.issued
    expires := Instant.ensures_fits.required hv hr hgiven.expires }

def ofText? (s : String) : Option Claims := (parse s).bind ofJson?

variable {s : String} {c : Claims}

theorem fits_of_text (h : ofText? s = some c) : c.Fits := by
  obtain ⟨v, hv, hc⟩ := Option.bind_eq_some_iff.mp h
  exact ensures_fits v c (parse_bounded hv) hc

theorem ofText?_render (h : c.Fits) : ofText? (toJson c).render = some c := by
  have hc := Claims.returns h
  rw [ofText?, parse_render hc.fits, Option.bind_some, hc.read]

/-- What the entries of a list among the claims in `v` state for the field `name` of theirs. -/
def entries? (list : String) (names : List String) (name : String) (v : Value) :
    Option (List (Option Value)) :=
  ((v.stated? fieldNames list).bind Value.items?).map (·.map (·.stated? names name))

/-- The references of the grants as they stand in a text, a number as a number and a text as a
text. -/
def statedIds? (s : String) : Option (List (Option Value)) :=
  (parse s).bind (entries? "resources" GuestGrant.fieldNames "id")

/-- The scopes of the rules as they stand in a text. -/
def statedScopes? (s : String) : Option (List (Option Value)) :=
  (parse s).bind (entries? "rls_rules" GuestRule.fieldNames "dataset")

/-- References stand in a text as they are written from the claims read of it. -/
theorem statedIds?_of_text (h : ofText? s = some c) :
    statedIds? s = c.grants.map (·.map fun g => some (toJson g.id)) := by
  obtain ⟨v, hv, hc⟩ := Option.bind_eq_some_iff.mp h
  obtain ⟨r, hr, hgiven⟩ := read_iff.mp hc
  rw [statedIds?, hv, Option.bind_some, entries?, Value.stated?, hr]
  exact items_stated hgiven.grants fun _ _ => GuestGrant.stated_id

theorem statedScopes?_of_text (h : ofText? s = some c) :
    statedScopes? s = c.rules.map (·.map fun rule => rule.dataset.map toJson) := by
  obtain ⟨v, hv, hc⟩ := Option.bind_eq_some_iff.mp h
  obtain ⟨r, hr, hgiven⟩ := read_iff.mp hc
  rw [statedScopes?, hv, Option.bind_some, entries?, Value.stated?, hr]
  exact items_stated hgiven.rules fun _ _ => GuestRule.stated_dataset

/-- Claims are read from the text that is written of them. So what is read of any text is read again
from what is written of it, and the references of its grants and the scopes of its rules stand there
as the numbers and the texts that they were. -/
theorem claims_survive_text :
    (∀ c : Claims, c.Fits → ofText? (toJson c).render = some c) ∧
    ∀ (s : String) (c : Claims), ofText? s = some c →
      ofText? (toJson c).render = some c ∧
      statedIds? (toJson c).render = statedIds? s ∧
      statedScopes? (toJson c).render = statedScopes? s ∧
      statedIds? s = c.grants.map (·.map fun g => some (toJson g.id)) ∧
      statedScopes? s = c.rules.map (·.map fun rule => rule.dataset.map toJson) := by
  refine ⟨fun c hc => ofText?_render hc, fun s c hread => ?_⟩
  have hagain := ofText?_render (fits_of_text hread)
  have hids := statedIds?_of_text hread
  have hscopes := statedScopes?_of_text hread
  exact ⟨hagain, (statedIds?_of_text hagain).trans hids.symm,
    (statedScopes?_of_text hagain).trans hscopes.symm, hids, hscopes⟩

def kioskClaims : Claims :=
  ⟨none, some [⟨.unknown, .number 7⟩, ⟨.dashboard, .text "7"⟩], some [⟨some (.text ""), "a"⟩], ⟨0⟩,
    ⟨9⟩, "kiosk", none⟩

def kioskText : String :=
  "[null,[[\"chart\",7],\x7b\"id\":\"\\u0037\",\"type\":\"dashboard\"\x7d]," ++
    "[[\"\",\"a\"]],0,9,\"kiosk\"]"

theorem kiosk_claims_survive :
    kioskClaims.Fits ∧ ofText? kioskText = some kioskClaims ∧
      ofText? (toJson kioskClaims).render = some kioskClaims ∧
      statedIds? (toJson kioskClaims).render = statedIds? kioskText ∧
      statedIds? kioskText = some [some (.number (.natural 7)), some (.text (some "7"))] := by
  have hfits : kioskClaims.Fits := ⟨by decide, by decide, by decide, by decide⟩
  have hread : ofText? kioskText = some kioskClaims := by decide +kernel
  obtain ⟨_, hids, _, hstated, _⟩ := claims_survive_text.2 kioskText kioskClaims hread
  exact ⟨hfits, hread, claims_survive_text.1 kioskClaims hfits, hids, hstated⟩

end Claims
end Turnstile
