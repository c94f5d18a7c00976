import Turnstile.Proofs.GuestTokens

namespace Turnstile
open Json

namespace Signed

/-- A text without a period has no two parts. -/
theorem splitAtLastPeriod_spec (cs : List Char) : match splitAtLastPeriod cs with
    | some (a, b) => cs = a ++ '.' :: b ∧ '.' ∉ b
    | none => '.' ∉ cs := by
  induction cs with
  | nil => exact List.not_mem_nil
  | cons c cs ih =>
    unfold splitAtLastPeriod
    cases hsplit : splitAtLastPeriod cs with
    | some parts =>
      rw [hsplit] at ih
      exact ⟨congrArg (c :: ·) ih.1, ih.2⟩
    | none =>
      rw [hsplit] at ih
      by_cases hperiod : c = '.'
      · simp only [if_pos hperiod]
        exact ⟨by rw [hperiod]; rfl, ih⟩
      · simp only [if_neg hperiod]
        exact fun hmem => (List.mem_cons.mp hmem).elim (fun h => hperiod h.symm) ih

/-- The last period is the one with none behind it, so there is at most one such cut. -/
theorem splitAtLastPeriod_eq_some_iff {cs a b : List Char} :
    splitAtLastPeriod cs = some (a, b) ↔ cs = a ++ '.' :: b ∧ '.' ∉ b := by
  constructor
  · intro h
    have hspec := splitAtLastPeriod_spec cs
    rwa [h] at hspec
  · rintro ⟨rfl, hb⟩
    exact splitAtLastPeriod_append a hb

/-- A text of three parts: a header that names the algorithm, the payload, and the signature of both
under the secret. -/
structure Opens (signing : Signing) (secret raw : String) (payload : List UInt8)
    (head content sent : List Char) : Prop where
  whole : raw.toList = (head ++ '.' :: content) ++ '.' :: sent
  content_end : '.' ∉ content
  sent_end : '.' ∉ sent
  header : ∃ bytes text v, Text.Base64.decode head = some bytes ∧ textOfBytes? bytes = some text ∧
    parse text = some v ∧ headerAlgorithm? v = some signing.name
  signed : Text.Base64.decode sent = some (signature signing secret (head ++ '.' :: content))
  payload : Text.Base64.decode content = some payload

theorem payload_eq_ok_iff {signing : Signing} {secret raw : String} {payload : List UInt8} :
    Signed.payload signing secret raw = .ok payload ↔
      ∃ head content sent, Opens signing secret raw payload head content sent := by
  constructor
  · intro h
    unfold Signed.payload at h
    split at h
    case h_2 => cases h
    rename_i body sent hfirst
    split at h
    case h_2 => cases h
    rename_i head content hsecond
    split at h
    case h_2 => cases h
    rename_i bytes hbytes
    split at h
    case h_2 => cases h
    rename_i algorithm hheader
    dsimp only at h
    split at h
    · cases h
    rename_i hname
    split at h
    case h_2 => cases h
    rename_i sentBytes hsent
    split at h
    · cases h
    rename_i hsigned
    split at h
    case h_2 => cases h
    rename_i contentBytes hcontent
    cases h
    obtain ⟨hwhole, hlast⟩ := splitAtLastPeriod_eq_some_iff.mp hfirst
    obtain ⟨rfl, hmiddle⟩ := splitAtLastPeriod_eq_some_iff.mp hsecond
    simp only [Option.bind_eq_some_iff] at hheader
    obtain ⟨v, ⟨text, htext, hv⟩, hnamed⟩ := hheader
    exact ⟨head, content, sent, hwhole, hmiddle, hlast,
      ⟨bytes, text, v, hbytes, htext, hv, Decidable.of_not_not hname ▸ hnamed⟩,
      Decidable.of_not_not hsigned ▸ hsent, hcontent⟩
  · rintro ⟨head, content, sent, hwhole, hcontent, hsent, ⟨bytes, text, v, hbytes, htext, hv, hname⟩,
      hsigned, hpayload⟩
    have hfirst := splitAtLastPeriod_eq_some_iff.mpr ⟨hwhole, hsent⟩
    have hsecond : splitAtLastPeriod (head ++ '.' :: content) = some (head, content) :=
      splitAtLastPeriod_append head hcontent
    unfold Signed.payload
    simp only [hfirst, hsecond, hbytes, htext, hv, hname, hsigned, hpayload, Option.bind_some,
      ne_eq, not_true_eq_false, ↓reduceIte]

end Signed

namespace Json
variable {ms : List (Option String × Value)} {names : List String} {name : String} {r : Record}

/-- Where no name repeats, what is found under a name is what stands under it. -/
theorem lookup_eq_some_iff_mem {xs : List (String × Value)} (h : (xs.map (·.1)).Nodup) {w : Value} :
    xs.lookup name = some w ↔ (name, w) ∈ xs := by
  rw [List.lookup_eq_some_iff]
  constructor
  · rintro ⟨before, after, rfl, _⟩
    simp
  · intro hmem
    obtain ⟨before, after, rfl⟩ := List.append_of_mem hmem
    refine ⟨before, after, rfl, fun x hx => ?_⟩
    rw [List.map_append, List.map_cons] at h
    have hne := (List.nodup_append.mp h).2.2 x.1 (List.mem_map_of_mem hx) name (by simp)
    simpa using Ne.symm hne

/-- A field of an object's record is given as a member of the object. -/
theorem get?_object (h : (Value.object ms).record? names = some r) (hname : name ∈ names)
    {w : Value} : r.get? name = some w ↔ (some name, w) ∈ ms := by
  obtain ⟨rs, hrs, h⟩ := Option.bind_eq_some_iff.mp h
  dsimp only at h
  split at h
  · rename_i hnodup
    cases h
    rw [Record.get?, lookup_eq_some_iff_mem hnodup, ← mem_readableMembers hrs]
    simp [hname]
  · cases h

/-- A field that may be left out has a value unless it is left out or null. -/
theorem omissible_ne_none {α : Type} [FromJson α] {o : Option α} (h : r.omissible name = some o) :
    o ≠ none ↔ ∃ w, r.get? name = some w ∧ w ≠ .null := by
  have hstated := Record.omissible_eq_some_iff.mp h
  simp only [← Record.stated?_eq_some_iff, ← Option.isSome_iff_exists]
  cases o with
  | none =>
    rw [Option.map_none, Option.map_eq_none_iff] at hstated
    simp [hstated]
  | some a =>
    obtain ⟨w, hw, _⟩ := Option.map_eq_some_iff.mp hstated
    simp [hw]

end Json

namespace Claims
variable {c : Claims} {g : GuestClaims} {ms : List (Option String × Value)}

/-- The members that every guest's token has, and none of them as null. -/
def Complete (ms : List (Option String × Value)) : Prop :=
  ∀ name ∈ ["user", "resources", "rls_rules"], ∃ w, (some name, w) ∈ ms ∧ w ≠ .null

/-- Claims are those of a guest just if they say what a guest's token says. -/
theorem verify_eq_ok_iff : c.verify = .ok g ↔ g.stated = c := by
  constructor
  · intro h
    unfold verify at h
    split at h
    iterate 3 cases h
    rename_i profile grants rules hprofile hgrants hrules
    split at h
    · rename_i htype
      cases h
      rw [GuestClaims.stated, ← hprofile, ← hgrants, ← hrules, ← htype]
    · cases h
  · rintro rfl
    rfl

theorem exists_stated_iff : (∃ g : GuestClaims, g.stated = c) ↔
    c.profile ≠ none ∧ c.grants ≠ none ∧ c.rules ≠ none ∧ c.type = some guestType := by
  constructor
  · rintro ⟨g, rfl⟩
    exact ⟨nofun, nofun, nofun, rfl⟩
  · obtain ⟨_ | profile, _ | grants, _ | rules, issued, expires, audience, type⟩ := c
    case some.some.some =>
      rintro ⟨_, _, _, rfl⟩
      exact ⟨⟨profile, grants, rules, issued, expires, audience⟩, rfl⟩
    all_goals
      rintro ⟨hprofile, hgrants, hrules, _⟩
      contradiction

/-- What is read of an object has the mandatory claims if the object has them. -/
theorem complete_iff (h : ofJson? (Value.object ms) = some c) :
    Complete ms ↔ c.profile ≠ none ∧ c.grants ≠ none ∧ c.rules ≠ none := by
  obtain ⟨r, hr, hgiven⟩ := read_iff.mp h
  simp only [omissible_ne_none hgiven.profile, omissible_ne_none hgiven.grants,
    omissible_ne_none hgiven.rules]
  unfold fieldNames at hr
  simp [Complete, get?_object hr]

end Claims

namespace TokenService

/-- The payload is an object with the members `ms` that reads as the claims. The members that signed
texts in general may have, and that are looked at in passing, have to be readable as well. -/
structure Carries (payload : List UInt8) (ms : List (Option String × Value)) (c : Claims) :
    Prop where
  json : ∃ text, Signed.textOfBytes? payload = some text ∧ Json.parse text = some (.object ms)
  claims : ofJson? (Value.object ms) = some c
  passing : passingMembersFit (.object ms) = true

/-- The text is signed under the algorithm and the secret, and carries the claims. -/
def Decodes (signing : Signing) (secret raw : String) (ms : List (Option String × Value))
    (c : Claims) : Prop :=
  ∃ payload head content sent,
    Signed.Opens signing secret raw payload head content sent ∧ Carries payload ms c

theorem claimsOf?_eq_some_iff {payload : List UInt8} {c : Claims} :
    claimsOf? payload = some c ↔ ∃ ms, Carries payload ms c := by
  constructor
  · intro h
    obtain ⟨text, htext, h⟩ := Option.bind_eq_some_iff.mp h
    obtain ⟨v, hv, h⟩ := Option.bind_eq_some_iff.mp h
    obtain ⟨c', hc, h⟩ := Option.bind_eq_some_iff.mp h
    split at h
    · rename_i hfit
      cases h
      cases v with
      | object ms => exact ⟨ms, ⟨text, htext, hv⟩, hc, hfit⟩
      | _ => cases hfit
    · cases h
  · rintro ⟨ms, ⟨text, htext, hv⟩, hc, hfit⟩
    simp only [claimsOf?, htext, hv, hc, hfit, Option.bind_eq_bind, Option.bind_some, ↓reduceIte]

variable {s : TokenService} {name : Option String} {raw : String}

/-- Audience and expiry are judged by the claims as they were signed. -/
theorem check_eq_ok_iff {a : String} {c : Claims} : s.check raw a = .ok c ↔
    ∃ ms, Decodes s.config.signing s.config.secret raw ms c ∧ c.audience = a ∧
      s.now.seconds < c.expires.seconds := by
  unfold check
  constructor
  · intro h
    split at h
    · cases h
    rename_i payload hpayload
    split at h
    · cases h
    rename_i c' hclaims
    split at h
    · cases h
    rename_i haudience
    split at h
    · cases h
    rename_i hlater
    cases h
    obtain ⟨head, content, sent, hopens⟩ := Signed.payload_eq_ok_iff.mp hpayload
    obtain ⟨ms, hcarries⟩ := claimsOf?_eq_some_iff.mp hclaims
    exact ⟨ms, ⟨payload, head, content, sent, hopens, hcarries⟩,
      Decidable.of_not_not haudience, Nat.lt_of_not_le hlater⟩
  · rintro ⟨ms, ⟨payload, head, content, sent, hopens, hcarries⟩, rfl, hlater⟩
    have hpayload := Signed.payload_eq_ok_iff.mpr ⟨head, content, sent, hopens⟩
    have hclaims := claimsOf?_eq_some_iff.mpr ⟨ms, hcarries⟩
    simp only [hpayload, hclaims, ne_eq, not_true_eq_false, Nat.not_le_of_lt hlater, ↓reduceIte]

/-- A text carries no two claims. -/
theorem Decodes.unique {signing : Signing} {secret : String} {ms ms' : List (Option String × Value)}
    {c c' : Claims} (h : Decodes signing secret raw ms c) (h' : Decodes signing secret raw ms' c') :
    c = c' := by
  obtain ⟨payload, head, content, sent, hopens, hcarries⟩ := h
  obtain ⟨payload', head', content', sent', hopens', hcarries'⟩ := h'
  have hsame : payload = payload' := Except.ok.inj
    ((Signed.payload_eq_ok_iff.mpr ⟨head, content, sent, hopens⟩).symm.trans
      (Signed.payload_eq_ok_iff.mpr ⟨head', content', sent', hopens'⟩))
  subst hsame
  exact Option.some.inj ((claimsOf?_eq_some_iff.mpr ⟨ms, hcarries⟩).symm.trans
    (claimsOf?_eq_some_iff.mpr ⟨ms', hcarries'⟩))

/-- With a fixed audience a text is accepted if it carries the claims of a guest's token for that
audience and they have not expired. -/
theorem validate_eq_ok_iff (h : s.config.audience = name.map .fixed) {host : Option String}
    {g : GuestClaims} : (s.validate raw host).1 = .ok g ↔
      ∃ ms, Decodes s.config.signing s.config.secret raw ms g.stated ∧
        name.or host = some g.audience ∧ s.now.seconds < g.expires.seconds := by
  unfold validate parse
  rw [audience_fixed h]
  cases name.or host with
  | none => simp
  | some a =>
    dsimp only
    cases hcheck : s.check raw a with
    | error e =>
      refine iff_of_false nofun ?_
      rintro ⟨ms, hdecodes, ha, hlater⟩
      cases ha
      have hok : s.check raw g.audience = .ok g.stated :=
        check_eq_ok_iff.mpr ⟨ms, hdecodes, rfl, hlater⟩
      exact nomatch hcheck.symm.trans hok
    | ok c =>
      refine Claims.verify_eq_ok_iff.trans ?_
      obtain ⟨ms, hdecodes, haudience, hlater⟩ := check_eq_ok_iff.mp hcheck
      constructor
      · rintro rfl
        exact ⟨ms, hdecodes, congrArg some haudience.symm, hlater⟩
      · rintro ⟨ms', hdecodes', _⟩
        exact hdecodes'.unique hdecodes

/-- The text is accepted as a guest's token in a request to the host. -/
def Admits (s : TokenService) (raw : String) (host : Option String) : Prop :=
  ∃ g, (s.validate raw host).1 = .ok g

/-- Claims that are complete and of the right type are those of a guest's token. -/
theorem Decodes.exists_stated_iff {ms : List (Option String × Value)} {c : Claims}
    {signing : Signing} {secret : String} (h : Decodes signing secret raw ms c) :
    (∃ g : GuestClaims, g.stated = c) ↔ Claims.Complete ms ∧ c.type = some Claims.guestType := by
  obtain ⟨_, _, _, _, _, hcarries⟩ := h
  rw [Claims.exists_stated_iff, Claims.complete_iff hcarries.claims, and_assoc, and_assoc]

theorem admits_iff (h : s.config.audience = name.map .fixed) {host : Option String} :
    s.Admits raw host ↔ ∃ ms c, Decodes s.config.signing s.config.secret raw ms c ∧
      name.or host = some c.audience ∧ s.now.seconds < c.expires.seconds ∧
      Claims.Complete ms ∧ c.type = some Claims.guestType := by
  constructor
  · rintro ⟨g, hg⟩
    obtain ⟨ms, hdecodes, haudience, hlater⟩ := (validate_eq_ok_iff h).mp hg
    exact ⟨ms, g.stated, hdecodes, haudience, hlater, hdecodes.exists_stated_iff.mp ⟨g, rfl⟩⟩
  · rintro ⟨ms, c, hdecodes, haudience, hlater, hcomplete⟩
    obtain ⟨g, rfl⟩ := hdecodes.exists_stated_iff.mpr hcomplete
    exact ⟨g, (validate_eq_ok_iff h).mpr ⟨ms, hdecodes, haudience, hlater⟩⟩

/-- A text is accepted never, or at all times before the moment it tells. -/
theorem never_or_until_expiry (h : s.config.audience = name.map .fixed) (raw : String)
    (host : Option String) :
    (∀ now, ¬ ({ s with now } : TokenService).Admits raw host) ∨
      ∃ ms c, Decodes s.config.signing s.config.secret raw ms c ∧ ∀ now : Instant,
        ({ s with now } : TokenService).Admits raw host ↔ now.seconds < c.expires.seconds := by
  by_cases hever : ∃ now, ({ s with now } : TokenService).Admits raw host
  · obtain ⟨now, hnow⟩ := hever
    obtain ⟨ms, c, hdecodes, haudience, _, hcomplete⟩ := (admits_iff (s := { s with now }) h).mp hnow
    refine .inr ⟨ms, c, hdecodes, fun now => ?_⟩
    rw [admits_iff (s := { s with now }) h]
    constructor
    · rintro ⟨ms', c', hdecodes', _, hlater, _⟩
      exact hdecodes'.unique hdecodes ▸ hlater
    · intro hlater
      exact ⟨ms, c, hdecodes, haudience, hlater, hcomplete⟩
  · exact .inl (not_exists.mp hever)

/-- A request is a guest's if it carries a text that is accepted. -/
theorem resolve_eq_some_iff {r : Request} {roleId : Option RoleId} {guest : Guest} :
    (s.resolve r roleId).1 = some guest ↔ ∃ token g, s.rawToken? r = some token ∧
      (s.validate token r.host).1 = .ok g ∧ g.guest roleId = guest := by
  unfold resolve
  cases s.rawToken? r with
  | none => simp
  | some token =>
    rcases hvalidate : s.validate token r.host with ⟨_ | g, s'⟩
    · simp [hvalidate]
    · simp [hvalidate]

/-- With a fixed audience, or the host for one, a text is accepted as a guest's token exactly if it
is signed under the algorithm and the secret of the service, carries claims for that audience,
among them all that are mandatory and the type of a guest's token, and the moment they expire at has
not come. What is told of it are these claims, and a guest comes from such a text only. -/
theorem guest_token_accepted_iff {s : TokenService} {name : Option String}
    (haudience : s.config.audience = name.map .fixed) (raw : String) (host : Option String) :
    (s.Admits raw host ↔ ∃ ms c, Decodes s.config.signing s.config.secret raw ms c ∧
      name.or host = some c.audience ∧ s.now.seconds < c.expires.seconds ∧
      Claims.Complete ms ∧ c.type = some Claims.guestType) ∧
    (∀ g, (s.validate raw host).1 = .ok g →
      ∃ ms, Decodes s.config.signing s.config.secret raw ms g.stated) ∧
    ((∀ now, ¬ ({ s with now } : TokenService).Admits raw host) ∨
      ∃ ms c, Decodes s.config.signing s.config.secret raw ms c ∧ ∀ now : Instant,
        ({ s with now } : TokenService).Admits raw host ↔ now.seconds < c.expires.seconds) ∧
    ∀ (r : Request) (roleId : Option RoleId) (guest : Guest),
      (s.resolve r roleId).1 = some guest ↔ ∃ token g, s.rawToken? r = some token ∧
        (s.validate token r.host).1 = .ok g ∧ g.guest roleId = guest := by
  refine ⟨admits_iff haudience, fun g hg => ?_, never_or_until_expiry haudience raw host,
    fun r roleId guest => resolve_eq_some_iff⟩
  obtain ⟨ms, hdecodes, _⟩ := (validate_eq_ok_iff haudience).mp hg
  exact ⟨ms, hdecodes⟩

def boardDesk : TokenService :=
  ⟨⟨"test-secret", .hs256, 300, some (.fixed "board"), TokenConfig.standardHeader, none⟩, ⟨1299⟩⟩

def onlooker : GuestClaims := ⟨⟨none, none, none⟩, [], [], ⟨1000⟩, ⟨1300⟩, "board"⟩

/-- Whatever is signed here can be opened here, and gives back the claims. -/
theorem signed_decodes (signing : Signing) (secret : String) {c : Claims} (h : c.Fits) :
    ∃ ms, Decodes signing secret (Signed.sign signing secret (toJson c).render) ms c := by
  obtain ⟨head, content, sent, hopens⟩ :=
    Signed.payload_eq_ok_iff.mp (Signed.payload_sign signing secret (toJson c).render)
  obtain ⟨ms, hcarries⟩ := claimsOf?_eq_some_iff.mp (claimsOf?_written h)
  exact ⟨ms, _, head, content, sent, hopens, hcarries⟩

/-- The claims, once they are signed, are accepted at 1299 and not at 1300. -/
theorem onlooker_admitted_until_expiry :
    let raw := Signed.sign .hs256 "test-secret" (toJson onlooker.stated).render
    boardDesk.Admits raw none ∧ ¬ ({ boardDesk with now := ⟨1300⟩ } : TokenService).Admits raw none := by
  intro raw
  obtain ⟨ms, hdecodes⟩ := signed_decodes .hs256 "test-secret" (c := onlooker.stated)
    ⟨by decide, by decide, by decide, by decide⟩
  have hcomplete := hdecodes.exists_stated_iff.mp ⟨onlooker, rfl⟩
  obtain ⟨hadmits, _, htimes, _⟩ :=
    @guest_token_accepted_iff boardDesk (some "board") rfl raw none
  have hnow : boardDesk.Admits raw none :=
    hadmits.mpr ⟨ms, onlooker.stated, hdecodes, rfl, by decide, hcomplete⟩
  refine ⟨hnow, fun hlate => ?_⟩
  rcases htimes with hnever | ⟨ms', c, hdecodes', huntil⟩
  · exact hnever _ hnow
  · have hc : onlooker.stated = c := hdecodes.unique hdecodes'
    subst hc
    exact absurd ((huntil ⟨1300⟩).mp hlate) (by decide)

end TokenService
end Turnstile
