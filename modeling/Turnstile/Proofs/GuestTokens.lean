import Turnstile.Manager
import Turnstile.Proofs.SignedText
import Turnstile.Proofs.WrittenClaims

namespace Turnstile
open Json

/-- `value` is what the last entry called `called` holds. -/
def LastEntry (entries : List (String × String)) (called : String → Prop) (value : String) : Prop :=
  ∃ before name after, entries = before ++ (name, value) :: after ∧ called name ∧
    ∀ e ∈ after, ¬ called e.1

/-- The request brings the token: in the header called `name`, in upper or lower case, or in its
form if that header is missing or empty. -/
inductive Request.Brings (r : Request) (name token : String) : Prop where
  | header (h : LastEntry r.headers (fun s => Text.lowercaseAscii s = Text.lowercaseAscii name)
      token)
  | form (habsent : r.header? name = none ∨ r.header? name = some "")
      (h : LastEntry r.form (· = tokenField) token)

theorem LastEntry.find? {entries : List (String × String)} {called : String → Prop}
    [DecidablePred called] {value : String} (h : LastEntry entries called value) :
    (entries.reverse.find? fun e => called e.1).map (·.2) = some value := by
  obtain ⟨before, name, after, rfl, hname, hafter⟩ := h
  have hnone : after.reverse.find? (fun e => decide (called e.1)) = none := by
    refine List.find?_eq_none.mpr fun e he => ?_
    simpa using hafter e (List.mem_reverse.mp he)
  rw [List.reverse_append, List.reverse_cons, List.find?_append, List.find?_append, hnone]
  simp [hname]

theorem Request.header?_of_last {r : Request} {name token : String}
    (h : LastEntry r.headers (fun s => Text.lowercaseAscii s = Text.lowercaseAscii name) token) :
    r.header? name = some token :=
  h.find?

theorem Request.field?_of_last {r : Request} {name token : String}
    (h : LastEntry r.form (· = name) token) : r.field? name = some token := by
  obtain ⟨before, name, after, hform, rfl, hafter⟩ := h
  have hnone : after.reverse.lookup name = none := by
    refine List.lookup_eq_none_iff.mpr fun e he => ?_
    simpa using Ne.symm (hafter e (List.mem_reverse.mp he))
  rw [field?, hform, List.reverse_append, List.reverse_cons, List.lookup_append,
    List.lookup_append, hnone]
  simp

namespace TokenService

theorem rawToken?_of_brings {s : TokenService} {r : Request} {token : String}
    (h : r.Brings s.config.headerName token) (htoken : token ≠ "") :
    s.rawToken? r = some token := by
  unfold rawToken?
  cases h with
  | header h =>
    rw [Request.header?_of_last h]
    simp [htoken]
  | form habsent h =>
    rw [Request.field?_of_last h]
    rcases habsent with habsent | habsent <;> simp [habsent, htoken, Option.filter]

/-- The members of claims are none of those that are looked at in passing. -/
theorem passingMembersFit_claims (c : Claims) : passingMembersFit (toJson c) = true := by
  rfl

/-- Claims of guests have none of the members that are looked at in passing. -/
theorem claimsOf?_written {c : Claims} (h : c.Fits) :
    claimsOf? (Signed.bytes (toJson c).render) = some c := by
  have hc := Claims.returns h
  unfold claimsOf?
  simp only [Signed.textOfBytes?_bytes, parse_render hc.fits, hc.read, passingMembersFit_claims,
    Option.bind_eq_bind, Option.bind_some, ↓reduceIte]

/-- The answer to claims that were signed under the same settings. -/
theorem check_sign (s : TokenService) {c : Claims} (h : c.Fits) (audience : String) :
    s.check (Signed.sign s.config.signing s.config.secret (toJson c).render) audience =
      if c.audience ≠ audience then .error (.decode .invalidAudience)
      else if c.expires.seconds ≤ s.now.seconds then .error (.expired c.expires s.now)
      else .ok c := by
  unfold check
  rw [Signed.payload_sign]
  simp only [claimsOf?_written h]

theorem sign_ne_empty (signing : Signing) (secret payload : String) :
    Signed.sign signing secret payload ≠ "" := by
  intro h
  have hlist := congrArg String.toList h
  rw [Signed.sign, String.toList_ofList] at hlist
  simp at hlist

/-- A fixed audience goes before the host of the request. -/
theorem audience_fixed {s : TokenService} {name : Option String}
    (h : s.config.audience = name.map .fixed) (host : Option String) :
    s.audience host = match name.or host with
      | some a => (.ok a, s)
      | none => (.error .missingAudience, s) := by
  obtain ⟨⟨secret, signing, lifetime, audience, headerName, roleName⟩, now⟩ := s
  subst h
  cases name with
  | some a => rfl
  | none => cases host <;> rfl

/-- Unless an audience is set, only the same host makes the same audience. -/
theorem audience_eq_iff {name host other : Option String} {a : String}
    (h : name.or host = some a) : name.or other = some a ↔ name ≠ none ∨ other = host := by
  cases name with
  | none => simpa using h ▸ Iff.rfl
  | some b => simpa using h

def token (s : TokenService) (profile : GuestProfile) (grants : List GuestGrant)
    (rules : List GuestRule) (audience : String) : String :=
  Signed.sign s.config.signing s.config.secret
    (toJson (s.claims profile grants rules audience).stated).render

variable {s : TokenService} {name : Option String} {profile : GuestProfile}
  {grants : List GuestGrant} {rules : List GuestRule}

theorem issue_fixed (h : s.config.audience = name.map .fixed) (profile : GuestProfile)
    (grants : List GuestGrant) (rules : List GuestRule) (host : Option String) :
    s.issue profile grants rules host = match name.or host with
      | some a => (.ok (s.token profile grants rules a), s)
      | none => (.error .missingAudience, s) := by
  unfold issue
  rw [audience_fixed h]
  cases name.or host <;> rfl

theorem stated_fits (hgrants : ∀ g ∈ grants, g.id.Fits)
    (hrules : ∀ r ∈ rules, ∀ ref ∈ r.dataset, ref.Fits)
    (hnow : s.now.seconds ≤ Decimal.wordMax) (a : String) :
    (s.claims profile grants rules a).stated.Fits where
  grants gs hgs := by
    obtain rfl := Option.some.inj hgs
    exact hgrants
  rules rs hrs := by
    obtain rfl := Option.some.inj hrs
    exact hrules
  issued := hnow
  expires := Nat.min_le_right ..

/-- A token lets its guest in before it expires, where it is for the audience of the request. -/
theorem resolve_token (haudience : s.config.audience = name.map .fixed)
    (hgrants : ∀ g ∈ grants, g.id.Fits) (hrules : ∀ r ∈ rules, ∀ ref ∈ r.dataset, ref.Fits)
    (hnow : s.now.seconds ≤ Decimal.wordMax) {a : String} {r : Request}
    (hr : r.Brings s.config.headerName (s.token profile grants rules a)) (now : Instant)
    (roleId : Option RoleId) :
    ({ s with now } : TokenService).resolve r roleId =
      (if name.or r.host = some a ∧ now.seconds < (s.now.later s.config.lifetime).seconds then
        some ⟨profile, grants, rules, roleId⟩
      else none, { s with now }) := by
  let later : TokenService := { s with now }
  let expires := s.now.later s.config.lifetime
  have hraw : later.rawToken? r = some (s.token profile grants rules a) :=
    rawToken?_of_brings hr (sign_ne_empty _ _ _)
  have hfor := audience_fixed (s := later) haudience r.host
  have hcheck (b : String) : later.check (s.token profile grants rules a) b =
      if a ≠ b then .error (.decode .invalidAudience)
      else if expires.seconds ≤ now.seconds then .error (.expired expires now)
      else .ok (s.claims profile grants rules a).stated :=
    check_sign later (stated_fits hgrants hrules hnow a) b
  show later.resolve r roleId = _
  simp only [resolve, hraw, validate, parse, hfor]
  cases name.or r.host with
  | none => simp [later]
  | some b =>
    simp only [hcheck]
    -- whom the token is for is looked at first, and then whether it still holds
    by_cases hab : a = b
    · by_cases hlate : expires.seconds ≤ now.seconds
      · rw [if_neg (not_not_intro hab), if_pos hlate, if_neg fun h => Nat.not_le_of_lt h.2 hlate]
      · rw [if_neg (not_not_intro hab), if_neg hlate, if_pos ⟨hab ▸ rfl, Nat.lt_of_not_le hlate⟩]
        rfl
    · rw [if_pos hab, if_neg fun h => hab (Option.some.inj h.1).symm]

end TokenService

/-- Valid settings give settings of tokens, with the audience that they name. -/
theorem Config.tokenConfig_of_valid {config : Config} (h : config.validate = .ok ()) :
    ∃ signing, config.tokenConfig = .ok ⟨config.guestToken.secret, signing,
      config.guestToken.lifetime, config.guestToken.audience.map .fixed,
      config.guestToken.headerName, config.guestToken.roleName⟩ := by
  cases hname : Signing.ofName? config.guestToken.algorithm with
  | none =>
    rw [validate, fault?, if_pos (by rw [hname]; rfl)] at h
    exact absurd h nofun
  | some signing =>
    refine ⟨signing, ?_⟩
    simp only [tokenConfig, TokenConfig.withAlgorithm, hname]
    rfl

namespace Manager

/-- The manager's answer is that of its service, for guests with the role that is stored now. -/
theorem requestPrincipal_embedded {m : Manager} {c : Catalog} (h : m.settings.embedded = true)
    (hread : m.store.read = .ok c) (r : Request) :
    (m.requestPrincipal r).1 =
      .ok ((m.tokens.resolve r (m.tokens.roleId? c)).1.map .guest) := by
  unfold requestPrincipal
  rw [if_pos h, hread]

theorem createGuestToken_granted {m : Manager} {c : Catalog} {grants : List GuestGrant}
    (hread : m.store.read = .ok c) (h : c.requireGrants grants = .ok ()) (profile : GuestProfile)
    (rules : List GuestRule) (host : Option String) :
    m.createGuestToken profile grants rules host = m.issueToken profile grants rules host := by
  unfold createGuestToken requireGrants
  rw [hread]
  simp only [h]

/-- A token is issued whenever there is someone to issue it for. Then a request that brings it comes
from the guest that it was issued for, before the token expires and where its audience is known to
be the one of the request. -/
theorem issued_token_admits_until_expiry {store : Store} {config : Config} {issued : Instant}
    {c : Catalog} {profile : GuestProfile} {grants : List GuestGrant} {rules : List GuestRule}
    (hvalid : config.validate = .ok ()) (hembedded : config.features.embedded = true)
    (hread : store.read = .ok c) (hgranted : c.requireGrants grants = .ok ())
    (hgrants : ∀ g ∈ grants, g.id.Fits) (hrules : ∀ r ∈ rules, ∀ ref ∈ r.dataset, ref.Fits)
    (hissued : issued.seconds ≤ Decimal.wordMax) (host : Option String)
    (complaint : String → String) :
    ∃ m, ofConfig complaint store config issued = .ok m ∧
      (config.guestToken.audience = none → host = none →
        m.createGuestToken profile grants rules host = (.error (.token .missingAudience), m)) ∧
      (config.guestToken.audience ≠ none ∨ host ≠ none →
        ∃ token, m.createGuestToken profile grants rules host = (.ok token, m) ∧
          ∀ (now : Instant) (later : Store) (d : Catalog) (r : Request), later.read = .ok d →
            r.Brings config.guestToken.headerName token →
            (((m.setClock now).withStore later).requestPrincipal r).1 =
              .ok (if (config.guestToken.audience ≠ none ∨ r.host = host) ∧
                  now.seconds < min (issued.seconds + config.guestToken.lifetime) Decimal.wordMax
                then some (.guest ⟨profile, grants, rules,
                  (config.guestToken.roleName.bind d.roleNamed?).map (·.id)⟩)
                else none)) := by
  obtain ⟨signing, htokens⟩ := Config.tokenConfig_of_valid hvalid
  let tokens : TokenService := ⟨⟨config.guestToken.secret, signing, config.guestToken.lifetime,
    config.guestToken.audience.map .fixed, config.guestToken.headerName,
    config.guestToken.roleName⟩, issued⟩
  let m : Manager := ⟨store, config.accessSettings, config.synchronizer, tokens,
    Sql.extractor complaint⟩
  have hmanager : ofConfig complaint store config issued = .ok m := by
    unfold ofConfig
    rw [hvalid, htokens]
  have haudience : tokens.config.audience = config.guestToken.audience.map .fixed := rfl
  have hcreate := createGuestToken_granted (m := m) hread hgranted profile rules host
  have hissue := TokenService.issue_fixed haudience profile grants rules host
  refine ⟨m, hmanager, fun hnone hhost => ?_, fun hknown => ?_⟩
  · rw [hcreate, issueToken, hissue, hnone, hhost]
    rfl
  · obtain ⟨a, ha⟩ : ∃ a, config.guestToken.audience.or host = some a := by
      cases haud : config.guestToken.audience with
      | some b => exact ⟨b, rfl⟩
      | none => exact Option.ne_none_iff_exists'.mp (hknown.resolve_left (not_not_intro haud))
    refine ⟨tokens.token profile grants rules a, ?_, fun now later d r hlater hbrings => ?_⟩
    · rw [hcreate, issueToken, hissue, ha]
      rfl
    · let roleId := (config.guestToken.roleName.bind d.roleNamed?).map (·.id)
      have hresolve := TokenService.resolve_token haudience hgrants hrules hissued hbrings now
        roleId
      have hanswer : (((m.setClock now).withStore later).requestPrincipal r).1 =
          .ok ((({ tokens with now } : TokenService).resolve r roleId).1.map .guest) :=
        requestPrincipal_embedded (c := d) hembedded hlater r
      have hexpires : (tokens.now.later tokens.config.lifetime).seconds =
        min (issued.seconds + config.guestToken.lifetime) Decimal.wordMax := rfl
      rw [hanswer, hresolve]
      -- the token is for the audience of the settings, or else for the host that it was asked from
      simp only [TokenService.audience_eq_iff ha, hexpires]
      split <;> rfl

def framed : Catalog :=
  (Catalog.empty.putDashboard ⟨⟨7⟩, true, [], [], []⟩).ensureRole "Guests" |>.2

def framing : Config :=
  { Config.standard with
    features := ⟨true, false⟩
    guestToken := { Config.GuestToken.standard with roleName := some "Guests" } }

def visitor : Guest :=
  ⟨⟨some "embed", none, none⟩, [⟨.dashboard, .number 7⟩, ⟨.unknown, .text "7"⟩],
    [⟨some (.text ""), "tenant = \"a\""⟩], some ⟨1⟩⟩

def framedStore : Store := ⟨framed, [], false⟩

/-- A token that is issued at 1000 for 300 seconds lets its guest in at 1299 and no longer at 1300,
and never from another host. -/
theorem visitor_admitted_for_lifetime :
    ∃ m token, ofConfig id framedStore framing ⟨1000⟩ = .ok m ∧
      m.createGuestToken visitor.profile visitor.grants visitor.rules (some "a.org") =
        (.ok token, m) ∧
      (((m.setClock ⟨1299⟩).withStore framedStore).requestPrincipal
        ⟨[("x-guesttoken", token)], [], some "a.org"⟩).1 = .ok (some (.guest visitor)) ∧
      (((m.setClock ⟨1300⟩).withStore framedStore).requestPrincipal
        ⟨[("x-guesttoken", token)], [], some "a.org"⟩).1 = .ok none ∧
      (((m.setClock ⟨1299⟩).withStore framedStore).requestPrincipal
        ⟨[], [("guest_token", token)], some "b.org"⟩).1 = .ok none := by
  obtain ⟨m, hm, -, htoken⟩ := @issued_token_admits_until_expiry framedStore framing ⟨1000⟩ framed
    visitor.profile visitor.grants visitor.rules rfl rfl rfl rfl (by decide) (by decide)
    (by decide) (some "a.org") id
  obtain ⟨token, hcreate, hrequest⟩ := htoken (.inr nofun)
  have hname : Text.lowercaseAscii "x-guesttoken" = Text.lowercaseAscii "X-GuestToken" :=
    String.toList_inj.mp (by simp [Text.lowercaseAscii])
  have hheader (host : Option String) :
      Request.Brings ⟨[("x-guesttoken", token)], [], host⟩ "X-GuestToken" token :=
    .header ⟨[], _, [], rfl, hname, nofun⟩
  have hform (host : Option String) :
      Request.Brings ⟨[], [("guest_token", token)], host⟩ "X-GuestToken" token :=
    .form (.inl rfl) ⟨[], _, [], rfl, rfl, nofun⟩
  exact ⟨m, token, hm, hcreate, hrequest _ _ framed _ rfl (hheader _),
    hrequest _ _ framed _ rfl (hheader _), hrequest _ _ framed _ rfl (hform _)⟩

end Manager
end Turnstile
