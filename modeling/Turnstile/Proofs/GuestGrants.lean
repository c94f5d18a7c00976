import Turnstile.Token.Service
import Turnstile.Proofs.AccessChecks
import Turnstile.Proofs.ReferenceText

namespace Turnstile
variable {c : Catalog} {s : AccessSettings} {x : Extractor} {g : Guest} {d : Dashboard}
  {e : Embedding} {gr : GuestGrant}

/-- The grant is on a dashboard and is written as its identifier or as the uuid of its embedding. -/
def GuestGrant.Names (gr : GuestGrant) (id : DashboardId) (e : Embedding) : Prop :=
  gr.type = .dashboard ∧ (gr.id.toText = id.text ∨ gr.id.toText = e.uuid.text)

/-- Identifiers of dashboards have 64 bits and uuids 128, as all that are read from outside. -/
structure Catalog.InRange (c : Catalog) : Prop where
  dashboards : ∀ d ∈ c.dashboards.rows, d.id.number ≤ Decimal.wordMax
  embeddings : ∀ e ∈ c.embeddings.rows, e.uuid.number < Nat.pow 2 128

/-- A grant opens a dashboard by the text of its identifier or of the uuid of its embedding, not by
what the text means. -/
theorem Guest.opens_iff {id : DashboardId} :
    g.opens id (some e) = true ↔ ∃ gr ∈ g.grants, gr.Names id e := by
  have hrefs : ∀ t, g.dashboardRefs.any (·.toText == t) = true ↔
      ∃ gr ∈ g.grants, gr.type = .dashboard ∧ gr.id.toText = t := by
    intro t
    simp only [dashboardRefs, List.any_map, List.any_filter, List.any_eq_true, Bool.and_eq_true,
      Function.comp_apply, beq_iff_eq]
  unfold opens GuestGrant.Names
  rw [Bool.or_eq_true, hrefs, hrefs, ← exists_or]
  apply exists_congr
  intro gr
  rw [← and_or_left, ← and_or_left]

theorem Guest.opens_congr {g' : Guest} (h : g'.grants = g.grants) : g'.opens = g.opens := by
  funext id embedding
  unfold opens dashboardRefs
  rw [h]

namespace Viewer

theorem guest?_of_embedded (hs : s.embedded = true) : guest? ⟨c, s, .guest g, x⟩ = some g :=
  if_pos hs

/-- A guest's grants and the embedding decide; settings, roles and the dashboard's own row do not
come in. -/
theorem requireDashboard_guest (hs : s.embedded = true) :
    requireDashboard ⟨c, s, .guest g, x⟩ d = .ok () ↔
      ∃ e, c.embeddingOf? d.id = some e ∧ ∃ gr ∈ g.grants, gr.Names d.id e := by
  rw [requireDashboard_iff]
  unfold hasDashboardAccess
  rw [guest?_of_embedded hs]
  cases he : c.embeddingOf? d.id with
  | none => simp
  | some e => simp [Guest.opens_iff]

/-- Only the grants, the dashboard's identifier and the embeddings go into the answer. -/
theorem requireDashboard_guest_congr {c' : Catalog} {s' : AccessSettings} {x' : Extractor}
    {g' : Guest} {d' : Dashboard} (hs : s.embedded = true) (hs' : s'.embedded = true)
    (hc : c'.embeddings = c.embeddings) (hg : g'.grants = g.grants) (hd : d'.id = d.id) :
    requireDashboard ⟨c', s', .guest g', x'⟩ d' = requireDashboard ⟨c, s, .guest g, x⟩ d := by
  unfold requireDashboard hasDashboardAccess Catalog.embeddingOf?
  rw [guest?_of_embedded hs, guest?_of_embedded hs']
  simp only [hc, hd, Guest.opens_congr hg]

theorem roles_guest (h : g.roleId.bind c.role? = none) : roles ⟨c, s, .guest g, x⟩ = [] := by
  obtain ⟨profile, grants, rules, roleId⟩ := g
  cases roleId with
  | none => rfl
  | some id => exact List.filterMap_cons_none h

theorem canAccess_of_roles {v : Viewer} (h : v.roles = []) (permission resource : String) :
    v.canAccess permission resource = false := by
  unfold canAccess pairs
  rw [h]
  rfl

theorem canAccessDatabase_of_roles {v : Viewer} (h : v.roles = []) (db : Database) :
    v.canAccessDatabase db = false := by
  simp only [canAccessDatabase, canAccessAllDatasources, canAccessAllDatabases,
    canAccess_of_roles h, Bool.or_self]

/-- To a guest without a role a datasource opens through a dashboard or not at all. -/
theorem probe_of_roles {v : Viewer} (h : v.roles = []) (hguest : v.isGuest = true)
    (ds : Datasource) (p : Probe) : v.probe ds p = true ↔
      p = .dashboardRelationship ∧ v.canAccessThroughDashboard ds = true := by
  cases p <;>
    simp [probe, canAccessAllDatasources, canAccess_of_roles h, canAccessDatabase_of_roles h,
      hguest, Option.any_eq_true]

theorem canAccessThroughDashboard_iff {v : Viewer} {ds : Datasource} :
    v.canAccessThroughDashboard ds = true ↔
      ∃ b ∈ v.catalog.dashboards.rows, v.requireDashboard b = .ok () ∧
        ∃ k ∈ b.chartIds, ∃ chart,
          v.catalog.chart? k = some chart ∧ chart.datasourceId = ds.id := by
  simp only [canAccessThroughDashboard, charts, List.any_eq_true, Bool.and_eq_true,
    Option.any_eq_true, beq_iff_eq, requireDashboard_iff, and_comm]

/-- Tables have no such way: whoever has no role is refused every one of them. -/
theorem requireTable_of_roles {v : Viewer} (h : v.roles = []) (db : Database) (t : Table) :
    v.requireAccess (.table db t) =
      .error (.tablesDenied (Denial.tables [t] v.settings.instructionsLink)) := by
  have hreach : v.reachesTable db t = false := by
    simp [reachesTable, canAccess_of_roles h, Option.any_eq_false]
  simp [requireAccess, requireTables, canAccessDatabase_of_roles h, hreach]

end Viewer

namespace Catalog

theorem requireGrants_singleton {ref : GuestRef} :
    c.requireGrants [⟨.dashboard, ref⟩] = .ok () ↔ c.refersToDashboard ref = true := by
  unfold requireGrants
  cases c.refersToDashboard ref <;> simp [requireGrants]

theorem embeddingOf?_eq_some {id : DashboardId} (h : c.embeddingOf? id = some e) :
    c.embedding? e.uuid = some e ∧ e.dashboardId = id := by
  have hmem : e ∈ c.embeddings.rows := List.mem_of_find?_eq_some h
  exact ⟨(c.ownIds.embeddings e.uuid e).mpr ⟨hmem, rfl⟩, by simpa using List.find?_some h⟩

/-- A grant that opens a stored dashboard is accepted when grants are given out. -/
theorem InRange.requireGrants (hc : c.InRange) (hd : d ∈ c.dashboards.rows)
    (he : c.embeddingOf? d.id = some e) (hgr : gr.Names d.id e) :
    c.requireGrants [gr] = .ok () := by
  obtain ⟨type, ref⟩ := gr
  obtain ⟨rfl, htext⟩ := hgr
  apply requireGrants_singleton.mpr
  unfold refersToDashboard
  rw [Bool.or_eq_true]
  rcases htext with htext | htext
  · left
    have hread : Decimal.readWord ref.toText = .ok d.id.number := by
      rw [htext]
      exact Decimal.readWord_text.mpr ⟨rfl, hc.dashboards d hd⟩
    have hfound : c.dashboard? d.id = some d := (c.ownIds.dashboards d.id d).mpr ⟨hd, rfl⟩
    rw [hread]
    exact Option.isSome_of_eq_some hfound
  · right
    have huuid : Uuid.ofText? ref.toText = some e.uuid := by
      rw [htext]
      exact Uuid.ofText?_text (hc.embeddings e (List.mem_of_find?_eq_some he))
    rw [huuid]
    exact Option.isSome_of_eq_some (embeddingOf?_eq_some he).1

/-- The two ways in which a reference leads to a dashboard when grants are given out: it is read as
the dashboard's number, or as the uuid of a stored embedding of it. -/
inductive LeadsTo (c : Catalog) (ref : GuestRef) (id : DashboardId) : Prop
  | number : Decimal.readWord ref.toText = .ok id.number → (c.dashboard? id).isSome →
      LeadsTo c ref id
  | uuid (w : Embedding) : (Uuid.ofText? ref.toText).bind c.embedding? = some w →
      w.dashboardId = id → LeadsTo c ref id

theorem LeadsTo.accepted {ref : GuestRef} {id : DashboardId} (h : c.LeadsTo ref id) :
    c.requireGrants [⟨.dashboard, ref⟩] = .ok () := by
  apply requireGrants_singleton.mpr
  unfold refersToDashboard
  rw [Bool.or_eq_true]
  cases h with
  | number hread hfound =>
    left
    rw [hread]
    exact hfound
  | uuid w hread _ =>
    right
    exact Option.isSome_of_eq_some hread

/-- A number of 64 bits has too few digits to be read as a uuid, so the two ways never meet. -/
theorem ofText?_number {n : Nat} (h : n ≤ Decimal.wordMax) :
    Uuid.ofText? (Decimal.text n) = none := by
  have hlength : (Decimal.text n).toList.length ≤ 20 := by
    unfold Decimal.text
    rw [String.toList_ofList]
    apply (Nat.length_toDigits_le_iff (by omega) (by omega)).mpr
    unfold Decimal.wordMax at h
    omega
  unfold Uuid.ofText?
  dsimp only
  split <;> first | omega | rfl

/-- Numbers lead to the dashboard of that number only. -/
theorem LeadsTo.of_number {n : Nat} {id : DashboardId} (h : c.LeadsTo (.number n) id)
    (hn : n ≤ Decimal.wordMax) : (GuestRef.number n).toText = id.text := by
  cases h with
  | number hread _ =>
    obtain ⟨hid, _⟩ := Decimal.readWord_text.mp hread
    exact congrArg Decimal.text hid.symm
  | uuid w hread _ =>
    unfold GuestRef.toText at hread
    rw [ofText?_number hn] at hread
    cases hread

end Catalog

/-- Guests are let in by their grants alone. A dashboard opens just if it has an embedding and a
grant is written as its identifier or as the uuid of that embedding; nothing else about the guest,
the dashboard, the settings or the catalog changes that, and such grants are accepted when they are
given out. A guest without a role reaches what is charted on such dashboards, and no table. -/
theorem guest_confined_to_grants (c : Catalog) (s : AccessSettings) (hs : s.embedded = true)
    (g : Guest) (x : Extractor) :
    let v : Viewer := ⟨c, s, .guest g, x⟩
    (∀ d, v.requireDashboard d = .ok () ↔
      ∃ e, c.embeddingOf? d.id = some e ∧ ∃ gr ∈ g.grants, gr.Names d.id e) ∧
    (∀ (c' : Catalog) (s' : AccessSettings) (g' : Guest) (x' : Extractor) (d d' : Dashboard),
      c'.embeddings = c.embeddings → s'.embedded = true → g'.grants = g.grants → d'.id = d.id →
      Viewer.requireDashboard ⟨c', s', .guest g', x'⟩ d' = v.requireDashboard d) ∧
    (c.InRange → ∀ d ∈ c.dashboards.rows, ∀ e, c.embeddingOf? d.id = some e →
      ∀ gr, gr.Names d.id e → c.requireGrants [gr] = .ok ()) ∧
    (g.roleId.bind c.role? = none →
      (∀ ds ∈ c.datasources.rows, v.requireAccess (.datasource ds) = .ok () ↔
        ∃ b ∈ c.dashboards.rows, v.requireDashboard b = .ok () ∧
          ∃ k ∈ b.chartIds, ∃ chart, c.chart? k = some chart ∧ chart.datasourceId = ds.id) ∧
      ∀ db t, v.requireAccess (.table db t) =
        .error (.tablesDenied (Denial.tables [t] s.instructionsLink))) := by
  intro v
  refine ⟨fun d => Viewer.requireDashboard_guest hs, ?_, ?_, ?_⟩
  · intro c' s' g' x' d d' hc hs' hg hd
    exact Viewer.requireDashboard_guest_congr hs hs' hc hg hd
  · intro hc d hd e he gr hgr
    exact hc.requireGrants hd he hgr
  · intro hrole
    have hroles : v.roles = [] := Viewer.roles_guest hrole
    have hguest : v.isGuest = true := by
      unfold Viewer.isGuest
      rw [Viewer.guest?_of_embedded hs]
      rfl
    refine ⟨?_, Viewer.requireTable_of_roles hroles⟩
    intro ds _
    rw [Viewer.requireDatasource_iff]
    simp only [Viewer.probe_of_roles hroles hguest, exists_eq_left]
    exact Viewer.canAccessThroughDashboard_iff

def kiosk : Catalog :=
  { Catalog.empty with
    datasources := .ofList [⟨⟨3⟩, none, none, "sales", none, none, true⟩]
    charts := .ofList [⟨⟨5⟩, ⟨3⟩⟩]
    dashboards := .ofList [⟨⟨7⟩, false, [], [], [⟨5⟩]⟩]
    embeddings := .ofList [⟨⟨138101147531900207301164854559698313416⟩, ⟨7⟩⟩] }

theorem kiosk_visitor_reaches_chart :
    let v : Viewer := ⟨kiosk, { AccessSettings.standard with embedded := true },
      .guest ⟨default, [⟨.dashboard, .number 7⟩], [], none⟩, .blank⟩
    v.requireDashboard ⟨⟨7⟩, true, [], [⟨9⟩], []⟩ = .ok () ∧
      kiosk.requireGrants [⟨.dashboard, .number 7⟩] = .ok () ∧
      v.requireAccess (.datasource ⟨⟨3⟩, none, none, "sales", none, none, true⟩) = .ok () := by
  have hconfined := guest_confined_to_grants kiosk
    { AccessSettings.standard with embedded := true } rfl
    ⟨default, [⟨.dashboard, .number 7⟩], [], none⟩ .blank
  obtain ⟨hopens, hsame, haccepted, hreaches⟩ := hconfined
  have hopen := (hopens ⟨⟨7⟩, false, [], [], [⟨5⟩]⟩).mpr
    ⟨_, rfl, ⟨.dashboard, .number 7⟩, by simp, rfl, .inl rfl⟩
  have hrange : kiosk.InRange := ⟨by decide +kernel, by decide +kernel⟩
  refine ⟨(hsame _ _ _ _ _ _ rfl rfl rfl rfl).trans hopen, ?_, ?_⟩
  · exact haccepted hrange ⟨⟨7⟩, false, [], [], [⟨5⟩]⟩ (by decide +kernel) _ rfl _ ⟨rfl, .inl rfl⟩
  · apply ((hreaches rfl).1 _ (by decide +kernel)).mpr
    exact ⟨_, by decide +kernel, hopen, ⟨5⟩, by simp, ⟨⟨5⟩, ⟨3⟩⟩, by decide +kernel, rfl⟩

/-- A grant that was accepted because it leads to an embedded dashboard opens it just if it is
written as the dashboard's identifier or as the uuid of the embedding that is found for it; numbers
always are. -/
theorem accepted_grant_opens_iff (c : Catalog) (s : AccessSettings) (x : Extractor)
    (hs : s.embedded = true) (d : Dashboard) (e : Embedding) (he : c.embeddingOf? d.id = some e)
    (ref : GuestRef) (href : c.LeadsTo ref d.id) :
    c.requireGrants [⟨.dashboard, ref⟩] = .ok () ∧
      ((∀ g : Guest, ⟨.dashboard, ref⟩ ∈ g.grants →
          Viewer.requireDashboard ⟨c, s, .guest g, x⟩ d = .ok ()) ↔
        ref.toText = d.id.text ∨ ref.toText = e.uuid.text) ∧
      ∀ n, ref = .number n → n ≤ Decimal.wordMax → ref.toText = d.id.text := by
  refine ⟨href.accepted, ?_, ?_⟩
  · constructor
    · intro hopens
      have hone := hopens ⟨default, [⟨.dashboard, ref⟩], [], none⟩ (by simp)
      obtain ⟨e', he', gr, hgr, hnames⟩ := (Viewer.requireDashboard_guest hs).mp hone
      obtain rfl := Option.some.inj (he.symm.trans he')
      obtain rfl := List.mem_singleton.mp hgr
      exact hnames.2
    · intro htext g hg
      apply (Viewer.requireDashboard_guest hs).mpr
      exact ⟨e, he, _, hg, rfl, htext⟩
  · rintro n rfl hn
    exact href.of_number hn

theorem kiosk_uuid_opens :
    kiosk.requireGrants [⟨.dashboard, .text "67e55044-10b1-426f-9247-bb680e5fe0c8"⟩] = .ok () ∧
      Viewer.requireDashboard ⟨kiosk, { AccessSettings.standard with embedded := true },
        .guest ⟨default, [⟨.dashboard, .text "67e55044-10b1-426f-9247-bb680e5fe0c8"⟩], [], none⟩,
        .blank⟩ ⟨⟨7⟩, false, [], [], [⟨5⟩]⟩ = .ok () := by
  obtain ⟨haccepted, hopens, -⟩ := accepted_grant_opens_iff kiosk
    { AccessSettings.standard with embedded := true } .blank rfl
    ⟨⟨7⟩, false, [], [], [⟨5⟩]⟩ ⟨⟨138101147531900207301164854559698313416⟩, ⟨7⟩⟩
    (by decide +kernel) (.text "67e55044-10b1-426f-9247-bb680e5fe0c8")
    (.uuid ⟨⟨138101147531900207301164854559698313416⟩, ⟨7⟩⟩ (by decide +kernel) rfl)
  exact ⟨haccepted, hopens.mpr (.inr (by decide +kernel)) _ (by simp)⟩

/-- The same uuid in capitals is accepted and opens nothing. -/
theorem kiosk_capital_uuid_accepted_and_denied :
    kiosk.LeadsTo (.text "67E55044-10B1-426F-9247-BB680E5FE0C8") ⟨7⟩ ∧
      kiosk.requireGrants [⟨.dashboard, .text "67E55044-10B1-426F-9247-BB680E5FE0C8"⟩] = .ok () ∧
      Viewer.requireDashboard ⟨kiosk, { AccessSettings.standard with embedded := true },
        .guest ⟨default, [⟨.dashboard, .text "67E55044-10B1-426F-9247-BB680E5FE0C8"⟩], [], none⟩,
        .blank⟩ ⟨⟨7⟩, false, [], [], [⟨5⟩]⟩ ≠ .ok () := by
  have hleads : kiosk.LeadsTo (.text "67E55044-10B1-426F-9247-BB680E5FE0C8") ⟨7⟩ :=
    .uuid ⟨⟨138101147531900207301164854559698313416⟩, ⟨7⟩⟩ (by decide +kernel) rfl
  refine ⟨hleads, hleads.accepted, ?_⟩
  rw [Ne, Viewer.requireDashboard_iff]
  decide +kernel

end Turnstile
