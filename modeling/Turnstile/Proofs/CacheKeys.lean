import Mathlib.Data.List.Basic
import Turnstile.Access.RowSecurity

namespace Turnstile

/-- Texts with identifiers behind them can be the same in two ways: part by part, or with the first
identifiers of one side among the texts of the other. -/
theorem texts_append_ids_eq_iff {kind : Kind} {xs ys : List String} {is js : List (Id kind)} :
    xs ++ is.map Id.text = ys ++ js.map Id.text ↔
      (xs = ys ∧ is = js) ∨
      (∃ ks, ks ≠ [] ∧ xs = ys ++ ks.map Id.text ∧ js = ks ++ is) ∨
      (∃ ks, ks ≠ [] ∧ ys = xs ++ ks.map Id.text ∧ is = ks ++ js) := by
  have hinj : Function.Injective (List.map (@Id.text kind)) :=
    List.map_injective_iff.mpr fun _ _ h => Id.text_inj.mp h
  constructor
  · intro h
    rcases List.append_eq_append_iff.mp h with ⟨zs, hys, his⟩ | ⟨zs, hxs, hjs⟩
    · obtain ⟨ks, ls, rfl, rfl, hls⟩ := List.map_eq_append_iff.mp his
      obtain rfl := hinj hls
      cases ks with
      | nil => exact .inl ⟨by simpa using hys.symm, rfl⟩
      | cons k ks => exact .inr (.inr ⟨k :: ks, by simp, hys, rfl⟩)
    · obtain ⟨ks, ls, rfl, rfl, hls⟩ := List.map_eq_append_iff.mp hjs
      obtain rfl := hinj hls
      cases ks with
      | nil => exact .inl ⟨by simpa using hxs, rfl⟩
      | cons k ks => exact .inr (.inl ⟨k :: ks, by simp, hxs, rfl⟩)
  · rintro (⟨rfl, rfl⟩ | ⟨ks, _, rfl, rfl⟩ | ⟨ks, _, rfl, rfl⟩)
    · rfl
    · simp
    · simp

namespace Viewer
variable {v w : Viewer} {d : Datasource}

/-- The same clauses and the same filters bind both. -/
def RestrictedAlike (v w : Viewer) (d : Datasource) : Prop :=
  v.guestClauses d = w.guestClauses d ∧ v.filterIds d = w.filterIds d

/-- The clauses that the first carries are those of the second and, behind them, the identifiers of
the first filters that bind the second; the other filters are those that bind the first. -/
def ShiftedFrom (v w : Viewer) (d : Datasource) : Prop :=
  ∃ ids, ids ≠ [] ∧ v.guestClauses d = w.guestClauses d ++ ids.map Id.text ∧
    w.filterIds d = ids ++ v.filterIds d

theorem ShiftedFrom.not_alike (h : v.ShiftedFrom w d) : ¬ v.RestrictedAlike w d := by
  obtain ⟨ids, hne, hclauses, _⟩ := h
  intro ⟨hsame, _⟩
  rw [hsame] at hclauses
  exact hne (by simpa using hclauses)

theorem RestrictedAlike.symm (h : v.RestrictedAlike w d) : w.RestrictedAlike v d :=
  ⟨h.1.symm, h.2.symm⟩

/-- Keys are lists of texts in which clauses and identifiers are not told apart: two are equal
just if the clauses and filters are, or if the clauses of one go on as the identifiers of the
other do. -/
theorem cacheKey_eq_iff (hd : d.isRowFilterable = true) : v.cacheKey d = w.cacheKey d ↔
    v.RestrictedAlike w d ∨ v.ShiftedFrom w d ∨ w.ShiftedFrom v d := by
  unfold cacheKey
  rw [if_pos hd, if_pos hd]
  exact texts_append_ids_eq_iff

theorem mem_filterIds {id : RowFilterId} (h : id ∈ v.filterIds d) :
    ∃ f ∈ v.catalog.rowFiltersOn d.id, f.id = id := by
  obtain ⟨f, hf, rfl⟩ := List.mem_map.mp h
  exact ⟨f, (List.mem_filter.mp hf).1, rfl⟩

/-- The clauses are shifted only if one of them reads as a filter's identifier. -/
theorem ShiftedFrom.clause (h : v.ShiftedFrom w d) :
    ∃ f ∈ w.catalog.rowFiltersOn d.id, f.id.text ∈ v.guestClauses d := by
  obtain ⟨ids, hne, hclauses, hids⟩ := h
  obtain ⟨id, hid⟩ := List.exists_mem_of_ne_nil ids hne
  have hbound : id ∈ w.filterIds d := by
    rw [hids]
    exact List.mem_append_left _ hid
  obtain ⟨f, hf, rfl⟩ := mem_filterIds hbound
  refine ⟨f, hf, ?_⟩
  rw [hclauses]
  exact List.mem_append_right _ (List.mem_map_of_mem hid)

/-- Two principals before one catalog whose keys are the same are restricted alike, except if the
clauses of one are those of the other with identifiers of the other's filters behind them. That
never happens if no clause reads as the identifier of a filter on the datasource. -/
theorem equal_keys_restrict_alike_iff (c : Catalog) (s : AccessSettings) (x : Extractor)
    (p q : Principal) (d : Datasource) (hd : d.isRowFilterable = true) :
    let v : Viewer := ⟨c, s, p, x⟩
    let w : Viewer := ⟨c, s, q, x⟩
    ((v.cacheKey d = w.cacheKey d → v.RestrictedAlike w d) ↔
      ¬ v.ShiftedFrom w d ∧ ¬ w.ShiftedFrom v d) ∧
    ((∀ f ∈ c.rowFiltersOn d.id, f.id.text ∉ v.guestClauses d ∧ f.id.text ∉ w.guestClauses d) →
      (v.cacheKey d = w.cacheKey d ↔ v.RestrictedAlike w d)) := by
  intro v w
  refine ⟨⟨fun h => ⟨fun hs => ?_, fun hs => ?_⟩, fun ⟨hv, hw⟩ h => ?_⟩, fun hfree => ?_⟩
  · exact hs.not_alike (h ((cacheKey_eq_iff hd).mpr (.inr (.inl hs))))
  · exact hs.not_alike (h ((cacheKey_eq_iff hd).mpr (.inr (.inr hs)))).symm
  · rcases (cacheKey_eq_iff hd).mp h with h | h | h
    · exact h
    · exact absurd h hv
    · exact absurd h hw
  · rw [cacheKey_eq_iff hd, or_iff_left]
    rintro (h | h)
    · obtain ⟨f, hf, hmem⟩ := h.clause
      exact (hfree f hf).1 hmem
    · obtain ⟨f, hf, hmem⟩ := h.clause
      exact (hfree f hf).2 hmem

def regional : Catalog :=
  { Catalog.empty with
    roles := .ofList [⟨⟨1⟩, "Sales", .empty⟩]
    datasources := .ofList [⟨⟨7⟩, none, none, "orders", none, none, true⟩]
    rowFilters := .ofList [⟨⟨1⟩, .regular, none, "region = 'EU'", .ofIds [⟨1⟩], .ofIds [⟨7⟩]⟩] }

def regionalHolder : Viewer :=
  ⟨regional, { AccessSettings.standard with embedded := true }, .user ⟨1⟩ [⟨1⟩], .blank⟩

def regionalGuest (clause : String) : Viewer :=
  { regionalHolder with principal := .guest ⟨default, [], [⟨none, clause⟩], none⟩ }

def orders : Datasource := ⟨⟨7⟩, none, none, "orders", none, none, true⟩

/-- A guest whose clause is no number has a key of its own. -/
theorem tenant_clause_keeps_its_key : orders.isRowFilterable = true ∧
    (regionalGuest "tenant = 4").cacheKey orders ≠ regionalHolder.cacheKey orders := by
  have halike : ¬ (regionalGuest "tenant = 4").RestrictedAlike regionalHolder orders :=
    fun h => absurd h.1 (by decide +kernel)
  have hiff := (equal_keys_restrict_alike_iff regional regionalHolder.settings
    regionalHolder.extract (regionalGuest "tenant = 4").principal regionalHolder.principal orders
    rfl).2 (by decide +kernel)
  exact ⟨rfl, fun h => halike (hiff.mp h)⟩

/-- A guest whose clause is the number of a filter that does not bind it has the key of those whom
the filter binds. -/
theorem numeric_clause_shares_key :
    (regionalGuest "1").cacheKey orders = regionalHolder.cacheKey orders ∧
      ¬ (regionalGuest "1").RestrictedAlike regionalHolder orders := by
  refine ⟨by decide +kernel, ?_⟩
  intro ⟨hclauses, _⟩
  exact absurd hclauses (by decide +kernel)

end Viewer
end Turnstile
