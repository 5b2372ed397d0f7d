import RtcVpn.Server.HttpSession

/-!
# The origin form of a target

A target in absolute form names the scheme and the authority of its server in
front of the path and the query. What `ToOriginForm` makes of it begins at the
first slash behind the scheme, so the path is found if there is one; if there
is none, the slash it finds is one of the query, or there is none to find.
-/

namespace RtcVpn

/-- A target in absolute form, by its parts. -/
structure AbsoluteForm where
  scheme : Bytes
  authority : Bytes
  path : Bytes
  query : Bytes
  httpScheme : scheme = text "http" ∨ scheme = text "https"
  noSlash : 0x2F ∉ authority
  noQuestion : 0x3F ∉ authority
  pathStart : path = [] ∨ ∃ rest, path = 0x2F :: rest
  queryStart : query = [] ∨ ∃ rest, query = 0x3F :: rest

namespace AbsoluteForm

/-- The target as it stands in the request. -/
def target (t : AbsoluteForm) : Bytes :=
  t.scheme ++ text "://" ++ (t.authority ++ t.path ++ t.query)

/-- The path, or a slash if it is empty, and the query. -/
def originForm (t : AbsoluteForm) : Bytes :=
  (if t.path = [] then text "/" else t.path) ++ t.query

end AbsoluteForm

/-- The target begins with the scheme of HTTP or HTTPS and what sets off the authority. -/
def HasHttpScheme (target : Bytes) : Prop :=
  text "http://" <+: target ∨ text "https://" <+: target

/-- Behind the scheme a target is cut at its first slash. -/
theorem to_origin_form_scheme {scheme : Bytes}
    (hscheme : scheme = text "http" ∨ scheme = text "https") (rest : Bytes) :
    toOriginForm (scheme ++ text "://" ++ rest) =
      match splitAtFirst 0x2F rest with
      | none => text "/"
      | some (_, path) => 0x2F :: path := by
  rcases hscheme with rfl | rfl
  · rfl
  · rfl

/-- A target that begins with a slash is left as it is. -/
theorem to_origin_form_slash (rest : Bytes) : toOriginForm (0x2F :: rest) = 0x2F :: rest := rfl

/-- A target without such a scheme is left as it is, unless it is empty. -/
theorem to_origin_form_other {target : Bytes} (h : ¬ HasHttpScheme target) :
    toOriginForm target = if target = [] then text "/" else target := by
  cases target with
  | nil => rfl
  | cons c rest =>
      have hhttp : (text "http://").isPrefixOf (c :: rest) = false := by
        by_contra hnot
        exact h (.inl (List.isPrefixOf_iff_prefix.mp (by simpa using hnot)))
      have hhttps : (text "https://").isPrefixOf (c :: rest) = false := by
        by_contra hnot
        exact h (.inr (List.isPrefixOf_iff_prefix.mp (by simpa using hnot)))
      unfold toOriginForm
      by_cases hc : c = 0x2F
      · simp [hc]
      · simp [hc, hhttp, hhttps]

/-- What is made of a target with such a scheme begins with a slash. -/
theorem to_origin_form_http {target : Bytes} (h : HasHttpScheme target) :
    ∃ rest, toOriginForm target = 0x2F :: rest := by
  have hscheme : ∃ scheme rest, (scheme = text "http" ∨ scheme = text "https") ∧
      target = scheme ++ text "://" ++ rest := by
    rcases h with ⟨rest, rfl⟩ | ⟨rest, rfl⟩
    · exact ⟨text "http", rest, .inl rfl, rfl⟩
    · exact ⟨text "https", rest, .inr rfl, rfl⟩
  obtain ⟨scheme, rest, hscheme, rfl⟩ := hscheme
  rw [to_origin_form_scheme hscheme]
  split
  · exact ⟨[], rfl⟩
  · next path _ => exact ⟨path, rfl⟩

/-- The origin form of an absolute target is found just if the target has a path or no query. -/
theorem to_origin_form_absolute (t : AbsoluteForm) :
    toOriginForm t.target = t.originForm ↔ t.path ≠ [] ∨ t.query = [] := by
  rw [AbsoluteForm.target, to_origin_form_scheme t.httpScheme, AbsoluteForm.originForm]
  rcases t.pathStart with hpath | ⟨path, hpath⟩
  · rw [hpath, if_pos rfl, List.append_nil]
    rcases t.queryStart with hquery | ⟨query, hquery⟩
    · -- neither a path nor a query: there is no slash
      rw [hquery, List.append_nil, splitAtFirst_eq_none.mpr t.noSlash]
      simp
    · have hne : t.query ≠ [] := by
        rw [hquery]
        nofun
      refine iff_of_false ?_ (by simp [hne])
      cases hsplit : splitAtFirst 0x2F (t.authority ++ t.query) with
      | none =>
          intro heq
          exact hne (List.append_cancel_left (heq.symm.trans (List.append_nil _).symm))
      | some parts =>
          -- the slash belongs to the query, so less than the query stands behind it
          obtain ⟨front, rest⟩ := parts
          obtain ⟨hwhole, -⟩ := splitAtFirst_eq_some hsplit
          intro heq
          obtain rfl : rest = t.query := (List.cons.inj heq).2
          have hauthority : t.authority = front ++ [0x2F] := by
            have hsame : t.authority ++ t.query = (front ++ [0x2F]) ++ t.query := by
              rw [hwhole, List.append_assoc]
              rfl
            exact List.append_cancel_right hsame
          exact t.noSlash (by rw [hauthority]; simp)
  · have hne : t.path ≠ [] := by
      rw [hpath]
      nofun
    refine iff_of_true ?_ (.inl hne)
    rw [if_neg hne, hpath, List.append_assoc, List.cons_append,
      splitAtFirst_append t.noSlash]

/-- Every other target is left as it is just if it has a character. -/
theorem to_origin_form_unchanged {target : Bytes}
    (h : (∃ rest, target = 0x2F :: rest) ∨ ¬ HasHttpScheme target) :
    toOriginForm target = target ↔ target ≠ [] := by
  rcases h with ⟨rest, rfl⟩ | hother
  · rw [to_origin_form_slash]
    simp
  · rw [to_origin_form_other hother]
    by_cases hempty : target = []
    · subst hempty
      exact iff_of_false (by decide) (by simp)
    · simp [hempty]

/-- Nothing is done the second time. -/
theorem to_origin_form_idempotent (target : Bytes) :
    toOriginForm (toOriginForm target) = toOriginForm target := by
  by_cases hhttp : HasHttpScheme target
  · obtain ⟨rest, hrest⟩ := to_origin_form_http hhttp
    rw [hrest, to_origin_form_slash]
  · rw [to_origin_form_other hhttp]
    by_cases hempty : target = []
    · rw [if_pos hempty]
      rfl
    · rw [if_neg hempty, to_origin_form_other hhttp, if_neg hempty]

/-- `ToOriginForm` computes the origin form of an absolute target, leaves every other target as it
is and does nothing the second time, just if the target is not empty and has a path or no query. -/
theorem to_origin_form_exact (target : Bytes) :
    ((∀ t : AbsoluteForm, t.target = target → toOriginForm target = t.originForm) ∧
      ((∃ rest, target = 0x2F :: rest) ∨ ¬ HasHttpScheme target →
        toOriginForm target = target) ∧
      toOriginForm (toOriginForm target) = toOriginForm target) ↔
    target ≠ [] ∧ ∀ t : AbsoluteForm, t.target = target → t.path ≠ [] ∨ t.query = [] := by
  have habsolute : (∀ t : AbsoluteForm, t.target = target → toOriginForm target = t.originForm) ↔
      ∀ t : AbsoluteForm, t.target = target → t.path ≠ [] ∨ t.query = [] :=
    forall_congr' fun t => forall_congr' fun ht => by rw [← ht, to_origin_form_absolute]
  have hother : ((∃ rest, target = 0x2F :: rest) ∨ ¬ HasHttpScheme target →
      toOriginForm target = target) ↔ target ≠ [] := by
    constructor
    · rintro h rfl
      have hnone : ¬ HasHttpScheme [] := by
        rw [HasHttpScheme, List.prefix_nil, List.prefix_nil]
        decide
      exact (to_origin_form_unchanged (.inr hnone)).mp (h (.inr hnone)) rfl
    · intro hne h
      exact (to_origin_form_unchanged h).mpr hne
  rw [habsolute, hother, and_iff_left (to_origin_form_idempotent target)]
  exact and_comm

/-- A target with a query and no path. -/
def queryOnly : AbsoluteForm where
  scheme := text "http"
  authority := text "a"
  path := []
  query := text "?x=/y"
  httpScheme := .inl rfl
  noSlash := by decide
  noQuestion := by decide
  pathStart := .inl rfl
  queryStart := .inr ⟨text "x=/y", rfl⟩

/-- The server is asked for a path that stands in the query. -/
theorem query_taken_for_path :
    queryOnly.target = text "http://a?x=/y" ∧ toOriginForm queryOnly.target = text "/y" ∧
      queryOnly.originForm = text "/?x=/y" ∧
      ¬ ∀ t : AbsoluteForm, toOriginForm t.target = t.originForm := by
  refine ⟨rfl, rfl, rfl, fun h => ?_⟩
  exact absurd (h queryOnly) (by decide)

end RtcVpn
