import LinkPattern.Proofs.Alignment.Tiling
import LinkPattern.Proofs.Matching
import LinkPattern.Proofs.Url.Site
import LinkPattern.Proofs.Url.Subject

/-!
# Literals as URLs

A literal is escaped piece by piece, as the components of a URL are. So the pattern that is nothing
but a literal matches the URL that has the same text behind a host, whatever characters are in it and
whatever scheme the URL has; only the dot segments of a path are not found again.
-/

namespace LinkPattern

variable {F : Type}

namespace Escaping

variable (e : Escaping)

theorem escape_of_opened? {c : Component} {t : Text} (h : ∀ x ∈ t, c.opened? x = none) :
    e.escape c t = Percent.escape (e.set c) (t.map (e.normalize c)) := by
  induction t with
  | nil => rfl
  | cons x t ih =>
    have hx := h x (by simp)
    rw [escape, List.map_cons, Percent.escape, List.flatMap_cons, ← Percent.escape,
      ← ih fun y hy => h y (List.mem_cons_of_mem _ hy)]
    simp only [hx]
    rfl

theorem map_normalize {c : Component} (hc : c ≠ .path) (t : Text) : t.map (e.normalize c) = t := by
  refine (List.map_congr_left fun x _ => ?_).trans (List.map_id' t)
  exact if_neg fun h => hc h.1

theorem escape_parts (t : Text) :
    e.escape .path t = Percent.escape (e.set .path) ((Url.frontOf t).map (e.normalize .path)) ++
      (Url.queryOf? t).elim [] ('?' :: Percent.escape (e.set .query) ·) ++
      (Url.fragmentOf? t).elim [] ('#' :: Percent.escape (e.set .fragment) ·) := by
  have hfront : ∀ x ∈ Url.frontOf t, Component.path.opened? x = none := fun x hx =>
    Component.opened?_path.mpr (Url.undelimited_frontOf t x hx)
  have hfragment : ∀ c : Component, c ≠ .fragment →
      e.escape c ((Url.fragmentOf? t).elim [] ('#' :: ·)) =
        (Url.fragmentOf? t).elim [] ('#' :: Percent.escape (e.set .fragment) ·) := by
    intro c hc
    have hopened : c.opened? '#' = some .fragment := by
      cases c with
      | path => rfl
      | query => rfl
      | fragment => exact absurd rfl hc
    cases Url.fragmentOf? t with
    | none => rfl
    | some f =>
      have hf := e.escape_of_opened? (c := .fragment) (t := f) fun _ _ => rfl
      rw [e.map_normalize (by decide)] at hf
      simp only [Option.elim_some, escape, hopened, hf]
  conv_lhs => rw [← Url.flatten_parts t, escape_append, escape_append, e.escape_of_opened? hfront,
    Component.after_append, Component.after_eq_self hfront]
  -- a fragment may be opened from the path or from the query
  cases hq : Url.queryOf? t with
  | none => simp only [Option.elim_none, escape, Component.after, hfragment .path (by decide)]
  | some q =>
    have hquery : ∀ x ∈ q, Component.query.opened? x = none := fun x hx =>
      Component.opened?_query.mpr fun hd => Url.not_mem_queryOf? hq (hd ▸ hx)
    have hafter : Component.path.after ('?' :: q) = .query := Component.after_eq_self hquery
    simp only [Option.elim_some, hafter, hfragment .query (by decide)]
    rw [escape]
    simp only [Component.opened?, e.escape_of_opened? hquery, e.map_normalize (c := .query) (by decide)]

end Escaping

/-! ## At a site -/

namespace Url.Site

variable (site : Site) {t : Text}

theorem map_normalize_path (path : Text) :
    path.map (Escaping.normalize ⟨site.kind.isSpecial, false⟩ .path) = Path.slashed site.kind path := by
  refine List.map_congr_left fun x _ => ?_
  by_cases hx : x = '/'
  · simp [Escaping.normalize, Authority.isSlash, hx]
  · simp [Escaping.normalize, Authority.isSlash, hx]

theorem subject_text_literal {p : Pattern F} (hp : p.segments = [.literal t]) :
    ((site.url t).subject p.addressesQuery p.addressesFragment).text = (site.url t).escaping.escape .path t := by
  have hopens : Pattern.opened .path p.segments = Component.path.opens t := by
    rw [hp, Pattern.opened_literal]
  have hescaping : (site.url t).escaping = ⟨site.kind.isSpecial, false⟩ := escaping_eq (site.url t)
  rw [Url.subject_text hopens rfl rfl, Escaping.escape_parts, hescaping, site.map_normalize_path, Escaping.set_path,
    Escaping.set_query, Escaping.set_fragment]
  rfl

end Url.Site

theorem Pattern.Builder.segments_literal {t : Text} (ht : t ≠ []) :
    ((Builder.empty : Builder F).literal t).build.segments = [.literal t] := by
  simp [Builder.literal, Builder.empty, Builder.build, ht]

theorem align_escape (e : Escaping) (t : Text) : align [(.literal t : Segment F)] (e.escape .path t) e = .ok [] := by
  have hdrop : (e.escape .path t).isPrefixOf? (e.escape .path t) = some [] :=
    List.isPrefixOf?_eq_some_iff_append_eq.mpr (List.append_nil _)
  rw [align, Alignment.align_literal, hdrop]
  rfl

theorem Matcher.bindings_literal (site : Url.Site) {t : Text} (ht : Url.IsTail t)
    (hdot : Url.Path.Undotted site.kind (Url.frontOf t)) {p : Pattern F} (hp : p.segments = [.literal t]) :
    ({} : Matcher).bindings p (site.text ++ t) = .ok [] := by
  refine Matcher.bindings_eq_ok.mpr ⟨site.url t, [], site.parse_of_undotted ht hdot none, rfl, ?_, rfl⟩
  rw [site.subject_text_literal hp, hp]
  exact align_escape _ t

/-- A literal matches the text that it is, whatever characters that has in whichever component, where a
backslash is a slash and where it is not. -/
theorem bindings_of_literal {t : Text} (ht : Url.IsTail t) :
    let p : Pattern F := (Pattern.Builder.empty.literal t).build
    (Url.Path.Undotted .special (Url.frontOf t) →
        ({} : Matcher).bindings p ("https://example.com".toList ++ t) = .ok []) ∧
      (Url.Path.Undotted .other (Url.frontOf t) →
        ({} : Matcher).bindings p ("app://shop".toList ++ t) = .ok []) := by
  intro p
  have hne : t ≠ [] := by
    rintro rfl
    cases ht.absolute
  have hp : p.segments = [.literal t] := Pattern.Builder.segments_literal hne
  have hhttps : Url.Site.example.kind = .special := by decide
  have happ : Url.Site.shop.kind = .other := by decide
  refine ⟨fun hdot => ?_, fun hdot => ?_⟩
  · exact Matcher.bindings_literal Url.Site.example ht (hhttps ▸ hdot) hp
  · exact Matcher.bindings_literal Url.Site.shop ht (happ ▸ hdot) hp

/-- Every component has characters that are escaped in it and not in another, and delimiters that are
none. -/
theorem bindings_of_literal_mixed :
    let t := "/é ^`\\..x/%2e.x|?q='\"` ?\\..\\#<`'?#".toList
    let p : Pattern Text := (Pattern.Builder.empty.literal t).build
    ({} : Matcher).bindings p ("https://example.com".toList ++ t) = .ok [] ∧
      ({} : Matcher).bindings p ("app://shop".toList ++ t) = .ok [] := by
  intro t p
  have hsignificant : t.all (Url.isIgnored · = false) = true := by decide
  have ht : Url.IsTail t :=
    { absolute := rfl
      significant := fun x hx => by simpa using List.all_eq_true.mp hsignificant x hx
      visible := by rintro x ⟨⟩; decide }
  obtain ⟨hhttps, happ⟩ := bindings_of_literal (F := Text) ht
  exact ⟨hhttps (by decide), happ (by decide)⟩

end LinkPattern
