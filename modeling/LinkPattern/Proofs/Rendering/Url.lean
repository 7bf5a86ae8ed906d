import LinkPattern.NamedValues
import LinkPattern.Proofs.Component
import LinkPattern.Proofs.Matching
import LinkPattern.Proofs.Rendering.Subject
import LinkPattern.Proofs.Url.Site
import LinkPattern.Proofs.Url.Subject

/-!
# Patterns as URLs

A pattern with its values filled in, written behind a host, is a plain URL, and what is matched
against the pattern is what was written. Only a value that leaves a dot segment in the path is lost,
for a URL has none: its path is shortened before it is matched, however the dots were escaped.
-/

namespace LinkPattern

open LinkPattern.Alignment

variable {F : Type}

namespace Assignment

variable (v : Assignment F) {segments : List (Segment F)}

def rendered (segments : List (Segment F)) : Text := segments.flatMap v.shown

/-! ## Components of what is written -/

theorem opened?_of_mem_shown {s : Segment F} (hs : s.isPlaceholder = true)
    (hsep : ∀ d ∈ s.separator?, d = ',' ∨ d = ';') (c : Component) : ∀ x ∈ v.shown s, c.opened? x = none := by
  intro x hx
  have hne : x ≠ '?' ∧ x ≠ '#' := by
    rcases v.writes_of_mem_shown hs hx with h | rfl | h
    · constructor
      · rintro rfl; cases h
      · rintro rfl; cases h
    · decide
    · rcases hsep x h with rfl | rfl <;> decide
  exact Component.opened?_eq_none hne.1 hne.2

/-- Values open nothing, so the pattern opens what its rendering does. -/
theorem opens_rendered (hsep : ∀ s ∈ segments, ∀ d ∈ s.separator?, d = ',' ∨ d = ';') (c : Component) :
    c.opens (segments.flatMap Segment.literalText) = c.opens (v.rendered segments) := by
  induction segments generalizing c with
  | nil => rfl
  | cons s segments ih =>
    have ih := ih (fun s' hs' => hsep s' (List.mem_cons_of_mem _ hs'))
    rw [rendered, List.flatMap_cons, List.flatMap_cons, Component.opens_append, Component.opens_append, ih]
    cases hs : s.isPlaceholder with
    | true =>
      have hnone := v.opened?_of_mem_shown hs (hsep s (by simp)) c
      rw [Segment.literalText_of_isPlaceholder hs, Component.opens_eq_nil hnone, Component.after_eq_self hnone]
      rfl
    | false =>
      obtain ⟨t, rfl⟩ := Segment.eq_literal hs
      rfl

end Assignment

/-! ## Escapes -/

theorem Escaping.escape_of_plain {t : Text} (ht : Url.Plain t) (c : Component) :
    Escaping.escape ⟨true, false⟩ c t = t := by
  induction t generalizing c with
  | nil => rfl
  | cons x t ih =>
    have ih := ih fun y hy => ht y (List.mem_cons_of_mem _ hy)
    have hx := Url.unchanged_of_isPlain (ht x (by simp))
    unfold escape
    cases ho : c.opened? x with
    | some d => simp only [ih]
    | none =>
      have hset : Escaping.set ⟨true, false⟩ c x = false := by
        cases c with
        | path =>
          rw [set_path]
          exact hx.path (Component.opened?_path.mp ho).1 (Component.opened?_path.mp ho).2
        | query =>
          rw [set_query]
          exact hx.query (Component.opened?_query.mp ho)
        | fragment =>
          rw [set_fragment]
          exact hx.fragment
      have hnorm : Escaping.normalize ⟨true, false⟩ c x = x := if_neg fun h => hx.noBackslash h.2.2.2
      have hchar : Escaping.escapeChar ⟨true, false⟩ c x = [x] := by
        rw [escapeChar, hnorm, Percent.escapeChar_eq_self hx.ascii hset]
      simp only [hchar, ih, List.singleton_append]

theorem Assignment.flatten_pieces (v : Assignment F) {segments : List (Segment F)}
    (hlit : ∀ t, .literal t ∈ segments → Url.Plain t) (c : Component) :
    (v.pieces ⟨true, false⟩ c segments).flatten = v.rendered segments := by
  induction segments generalizing c with
  | nil => rfl
  | cons s segments ih =>
    have ih := ih fun t ht => hlit t (List.mem_cons_of_mem _ ht)
    cases hs : s.isPlaceholder with
    | true => rw [v.pieces_placeholder hs, List.flatten_cons, ih, rendered, rendered, List.flatMap_cons]
    | false =>
      obtain ⟨t, rfl⟩ := Segment.eq_literal hs
      rw [pieces, List.flatten_cons, ih, Escaping.escape_of_plain (hlit t (by simp))]
      rfl

/-! ## Round trip -/

def isUrlText (c : Char) : Bool := c.isAlphanum || "/=&?#-".toList.contains c

/-- What is asked of a pattern and of values for its fields, so that the rendering is a plain URL. -/
structure Assignment.Renders (v : Assignment F) (segments : List (Segment F)) : Prop where
  absolute : ∃ t, segments.head? = some (.literal ('/' :: t))
  literal : ∀ t, .literal t ∈ segments → t.all isUrlText = true
  after : ∀ i s t, segments[i]? = some s → s.isPlaceholder = true → segments[i + 1]? = some (.literal t) →
    ∀ x ∈ t.head?, x.isAlphanum = false
  separator : ∀ f d, .list f d ∈ segments → d = ',' ∨ d = ';'
  text : ∀ f, .field f ∈ segments → v.text f ≠ []
  items : ∀ f d, .list f d ∈ segments → v.items f ≠ [[]]

namespace Assignment.Renders

variable {v : Assignment F} {segments : List (Segment F)}

theorem separator_of_mem (h : v.Renders segments) {s : Segment F} (hs : s ∈ segments) :
    ∀ d ∈ s.separator?, d = ',' ∨ d = ';' := by
  intro d hd
  cases s with
  | literal t => cases hd
  | field f => cases hd
  | list f d' => cases hd; exact h.separator f d hs

theorem plain_literal (h : v.Renders segments) {t : Text} (ht : .literal t ∈ segments) : Url.Plain t := by
  intro x hx
  rcases Bool.or_eq_true_iff.mp (List.all_eq_true.mp (h.literal t ht) x hx) with ha | hm
  · simp [Url.isPlain, ha]
  · have hsub : "/=&?#-".toList.all Url.isPlain = true := by decide
    exact List.all_eq_true.mp hsub x (List.contains_iff_mem.mp hm)

theorem plain_rendered (h : v.Renders segments) : Url.Plain (v.rendered segments) := by
  intro x hx
  obtain ⟨s, hs, hx⟩ := List.mem_flatMap.mp hx
  cases hp : s.isPlaceholder with
  | false =>
    obtain ⟨t, rfl⟩ := Segment.eq_literal hp
    exact h.plain_literal hs x hx
  | true =>
    rcases v.writes_of_mem_shown hp hx with ha | rfl | hd
    · simp [Url.isPlain, ha]
    · decide
    · rcases h.separator_of_mem hs x hd with rfl | rfl <;> decide

theorem head?_rendered (h : v.Renders segments) : (v.rendered segments).head? = some '/' := by
  obtain ⟨t, ht⟩ := h.absolute
  obtain ⟨rest, rfl⟩ := List.head?_eq_some_iff.mp ht
  rfl

theorem readable (h : v.Renders segments) {s : Segment F} (hs : s ∈ segments) : v.Readable {} s where
  separator d hd := by rcases h.separator_of_mem hs d hd with rfl | rfl <;> decide
  list f d he := h.items f d (he ▸ hs)
  field f he hempty := absurd hempty (h.text f (he ▸ hs))

variable [Vocabulary F]

theorem separated (h : v.Renders segments) (hw : Pattern.WellFormed segments) :
    Separated segments (v.pieces ⟨true, false⟩ .path segments) := by
  intro i s x y hi hs hlen hx hy
  rw [v.getElem?_pieces _ _ hi hs, Option.some_inj] at hx
  obtain ⟨t, ht⟩ := hw.alternates.literal_after hi hs (by omega)
  have hmem := List.mem_of_getElem? ht
  rw [(v.tiles_pieces _ _ segments).getElem?_literal ht, Escaping.escape_of_plain (h.plain_literal hmem),
    Option.some_inj] at hy
  subst hx hy
  cases ht' : t with
  | nil => exact absurd ht' (hw.nonempty t hmem)
  | cons d t' =>
    subst ht'
    have halnum := h.after i s _ hi hs ht d rfl
    refine ⟨d, rfl, fun hm => ?_⟩
    -- no literal has a percent sign or a separator in it
    have hchars : d ∉ "%,;".toList := by
      intro hd
      have hall : "%,;".toList.all (fun z => !isUrlText z) = true := by decide
      have hnot := List.all_eq_true.mp hall d hd
      rw [List.all_eq_true.mp (h.literal _ hmem) d (by simp)] at hnot
      cases hnot
    rcases v.writes_of_mem_shown hs hm with ha | rfl | hd
    · rw [halnum] at ha; cases ha
    · exact hchars (by decide)
    · rcases h.separator_of_mem (List.mem_of_getElem? hi) d hd with rfl | rfl
      · exact hchars (by decide)
      · exact hchars (by decide)

end Assignment.Renders

variable [DecidableEq F] [Vocabulary F]

/-- A template's pattern matches the URL that is written for it with any values, and gives these
values, in whatever record, as long as no segment of the path that is written is a dot segment. -/
theorem bindings_of_rendered_url {t : Text} {p : Pattern F} (h : Pattern.ofTemplate t = .ok p) {v : Assignment F}
    (hv : v.Renders p.segments)
    (hdot : ∀ s ∈ Text.splitOn '/' (Url.frontOf (v.rendered p.segments)),
      Url.Path.isDot s = false ∧ Url.Path.isDoubleDot s = false) :
    ({} : Matcher).bindings p ("https://example.com".toList ++ v.rendered p.segments) =
        .ok (v.bindings {} p.segments) ∧
      ∀ {R : Type} [Record R F] (record : R),
        ({} : Matcher).matchUrl p ("https://example.com".toList ++ v.rendered p.segments) record =
          .ok (Bindings.store record (v.bindings {} p.segments)) := by
  have hw := (Pattern.Made.template h).wellFormed
  have hparse := Url.parse_of_plain hv.plain_rendered hv.head?_rendered hdot
  have hopens : Pattern.opened .path p.segments = Component.path.opens (v.rendered p.segments) := by
    rw [Pattern.opened_eq_opens, v.opens_rendered fun s hs => hv.separator_of_mem hs]
  have htext := Url.subject_text_of_opens hopens "https".toList
  have halign := align_flatten hw.alternates (v.tiles_pieces ⟨true, false⟩ .path p.segments) (hv.separated hw) 0
  rw [v.flatten_pieces fun t ht => hv.plain_literal ht] at halign
  have hbind := fun query? => v.ofCaptures_pieces (o := {}) (fun s hs _ => hv.readable hs) query? ⟨true, false⟩ .path 0
  have hmatch : ({} : Matcher).bindings p ("https://example.com".toList ++ v.rendered p.segments) =
      .ok (v.bindings {} p.segments) :=
    Matcher.bindings_eq_ok.mpr ⟨_, _, hparse, rfl, by rw [htext]; exact halign, hbind _⟩
  exact ⟨hmatch, fun record => by rw [Matcher.matchUrl, hmatch]; rfl⟩

/-- Dots are kept in a path segment that has something else in it, and in a query. -/
theorem bindings_of_rendered_url_dots :
    ∃ p : Pattern Text, Pattern.ofTemplate "/{a}-{b}?t={l|,}".toList = .ok p ∧
      ({} : Matcher).bindings p "https://example.com/%2E-%2E%2E?t=%2E,".toList =
        .ok [(['a'], .text ['.']), (['b'], .text ['.', '.']), (['l'], .list [['.'], []])] := by
  let segments : List (Segment Text) :=
    [.literal ['/'], .field ['a'], .literal ['-'], .field ['b'], .literal "?t=".toList, .list ['l'] ',']
  let v : Assignment Text := ⟨fun f => if f = ['a'] then ['.'] else ['.', '.'], fun _ => [['.'], []]⟩
  have hp : Pattern.ofTemplate "/{a}-{b}?t={l|,}".toList = .ok (Pattern.of segments) := by decide +kernel
  have hv : v.Renders segments :=
    { absolute := ⟨[], rfl⟩
      literal := by
        intro t ht
        simp only [segments, List.mem_cons, Segment.literal.injEq, reduceCtorEq, List.not_mem_nil, or_false,
          false_or] at ht
        rcases ht with rfl | rfl | rfl <;> decide
      after := by
        intro i s t hi hs ht
        rcases i with _ | _ | _ | _ | i
        · cases hi; cases hs
        · cases ht; rintro x ⟨⟩; decide
        · cases hi; cases hs
        · cases ht; rintro x ⟨⟩; decide
        · rcases i with _ | i
          · cases hi; cases hs
          · simp [segments] at ht
      separator := by intro f d hf; simp [segments] at hf; exact .inl hf.2
      text := by intro f _; by_cases hf : f = ['a'] <;> simp [v, hf]
      items := by intro f d _; simp [v] }
  exact ⟨_, hp, (bindings_of_rendered_url hp hv (by decide +kernel)).1⟩

/-- The only value of `/{a}` is a dot. However it is escaped, it names no segment of a path. -/
theorem exists_rendered_unmatched :
    ∃ (p : Pattern Text) (v : Assignment Text), Pattern.ofTemplate "/{a}".toList = .ok p ∧ v.Renders p.segments ∧
      ({} : Matcher).bindings p ("https://example.com".toList ++ v.rendered p.segments) = .error .noMatch := by
  let segments : List (Segment Text) := [.literal ['/'], .field ['a']]
  let v : Assignment Text := ⟨fun _ => ['.'], fun _ => []⟩
  refine ⟨.of segments, v, by decide +kernel, ?_, by decide +kernel⟩
  exact
    { absolute := ⟨[], rfl⟩
      literal := by
        intro t ht
        simp only [Pattern.segments_of, segments, List.mem_cons, Segment.literal.injEq, reduceCtorEq, List.not_mem_nil, or_false] at ht
        subst ht
        decide
      after := by
        intro i s t hi hs ht
        rcases i with _ | i
        · cases hi; cases hs
        · simp [segments] at ht
      separator := by intro f d hf; simp [segments] at hf
      text := by intro f _; simp [v]
      items := by intro f d hf; simp [segments] at hf }

end LinkPattern
