import LinkPattern.Proofs.Alignment.Leftmost
import LinkPattern.Proofs.Component
import LinkPattern.Proofs.Matching
import LinkPattern.Proofs.Url.Delimiters

/-!
# The components that captures lie in

In its pattern a placeholder belongs to a component, and what it captures should be text of this
component of the URL. `align` does not look where the components of the URL end: a `?` of a literal
is found at any `?` of the subject, and then the placeholder before it reaches from the path into
the query. Yet the captures leave their components only where every tiling of the subject does.
-/

namespace LinkPattern

namespace Url

variable {u : Url} {withQuery withFragment : Bool}

def span? (u : Url) (withQuery withFragment : Bool) : Component → Option Span
  | .path => some ⟨0, Text.octetLength u.path⟩
  | .query => (u.subject withQuery withFragment).query?
  | .fragment =>
    let stop := Text.octetLength (u.subject withQuery withFragment).text
    (if withFragment then u.fragment? else none).map fun f => ⟨stop - Text.octetLength f, stop⟩

/-! ## Places in a subject -/

theorem prefix_opened {d : Char} {s a : Text} {t? : Option Text} (h : a <+: s ++ t?.elim [] (d :: ·)) :
    a <+: s ∨ ∃ t x, t? = some t ∧ x <+: t ∧ a = s ++ d :: x := by
  rcases Nat.le_total a.length s.length with hl | hl
  · exact .inl (List.prefix_of_prefix_length_le h (List.prefix_append ..) hl)
  · obtain ⟨y, rfl⟩ := List.prefix_of_prefix_length_le (List.prefix_append ..) h hl
    have hy := (List.prefix_append_right_inj s).mp h
    cases t? with
    | none => exact .inl (by simp [List.prefix_nil.mp hy])
    | some t =>
      rcases List.prefix_cons_iff.mp hy with rfl | ⟨x, rfl, hx⟩
      · exact .inl (by simp)
      · exact .inr ⟨t, x, rfl, hx, rfl⟩

theorem Undelimited.opened? {t : Text} (h : Undelimited t) : ∀ x ∈ t, Component.path.opened? x = none := fun x hx =>
  Component.opened?_path.mpr (h x hx)

theorem Undelimited.after_path {t : Text} (h : Undelimited t) : Component.path.after t = .path :=
  Component.after_eq_self h.opened?

theorem Delimited.opened?_query (hu : u.Delimited) {q : Text} (hq : (if withQuery then u.query? else none) = some q) :
    ∀ x ∈ q, Component.query.opened? x = none := by
  intro x hx
  have hquery := (Option.ite_none_right_eq_some.mp hq).2
  exact Component.opened?_query.mpr fun he => hu.query q hquery (he ▸ hx)

theorem after_query (hu : u.Delimited) {q x : Text} (hq : (if withQuery then u.query? else none) = some q)
    (hx : x <+: q) : Component.path.after (u.path ++ '?' :: x) = .query := by
  rw [Component.after_append, hu.path.after_path]
  exact Component.after_eq_self fun z hz => hu.opened?_query hq z (hx.subset hz)

theorem after_fragment (hu : u.Delimited) (x : Text) :
    Component.path.after (u.path ++ (if withQuery then u.query? else none).elim [] ('?' :: ·) ++ '#' :: x) =
      .fragment := by
  rw [Component.after_append]
  cases hq : (if withQuery then u.query? else none) with
  | none =>
    rw [Option.elim_none, List.append_nil, hu.path.after_path]
    exact Component.after_fragment x
  | some q =>
    rw [Option.elim_some, after_query hu hq q.prefix_refl]
    exact Component.after_fragment x

theorem exists_span?_of_prefix (hu : u.Delimited) {a : Text} (h : a <+: (u.subject withQuery withFragment).text) :
    ∃ r ∈ u.span? withQuery withFragment (Component.path.after a),
      r.start ≤ Text.octetLength a ∧ Text.octetLength a ≤ r.stop := by
  have h1 : '?'.utf8Size = 1 := rfl
  have h2 : '#'.utf8Size = 1 := rfl
  rcases prefix_opened h with h | ⟨f, x, hf, hx, rfl⟩
  · rcases prefix_opened h with h | ⟨q, x, hq, hx, rfl⟩
    · rw [(hu.path.of_subset fun _ hz => h.subset hz).after_path]
      exact ⟨_, rfl, Nat.zero_le _, Text.octetLength_le_of_prefix h⟩
    · have hlen := Text.octetLength_le_of_prefix hx
      rw [after_query hu hq hx]
      refine ⟨_, by simp only [span?, subject, hq, Option.map_some]; rfl, ?_, ?_⟩
      · simp only [Text.octetLength_append, Text.octetLength_cons, h1]; omega
      · simp only [Text.octetLength_append, Text.octetLength_cons, h1]; omega
  · have hlen := Text.octetLength_le_of_prefix hx
    rw [after_fragment hu x]
    refine ⟨_, by simp only [span?, hf, Option.map_some]; rfl, ?_, ?_⟩
    · simp only [subject, hf, Option.elim_some, Text.octetLength_append, Text.octetLength_cons, h2]; omega
    · simp only [subject, hf, Option.elim_some, Text.octetLength_append, Text.octetLength_cons, h2]; omega

theorem stop_lt_start {c d : Component} (h : c.rank < d.rank) {r s : Span} (hr : r ∈ u.span? withQuery withFragment c)
    (hs : s ∈ u.span? withQuery withFragment d) : r.stop < s.start := by
  have h1 : '?'.utf8Size = 1 := rfl
  have h2 : '#'.utf8Size = 1 := rfl
  cases d with
  | path => simp [Component.rank] at h
  | query =>
    obtain ⟨q, -, rfl⟩ := Option.map_eq_some_iff.mp hs
    cases c with
    | path => cases hr; exact Nat.lt_succ_self _
    | query => exact absurd h (Nat.lt_irrefl _)
    | fragment => exact absurd h (by decide)
  | fragment =>
    obtain ⟨f, hf, rfl⟩ := Option.map_eq_some_iff.mp hs
    simp only [subject, hf, Option.elim_some, Text.octetLength_append, Text.octetLength_cons, h2]
    cases c with
    | path => cases hr; show Text.octetLength u.path < _; omega
    | query =>
      obtain ⟨q, hq, rfl⟩ := Option.map_eq_some_iff.mp hr
      simp only [hq, Option.elim_some, Text.octetLength_cons, h1]
      omega
    | fragment => exact absurd h (Nat.lt_irrefl _)

theorem mem_span?_iff (hu : u.Delimited) {a : Text} (h : a <+: (u.subject withQuery withFragment).text) (c : Component) :
    (∃ r ∈ u.span? withQuery withFragment c, r.start ≤ Text.octetLength a ∧ Text.octetLength a ≤ r.stop) ↔
      Component.path.after a = c := by
  obtain ⟨s, hs, hs1, hs2⟩ := exists_span?_of_prefix hu h
  constructor
  · rintro ⟨r, hr, hr1, hr2⟩
    rcases Nat.lt_trichotomy (Component.path.after a).rank c.rank with hlt | he | hlt
    · have := stop_lt_start hlt hs hr; omega
    · exact Component.rank_inj he
    · have := stop_lt_start hlt hr hs; omega
  · rintro rfl
    exact ⟨s, hs, hs1, hs2⟩

end Url

namespace Pattern

variable {F : Type}

/-- What is captured for each placeholder is text of the component in force there. -/
def KeepsComponents (p : Pattern F) (u : Url) (captures : List (Capture F)) : Prop :=
  ∀ cap ∈ captures, ∀ i, p.segments[i]? = some cap.segment →
    ∃ r ∈ u.span? p.addressesQuery p.addressesFragment (p.componentAt i), r.encloses cap.span

theorem componentAt_succ {p : Pattern F} {i : Nat} {s : Segment F} (hi : p.segments[i]? = some s) :
    p.componentAt (i + 1) = (p.componentAt i).after s.literalText := by
  obtain ⟨hlt, rfl⟩ := List.getElem?_eq_some_iff.mp hi
  unfold componentAt
  rw [List.take_succ_eq_append_getElem hlt, List.flatMap_append, Component.after_append]
  simp

end Pattern

namespace Alignment

variable {F : Type} {e : Escaping} {c : Component} {segments : List (Segment F)} {pieces : List Text}

theorem Tiles.rank_le (h : Tiles e c segments pieces) {d : Component} (hd : c.rank ≤ d.rank) (i : Nat) :
    (c.after ((segments.take i).flatMap Segment.literalText)).rank ≤ (d.after (pieces.take i).flatten).rank := by
  induction h generalizing d i with
  | nil c => simpa [Component.after] using hd
  | @literal c t segments pieces _ ih =>
    cases i with
    | zero => exact hd
    | succ i =>
      have hstep : (c.after t).rank ≤ (d.after (e.escape c t)).rank := by
        rw [← e.after_escape c t]
        exact Component.after_mono hd _
      have := ih hstep i
      simpa [Segment.literalText, Component.after_append] using this
  | @placeholder c s segments pieces x hp _ ih =>
    cases i with
    | zero => exact hd
    | succ i =>
      have := ih (Nat.le_trans hd (Component.rank_le_after d x)) i
      simpa [Segment.literalText_of_isPlaceholder hp, Component.after_append] using this

theorem mem_capturesOf_of_getElem? {i : Nat} {s : Segment F} {x : Text} (hi : segments[i]? = some s)
    (hs : s.isPlaceholder = true) (hx : pieces[i]? = some x) (start : Nat) :
    ⟨s, start + Text.octetLength (pieces.take i).flatten, x⟩ ∈ capturesOf start segments pieces := by
  induction segments generalizing i pieces start with
  | nil => simp at hi
  | cons s' segments ih =>
    cases pieces with
    | nil => simp at hx
    | cons y pieces =>
      unfold capturesOf
      cases i with
      | zero => cases hi; cases hx; simp [hs]
      | succ i =>
        have hm := ih hi hx (start + Text.octetLength y)
        rw [Nat.add_assoc] at hm
        by_cases hp : s'.isPlaceholder = true
        · rw [if_pos hp]; exact List.mem_cons_of_mem _ (by simpa using hm)
        · rw [if_neg hp]; simpa using hm

end Alignment

namespace Tiling

variable {F : Type} {p : Pattern F} {u : Url} {text : Text}

/-- What lies before a placeholder, and what lies before the segment after it, leads to its component. -/
def InStep (p : Pattern F) {e : Escaping} {text : Text} (T : Tiling e p.segments text) : Prop :=
  ∀ i s, p.segments[i]? = some s → s.isPlaceholder = true →
    Component.path.after (T.pieces.take i).flatten = p.componentAt i ∧
      Component.path.after (T.pieces.take (i + 1)).flatten = p.componentAt i

theorem take_flatten_prefix {e : Escaping} {segments : List (Segment F)} (T : Tiling e segments text) (i : Nat) :
    (T.pieces.take i).flatten <+: text := by
  have := T.covers
  rw [← List.take_append_drop i T.pieces, List.flatten_append] at this
  exact ⟨_, this⟩

theorem literal_step {e : Escaping} (T : Tiling e p.segments text) {i : Nat} {t : Text}
    (hi : p.segments[i]? = some (.literal t))
    (h : Component.path.after (T.pieces.take i).flatten = p.componentAt i) :
    Component.path.after (T.pieces.take (i + 1)).flatten = p.componentAt (i + 1) := by
  obtain ⟨hlt, hx⟩ := List.getElem?_eq_some_iff.mp (T.tiles.getElem?_literal hi)
  rw [List.take_succ_eq_append_getElem hlt, List.flatten_append, Component.after_append, h, hx,
    List.flatten_singleton, Pattern.componentAt_succ hi]
  exact e.after_escape _ t

theorem encloses_iff {r? : Option Span} {m n : Nat} (h : m ≤ n) :
    (∃ r ∈ r?, r.encloses ⟨m, n⟩) ↔
      (∃ r ∈ r?, r.start ≤ m ∧ m ≤ r.stop) ∧ ∃ r ∈ r?, r.start ≤ n ∧ n ≤ r.stop := by
  cases r? with
  | none => simp
  | some r =>
    simp only [Option.mem_some_iff, exists_eq_left', Span.encloses, Bool.and_eq_true, decide_eq_true_eq]
    omega

theorem exists_encloses_iff (hu : u.Delimited) {e : Escaping}
    (T : Tiling e p.segments (u.subject p.addressesQuery p.addressesFragment).text) {i : Nat}
    {cap : Capture F} (hx : T.pieces[i]? = some cap.raw)
    (hstart : cap.start = 0 + Text.octetLength (T.pieces.take i).flatten) (c : Component) :
    (∃ r ∈ u.span? p.addressesQuery p.addressesFragment c, r.encloses cap.span) ↔
      Component.path.after (T.pieces.take i).flatten = c ∧
        Component.path.after (T.pieces.take (i + 1)).flatten = c := by
  obtain ⟨hlt, hx⟩ := List.getElem?_eq_some_iff.mp hx
  have hstop : cap.start + Text.octetLength cap.raw = Text.octetLength (T.pieces.take (i + 1)).flatten := by
    rw [List.take_succ_eq_append_getElem hlt, List.flatten_append, Text.octetLength_append, List.flatten_singleton, hx,
      hstart, Nat.zero_add]
  rw [Capture.span, hstop, hstart, Nat.zero_add, encloses_iff, Url.mem_span?_iff hu (T.take_flatten_prefix i),
    Url.mem_span?_iff hu (T.take_flatten_prefix (i + 1))]
  omega

variable [DecidableEq F] [Vocabulary F]

/-- A tiling that keeps up with components stays in step when its literals move to the left. -/
theorem InStep.of_leftmost (hp : p.Made) {e : Escaping} {T T' : Tiling e p.segments text}
    (hl : ∀ i t, p.segments[i]? = some (.literal t) → T.position i ≤ T'.position i) (h : InStep p T') :
    InStep p T := by
  have ha := hp.wellFormed.alternates
  have hlit : ∀ i t, p.segments[i]? = some (.literal t) →
      Component.path.after (T.pieces.take i).flatten = p.componentAt i := by
    intro i t hi
    have hup : Component.path.after (T'.pieces.take i).flatten = p.componentAt i := by
      cases i with
      | zero => rfl
      | succ j =>
        obtain ⟨s, hs, hsp⟩ := ha.placeholder_before hi
        rw [(h j s hs hsp).2, Pattern.componentAt_succ hs, Segment.literalText_of_isPlaceholder hsp]
        rfl
    obtain ⟨y, hy⟩ := Text.prefix_of_octetLength_le (T.take_flatten_prefix i) (T'.take_flatten_prefix i) (hl i t hi)
    -- less text leads no further, and no text leads less far than the literals in it
    apply Component.rank_inj
    apply Nat.le_antisymm
    · rw [← hup, ← hy, Component.after_append]
      exact Component.rank_le_after _ y
    · exact T.tiles.rank_le (Nat.le_refl _) i
  intro i s hi hs
  constructor
  · cases i with
    | zero => rfl
    | succ j =>
      obtain ⟨t, ht⟩ := ha.literal_before hi hs
      exact T.literal_step ht (hlit j t ht)
  · by_cases hlt : i + 1 < p.segments.length
    · obtain ⟨t, ht⟩ := ha.literal_after hi hs hlt
      rw [hlit (i + 1) t ht, Pattern.componentAt_succ hi, Segment.literalText_of_isPlaceholder hs]
      rfl
    · -- the last placeholder takes the rest in either tiling
      have hend : ∀ T : Tiling e p.segments text, (T.pieces.take (i + 1)).flatten = text := by
        intro T
        rw [List.take_of_length_le (by have := T.tiles.length_eq; omega), T.covers]
      rw [hend T, ← hend T']
      exact (h i s hi hs).2

theorem keepsComponents_iff_inStep (hp : p.Made) (hu : u.Delimited)
    (T : Tiling u.escaping p.segments (u.subject p.addressesQuery p.addressesFragment).text) :
    p.KeepsComponents u T.captures ↔ InStep p T := by
  constructor
  · intro h i s hi hs
    have hlt : i < T.pieces.length := T.tiles.length_eq ▸ (List.getElem?_eq_some_iff.mp hi).1
    have hx := List.getElem?_eq_getElem hlt
    exact (exists_encloses_iff hu T hx rfl _).mp (h _ (Alignment.mem_capturesOf_of_getElem? hi hs hx 0) i hi)
  · intro h cap hcap i hi
    obtain ⟨j, hj, hx, hstart⟩ := Alignment.mem_capturesOf hcap
    have hs := List.mem_map_of_mem (f := Capture.segment) hcap
    rw [captures, Alignment.map_segment_capturesOf T.tiles, List.mem_filter] at hs
    have hs := hs.2
    rw [hp.wellFormed.index_unique hi hj hs]
    exact (exists_encloses_iff hu T hx hstart _).mpr (h j _ hj hs)

end Tiling

/-! ## Matching -/

/-- What a match captures keeps to its components exactly where the subject has a tiling that does. -/
theorem keepsComponents_iff_exists_tiling {F : Type} [DecidableEq F] [Vocabulary F] {o : Options} {m : Matcher}
    (hm : Matcher.ofOptions o = .ok m) {p : Pattern F} (hp : p.Made) {url : Text} {bs : Bindings F}
    (h : m.bindings p url = .ok bs) :
    ∃ u captures, Url.parse url m.base? = .ok u ∧
      align p.segments (u.subject p.addressesQuery p.addressesFragment).text u.escaping = .ok captures ∧
      Bindings.ofCaptures m.options (u.subject p.addressesQuery p.addressesFragment).query? captures = .ok bs ∧
      (p.KeepsComponents u captures ↔
        ∃ T : Tiling u.escaping p.segments (u.subject p.addressesQuery p.addressesFragment).text,
          p.KeepsComponents u T.captures) := by
  obtain ⟨u, captures, hparse, -, halign, hbind⟩ := Matcher.bindings_eq_ok.mp h
  have hu : u.Delimited := Url.delimited_of_parse (Matcher.delimited_base hm) hparse
  obtain ⟨T, rfl, hl⟩ := exists_leftmost_tiling hp.wellFormed.alternates halign
  refine ⟨u, T.captures, hparse, halign, hbind, fun hk => ⟨T, hk⟩, ?_⟩
  rintro ⟨T', hk⟩
  rw [Tiling.keepsComponents_iff_inStep hp hu] at hk ⊢
  exact hk.of_leftmost hp fun i t hi => hl T' i t hi

theorem keepsComponents_iff_exists_tiling_twice :
    let p : Pattern Text :=
      (Pattern.Builder.empty.pushSome [.literal ['/'], .field ['a'], .literal "?x=".toList, .field ['b']]).build
    let url := "https://example.com/p?x=y?x=1".toList
    let bs : Bindings Text := [(['a'], .text ['p']), (['b'], .text "y?x=1".toList)]
    Matcher.ofOptions {} = .ok {} ∧ p.Made ∧ ({} : Matcher).bindings p url = .ok bs ∧
      ∃ u captures, Url.parse url none = .ok u ∧
        (p.KeepsComponents u captures ↔
          ∃ T : Tiling u.escaping p.segments (u.subject p.addressesQuery p.addressesFragment).text,
            p.KeepsComponents u T.captures) := by
  intro p url bs
  have hm : Matcher.ofOptions {} = .ok {} := rfl
  have hp : p.Made := .build [.literal ['/'], .field ['a'], .literal "?x=".toList, .field ['b']]
  have hb : ({} : Matcher).bindings p url = .ok bs := by decide +kernel
  obtain ⟨u, captures, hu, -, -, hk⟩ := keepsComponents_iff_exists_tiling hm hp hb
  exact ⟨hm, hp, hb, u, captures, hu, hk⟩

/-- The pattern `/{a}?x={b}` on a URL whose query begins otherwise: what `a` captures begins in the
path and ends in the query, behind the `?` between them. -/
theorem exists_not_keepsComponents :
    ∃ (p : Pattern Text) (u : Url) (captures : List (Capture Text)), p.Made ∧
      Url.parse "https://example.com/p?y?x=1".toList none = .ok u ∧
      align p.segments (u.subject p.addressesQuery p.addressesFragment).text u.escaping = .ok captures ∧
      ({} : Matcher).bindings p "https://example.com/p?y?x=1".toList =
        .ok [(['a'], .text "p?y".toList), (['b'], .text ['1'])] ∧
      ¬ p.KeepsComponents u captures := by
  refine ⟨_, ⟨"https".toList, false, "/p".toList, some "y?x=1".toList, none⟩,
    [⟨.field ['a'], 1, "p?y".toList⟩, ⟨.field ['b'], 7, ['1']⟩],
    .build [.literal ['/'], .field ['a'], .literal "?x=".toList, .field ['b']], by decide +kernel, by decide +kernel,
    by decide +kernel, ?_⟩
  intro h
  obtain ⟨r, hr, he⟩ := h ⟨.field ['a'], 1, "p?y".toList⟩ (by simp) 1 rfl
  cases hr
  exact absurd he (by decide)

end LinkPattern
