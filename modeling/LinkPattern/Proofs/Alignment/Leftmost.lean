import LinkPattern.Proofs.Alignment.Tiling

/-!
# The leftmost tiling

`align` looks for each literal once and never comes back, and it misses no tiling: where a literal
is taken further left than another tiling has it, the text in between goes to the placeholder that
follows. It finds a tiling whenever there is one, and the one whose literals all lie leftmost.
-/

namespace LinkPattern.Alignment

open Pattern

variable {F : Type} {e : Escaping} {c : Component} {segments : List (Segment F)} {pieces : List Text}

/-! ## A literal after a placeholder -/

section
variable {last : Bool} {literal rest gap after : Text}

theorem place_eq_some (h : place true last literal rest = some (gap, after)) : rest = gap ++ literal ++ after := by
  unfold place at h
  cases last with
  | false => exact (Text.around?_eq_some_iff.mp h).1
  | true =>
    obtain ⟨gap', hd, he⟩ := Option.map_eq_some_iff.mp h
    cases he
    simpa using (List.isSuffixOf?_eq_some_iff_append_eq.mp hd).symm

theorem place_of_append (h : rest = gap ++ literal ++ after) (hl : last = true → after = []) :
    ∃ gap' x, place true last literal rest = some (gap', x ++ after) ∧ (last = true → x = []) := by
  cases last with
  | true =>
    have hd : literal.isSuffixOf? rest = some gap := List.isSuffixOf?_eq_some_iff_append_eq.mpr (by simp [h, hl rfl])
    exact ⟨gap, [], by simp [place, hd, hl rfl], fun _ => rfl⟩
  | false =>
    cases ha : Text.around? rest literal with
    | none => exact absurd ⟨gap, after, h.symm⟩ (Text.around?_eq_none.mp ha)
    | some found =>
      obtain ⟨gap', after'⟩ := found
      obtain ⟨hfirst, hleast⟩ := Text.around?_eq_some_iff.mp ha
      have hlen := hleast gap after h
      -- both tails end the text, and the one after the leftmost occurrence is the longer
      have htail : after <:+ after' := by
        have h1 : after' <:+ rest := ⟨gap' ++ literal, hfirst.symm⟩
        have h2 : after <:+ rest := ⟨gap ++ literal, h.symm⟩
        apply List.suffix_of_suffix_length_le h2 h1
        have e1 := congrArg List.length hfirst
        have e2 := congrArg List.length h
        simp only [List.length_append] at e1 e2
        omega
      obtain ⟨x, hx⟩ := htail
      exact ⟨gap', x, by simp [place, ha, hx], fun e => by cases e⟩

end

/-! ## All literals -/

/-- Each literal of the tiling lies where any other tiling of the same text has it, or further left:
at least as much of the text is left behind its front. -/
def Leftmost (e : Escaping) (c : Component) (segments : List (Segment F)) (pieces : List Text) : Prop :=
  ∀ pieces', Tiles e c segments pieces' → pieces'.flatten = pieces.flatten →
    ∀ i t, segments[i]? = some (.literal t) →
      Text.octetLength (pieces'.drop i).flatten ≤ Text.octetLength (pieces.drop i).flatten

theorem Leftmost.nil : Leftmost e c ([] : List (Segment F)) [] := by
  intro pieces' _ _ i t hi
  simp at hi

theorem Leftmost.single {p : Segment F} {x : Text} (hp : p.isPlaceholder = true) : Leftmost e c [p] [x] := by
  intro pieces' _ _ i t hi
  cases i with
  | zero => cases hi; cases hp
  | succ i => simp at hi

theorem Leftmost.cons_literal {t : Text} (h : Leftmost e (c.after t) segments pieces) :
    Leftmost e c (.literal t :: segments) (e.escape c t :: pieces) := by
  intro pieces' ht hf i t' hi
  cases ht with
  | placeholder _ hp _ => cases hp
  | literal ht =>
    cases i with
    | zero => exact Nat.le_of_eq (congrArg Text.octetLength hf)
    | succ i => exact h _ ht (List.append_cancel_left hf) i t' hi

/-- The exchange: what another tiling has before the literal, beyond `gap`, it can as well have behind it. -/
theorem Leftmost.cons_gap {p : Segment F} {t rest gap : Text} (hp : p.isPlaceholder = true)
    (ha : Alternates (.literal t :: segments))
    (hplace : place true segments.isEmpty (e.escape c t) rest = some (gap, pieces.flatten))
    (h : Leftmost e (c.after t) segments pieces) :
    Leftmost e c (p :: .literal t :: segments) (gap :: e.escape c t :: pieces) := by
  intro pieces' ht hf i t' hi
  cases ht with
  | literal _ => cases hp
  | placeholder gap' _ ht =>
    cases ht with
    | placeholder _ hp' _ => cases hp'
    | @literal _ _ _ more ht =>
      have hrest : rest = gap' ++ e.escape c t ++ more.flatten := by
        rw [place_eq_some hplace]
        simpa using hf.symm
      obtain ⟨gap'', x, hplace', hx⟩ := place_of_append hrest ht.flatten_eq_nil
      rw [hplace] at hplace'
      have hx' : pieces.flatten = x ++ more.flatten := (Prod.mk.inj (Option.some.inj hplace')).2
      match i, hi with
      | 0, hi => cases hi; cases hp
      | 1, _ => simp only [List.drop_succ_cons, List.drop_zero, List.flatten_cons, hx', Text.octetLength_append]; omega
      | i + 2, hi =>
        -- with `x` behind the literal the other tiling covers the same text there as this one
        obtain ⟨more', ht', hf', hdrop⟩ := ht.prepend x (fun he => hx (by simp [he])) ha.head_isPlaceholder
        have := h more' ht' (by rw [hf', hx']) i t' hi
        rwa [hdrop i t' hi] at this

/-! ## All segments -/

theorem align_eq_ok {offset : Nat} {rest : Text} {captures : List (Capture F)} (ha : Alternates segments)
    (h : align e c none offset rest segments = .ok captures) :
    ∃ pieces, Tiles e c segments pieces ∧ pieces.flatten = rest ∧ captures = capturesOf offset segments pieces ∧
      Leftmost e c segments pieces := by
  induction ha using Alternates.induct generalizing c offset rest captures with
  | nil =>
    simp only [align] at h
    by_cases hr : rest = []
    · rw [if_pos hr] at h
      cases h
      exact ⟨[], .nil c, by simp [hr], rfl, .nil⟩
    · rw [if_neg hr] at h; cases h
  | single p hp =>
    rw [align_single hp] at h
    cases h
    exact ⟨[rest], .placeholder rest hp (.nil c), by simp, by simp [capturesOf, hp], .single hp⟩
  | literal t segments _ ih =>
    rw [align_literal] at h
    cases hd : (e.escape c t).isPrefixOf? rest with
    | none => rw [hd] at h; cases h
    | some after =>
      rw [hd] at h
      obtain ⟨pieces, ht, hf, hc, hl⟩ := ih h
      refine ⟨e.escape c t :: pieces, .literal ht, ?_, by simp [capturesOf, hc], hl.cons_literal⟩
      rw [List.flatten_cons, hf, ← List.append_eq_of_isPrefixOf?_eq_some hd]
  | gap p t segments ha hp ih =>
    rw [align_gap hp] at h
    cases hplace : place true segments.isEmpty (e.escape c t) rest with
    | none => rw [hplace] at h; cases h
    | some found =>
      obtain ⟨gap, after⟩ := found
      simp only [hplace] at h
      cases hm : align e (c.after t) none (offset + Text.octetLength gap + Text.octetLength (e.escape c t)) after
          segments with
      | error m => rw [hm] at h; cases h
      | ok more =>
        rw [hm] at h
        cases h
        obtain ⟨pieces, ht, hf, hc, hl⟩ := ih hm
        refine ⟨gap :: e.escape c t :: pieces, .placeholder gap hp (.literal ht), ?_, by simp [capturesOf, hp, hc], ?_⟩
        · rw [List.flatten_cons, List.flatten_cons, hf, place_eq_some hplace, List.append_assoc]
        · rw [← hf] at hplace
          exact hl.cons_gap hp ha.tail hplace

theorem exists_align_eq_ok (ha : Alternates segments) (h : Tiles e c segments pieces) (offset : Nat) :
    ∃ captures, align e c none offset pieces.flatten segments = .ok captures := by
  induction ha using Alternates.induct generalizing c offset pieces with
  | nil => cases h; exact ⟨[], rfl⟩
  | single p hp => exact ⟨_, align_single hp ..⟩
  | literal t segments _ ih =>
    cases h with
    | placeholder _ hp' _ => cases hp'
    | @literal _ _ _ pieces h =>
      obtain ⟨captures, hc⟩ := ih h (offset + Text.octetLength (e.escape c t))
      have hd : (e.escape c t).isPrefixOf? (e.escape c t :: pieces).flatten = some pieces.flatten :=
        List.isPrefixOf?_eq_some_iff_append_eq.mpr rfl
      exact ⟨captures, by rw [align_literal, hd]; exact hc⟩
  | gap p t segments ha hp ih =>
    cases h with
    | literal _ => cases hp
    | placeholder gap _ h =>
      cases h with
      | placeholder _ hp' _ => cases hp'
      | @literal _ _ _ pieces h =>
        -- the search may stop further left than the tiling does, and `x` is what that leaves over
        obtain ⟨gap', x, hplace, hx⟩ := place_of_append
          (show (gap :: e.escape c t :: pieces).flatten = gap ++ e.escape c t ++ pieces.flatten by simp) h.flatten_eq_nil
        obtain ⟨pieces', h', hf', -⟩ := h.prepend x (fun he => hx (by simp [he])) ha.tail.head_isPlaceholder
        obtain ⟨captures, hc⟩ := ih h' (offset + Text.octetLength gap' + Text.octetLength (e.escape c t))
        rw [hf'] at hc
        rw [align_gap hp, hplace]
        simp only [hc]
        exact ⟨_, rfl⟩

end LinkPattern.Alignment

namespace LinkPattern

open LinkPattern.Alignment

variable {F : Type} {e : Escaping} {segments : List (Segment F)} {text : Text}

theorem Tiling.octetLength_eq (T : Tiling e segments text) (i : Nat) :
    Text.octetLength text = T.position i + Text.octetLength (T.pieces.drop i).flatten := by
  rw [Tiling.position, ← Text.octetLength_append, ← List.flatten_append, List.take_append_drop, T.covers]

theorem exists_leftmost_tiling (ha : Pattern.Alternates segments) {captures : List (Capture F)}
    (h : align segments text e = .ok captures) :
    ∃ T : Tiling e segments text, captures = T.captures ∧
      ∀ (T' : Tiling e segments text) (i : Nat) (t : Text), segments[i]? = some (.literal t) →
        T.position i ≤ T'.position i := by
  obtain ⟨pieces, ht, hf, hc, hl⟩ := align_eq_ok ha h
  refine ⟨⟨pieces, ht, hf⟩, hc, fun T' i t hi => ?_⟩
  have hlen := hl T'.pieces T'.tiles (T'.covers.trans hf.symm) i t hi
  have h1 := T'.octetLength_eq i
  have h2 := (⟨pieces, ht, hf⟩ : Tiling e segments text).octetLength_eq i
  simp only at h2
  omega

theorem segments_of_align (ha : Pattern.Alternates segments) {captures : List (Capture F)}
    (h : align segments text e = .ok captures) :
    captures.map Capture.segment = segments.filter Segment.isPlaceholder := by
  obtain ⟨T, hc, -⟩ := exists_leftmost_tiling ha h
  rw [hc]
  exact map_segment_capturesOf T.tiles 0

theorem mem_segments_of_align (ha : Pattern.Alternates segments) {captures : List (Capture F)}
    (h : align segments text e = .ok captures) {cap : Capture F} (hcap : cap ∈ captures) :
    cap.segment ∈ segments ∧ cap.segment.isPlaceholder = true := by
  have hs := List.mem_map_of_mem (f := Capture.segment) hcap
  rw [segments_of_align ha h] at hs
  exact List.mem_filter.mp hs

theorem Tiling.slice?_captures (T : Tiling e segments text) {cap : Capture F} (h : cap ∈ T.captures) :
    Text.slice? cap.span text = some cap.raw := by
  have := slice?_of_mem_capturesOf h
  rwa [T.covers] at this

variable [DecidableEq F] [Vocabulary F]

/-- Aligning a pattern succeeds exactly on the texts that its segments can be laid on. Then it gives
the captures of one such tiling, a capture for each placeholder and each a slice of the text, and no
other tiling has any of the literals further left. -/
theorem align_finds_leftmost_tiling {p : Pattern F} (hp : p.Made) (text : Text) (e : Escaping) :
    ((∃ captures, align p.segments text e = .ok captures) ↔ Nonempty (Tiling e p.segments text)) ∧
      ∀ captures, align p.segments text e = .ok captures →
        captures.map Capture.segment = p.segments.filter Segment.isPlaceholder ∧
        (∀ cap ∈ captures, Text.slice? cap.span text = some cap.raw) ∧
        ∃ T : Tiling e p.segments text, captures = T.captures ∧
          ∀ (T' : Tiling e p.segments text) (i : Nat) (t : Text), p.segments[i]? = some (.literal t) →
            T.position i ≤ T'.position i := by
  have ha := hp.wellFormed.alternates
  constructor
  · constructor
    · rintro ⟨captures, h⟩
      obtain ⟨T, -⟩ := exists_leftmost_tiling ha h
      exact ⟨T⟩
    · rintro ⟨T⟩
      have := exists_align_eq_ok ha T.tiles 0
      rwa [T.covers] at this
  · intro captures h
    obtain ⟨T, hc, hl⟩ := exists_leftmost_tiling ha h
    refine ⟨?_, ?_, T, hc, hl⟩
    · rw [hc]
      exact map_segment_capturesOf T.tiles 0
    · intro cap hcap
      rw [hc] at hcap
      exact T.slice?_captures hcap

theorem align_finds_leftmost_tiling_dashes :
    let p : Pattern Text := (Pattern.Builder.empty.pushSome
      [.literal ['/'], .field ['a'], .field ['x'], .literal ['-'], .field ['b'], .literal ['-', 'c']]).build
    let text := "/-a-b-c-c".toList
    ∃ captures, p.Made ∧ align p.segments text ⟨true, false⟩ = .ok captures ∧
      captures.map Capture.raw = [[], "a-b-c".toList] ∧
      ∃ T : Tiling ⟨true, false⟩ p.segments text, captures = T.captures ∧
        ∀ (T' : Tiling ⟨true, false⟩ p.segments text) (i : Nat) (t : Text), p.segments[i]? = some (.literal t) →
          T.position i ≤ T'.position i := by
  intro p text
  have hp : p.Made := .build _
  have hok : align p.segments text ⟨true, false⟩ =
      .ok [⟨.field ['a'], 1, []⟩, ⟨.field ['b'], 2, "a-b-c".toList⟩] := by decide
  obtain ⟨-, h⟩ := align_finds_leftmost_tiling hp text ⟨true, false⟩
  obtain ⟨-, -, T, hT⟩ := h _ hok
  exact ⟨_, hp, hok, rfl, T, hT⟩

end LinkPattern
