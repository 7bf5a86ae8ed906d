import LinkPattern.Proofs.Alignment.Leftmost

/-!
# Where an alignment breaks off

An alignment breaks off at the first literal that is missing from the text that is left for it. Up to
there it has taken every literal as early as it can be taken, so no front of the text that is shorter
than what it has used can hold the segments before. Text is left over at the end only where there is
no placeholder to take it.
-/

namespace LinkPattern.Alignment

open Pattern

variable {F : Type} {e : Escaping} {c : Component} {offset stop : Nat} {rest after literal : Text}
  {segments front : List (Segment F)} {pieces : List Text}

/-! ## The front of an alignment -/

/-- The literal behind `front` and the placeholder `gap?`, if there is one, is looked for in `after`. -/
inductive Reaches (e : Escaping) (c : Component) (offset : Nat) (rest : Text) :
    List (Segment F) → Option (Segment F) → Nat → Text → Prop
  | start : Reaches e c offset rest [] none offset rest
  | gap {front : List (Segment F)} {s : Segment F} {stop : Nat} {after : Text} (captures : List (Capture F)) :
      s.isPlaceholder = true →
      (∀ tail, align e c none offset rest (front ++ s :: tail) =
        (align e (c.after (front.flatMap Segment.literalText)) (some s) stop after tail).map (captures ++ ·)) →
      Reaches e c offset rest front (some s) stop after

section
variable {s : Segment F} (hs : s.isPlaceholder = true)
include hs

theorem align_placeholder (pending : Option (Segment F)) (tail : List (Segment F)) :
    align e c pending offset rest (s :: tail) = align e c (some s) offset rest tail := by
  cases s with
  | literal t => cases hs
  | field f => rfl
  | list f d => rfl

theorem reaches_gap : Reaches e c offset rest ([] : List (Segment F)) (some s) offset rest := by
  refine .gap [] hs fun tail => ?_
  rw [List.nil_append, align_placeholder hs, List.flatMap_nil, Component.after]
  cases align e c (some s) offset rest tail <;> rfl

end

theorem Leftmost.rest_le {t x z : Text} {s : Segment F} (hs : s.isPlaceholder = true) {pieces' : List Text}
    (hl : Leftmost e c (front ++ [.literal t] ++ [s]) (pieces ++ [x]))
    (h : Tiles e c (front ++ [.literal t]) pieces) (h' : Tiles e c (front ++ [.literal t]) pieces')
    (hf : (pieces' ++ [z]).flatten = (pieces ++ [x]).flatten) : Text.octetLength z ≤ Text.octetLength x := by
  have hleft := hl (pieces' ++ [z]) (tiles_append.mpr ⟨pieces', [z], rfl, h', .placeholder z hs (.nil _)⟩) hf
    front.length t (by simp)
  have hdrop : ∀ y : List Text, Tiles e c front y → ∀ more, (y ++ more).drop front.length = more := by
    intro y hy more
    rw [← hy.length_eq, List.drop_left]
  obtain ⟨x₁, _, rfl, h₁, hy⟩ := tiles_append.mp h
  obtain ⟨x₂, _, rfl, h₂, hy'⟩ := tiles_append.mp h'
  cases hy with
  | placeholder _ hp _ => cases hp
  | literal hy =>
    cases hy' with
    | placeholder _ hp _ => cases hp
    | literal hy' =>
      -- the last literal is the same piece in both, so its place says how much comes behind it
      cases hy
      cases hy'
      rw [List.append_assoc, List.append_assoc, hdrop _ h₁, hdrop _ h₂] at hleft
      simpa using hleft

namespace Reaches

variable {gap? : Option (Segment F)}

/-- What an alignment has used is the shortest front of the text that the segments can be laid on. -/
theorem exists_tiles (h : Reaches e c offset rest front gap? stop after) (ha : Alternates (front ++ gap?.toList)) :
    ∃ pieces, Tiles e c front pieces ∧ rest = pieces.flatten ++ after ∧
      stop = offset + Text.octetLength pieces.flatten ∧ ∀ pieces', Tiles e c front pieces' → pieces'.flatten <+: rest →
        Text.octetLength pieces.flatten ≤ Text.octetLength pieces'.flatten := by
  cases h with
  | start => exact ⟨[], .nil c, rfl, rfl, fun _ _ _ => Nat.zero_le _⟩
  | @gap front s stop after captures hs h =>
    obtain ⟨_, ht, hf, hc, hl⟩ := align_eq_ok ha (h [])
    obtain ⟨pieces, _, rfl, hfront, hy⟩ := tiles_append.mp ht
    cases hy with
    | literal _ => cases hs
    | placeholder x _ hy =>
      cases hy
      have hlast : capturesOf (offset + Text.octetLength pieces.flatten) [s] [x] =
          [⟨s, offset + Text.octetLength pieces.flatten, x⟩] := by simp [capturesOf, hs]
      rw [Option.toList_some, capturesOf_append hfront.length_eq, hlast] at hc
      cases (List.append_inj' hc rfl).2
      refine ⟨pieces, hfront, by simpa using hf.symm, rfl, ?_⟩
      rintro pieces' h' ⟨z, hz⟩
      rcases List.eq_nil_or_concat' front with rfl | ⟨front, s', rfl⟩
      · cases hfront
        simp
      · -- the front ends in a literal, which no tiling has further left
        have hne : s'.isPlaceholder ≠ s.isPlaceholder := ha.ne_after (i := front.length) (by simp) (by simp)
        obtain ⟨t, rfl⟩ := Segment.eq_literal (s := s') (by simpa [hs] using hne)
        have hcovers : (pieces' ++ [z]).flatten = (pieces ++ [after]).flatten := by
          rw [hf]
          simpa using hz
        have hrest := hl.rest_le hs hfront h' hcovers
        have hlen := congrArg Text.octetLength hcovers
        simp only [List.flatten_append, List.flatten_singleton, Text.octetLength_append] at hlen
        omega

theorem cons_literal {t : Text}
    (h : Reaches e (c.after t) (offset + Text.octetLength (e.escape c t)) rest front gap? stop after)
    (hfront : front ++ gap?.toList ≠ []) :
    Reaches e c offset (e.escape c t ++ rest) (.literal t :: front) gap? stop after := by
  cases h with
  | start => exact absurd rfl hfront
  | gap captures hs h =>
    refine .gap captures hs fun tail => ?_
    have hd : (e.escape c t).isPrefixOf? (e.escape c t ++ rest) = some rest :=
      List.isPrefixOf?_eq_some_iff_append_eq.mpr rfl
    rw [List.cons_append, align_literal, hd, List.flatMap_cons, Component.after_append]
    exact h tail

theorem cons_gap {s : Segment F} (hs : s.isPlaceholder = true) {t gap rest' : Text}
    (hplace : place true false (e.escape c t) rest = some (gap, rest'))
    (h : Reaches e (c.after t) (offset + Text.octetLength gap + Text.octetLength (e.escape c t)) rest' front gap? stop
      after)
    (hfront : front ++ gap?.toList ≠ []) :
    Reaches e c offset rest (s :: .literal t :: front) gap? stop after := by
  cases h with
  | start => exact absurd rfl hfront
  | @gap front s' stop after captures hs' h =>
    refine .gap (⟨s, offset, gap⟩ :: captures) hs' fun tail => ?_
    have hlast : (front ++ s' :: tail).isEmpty = false := by simp
    rw [List.cons_append, List.cons_append, align_gap hs, hlast, hplace, List.flatMap_cons, List.flatMap_cons,
      Segment.literalText_of_isPlaceholder hs, List.nil_append, Component.after_append]
    simp only [h, Segment.literalText]
    cases align e ((c.after t).after (front.flatMap Segment.literalText)) (some s') stop after tail <;> rfl

end Reaches

theorem exists_reaches_of_ok (ha : Alternates segments) {s : Segment F} (hs : s.isPlaceholder = true)
    (hfront : segments = front ++ [s]) {captures : List (Capture F)}
    (h : align e c none offset rest segments = .ok captures) :
    ∃ stop after, Reaches e c offset rest front (some s) stop after := by
  induction ha using Alternates.induct generalizing c offset rest captures front with
  | nil => simp at hfront
  | single s' hs' =>
    cases front with
    | nil => exact ⟨offset, rest, reaches_gap hs⟩
    | cons => simp at hfront
  | literal t segments ha ih =>
    cases front with
    | nil =>
      cases hfront
      cases hs
    | cons s' front =>
      obtain ⟨rfl, rfl⟩ := List.cons.inj hfront
      rw [align_literal] at h
      cases hd : (e.escape c t).isPrefixOf? rest with
      | none =>
        rw [hd] at h
        cases h
      | some rest' =>
        rw [hd] at h
        cases List.append_eq_of_isPrefixOf?_eq_some hd
        obtain ⟨stop, after, hr⟩ := ih rfl h
        exact ⟨stop, after, hr.cons_literal (by simp)⟩
  | gap s' t segments ha hs' ih =>
    match front with
    | [] => simp at hfront
    | [_] =>
      cases hfront
      cases hs
    | s₁ :: s₂ :: front =>
      simp only [List.cons_append, List.cons.injEq] at hfront
      obtain ⟨rfl, rfl, rfl⟩ := hfront
      have hlast : (front ++ [s]).isEmpty = false := by simp
      rw [align_gap hs', hlast] at h
      cases hplace : place true false (e.escape c t) rest with
      | none =>
        rw [hplace] at h
        cases h
      | some found =>
        obtain ⟨gap, rest'⟩ := found
        rw [hplace] at h
        obtain ⟨more, hmore, -⟩ := map_eq_ok.mp h
        obtain ⟨stop, after, hr⟩ := ih rfl hmore
        exact ⟨stop, after, hr.cons_gap hs' hplace (by simp)⟩

theorem exists_reaches {s : Segment F} (hs : s.isPlaceholder = true) (ha : Alternates (front ++ [s]))
    (h : Tiles e c front pieces) (offset : Nat) (x : Text) :
    ∃ stop after, Reaches e c offset (pieces.flatten ++ x) front (some s) stop after := by
  have htiles : Tiles e c (front ++ [s]) (pieces ++ [x]) :=
    tiles_append.mpr ⟨pieces, [x], rfl, h, .placeholder x hs (.nil _)⟩
  obtain ⟨captures, hok⟩ := exists_align_eq_ok ha htiles offset
  rw [List.flatten_append, List.flatten_singleton] at hok
  exact exists_reaches_of_ok ha hs rfl hok

/-! ## Literals that are missing -/

theorem isPrefixOf?_eq_none : literal.isPrefixOf? rest = none ↔ ¬ literal <+: rest := by
  rw [← List.isPrefixOf_iff_prefix, ← List.isSome_isPrefixOf?_eq_isPrefixOf, Option.not_isSome_iff_eq_none]

theorem isSuffixOf?_eq_none : literal.isSuffixOf? rest = none ↔ ¬ literal <:+ rest := by
  rw [← List.isSuffixOf_iff_suffix, ← List.isSome_isSuffixOf?_eq_isSuffixOf, Option.not_isSome_iff_eq_none]

/-- Where a literal has to be in the text that is left for it: at the front, unless there is a placeholder
before it, and behind one at the end, if nothing follows it, or anywhere. -/
def Found (gap? : Option (Segment F)) (behind : List (Segment F)) (literal rest : Text) : Prop :=
  match gap?, behind with
  | none, _ => literal <+: rest
  | some _, [] => literal <:+ rest
  | some _, _ :: _ => literal <:+: rest

theorem place_eq_none (gap? : Option (Segment F)) {behind : List (Segment F)} {literal rest : Text} :
    place gap?.isSome behind.isEmpty literal rest = none ↔ ¬ Found gap? behind literal rest := by
  cases gap? with
  | none => exact Option.map_eq_none_iff.trans isPrefixOf?_eq_none
  | some s =>
    cases behind with
    | nil => exact Option.map_eq_none_iff.trans isSuffixOf?_eq_none
    | cons s' behind => exact Text.around?_eq_none

theorem Reaches.align_eq_error {gap? : Option (Segment F)} (h : Reaches e c offset rest front gap? stop after)
    {t : Text} {behind : List (Segment F)}
    (hn : ¬ Found gap? behind (e.escape (c.after (front.flatMap Segment.literalText)) t) after) :
    align e c none offset rest (front ++ gap?.toList ++ .literal t :: behind) =
      .error (.literal (e.escape (c.after (front.flatMap Segment.literalText)) t) stop) := by
  have hplace := (place_eq_none gap?).mpr hn
  cases h with
  | start =>
    simp only [List.flatMap_nil, Component.after] at hplace
    simp only [Option.toList_none, List.nil_append, align, hplace, List.flatMap_nil, Component.after]
  | gap captures hs h =>
    rw [Option.toList_some, List.append_assoc, List.singleton_append, h]
    simp only [align, hplace]
    rfl

theorem exists_reaches_of_error (ha : Alternates segments)
    (h : align e c none offset rest segments = .error (.literal literal stop)) :
    ∃ front gap? t behind after, segments = front ++ gap?.toList ++ .literal t :: behind ∧
      literal = e.escape (c.after (front.flatMap Segment.literalText)) t ∧
      Reaches e c offset rest front gap? stop after ∧ ¬ Found gap? behind literal after := by
  induction ha using Alternates.induct generalizing c offset rest with
  | nil =>
    unfold align at h
    by_cases hr : rest = [] <;> simp [hr] at h
  | single s hs =>
    rw [align_single hs] at h
    cases h
  | literal t segments ha ih =>
    rw [align_literal] at h
    cases hd : (e.escape c t).isPrefixOf? rest with
    | none =>
      rw [hd] at h
      cases h
      have hplace : place (none : Option (Segment F)).isSome segments.isEmpty (e.escape c t) rest = none := by
        simp [place, hd]
      exact ⟨[], none, t, segments, rest, rfl, rfl, .start, (place_eq_none none).mp hplace⟩
    | some rest' =>
      rw [hd] at h
      cases List.append_eq_of_isPrefixOf?_eq_some hd
      obtain ⟨front, gap?, t', behind, after, rfl, hl, hr, hn⟩ := ih h
      have hne : front ++ gap?.toList ≠ [] := by
        intro hnil
        simpa [hnil] using ha.head_isPlaceholder
      refine ⟨.literal t :: front, gap?, t', behind, after, rfl, ?_, hr.cons_literal hne, hn⟩
      rw [hl, List.flatMap_cons, Component.after_append]
      rfl
  | gap s t segments ha hs ih =>
    rw [align_gap hs] at h
    cases hplace : place true segments.isEmpty (e.escape c t) rest with
    | none =>
      rw [hplace] at h
      cases h
      have hnot := (place_eq_none (some s)).mp hplace
      exact ⟨[], some s, t, segments, rest, rfl, rfl, reaches_gap hs, hnot⟩
    | some found =>
      obtain ⟨gap, rest'⟩ := found
      rw [hplace] at h
      obtain ⟨front, gap?, t', behind, after, rfl, hl, hr, hn⟩ := ih (map_eq_error.mp h)
      have hne : front ++ gap?.toList ≠ [] := by
        intro hnil
        simpa [hnil] using ha.tail.head_isPlaceholder
      have hlast : (front ++ gap?.toList ++ .literal t' :: behind).isEmpty = false := by simp
      rw [hlast] at hplace
      refine ⟨s :: .literal t :: front, gap?, t', behind, after, rfl, ?_, hr.cons_gap hs hplace hne, hn⟩
      rw [hl, List.flatMap_cons, List.flatMap_cons, Segment.literalText_of_isPlaceholder hs, List.nil_append,
        Component.after_append]
      rfl

/-! ## Text that is left over -/

theorem align_eq_trailingText {offset stop : Nat} {rest : Text} (ha : Alternates segments) :
    align e c none offset rest segments = .error (.trailingText stop) ↔
      (∀ s ∈ segments, s.isPlaceholder = false) ∧ ∃ after, after ≠ [] ∧
        rest = e.escape c (segments.flatMap Segment.literalText) ++ after ∧
        stop = offset + Text.octetLength (e.escape c (segments.flatMap Segment.literalText)) := by
  induction ha using Alternates.induct generalizing c offset rest with
  | nil =>
    unfold align
    by_cases hr : rest = []
    · simp [hr, Escaping.escape]
    · simp only [hr, ite_false, Except.error.injEq, Mismatch.trailingText.injEq]
      constructor
      · rintro rfl
        exact ⟨by simp, rest, hr, rfl, rfl⟩
      · rintro ⟨-, after, -, -, rfl⟩
        rfl
  | single p hp => rw [align_single hp]; simp [hp]
  | literal t segments ha ih =>
    rw [align_literal]
    simp only [List.forall_mem_cons, List.flatMap_cons, Segment.literalText, Segment.isPlaceholder_literal, true_and,
      e.escape_append, List.append_assoc, Text.octetLength_append]
    cases hd : (e.escape c t).isPrefixOf? rest with
    | none =>
      have hfront := isPrefixOf?_eq_none.mp hd
      constructor
      · intro h
        cases h
      · rintro ⟨-, after, -, rfl, -⟩
        exact absurd (List.prefix_append _ _) hfront
    | some after =>
      rw [← List.append_eq_of_isPrefixOf?_eq_some hd]
      simp only [ih, List.append_cancel_left_eq, Nat.add_assoc]
  | gap p t segments ha hp ih =>
    rw [align_gap hp]
    simp only [List.forall_mem_cons, hp, Bool.true_eq_false, false_and, iff_false]
    cases hplace : place true segments.isEmpty (e.escape c t) rest with
    | none => simp
    | some found =>
      obtain ⟨gap, after⟩ := found
      rw [map_eq_error, ih]
      rintro ⟨hall, after', hne, rfl, -⟩
      cases segments with
      | nil =>
        obtain ⟨_, -, he⟩ := Option.map_eq_some_iff.mp hplace
        exact hne (by simpa [Escaping.escape] using (Prod.mk.inj he).2.symm)
      | cons s segments => simpa [hall s (by simp)] using ha.tail.head_isPlaceholder

end LinkPattern.Alignment

namespace LinkPattern

open LinkPattern.Alignment

variable {F : Type}

/-- A literal of a pattern that is missing from a text. The segments of `front`, which come before it and before
the placeholder `gap?` right in front of it, lie on `before` and on no shorter front of the text. -/
structure Pattern.Break (p : Pattern F) (e : Escaping) (text : Text) where
  front : List (Segment F)
  gap? : Option (Segment F)
  literal : Text
  behind : List (Segment F)
  segments : p.segments = front ++ gap?.toList ++ .literal literal :: behind
  isPlaceholder : ∀ s ∈ gap?, s.isPlaceholder = true
  first : gap? = none → front = []
  before : Text
  rest : Text
  covers : text = before ++ rest
  aligned : ∃ captures, align front before e = .ok captures
  least : ∀ start, start <+: text → Nonempty (Tiling e front start) →
    Text.octetLength before ≤ Text.octetLength start
  missing : ¬ Found gap? behind (e.escape (Component.path.after (front.flatMap Segment.literalText)) literal) rest

namespace Pattern.Break

variable {p : Pattern F} {e : Escaping} {text : Text}

def escaped (b : p.Break e text) : Text :=
  e.escape (Component.path.after (b.front.flatMap Segment.literalText)) b.literal

theorem exists_of_error (ha : Alternates p.segments) {literal : Text} {offset : Nat}
    (h : align p.segments text e = .error (.literal literal offset)) :
    ∃ b : p.Break e text, literal = b.escaped ∧ offset = Text.octetLength b.before := by
  obtain ⟨front, gap?, t, behind, rest, hsegments, rfl, hr, hn⟩ := exists_reaches_of_error ha h
  have hgap : Alternates (front ++ gap?.toList) := by
    rw [hsegments] at ha
    exact List.IsChain.left_of_append ha
  obtain ⟨pieces, ht, hc, hstop, hl⟩ := hr.exists_tiles hgap
  rw [Nat.zero_add] at hstop
  refine ⟨⟨front, gap?, t, behind, hsegments, ?_, ?_, pieces.flatten, rest, hc, ?_, ?_, hn⟩, rfl, hstop⟩
  · cases hr with
    | start => simp
    | gap _ hs _ => simpa using hs
  · cases hr with
    | start => simp
    | gap _ _ _ => simp
  · exact exists_align_eq_ok (List.IsChain.left_of_append hgap) ht 0
  · rintro start hprefix ⟨T⟩
    rw [← T.covers] at hprefix ⊢
    exact hl T.pieces T.tiles hprefix

theorem align_eq_error (b : p.Break e text) (ha : Alternates p.segments) :
    align p.segments text e = .error (.literal b.escaped (Text.octetLength b.before)) := by
  have hgap : Alternates (b.front ++ b.gap?.toList) := by
    rw [b.segments] at ha
    exact List.IsChain.left_of_append ha
  obtain ⟨captures, haligned⟩ := b.aligned
  obtain ⟨T, -⟩ := exists_leftmost_tiling (List.IsChain.left_of_append hgap) haligned
  obtain ⟨stop, after, hr⟩ : ∃ stop after, Reaches e .path 0 text b.front b.gap? stop after := by
    cases hg : b.gap? with
    | none =>
      rw [b.first hg]
      exact ⟨0, text, .start⟩
    | some s =>
      rw [hg] at hgap
      have := exists_reaches (b.isPlaceholder s hg) hgap T.tiles 0 b.rest
      rwa [T.covers, ← b.covers] at this
  obtain ⟨pieces, ht, hc, hstop, hl⟩ := hr.exists_tiles hgap
  have hfront : b.before <+: text := ⟨b.rest, b.covers.symm⟩
  obtain ⟨x, hx⟩ := Text.prefix_of_octetLength_le hfront ⟨after, hc.symm⟩
    (b.least pieces.flatten ⟨after, hc.symm⟩ ⟨⟨pieces, ht, rfl⟩⟩)
  have hle := hl T.pieces T.tiles (by rwa [T.covers])
  rw [T.covers, ← hx, Text.octetLength_append] at hle
  have hnil : x = [] := Text.octetLength_eq_zero.mp (by omega)
  rw [hnil, List.append_nil] at hx
  have hcut := hc.symm.trans b.covers
  rw [← hx] at hcut
  rw [List.append_cancel_left hcut] at hr
  rw [Nat.zero_add, ← hx] at hstop
  rw [← hstop, LinkPattern.align, b.segments]
  exact hr.align_eq_error b.missing

end Pattern.Break

variable [DecidableEq F] [Vocabulary F]

/-- An alignment breaks off at a literal exactly where that is missing, behind the shortest front of the text that
the segments before it can lie on. Text is left over exactly where a pattern without placeholders is
the front of it. -/
theorem align_breaks_off_furthest {p : Pattern F} (hp : p.Made) (text : Text) (e : Escaping) :
    (∀ literal offset, align p.segments text e = .error (.literal literal offset) ↔
      ∃ b : p.Break e text, literal = b.escaped ∧ offset = Text.octetLength b.before) ∧
    ∀ offset, align p.segments text e = .error (.trailingText offset) ↔
      (∀ s ∈ p.segments, s.isPlaceholder = false) ∧ ∃ rest, rest ≠ [] ∧
        text = e.escape .path (p.segments.flatMap Segment.literalText) ++ rest ∧
        offset = Text.octetLength (e.escape .path (p.segments.flatMap Segment.literalText)) := by
  have ha := hp.wellFormed.alternates
  refine ⟨fun literal offset => ⟨Pattern.Break.exists_of_error ha, ?_⟩, fun offset => ?_⟩
  · rintro ⟨b, rfl, rfl⟩
    exact b.align_eq_error ha
  · rw [LinkPattern.align, align_eq_trailingText ha]
    simp only [Nat.zero_add]

/-- The text has its last `-` before the literal that is missing, but the search for that begins behind the first. -/
theorem align_breaks_off_furthest_dashes :
    let p : Pattern Text := (Pattern.Builder.empty.pushSome
      [.literal ['/'], .field ['a'], .literal ['-'], .field ['b'], .literal ['=', 'é']]).build
    let q : Pattern Text := (Pattern.Builder.empty.pushSome [.literal "/é".toList]).build
    p.Made ∧ q.Made ∧ align p.segments "/-x-y=".toList ⟨true, false⟩ = .error (.literal "=%C3%A9".toList 2) ∧
      (∃ b : p.Break ⟨true, false⟩ "/-x-y=".toList, "=%C3%A9".toList = b.escaped ∧ 2 = Text.octetLength b.before) ∧
      align q.segments "/%C3%A9/-".toList ⟨true, false⟩ = .error (.trailingText 7) := by
  intro p q
  have hp : p.Made := .build _
  have hq : q.Made := .build _
  have herror : align p.segments "/-x-y=".toList ⟨true, false⟩ = .error (.literal "=%C3%A9".toList 2) := by decide
  obtain ⟨hbreak, -⟩ := align_breaks_off_furthest hp "/-x-y=".toList ⟨true, false⟩
  obtain ⟨-, hleft⟩ := align_breaks_off_furthest hq "/%C3%A9/-".toList ⟨true, false⟩
  refine ⟨hp, hq, herror, (hbreak _ _).mp herror, (hleft 7).mpr ⟨?_, "/-".toList, ?_, ?_, ?_⟩⟩
  · intro s hs
    cases List.mem_singleton.mp hs
    rfl
  · decide
  · decide
  · decide

end LinkPattern
