import LinkPattern.Matcher
import LinkPattern.Proofs.Alignment.Leftmost
import LinkPattern.Proofs.Alignment.Steps

/-!
# Alignment within bounds

Offsets count octets, and a text can only be cut between two of its characters. Whatever the segments
are, the octet that an alignment has come to is such a place, the text from there on is what it has in
hand, and the spans of its captures follow one another inside the text. So nothing that is cut from the
text is out of bounds.
-/

namespace LinkPattern

namespace Text

/-- A place between two characters or at an end of the text. -/
def IsBoundary (t : Text) (n : Nat) : Prop := ∃ a b, t = a ++ b ∧ n = octetLength a

theorem IsBoundary.le {t : Text} {n : Nat} (h : IsBoundary t n) : n ≤ octetLength t := by
  obtain ⟨a, b, rfl, rfl⟩ := h
  exact octetLength_le_of_prefix (List.prefix_append a b)

end Text

structure Span.Within (s : Span) (t : Text) : Prop where
  start_le_stop : s.start ≤ s.stop
  stop_le : s.stop ≤ Text.octetLength t
  start_isBoundary : Text.IsBoundary t s.start
  stop_isBoundary : Text.IsBoundary t s.stop

namespace Capture

variable {F : Type}

def LiesIn (text : Text) (cap : Capture F) : Prop :=
  ∃ before behind, text = before ++ cap.raw ++ behind ∧ cap.start = Text.octetLength before

namespace LiesIn

variable {text : Text} {cap : Capture F}

theorem within (h : cap.LiesIn text) : cap.span.Within text := by
  obtain ⟨before, behind, rfl, hstart⟩ := h
  have hstop : Text.IsBoundary (before ++ cap.raw ++ behind) cap.span.stop := by
    refine ⟨before ++ cap.raw, behind, rfl, ?_⟩
    rw [Capture.span, Text.octetLength_append, hstart]
  exact ⟨Nat.le_add_right .., hstop.le, ⟨before, cap.raw ++ behind, List.append_assoc .., hstart⟩, hstop⟩

theorem slice? (h : cap.LiesIn text) : Text.slice? cap.span text = some cap.raw := by
  obtain ⟨before, behind, rfl, hstart⟩ := h
  rw [Capture.span, hstart, Text.slice?_append]

end LiesIn

def cut? (text : Text) (s : Segment F) (span : Span) : Option (Capture F) :=
  (Text.slice? span text).map fun raw => ⟨s, span.start, raw⟩

theorem cut?_span {text : Text} {cap : Capture F} (h : cap.LiesIn text) : cut? text cap.segment cap.span = some cap := by
  rw [cut?, h.slice?]
  rfl

end Capture

namespace Alignment

variable {F : Type}

/-- Captures that follow one another in a text from octet `n` to octet `m`. -/
inductive Ordered (text : Text) : Nat → List (Capture F) → Nat → Prop
  | nil {n m : Nat} : n ≤ m → Ordered text n [] m
  | cons {n m : Nat} {cap : Capture F} {captures : List (Capture F)} :
    cap.LiesIn text → n ≤ cap.span.start → Ordered text cap.span.stop captures m → Ordered text n (cap :: captures) m

namespace Ordered

variable {text : Text} {n n' m k : Nat} {cap : Capture F} {captures more : List (Capture F)}

theorem of_le (hn : n' ≤ n) (h : Ordered text n captures m) : Ordered text n' captures m := by
  cases h with
  | nil h => exact .nil (Nat.le_trans hn h)
  | cons hcap hle h => exact .cons hcap (Nat.le_trans hn hle) h

theorem append (h : Ordered text n captures m) (hmore : Ordered text m more k) : Ordered text n (captures ++ more) k := by
  induction h with
  | nil h => exact hmore.of_le h
  | cons hcap hle _ ih => exact .cons hcap hle (ih hmore)

theorem liesIn (h : Ordered text n captures m) (hcap : cap ∈ captures) : cap.LiesIn text := by
  induction h with
  | nil _ => cases hcap
  | cons hlies _ _ ih =>
    rcases List.mem_cons.mp hcap with rfl | hcap
    · exact hlies
    · exact ih hcap

theorem le_start (h : Ordered text n captures m) (hcap : cap ∈ captures) : n ≤ cap.span.start := by
  induction h with
  | nil _ => cases hcap
  | cons hlies hle _ ih =>
    rcases List.mem_cons.mp hcap with rfl | hcap
    · exact hle
    · exact Nat.le_trans hle (Nat.le_trans hlies.within.start_le_stop (ih hcap))

theorem pairwise (h : Ordered text n captures m) :
    captures.Pairwise fun cap cap' => cap.span.stop ≤ cap'.span.start := by
  induction h with
  | nil _ => exact .nil
  | cons _ _ h ih => exact .cons (fun _ hcap => h.le_start hcap) ih

end Ordered

theorem rest_of_place {afterPlaceholder last : Bool} {literal rest gap after : Text}
    (h : place afterPlaceholder last literal rest = some (gap, after)) : rest = gap ++ literal ++ after := by
  cases afterPlaceholder with
  | true => exact place_eq_some h
  | false =>
    obtain ⟨after, hd, he⟩ := Option.map_eq_some_iff.mp h
    cases he
    exact (List.append_eq_of_isPrefixOf?_eq_some hd).symm

namespace State

def At (text : Text) (st : State F) : Prop := ∃ before, text = before ++ st.rest ∧ st.offset = Text.octetLength before

theorem at_start (text : Text) : (start text : State F).At text := ⟨[], rfl, rfl⟩

variable {text : Text} {e : Escaping} {last : Bool} {st st' : State F} {s : Segment F} {cap? : Option (Capture F)}
  {front behind segments : List (Segment F)} {captures : List (Capture F)}

namespace At

theorem isBoundary (h : st.At text) : Text.IsBoundary text st.offset := by
  obtain ⟨before, htext, hoffset⟩ := h
  exact ⟨before, st.rest, htext, hoffset⟩

theorem slice? (h : st.At text) : Text.slice? ⟨st.offset, Text.octetLength text⟩ text = some st.rest := by
  obtain ⟨before, rfl, hoffset⟩ := h
  have := Text.slice?_append before st.rest []
  rwa [List.append_nil, ← Text.octetLength_append, ← hoffset] at this

theorem le_sub_of_suffix (h : st.At text) {literal : Text} (hl : literal <:+ st.rest) :
    Text.octetLength literal ≤ Text.octetLength text ∧
      st.offset ≤ Text.octetLength text - Text.octetLength literal ∧
      Text.IsBoundary text (Text.octetLength text - Text.octetLength literal) := by
  obtain ⟨before, htext, hoffset⟩ := h
  obtain ⟨gap, hgap⟩ := hl
  have hcut : text = before ++ gap ++ literal := by rw [htext, ← hgap, List.append_assoc]
  have hlength : Text.octetLength text =
      Text.octetLength before + Text.octetLength gap + Text.octetLength literal := by
    rw [hcut, Text.octetLength_append, Text.octetLength_append]
  refine ⟨by omega, by omega, before ++ gap, literal, hcut, ?_⟩
  rw [Text.octetLength_append]
  omega

theorem align_of_suffix (h : st.At text) {p : Segment F} (hp : st.pending = some p) {t : Text}
    (ht : e.escape st.component t <:+ st.rest) :
    ∃ cap, st.align e [.literal t] = .ok [cap] ∧ cap.segment = p ∧
      cap.span = ⟨st.offset, Text.octetLength text - Text.octetLength (e.escape st.component t)⟩ := by
  obtain ⟨before, htext, hoffset⟩ := h
  obtain ⟨gap, hgap⟩ := ht
  have hplace : place st.pending.isSome true (e.escape st.component t) st.rest = some (gap, []) := by
    have hd := List.isSuffixOf?_eq_some_iff_append_eq.mpr hgap
    simp [place, hp, hd]
  refine ⟨⟨p, st.offset, gap⟩, ?_, rfl, ?_⟩
  · rw [align_cons, List.isEmpty_nil, step_of_found hplace, hp]
    rfl
  · have hlength : Text.octetLength text =
        st.offset + Text.octetLength gap + Text.octetLength (e.escape st.component t) := by
      rw [htext, ← hgap, hoffset, Text.octetLength_append, Text.octetLength_append, Nat.add_assoc]
    rw [hlength, Nat.add_sub_cancel, Capture.span]

end At

theorem at_of_step (h : st.step e last s = .ok (st', cap?)) (hat : st.At text) :
    st'.At text ∧ Ordered text st.offset cap?.toList st'.offset := by
  obtain ⟨before, htext, hoffset⟩ := hat
  rcases step_eq_ok h with ⟨-, rfl, rfl⟩ | ⟨t, gap, after, rfl, hplace, rfl, rfl⟩
  · exact ⟨⟨before, htext, hoffset⟩, .nil (Nat.le_refl _)⟩
  · have hcut : text = before ++ gap ++ (e.escape st.component t ++ after) := by
      rw [htext, rest_of_place hplace]
      simp only [List.append_assoc]
    refine ⟨⟨before ++ gap ++ e.escape st.component t, ?_, ?_⟩, ?_⟩
    · exact hcut.trans (List.append_assoc ..).symm
    · rw [Text.octetLength_append, Text.octetLength_append, ← hoffset]
    · cases st.pending with
      | none => exact .nil (Nat.le_trans (Nat.le_add_right ..) (Nat.le_add_right ..))
      | some p => exact .cons ⟨before, _, hcut, hoffset⟩ (Nat.le_refl _) (.nil (Nat.le_add_right ..))

theorem at_of_run (h : st.run e behind front = .ok (st', captures)) (hat : st.At text) :
    st'.At text ∧ Ordered text st.offset captures st'.offset := by
  refine run_induct (r := fun _ st captures st' => st.At text → st'.At text ∧ Ordered text st.offset captures st'.offset)
    (fun st hat => ⟨hat, .nil (Nat.le_refl _)⟩) (fun hstep hrest hat => ?_) h hat
  obtain ⟨hat, hcap⟩ := at_of_step hstep hat
  obtain ⟨hat, hcaptures⟩ := hrest hat
  exact ⟨hat, hcap.append hcaptures⟩

theorem ordered_of_align_nil (h : st.align e [] = .ok captures) (hat : st.At text) :
    Ordered text st.offset captures (Text.octetLength text) := by
  have hle := hat.isBoundary.le
  obtain ⟨before, htext, hoffset⟩ := hat
  unfold State.align Alignment.align at h
  cases hp : st.pending with
  | none =>
    rw [hp] at h
    by_cases hr : st.rest = []
    · rw [if_pos hr] at h
      cases h
      exact .nil hle
    · rw [if_neg hr] at h
      cases h
  | some p =>
    -- the last placeholder takes all that is in hand, up to the end of the text
    rw [hp] at h
    cases h
    have hlies : (⟨p, st.offset, st.rest⟩ : Capture F).LiesIn text := ⟨before, [], by rw [htext, List.append_nil], hoffset⟩
    exact .cons hlies (Nat.le_refl _) (.nil hlies.within.stop_le)

theorem ordered_of_align (h : st.align e segments = .ok captures) (hat : st.At text) :
    Ordered text st.offset captures (Text.octetLength text) := by
  -- the whole alignment is a run over all segments, and then what is done behind the last
  have happend := align_append e st segments []
  rw [List.append_nil, h] at happend
  obtain ⟨⟨st', front⟩, hrun, h⟩ := bind_eq_ok.mp happend.symm
  obtain ⟨more, hmore, rfl⟩ := map_eq_ok.mp h
  obtain ⟨hat, hfront⟩ := at_of_run hrun hat
  exact hfront.append (ordered_of_align_nil hmore hat)

end State

end Alignment

namespace Bindings

variable {F : Type}

def ofSlices? (o : Options) (query? : Option Span) (text : Text) (spans : List (Segment F × Span)) :
    Option (Except MatchError (Bindings F)) :=
  (spans.mapM fun x => Capture.cut? text x.1 x.2).map (ofCaptures o query?)

theorem ofSlices?_eq_some {text : Text} {captures : List (Capture F)} (h : ∀ cap ∈ captures, cap.LiesIn text)
    (o : Options) (query? : Option Span) :
    ofSlices? o query? text (captures.map fun cap => (cap.segment, cap.span)) = some (ofCaptures o query? captures) := by
  have hcut : (captures.map fun cap => (cap.segment, cap.span)).mapM (fun x => Capture.cut? text x.1 x.2) =
      some captures := by
    induction captures with
    | nil => rfl
    | cons cap captures ih =>
      rw [List.forall_mem_cons] at h
      rw [List.map_cons, List.mapM_cons, ih h.2, Capture.cut?_span h.1]
      rfl
  rw [ofSlices?, hcut]
  rfl

end Bindings

open LinkPattern.Alignment

variable {F : Type}

/-- Whatever the segments are, each octet that an alignment comes to lies between two characters of the
text, and what is left from there on is a slice of it; a literal that ends that slice can be taken off the
length of the text without going back. The captures take spans of the text one after another, so that each
of them can be cut from it to be bound. -/
theorem align_slices_inside (segments : List (Segment F)) (text : Text) (e : Escaping) :
    (∀ front behind, segments = front ++ behind →
      align segments text e =
          (State.start text).run e behind front >>= (fun r => (r.1.align e behind).map (r.2 ++ ·)) ∧
        ∀ st captures, (State.start text).run e behind front = .ok (st, captures) →
          Text.IsBoundary text st.offset ∧ st.offset ≤ Text.octetLength text ∧
          Text.slice? ⟨st.offset, Text.octetLength text⟩ text = some st.rest ∧
          ∀ t, e.escape st.component t <:+ st.rest →
            let length := Text.octetLength (e.escape st.component t)
            length ≤ Text.octetLength text ∧ st.offset ≤ Text.octetLength text - length ∧
            Text.IsBoundary text (Text.octetLength text - length) ∧
            ∀ p, st.pending = some p → ∃ cap, st.align e [.literal t] = .ok [cap] ∧ cap.segment = p ∧
              cap.span = ⟨st.offset, Text.octetLength text - length⟩) ∧
      ∀ captures, align segments text e = .ok captures →
        (∀ cap ∈ captures, cap.span.Within text) ∧
        captures.Pairwise (fun cap cap' => cap.span.stop ≤ cap'.span.start) ∧
        ∀ o query?, Bindings.ofSlices? o query? text (captures.map fun cap => (cap.segment, cap.span)) =
          some (Bindings.ofCaptures o query? captures) := by
  refine ⟨fun front behind hsegments => ⟨?_, fun st captures hrun => ?_⟩, fun captures h => ?_⟩
  · rw [hsegments]
    exact State.align_append e (State.start text) front behind
  · obtain ⟨hat, -⟩ := State.at_of_run hrun (State.at_start text)
    refine ⟨hat.isBoundary, hat.isBoundary.le, hat.slice?, fun t ht => ?_⟩
    obtain ⟨hlength, hle, hboundary⟩ := hat.le_sub_of_suffix ht
    exact ⟨hlength, hle, hboundary, fun p hp => hat.align_of_suffix hp ht⟩
  · have halign : (State.start text).align e segments = .ok captures := h
    have hordered := State.ordered_of_align halign (State.at_start text)
    refine ⟨fun cap hcap => (hordered.liesIn hcap).within, hordered.pairwise, fun o query? => ?_⟩
    exact Bindings.ofSlices?_eq_some (fun cap hcap => hordered.liesIn hcap) o query?

/-- Two literals in a row, one of them empty, and two placeholders in a row, of which the first takes nothing. -/
theorem align_slices_inside_adjacent :
    let front : List (Segment Text) := [.literal [], .field ['a'], .field ['b'], .literal ['/'], .literal [], .field ['c']]
    let text := "é/ü~".toList
    let e : Escaping := ⟨true, false⟩
    let st : Alignment.State Text := ⟨.path, some (.field ['c']), 3, "ü~".toList⟩
    let captures : List (Capture Text) := [⟨.field ['b'], 0, ['é']⟩, ⟨.field ['c'], 3, ['ü']⟩]
    (State.start text).run e [.literal ['~']] front = .ok (st, [⟨.field ['b'], 0, ['é']⟩]) ∧
      align (front ++ [.literal ['~']]) text e = .ok captures ∧ Text.octetLength text = 6 ∧
      Text.slice? ⟨3, 6⟩ text = some "ü~".toList ∧ Text.IsBoundary text 5 ∧
      (∀ cap ∈ captures, cap.span.Within text) ∧
      ∀ o query?, Bindings.ofSlices? o query? text [(.field ['b'], ⟨0, 2⟩), (.field ['c'], ⟨3, 5⟩)] =
        some (Bindings.ofCaptures o query? captures) := by
  intro front text e st captures
  have hrun : (State.start text).run e [.literal ['~']] front = .ok (st, [⟨.field ['b'], 0, ['é']⟩]) := by decide
  have halign : align (front ++ [.literal ['~']]) text e = .ok captures := by decide
  have hsuffix : e.escape st.component ['~'] <:+ st.rest := ⟨['ü'], by decide⟩
  obtain ⟨hsteps, hcaptures⟩ := align_slices_inside (front ++ [.literal ['~']]) text e
  obtain ⟨-, hcursor⟩ := hsteps front [.literal ['~']] rfl
  obtain ⟨-, -, hslice, hlast⟩ := hcursor st _ hrun
  obtain ⟨-, -, hboundary, -⟩ := hlast ['~'] hsuffix
  obtain ⟨hwithin, -, hbind⟩ := hcaptures captures halign
  exact ⟨hrun, halign, by decide, hslice, hboundary, hwithin, hbind⟩

end LinkPattern
