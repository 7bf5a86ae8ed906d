import LinkPattern.Proofs.Alignment.Components
import LinkPattern.Proofs.Bindings
import LinkPattern.Proofs.Decoding

/-!
# Plus signs of a query

A capture is taken for one of the query when it lies in the octets of the query. Where the parts of a
URL have no delimiter in them, the subject has each delimiter once at most, and a pattern that aligns
with it has spent this one in a literal. So no capture has one, each lies in the component that its
placeholder belongs to, and plus signs are spaces in the placeholders of the query and nowhere else.
-/

namespace LinkPattern

namespace Url

structure Undivided (u : Url) : Prop where
  path : Undelimited u.path
  query : ∀ q ∈ u.query?, Undelimited q
  fragment : ∀ f ∈ u.fragment?, Undelimited f

/-! ## Delimiters of a subject -/

theorem count_opened (b : Bool) {t? : Option Text} {x : Char} (hx : ∀ t ∈ t?, x ∉ t) (d : Char) :
    ((if b = true then t? else none).elim [] (d :: ·)).count x ≤ if d = x then b.toNat else 0 := by
  cases b with
  | false => simp
  | true =>
    cases t? with
    | none => simp
    | some t =>
      have ht : t.count x = 0 := List.count_eq_zero.mpr (hx t rfl)
      by_cases hd : d = x <;> simp [hd, ht]

namespace Undivided

variable {u : Url} (h : u.Undivided)
include h

theorem delimited : u.Delimited where
  path := h.path
  query q hq := (h.query q hq).not_mem (.inr rfl)

theorem count_subject_le {x : Char} (hx : x = '?' ∨ x = '#') (withQuery withFragment : Bool) :
    (u.subject withQuery withFragment).text.count x ≤
      (if '?' = x then withQuery.toNat else 0) + if '#' = x then withFragment.toNat else 0 := by
  have hpath : u.path.count x = 0 := List.count_eq_zero.mpr (h.path.not_mem hx)
  have hquery := count_opened withQuery (fun q hq => (h.query q hq).not_mem hx) '?'
  have hfragment := count_opened withFragment (fun f hf => (h.fragment f hf).not_mem hx) '#'
  simp only [subject, List.count_append]
  omega

end Undivided

end Url

variable {F : Type}

/-! ## Delimiters of a pattern -/

namespace Pattern

variable (p : Pattern F) (e : Escaping)

theorem addressesQuery_le_count :
    p.addressesQuery.toNat ≤ (e.escape .path (p.segments.flatMap Segment.literalText)).count '?' := by
  by_cases hq : p.addressesQuery = true
  · have hopens := List.contains_iff_mem.mp (p.addressesQuery_eq ▸ hq)
    rw [opened_eq_opens, ← e.opens_escape, Component.query_mem_opens_path] at hopens
    rw [hq]
    exact List.one_le_count_iff.mpr ((List.takeWhile_sublist _).mem hopens)
  · simp [hq]

theorem addressesFragment_le_count :
    p.addressesFragment.toNat ≤ (e.escape .path (p.segments.flatMap Segment.literalText)).count '#' := by
  by_cases hf : p.addressesFragment = true
  · have hopens := List.contains_iff_mem.mp (p.addressesFragment_eq ▸ hf)
    rw [opened_eq_opens, ← e.opens_escape, Component.fragment_mem_opens_path] at hopens
    rw [hf]
    exact List.one_le_count_iff.mpr hopens
  · simp [hf]

end Pattern

/-! ## Delimiters of captures -/

namespace Alignment

variable {e : Escaping} {c : Component} {segments : List (Segment F)} {pieces : List Text}

theorem Tiles.count_eq (h : Tiles e c segments pieces) (start : Nat) (x : Char) :
    pieces.flatten.count x = (e.escape c (segments.flatMap Segment.literalText)).count x +
      ((capturesOf start segments pieces).flatMap Capture.raw).count x := by
  induction h generalizing start with
  | nil => rfl
  | @literal c t segments pieces _ ih =>
    have ih := ih (start + Text.octetLength (e.escape c t))
    have hcaptures : capturesOf start (.literal t :: segments) (e.escape c t :: pieces) =
        capturesOf (start + Text.octetLength (e.escape c t)) segments pieces := rfl
    rw [hcaptures, List.flatten_cons, List.count_append, List.flatMap_cons, Segment.literalText, e.escape_append,
      List.count_append, ih, Nat.add_assoc]
  | @placeholder c s segments pieces raw hs _ ih =>
    have ih := ih (start + Text.octetLength raw)
    rw [capturesOf, if_pos hs, List.flatten_cons, List.count_append, List.flatMap_cons, List.flatMap_cons,
      Segment.literalText_of_isPlaceholder hs, List.nil_append, List.count_append, ih]
    exact Nat.add_left_comm ..

theorem Tiles.after_eq (h : Tiles e c segments pieces) {start : Nat}
    (hc : ∀ cap ∈ capturesOf start segments pieces, Url.Undelimited cap.raw) (i : Nat) :
    c.after (pieces.take i).flatten = c.after ((segments.take i).flatMap Segment.literalText) := by
  induction h generalizing start i with
  | nil => simp
  | @literal c t segments pieces _ ih =>
    cases i with
    | zero => rfl
    | succ i =>
      have hrest : ∀ cap ∈ capturesOf (start + Text.octetLength (e.escape c t)) segments pieces,
          Url.Undelimited cap.raw := hc
      rw [List.take_succ_cons, List.take_succ_cons, List.flatten_cons, List.flatMap_cons, Component.after_append,
        Component.after_append, e.after_escape, ih hrest i]
      rfl
  | @placeholder c s segments pieces raw hs _ ih =>
    cases i with
    | zero => rfl
    | succ i =>
      rw [capturesOf, if_pos hs, List.forall_mem_cons] at hc
      have hraw : c.after raw = c := Component.after_eq_self fun x hx =>
        Component.opened?_eq_none (hc.1 x hx).1 (hc.1 x hx).2
      rw [List.take_succ_cons, List.take_succ_cons, List.flatten_cons, List.flatMap_cons, Component.after_append,
        Component.after_append, hraw, Segment.literalText_of_isPlaceholder hs, ih hc.2 i]
      rfl

end Alignment

namespace Tiling

open LinkPattern.Alignment

section
variable {p : Pattern F} {u : Url} (hu : u.Undivided) {e : Escaping}
  (T : Tiling e p.segments (u.subject p.addressesQuery p.addressesFragment).text)
include hu

theorem undelimited_of_mem_captures {cap : Capture F} (hcap : cap ∈ T.captures) : Url.Undelimited cap.raw := by
  -- the literals take as many delimiters as the subject has, which leaves none for the captures
  have hnone : ∀ x, (u.subject p.addressesQuery p.addressesFragment).text.count x ≤
      (e.escape .path (p.segments.flatMap Segment.literalText)).count x → x ∉ cap.raw := by
    intro x hx hm
    have hcount := T.tiles.count_eq 0 x
    have hpos : 0 < (T.captures.flatMap Capture.raw).count x :=
      List.count_pos_iff.mpr (List.mem_flatMap.mpr ⟨cap, hcap, hm⟩)
    rw [T.covers] at hcount
    unfold captures at hpos
    omega
  have hquery := p.addressesQuery_le_count e
  have hfragment := p.addressesFragment_le_count e
  have hquestion := hu.count_subject_le (.inl rfl) p.addressesQuery p.addressesFragment
  have hhash := hu.count_subject_le (.inr rfl) p.addressesQuery p.addressesFragment
  have hne : '?' ≠ '#' := by decide
  simp only [hne, hne.symm, ite_true, ite_false, Nat.add_zero, Nat.zero_add] at hquestion hhash
  refine fun x hx => ⟨fun he => ?_, fun he => ?_⟩
  · exact hnone '?' (Nat.le_trans hquestion hquery) (he ▸ hx)
  · exact hnone '#' (Nat.le_trans hhash hfragment) (he ▸ hx)

theorem inStep_of_undivided : InStep p T := by
  have hafter := T.tiles.after_eq fun _ hcap => T.undelimited_of_mem_captures hu hcap
  intro i s hi hs
  refine ⟨hafter i, ?_⟩
  have hsucc : p.componentAt (i + 1) = p.componentAt i := by
    rw [Pattern.componentAt_succ hi, Segment.literalText_of_isPlaceholder hs]
    rfl
  exact (hafter (i + 1)).trans hsucc

end

end Tiling

/-! ## Values -/

namespace Bindings

open Percent

inductive Reads (plus : Char) : Capture F → F × Value → Prop
  | text {f : F} {start : Nat} {raw t : Text} : DecodesAround plus raw t → Reads plus ⟨.field f, start, raw⟩ (f, .text t)
  | empty {f : F} {d : Char} {start : Nat} : Reads plus ⟨.list f d, start, []⟩ (f, .list [])
  | items {f : F} {d : Char} {start : Nat} {raw : Text} {items : List Text} : raw ≠ [] →
      List.Forall₂ (DecodesAround plus) (Text.splitOn d raw) items → Reads plus ⟨.list f d, start, raw⟩ (f, .list items)

theorem Bound.reads {o : Options} {query? : Option Span} {c : Capture F} {b : F × Value} (h : Bound o query? c b) :
    Reads (plusSign (plusAsSpace o query? c)) c b := by
  cases h with
  | text _ ht => exact .text (decode_eq_ok.mp ht)
  | empty _ => exact .empty
  | items hraw hitems => exact .items hraw (hitems.imp fun _ _ h => decode_eq_ok.mp h)

end Bindings

variable [DecidableEq F] [Vocabulary F]

/-- Where a pattern aligns with a URL whose parts have no delimiters in them, the captures that lie in
the query are those of the placeholders that belong to it. Plus signs are read as spaces in these, if
that is asked for, and as plus signs in all others. -/
theorem plusAsSpace_iff_query {p : Pattern F} (hp : p.Made) {u : Url} (hu : u.Undivided) {e : Escaping}
    {captures : List (Capture F)}
    (h : align p.segments (u.subject p.addressesQuery p.addressesFragment).text e = .ok captures) :
    let query? := (u.subject p.addressesQuery p.addressesFragment).query?
    captures.map Capture.segment = p.segments.filter Segment.isPlaceholder ∧
      (∀ cap ∈ captures, ∀ i, p.segments[i]? = some cap.segment →
        (query?.any (·.encloses cap.span) = true ↔ p.componentAt i = .query)) ∧
      ∀ o bs, Bindings.ofCaptures o query? captures = .ok bs →
        List.Forall₂ (fun cap b => ∀ i, p.segments[i]? = some cap.segment →
            Bindings.Reads (Bindings.plusSign (o.queryPlusAsSpace && p.componentAt i = .query)) cap b)
          (captures.filter (!·.isUnset o)) bs := by
  intro query?
  have hsegments := segments_of_align hp.wellFormed.alternates h
  have hplaceholder : ∀ cap ∈ captures, cap.segment.isPlaceholder = true := fun cap hcap =>
    (mem_segments_of_align hp.wellFormed.alternates h hcap).2
  obtain ⟨T, rfl, -⟩ := exists_leftmost_tiling hp.wellFormed.alternates h
  have hquery : ∀ cap ∈ T.captures, ∀ i, p.segments[i]? = some cap.segment →
      (query?.any (·.encloses cap.span) = true ↔ p.componentAt i = .query) := by
    intro cap hcap i hi
    obtain ⟨j, hj, hx, hstart⟩ := Alignment.mem_capturesOf hcap
    rw [hp.wellFormed.index_unique hi hj (hplaceholder cap hcap)]
    obtain ⟨hbefore, hbehind⟩ := T.inStep_of_undivided hu j cap.segment hj (hplaceholder cap hcap)
    have hspan := Tiling.exists_encloses_iff hu.delimited T hx hstart .query
    rw [hbefore, hbehind, and_self] at hspan
    rw [← hspan, Option.any_eq_true]
    rfl
  refine ⟨hsegments, hquery, fun o bs hbs => ?_⟩
  have hkept : ∀ cap ∈ T.captures.filter (!·.isUnset o), cap ∈ T.captures := fun cap => List.mem_of_mem_filter
  have hbound := (List.forall₂_and_left _ _).mpr ⟨hkept, (Bindings.ofCaptures_eq_ok hplaceholder).mp hbs⟩
  refine hbound.imp fun cap b ⟨hcap, hb⟩ i hi => ?_
  have hplus : Bindings.plusAsSpace o query? cap = (o.queryPlusAsSpace && p.componentAt i = .query) := by
    rw [Bindings.plusAsSpace, Bool.eq_iff_iff]
    simp only [Bool.and_eq_true, decide_eq_true_eq, hquery cap hcap i hi]
  rw [← hplus]
  exact hb.reads

theorem plusAsSpace_iff_query_everywhere :
    let u : Url := ⟨"https".toList, false, "/a+".toList, some "q=c+d,e%2B+".toList, some "g+h".toList⟩
    let o : Options := { queryPlusAsSpace := true }
    let query? : Option Span := some ⟨4, 15⟩
    ∃ (p : Pattern Text) (captures : List (Capture Text)),
      Pattern.ofTemplate "/\x7bp\x7d?q=\x7bq|,\x7d#\x7bf\x7d".toList = .ok p ∧ u.Undivided ∧
      (u.subject p.addressesQuery p.addressesFragment).query? = query? ∧
      align p.segments (u.subject p.addressesQuery p.addressesFragment).text u.escaping = .ok captures ∧
      (∀ cap ∈ captures, ∀ i, p.segments[i]? = some cap.segment →
        (query?.any (·.encloses cap.span) = true ↔ p.componentAt i = .query)) ∧
      Bindings.ofCaptures o query? captures =
        .ok [(['p'], .text "a+".toList), (['q'], .list ["c d".toList, "e+ ".toList]), (['f'], .text "g+h".toList)] := by
  intro u o query?
  let p : Pattern Text :=
    .of [.literal ['/'], .field ['p'], .literal "?q=".toList, .list ['q'] ',', .literal ['#'], .field ['f']]
  let captures : List (Capture Text) :=
    [⟨.field ['p'], 1, "a+".toList⟩, ⟨.list ['q'] ',', 6, "c+d,e%2B+".toList⟩, ⟨.field ['f'], 16, "g+h".toList⟩]
  have hp : Pattern.ofTemplate "/\x7bp\x7d?q=\x7bq|,\x7d#\x7bf\x7d".toList = .ok p := by decide +kernel
  have hu : u.Undivided :=
    { path := by decide
      query := by rintro q ⟨⟩; decide
      fragment := by rintro f ⟨⟩; decide }
  have hsubject : (u.subject p.addressesQuery p.addressesFragment).query? = query? := by decide +kernel
  have hcaptures : align p.segments (u.subject p.addressesQuery p.addressesFragment).text u.escaping = .ok captures := by
    decide +kernel
  obtain ⟨-, hquery, -⟩ := plusAsSpace_iff_query (.template hp) hu hcaptures
  rw [hsubject] at hquery
  exact ⟨p, captures, hp, hu, hsubject, hcaptures, hquery, by decide +kernel⟩

end LinkPattern
