import LinkPattern.Pattern.Builder
import LinkPattern.Proofs.Alignment.Steps
import LinkPattern.Proofs.Component

/-!
# Flags and the components of an alignment

Whether a pattern speaks of a query or of a fragment is read off its literal text alone. An alignment
follows the components on its own, from one literal to the next, and comes to the same ones: it is in
no component that the pattern does not speak of.
-/

namespace LinkPattern

namespace Component

theorem mem_takeWhile_ne {x d : Char} (h : x ≠ d) {t : Text} :
    x ∈ t.takeWhile (· ≠ d) ↔ ∃ a b, t = a ++ x :: b ∧ d ∉ a := by
  constructor
  · intro hx
    obtain ⟨a, b, hab⟩ := List.append_of_mem hx
    refine ⟨a, b ++ t.dropWhile (· ≠ d), ?_, fun hd => ?_⟩
    · have ht := (List.takeWhile_append_dropWhile (p := (· ≠ d)) (l := t)).symm
      rw [hab] at ht
      simpa using ht
    · have hmem : d ∈ t.takeWhile (· ≠ d) := by
        rw [hab]
        exact List.mem_append_left _ hd
      exact of_decide_eq_true (List.all_eq_true.mp List.all_takeWhile d hmem) rfl
  · rintro ⟨a, b, rfl, ha⟩
    have hfront : ∀ y ∈ a, decide (y ≠ d) = true := fun y hy => decide_eq_true fun e => ha (e ▸ hy)
    rw [List.takeWhile_append_of_pos hfront, List.takeWhile_cons_of_pos (by simpa using h)]
    simp

theorem after_mem_opens {c : Component} {t : Text} (h : c.after t ≠ c) : c.after t ∈ c.opens t := by
  induction t generalizing c with
  | nil => exact absurd rfl h
  | cons x t ih =>
    cases hx : c.opened? x with
    | none =>
      simp only [after, opens, hx, Option.getD_none] at h ⊢
      exact ih h
    | some d =>
      simp only [after, opens, hx, Option.getD_some] at h ⊢
      by_cases hd : d.after t = d
      · rw [hd]
        exact List.mem_cons_self ..
      · exact List.mem_cons_of_mem _ (ih hd)

end Component

namespace Pattern

variable {F : Type}

theorem addressesQuery_iff (p : Pattern F) :
    p.addressesQuery = true ↔ ∃ a b, p.segments.flatMap Segment.literalText = a ++ '?' :: b ∧ '#' ∉ a := by
  rw [addressesQuery_eq, List.contains_iff_mem, opened_eq_opens, Component.query_mem_opens_path,
    Component.mem_takeWhile_ne (by decide)]

theorem addressesFragment_iff (p : Pattern F) :
    p.addressesFragment = true ↔ '#' ∈ p.segments.flatMap Segment.literalText := by
  rw [addressesFragment_eq, List.contains_iff_mem, opened_eq_opens, Component.fragment_mem_opens_path]

theorem mem_opened_of_after {p : Pattern F} {front behind : List (Segment F)} (hp : p.segments = front ++ behind)
    {c : Component} (hc : Component.path.after (front.flatMap Segment.literalText) = c) (hne : c ≠ .path) :
    c ∈ opened .path p.segments := by
  subst hc
  rw [opened_eq_opens, hp, List.flatMap_append, Component.opens_append]
  exact List.mem_append_left _ (Component.after_mem_opens hne)

/-- A pattern speaks of a query where a `?` comes in its literal text before any `#`, and of a fragment
where a `#` does. An alignment with it is, behind any of its segments, in the component that the literal
text so far leads to, and the pattern speaks of that. Nothing but its segments makes a pattern. -/
theorem flags_follow_literals (p : Pattern F) :
    let text := p.segments.flatMap Segment.literalText
    (p.addressesQuery = true ↔ ∃ a b, text = a ++ '?' :: b ∧ '#' ∉ a) ∧ (p.addressesFragment = true ↔ '#' ∈ text) ∧
      (∀ q : Pattern F, (p = q ↔ p.segments = q.segments) ∧
        (text = q.segments.flatMap Segment.literalText →
          p.addressesQuery = q.addressesQuery ∧ p.addressesFragment = q.addressesFragment)) ∧
      ∀ front behind, p.segments = front ++ behind → ∀ subject e,
        align p.segments subject e =
            (Alignment.State.start subject).run e behind front >>= (fun r => (r.1.align e behind).map (r.2 ++ ·)) ∧
          ∀ st captures, (Alignment.State.start subject).run e behind front = .ok (st, captures) →
            st.component = (Component.path.split (front.flatMap Segment.literalText)).2 ∧
              (st.component = .query → p.addressesQuery = true) ∧
              (st.component = .fragment → p.addressesFragment = true) := by
  intro text
  refine ⟨p.addressesQuery_iff, p.addressesFragment_iff, fun q => ⟨?_, fun htext => ?_⟩, fun front behind hp subject e => ?_⟩
  · constructor
    · intro h
      rw [h]
    · exact eq_of_segments
  · refine ⟨Bool.eq_iff_iff.mpr ?_, Bool.eq_iff_iff.mpr ?_⟩
    · rw [addressesQuery_iff, addressesQuery_iff, ← htext]
    · rw [addressesFragment_iff, addressesFragment_iff, ← htext]
  · refine ⟨?_, fun st captures hrun => ?_⟩
    · rw [hp]
      exact Alignment.State.align_append e (Alignment.State.start subject) front behind
    · have hcomponent := Alignment.State.component_of_run hrun
      refine ⟨hcomponent, fun hq => ?_, fun hf => ?_⟩
      · rw [addressesQuery_eq]
        exact List.contains_iff_mem.mpr (mem_opened_of_after hp (hcomponent.symm.trans hq) (by decide))
      · rw [addressesFragment_eq]
        exact List.contains_iff_mem.mpr (mem_opened_of_after hp (hcomponent.symm.trans hf) (by decide))

theorem flags_follow_literals_fragment :
    let front : List (Segment Text) := [.literal ['/'], .field ['a'], .literal "#?".toList]
    let p : Pattern Text := (Builder.empty.pushSome (front ++ [.field ['b']])).build
    let e : Escaping := ⟨true, false⟩
    let st : Alignment.State Text := ⟨.fragment, none, 4, ['y']⟩
    p.segments = front ++ [.field ['b']] ∧
      (Alignment.State.start "/x#?y".toList).run e [.field ['b']] front = .ok (st, [⟨.field ['a'], 1, ['x']⟩]) ∧
      p.addressesQuery = false ∧ p.addressesFragment = true ∧
      (Component.path.split (front.flatMap Segment.literalText)).2 = .fragment ∧
      align p.segments "/x#?y".toList e = .ok [⟨.field ['a'], 1, ['x']⟩, ⟨.field ['b'], 4, ['y']⟩] := by
  intro front p e st
  have hp : p.segments = front ++ [.field ['b']] := by decide
  have hrun : (Alignment.State.start "/x#?y".toList).run e [.field ['b']] front =
      .ok (st, [⟨.field ['a'], 1, ['x']⟩]) := by decide
  obtain ⟨-, -, -, hsteps⟩ := flags_follow_literals p
  obtain ⟨halign, hcomponent⟩ := hsteps front [.field ['b']] hp "/x#?y".toList e
  obtain ⟨hfragment, -, haddressed⟩ := hcomponent st _ hrun
  refine ⟨hp, hrun, by decide, haddressed rfl, hfragment.symm, ?_⟩
  rw [halign, hrun]
  rfl

end Pattern

end LinkPattern
