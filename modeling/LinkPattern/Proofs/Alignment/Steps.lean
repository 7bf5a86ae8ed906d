import LinkPattern.Alignment
import LinkPattern.Proofs.Results

/-!
# Step by step

An alignment goes past one segment after another and has four things in hand: the component that the
literals so far lead to, the placeholder that waits for its text, the octet it has come to and the text
from there on. `State.align_append` says that it is made of such steps, and `State.run_induct` that
what a step keeps is kept by any number of them.
-/

namespace LinkPattern.Alignment

structure State (F : Type) where
  component : Component
  pending : Option (Segment F)
  offset : Nat
  rest : Text
  deriving DecidableEq, Repr

namespace State

variable {F : Type}

def start (text : Text) : State F := ⟨.path, none, 0, text⟩

def align (e : Escaping) (st : State F) (segments : List (Segment F)) : Except Mismatch (List (Capture F)) :=
  Alignment.align e st.component st.pending st.offset st.rest segments

def step (e : Escaping) (last : Bool) (st : State F) : Segment F → Except Mismatch (State F × Option (Capture F))
  | .literal t =>
    let literal := e.escape st.component t
    match place st.pending.isSome last literal st.rest with
    | none => .error (.literal literal st.offset)
    | some (gap, rest) =>
      .ok (⟨st.component.after t, none, st.offset + gap.octetLength + literal.octetLength, rest⟩,
        st.pending.map fun p => ⟨p, st.offset, gap⟩)
  | p => .ok ({ st with pending := some p }, none)

/-- Past segments that those of `behind` follow, with the captures so far. -/
def run (e : Escaping) (behind : List (Segment F)) (st : State F) :
    List (Segment F) → Except Mismatch (State F × List (Capture F))
  | [] => .ok (st, [])
  | s :: front => do
    let (st, cap?) ← st.step e (front ++ behind).isEmpty s
    let (st, captures) ← st.run e behind front
    return (st, cap?.toList ++ captures)

variable {e : Escaping} {last : Bool} {st st' : State F} {s : Segment F} {cap? : Option (Capture F)} {t gap after : Text}
  {front behind : List (Segment F)} {captures : List (Capture F)}

/-! ## One step -/

theorem step_of_missing (h : place st.pending.isSome last (e.escape st.component t) st.rest = none) :
    st.step e last (.literal t) = .error (.literal (e.escape st.component t) st.offset) := by
  simp only [step, h]

theorem step_of_found (h : place st.pending.isSome last (e.escape st.component t) st.rest = some (gap, after)) :
    st.step e last (.literal t) =
      .ok (⟨st.component.after t, none, st.offset + gap.octetLength + (e.escape st.component t).octetLength, after⟩,
        st.pending.map fun p => ⟨p, st.offset, gap⟩) := by
  simp only [step, h]

theorem step_of_isPlaceholder (hs : s.isPlaceholder = true) :
    st.step e last s = .ok ({ st with pending := some s }, none) := by
  cases s with
  | literal t => cases hs
  | field f => rfl
  | list f d => rfl

theorem step_eq_ok (h : st.step e last s = .ok (st', cap?)) :
    s.isPlaceholder = true ∧ st' = { st with pending := some s } ∧ cap? = none ∨
      ∃ t gap after, s = .literal t ∧
        place st.pending.isSome last (e.escape st.component t) st.rest = some (gap, after) ∧
        st' = ⟨st.component.after t, none, st.offset + gap.octetLength + (e.escape st.component t).octetLength, after⟩ ∧
        cap? = st.pending.map fun p => ⟨p, st.offset, gap⟩ := by
  by_cases hs : s.isPlaceholder = true
  · rw [step_of_isPlaceholder hs] at h
    cases h
    exact .inl ⟨hs, rfl, rfl⟩
  · obtain ⟨t, rfl⟩ := Segment.eq_literal (by simpa using hs)
    cases hplace : place st.pending.isSome last (e.escape st.component t) st.rest with
    | none =>
      rw [step_of_missing hplace] at h
      cases h
    | some found =>
      rw [step_of_found hplace] at h
      cases h
      exact .inr ⟨t, found.1, found.2, rfl, hplace, rfl, rfl⟩

/-! ## An alignment as a run -/

theorem align_cons (e : Escaping) (st : State F) (s : Segment F) (segments : List (Segment F)) :
    st.align e (s :: segments) =
      st.step e segments.isEmpty s >>= fun r => (r.1.align e segments).map (r.2.toList ++ ·) := by
  have hnone (x : Except Mismatch (List (Capture F))) : x = x.map ([] ++ ·) := by cases x <;> rfl
  cases s with
  | field f => exact hnone _
  | list f d => exact hnone _
  | literal t =>
    cases hplace : place st.pending.isSome segments.isEmpty (e.escape st.component t) st.rest with
    | none =>
      rw [step_of_missing hplace, State.align, Alignment.align, hplace]
      rfl
    | some found =>
      rw [step_of_found hplace, State.align, Alignment.align, hplace]
      cases st.pending with
      | none => rfl
      | some p => rfl

theorem run_cons (e : Escaping) (behind : List (Segment F)) (st : State F) (s : Segment F) (front : List (Segment F)) :
    st.run e behind (s :: front) =
      st.step e (front ++ behind).isEmpty s >>= fun r =>
        (r.1.run e behind front).map fun q => (q.1, r.2.toList ++ q.2) := by
  rw [run]
  cases st.step e (front ++ behind).isEmpty s with
  | error m => rfl
  | ok r =>
    change (r.1.run e behind front >>= fun q => pure (q.1, r.2.toList ++ q.2)) =
      (r.1.run e behind front).map fun q => (q.1, r.2.toList ++ q.2)
    cases r.1.run e behind front <;> rfl

theorem align_append (e : Escaping) (st : State F) (front behind : List (Segment F)) :
    st.align e (front ++ behind) = st.run e behind front >>= fun r => (r.1.align e behind).map (r.2 ++ ·) := by
  induction front generalizing st with
  | nil =>
    change st.align e behind = (st.align e behind).map ([] ++ ·)
    cases st.align e behind <;> rfl
  | cons s front ih =>
    rw [List.cons_append, align_cons, run_cons]
    cases st.step e (front ++ behind).isEmpty s with
    | error m => rfl
    | ok r =>
      change (r.1.align e (front ++ behind)).map (r.2.toList ++ ·) =
        ((r.1.run e behind front).map fun q => (q.1, r.2.toList ++ q.2)) >>= fun q => (q.1.align e behind).map (q.2 ++ ·)
      rw [ih]
      cases r.1.run e behind front with
      | error m => rfl
      | ok q =>
        change ((q.1.align e behind).map (q.2 ++ ·)).map (r.2.toList ++ ·) =
          (q.1.align e behind).map (r.2.toList ++ q.2 ++ ·)
        cases q.1.align e behind with
        | error m => rfl
        | ok more => exact congrArg Except.ok (List.append_assoc ..).symm

/-! ## What steps keep -/

/-- What holds of no steps, and of a step and the steps behind it if it holds of these, holds of a run. -/
theorem run_induct {r : List (Segment F) → State F → List (Capture F) → State F → Prop} (nil : ∀ st, r [] st [] st)
    (cons : ∀ {last s front cap? captures} {st₁ st₂ st₃ : State F}, st₁.step e last s = .ok (st₂, cap?) →
      r front st₂ captures st₃ → r (s :: front) st₁ (cap?.toList ++ captures) st₃)
    (h : st.run e behind front = .ok (st', captures)) : r front st captures st' := by
  induction front generalizing st captures with
  | nil =>
    cases h
    exact nil _
  | cons s front ih =>
    rw [run_cons] at h
    obtain ⟨⟨st₂, cap?⟩, hstep, h⟩ := bind_eq_ok.mp h
    obtain ⟨⟨st₃, more⟩, hrun, h⟩ := map_eq_ok.mp h
    cases h
    exact cons hstep (ih hrun)

theorem component_of_step (h : st.step e last s = .ok (st', cap?)) :
    st'.component = st.component.after s.literalText := by
  rcases step_eq_ok h with ⟨hs, rfl, -⟩ | ⟨t, gap, after, rfl, -, rfl, -⟩
  · rw [Segment.literalText_of_isPlaceholder hs]
    rfl
  · rfl

theorem component_of_run (h : st.run e behind front = .ok (st', captures)) :
    st'.component = st.component.after (front.flatMap Segment.literalText) := by
  refine run_induct (r := fun front st _ st' => st'.component = st.component.after (front.flatMap Segment.literalText))
    (fun st => rfl) (fun hstep hrest => ?_) h
  rw [hrest, component_of_step hstep, List.flatMap_cons, Component.after_append]

end State

end LinkPattern.Alignment
