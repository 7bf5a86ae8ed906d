import LinkPattern.Matcher
import LinkPattern.Proofs.Alignment.Tiling

/-!
# Patterns with their values filled in

Values are written with everything but letters and digits escaped, so that nothing else is in them
but percent signs. Where neither a separator nor the front of a literal can be taken for part of a
value, a pattern aligns with what was written for it, and binding the captures gives the values back.
-/

namespace LinkPattern

open Percent LinkPattern.Alignment

variable {F : Type}

namespace Segment

def separator? : Segment F → Option Char
  | .literal _ | .field _ => none
  | .list _ d => some d

def Writes (s : Segment F) (x : Char) : Prop := x.isAlphanum = true ∨ x = '%' ∨ s.separator? = some x

instance (s : Segment F) (x : Char) : Decidable (s.Writes x) :=
  inferInstanceAs (Decidable (x.isAlphanum = true ∨ x = '%' ∨ s.separator? = some x))

end Segment

structure Assignment (F : Type) where
  text : F → Text
  items : F → List Text

namespace Assignment

variable (v : Assignment F)

def shown : Segment F → Text
  | .literal t => t
  | .field f => escape EscapeSet.nonAlphanumeric (v.text f)
  | .list f d => Text.join d ((v.items f).map (escape EscapeSet.nonAlphanumeric))

def pieces (e : Escaping) : Component → List (Segment F) → List Text
  | _, [] => []
  | c, .literal t :: segments => e.escape c t :: pieces e (c.after t) segments
  | c, p :: segments => v.shown p :: pieces e c segments

def binding? (o : Options) : Segment F → Option (F × Value)
  | .literal _ => none
  | .field f => some (f, .text (v.text f))
  | .list f _ => if v.items f = [] ∧ o.emptyList = .unset then none else some (f, .list (v.items f))

def bindings (o : Options) (segments : List (Segment F)) : Bindings F := segments.filterMap (v.binding? o)

/-! ## What is written -/

theorem pieces_placeholder {p : Segment F} (hp : p.isPlaceholder = true) (e : Escaping) (c : Component)
    (segments : List (Segment F)) : v.pieces e c (p :: segments) = v.shown p :: v.pieces e c segments := by
  cases p with
  | literal t => cases hp
  | field f => rfl
  | list f d => rfl

theorem tiles_pieces (e : Escaping) (c : Component) (segments : List (Segment F)) :
    Tiles e c segments (v.pieces e c segments) := by
  induction segments generalizing c with
  | nil => exact .nil c
  | cons s segments ih =>
    cases s with
    | literal t => exact .literal (ih _)
    | field f => exact .placeholder _ rfl (ih c)
    | list f d => exact .placeholder _ rfl (ih c)

theorem getElem?_pieces (e : Escaping) (c : Component) {segments : List (Segment F)} {i : Nat} {p : Segment F}
    (hi : segments[i]? = some p) (hp : p.isPlaceholder = true) :
    (v.pieces e c segments)[i]? = some (v.shown p) := by
  induction segments generalizing c i with
  | nil => simp at hi
  | cons s segments ih =>
    cases i with
    | zero => cases hi; rw [v.pieces_placeholder hp]; rfl
    | succ i =>
      cases s with
      | literal t => exact ih _ hi
      | field f => exact ih c hi
      | list f d => exact ih c hi

theorem writes_of_mem_shown {p : Segment F} (hp : p.isPlaceholder = true) {x : Char} (h : x ∈ v.shown p) :
    p.Writes x := by
  cases p with
  | literal t => cases hp
  | field f =>
    rcases mem_escape_nonAlphanumeric h with h | h
    · exact .inl h
    · exact .inr (.inl h)
  | list f d =>
    rcases Text.mem_join h with rfl | ⟨y, hy, hx⟩
    · exact .inr (.inr rfl)
    · obtain ⟨t, -, rfl⟩ := List.mem_map.mp hy
      rcases mem_escape_nonAlphanumeric hx with h | h
      · exact .inl h
      · exact .inr (.inl h)

/-! ## What is bound -/

theorem decode_escape_nonAlphanumeric (plusAsSpace : Bool) (t : Text) :
    Bindings.decode plusAsSpace (escape EscapeSet.nonAlphanumeric t) = .ok t := by
  have hplus : '+' ∉ escape EscapeSet.nonAlphanumeric t := by
    intro h
    rcases mem_escape_nonAlphanumeric h with h | h
    · exact absurd h (by decide)
    · exact absurd h (by decide)
  unfold Bindings.decode
  rw [Form.plusToSpace_of_not_mem hplus, ite_self, Percent.decode_escape fun _ => by decide]
  rfl

theorem mapM_decode_escape (plusAsSpace : Bool) (items : List Text) :
    (items.map (escape EscapeSet.nonAlphanumeric)).mapM (Bindings.decode plusAsSpace) = .ok items := by
  induction items with
  | nil => rfl
  | cons t items ih =>
    rw [List.map_cons, List.mapM_cons, decode_escape_nonAlphanumeric, ih]
    rfl

structure Readable (o : Options) (p : Segment F) : Prop where
  separator : ∀ d ∈ p.separator?, d.isAlphanum = false ∧ d ≠ '%'
  list : ∀ f d, p = .list f d → v.items f ≠ [[]]
  field : ∀ f, p = .field f → v.text f = [] → o.emptyField = .bind

theorem ofCapture_shown {o : Options} {p : Segment F} (hp : p.isPlaceholder = true) (h : v.Readable o p)
    (query? : Option Span) (start : Nat) :
    Bindings.ofCapture o query? ⟨p, start, v.shown p⟩ = .ok (v.binding? o p) := by
  cases p with
  | literal t => cases hp
  | field f =>
    have hempty : ¬ (v.shown (.field f) = [] ∧ o.emptyField = .noMatch) := by
      rintro ⟨hs, ho⟩
      rw [h.field f rfl (escape_eq_nil.mp hs)] at ho
      cases ho
    simp only [Bindings.ofCapture]
    rw [if_neg hempty, shown, decode_escape_nonAlphanumeric]
    rfl
  | list f d =>
    simp only [Bindings.ofCapture]
    by_cases hi : v.items f = []
    · have hs : v.shown (.list f d) = [] := by simp [shown, hi, Text.join]
      rw [if_pos hs]
      cases ho : o.emptyList <;> simp [binding?, hi, ho]
    · have hs : v.shown (.list f d) ≠ [] := by
        intro hs
        rcases Text.join_eq_nil.mp hs with he | he
        · exact hi (List.map_eq_nil_iff.mp he)
        · obtain ⟨t, ht, he⟩ := List.map_eq_singleton_iff.mp he
          rw [escape_eq_nil.mp he] at ht
          exact h.list f d rfl ht
      have hd : ∀ x ∈ (v.items f).map (escape EscapeSet.nonAlphanumeric), d ∉ x := by
        intro x hx hm
        obtain ⟨t, -, rfl⟩ := List.mem_map.mp hx
        obtain ⟨hd1, hd2⟩ := h.separator d rfl
        rcases mem_escape_nonAlphanumeric hm with h' | h'
        · rw [hd1] at h'; cases h'
        · exact hd2 h'
      rw [if_neg hs, shown, Text.splitOn_join (by simpa using hi) hd, mapM_decode_escape]
      simp [binding?, hi, Except.map]

theorem ofCaptures_pieces {o : Options} {segments : List (Segment F)}
    (h : ∀ p ∈ segments, p.isPlaceholder = true → v.Readable o p) (query? : Option Span) (e : Escaping)
    (c : Component) (start : Nat) :
    Bindings.ofCaptures o query? (capturesOf start segments (v.pieces e c segments)) =
      .ok (v.bindings o segments) := by
  induction segments generalizing c start with
  | nil => rfl
  | cons s segments ih =>
    have ih := fun c start => ih (fun p hp => h p (List.mem_cons_of_mem _ hp)) c start
    cases hs : s.isPlaceholder with
    | true =>
      rw [v.pieces_placeholder hs, capturesOf, if_pos hs]
      simp only [Bindings.ofCaptures, v.ofCapture_shown hs (h s (by simp) hs), ih, bindings, List.filterMap_cons]
      cases v.binding? o s <;> rfl
    | false =>
      cases s with
      | literal t => exact ih _ _
      | field f => cases hs
      | list f d => cases hs

end Assignment

/-! ## Round trip -/

variable [DecidableEq F] [Vocabulary F]

/-- A pattern aligns with the text that is written for it with any values, and gives these values in
its order, wherever the query is said to stand and whatever plus signs mean. Separators must not be
characters that values are written with, and a literal between two placeholders must not begin with
one of the placeholder before it; a list of one empty text reads as an empty list, and an empty text
only as a value where that is allowed. -/
theorem bindings_of_rendered {p : Pattern F} (hp : p.Made) (e : Escaping) (o : Options) (query? : Option Span)
    (v : Assignment F)
    (hsep : ∀ s ∈ p.segments, ∀ d ∈ s.separator?, d.isAlphanum = false ∧ d ≠ '%')
    (hlit : ∀ i s t, p.segments[i]? = some s → s.isPlaceholder = true → p.segments[i + 1]? = some (.literal t) →
      i + 2 < p.segments.length → ∃ x ∈ (e.escape (p.componentAt (i + 1)) t).head?, ¬ s.Writes x)
    (hlist : ∀ f d, .list f d ∈ p.segments → v.items f ≠ [[]])
    (hfield : ∀ f, .field f ∈ p.segments → v.text f = [] → o.emptyField = .bind) :
    ∃ captures, align p.segments (v.pieces e .path p.segments).flatten e = .ok captures ∧
      Bindings.ofCaptures o query? captures = .ok (v.bindings o p.segments) := by
  have htiles := v.tiles_pieces e .path p.segments
  have hreadable : ∀ s ∈ p.segments, s.isPlaceholder = true → v.Readable o s := fun s hs _ =>
    { separator := hsep s hs
      list := fun f d he => hlist f d (he ▸ hs)
      field := fun f he => hfield f (he ▸ hs) }
  have hseparated : Separated p.segments (v.pieces e .path p.segments) := by
    intro i s x y hi hs hlen hx hy
    rw [v.getElem?_pieces e .path hi hs, Option.some_inj] at hx
    obtain ⟨t, ht⟩ := hp.wellFormed.alternates.literal_after hi hs (by omega)
    rw [htiles.getElem?_literal ht, Option.some_inj] at hy
    obtain ⟨d, hd, hw⟩ := hlit i s t hi hs ht hlen
    refine ⟨d, hy ▸ hd, fun hm => hw (v.writes_of_mem_shown hs ?_)⟩
    rwa [hx]
  exact ⟨_, align_flatten hp.wellFormed.alternates htiles hseparated 0,
    v.ofCaptures_pieces hreadable query? e .path 0⟩

theorem bindings_of_rendered_search :
    let steps : List (Segment Text) := [.literal "/p/".toList, .field ['a'], .literal "?tags=".toList, .list ['t'] ';',
      .literal "&v=".toList, .field ['v']]
    let o : Options := { emptyField := .bind, queryPlusAsSpace := true }
    ∃ captures, align (Pattern.Builder.empty.pushSome steps).build.segments
        "/p/a%2F%C3%BC%25?tags=x%3By;&v=".toList ⟨true, false⟩ = .ok captures ∧
      Bindings.ofCaptures o (some ⟨17, 31⟩) captures =
        .ok [(['a'], .text "a/ü%".toList), (['t'], .list ["x;y".toList, []]), (['v'], .text [])] := by
  intro steps o
  let v : Assignment Text := ⟨fun f => if f = ['a'] then "a/ü%".toList else [], fun _ => ["x;y".toList, []]⟩
  have hseg : (Pattern.Builder.empty.pushSome steps).build.segments = steps := by decide
  apply bindings_of_rendered (.build steps) ⟨true, false⟩ o (some ⟨17, 31⟩) v
  · intro s hs d hd
    rw [hseg] at hs
    simp only [steps, List.mem_cons, List.not_mem_nil, or_false] at hs
    rcases hs with rfl | rfl | rfl | rfl | rfl | rfl <;> cases hd
    decide
  · intro i s t hs hp ht hl
    rw [hseg] at hs ht hl
    rcases i with _ | _ | _ | _ | i
    · cases hs; cases hp
    · cases ht; exact ⟨'?', by decide, by cases hs; decide⟩
    · cases hs; cases hp
    · cases ht; exact ⟨'&', by decide, by cases hs; decide⟩
    · simp [steps] at hl; omega
  · intro f d _ h
    cases h
  · intro f _ _
    rfl

end LinkPattern
