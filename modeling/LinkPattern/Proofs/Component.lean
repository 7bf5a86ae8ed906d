import LinkPattern.Escaping
import LinkPattern.Pattern

/-!
# The order of components

A text only leads from a component to a later one, and from a later one no less far than from an
earlier one. Escapes hide no delimiter and make none, so a literal and its escaped form lead to the
same component. The components that a pattern opens are those that its literal text opens.
-/

namespace LinkPattern

namespace Component

def rank : Component → Nat
  | .path => 0
  | .query => 1
  | .fragment => 2

theorem rank_inj {c d : Component} (h : c.rank = d.rank) : c = d := by
  cases c <;> cases d <;> first | rfl | cases h

/-! ## Delimiters -/

theorem opened?_path {x : Char} : Component.path.opened? x = none ↔ x ≠ '?' ∧ x ≠ '#' := by
  by_cases h1 : x = '?'
  · subst h1; simp [opened?]
  by_cases h2 : x = '#'
  · subst h2; simp [opened?]
  simp [opened?, h1, h2]

theorem opened?_query {x : Char} : Component.query.opened? x = none ↔ x ≠ '#' := by
  by_cases h : x = '#'
  · subst h; simp [opened?]
  simp [opened?, h]

theorem opened?_eq_none {c : Component} {x : Char} (h1 : x ≠ '?') (h2 : x ≠ '#') : c.opened? x = none := by
  cases c with
  | path => exact opened?_path.mpr ⟨h1, h2⟩
  | query => exact opened?_query.mpr h2
  | fragment => rfl

theorem rank_le_step (c : Component) (x : Char) : c.rank ≤ ((c.opened? x).getD c).rank := by
  cases h : c.opened? x with
  | none => exact Nat.le_refl _
  | some d =>
    unfold opened? at h
    split at h <;> cases h <;> decide

theorem step_mono {c d : Component} (h : c.rank ≤ d.rank) (x : Char) :
    ((c.opened? x).getD c).rank ≤ ((d.opened? x).getD d).rank := by
  by_cases h2 : x = '#'
  · subst h2; cases c <;> cases d <;> decide
  by_cases h1 : x = '?'
  · subst h1
    cases c <;> cases d <;> first | decide | exact absurd h (by decide)
  rw [opened?_eq_none h1 h2, opened?_eq_none h1 h2]
  exact h

/-! ## Texts -/

theorem rank_le_after (c : Component) (t : Text) : c.rank ≤ (c.after t).rank := by
  induction t generalizing c with
  | nil => exact Nat.le_refl _
  | cons x t ih => exact Nat.le_trans (rank_le_step c x) (ih _)

theorem after_mono {c d : Component} (h : c.rank ≤ d.rank) (t : Text) : (c.after t).rank ≤ (d.after t).rank := by
  induction t generalizing c d with
  | nil => exact h
  | cons x t ih => exact ih (step_mono h x)

theorem after_eq_self {c : Component} {t : Text} (h : ∀ x ∈ t, c.opened? x = none) : c.after t = c := by
  induction t with
  | nil => rfl
  | cons x t ih =>
    rw [after, h x (by simp)]
    exact ih fun y hy => h y (List.mem_cons_of_mem _ hy)

theorem after_fragment (t : Text) : Component.fragment.after t = .fragment := after_eq_self fun _ _ => rfl

end Component

/-! ## Escapes -/

namespace Escaping

open Component

theorem opened?_upper (c : Component) : ∀ {n : Nat}, n < 16 → c.opened? (Digits.upper n) = none := by
  cases c <;> decide

theorem opened?_of_mem_escapeChar (e : Escaping) {c : Component} {x : Char} (h : c.opened? x = none) :
    ∀ y ∈ e.escapeChar c x, c.opened? y = none := by
  intro y hy
  rcases Percent.mem_escapeChar hy with rfl | ⟨n, hn, rfl⟩ | ⟨rfl, -, -⟩
  · exact opened?_eq_none (by decide) (by decide)
  · exact opened?_upper c hn
  · unfold normalize
    split
    · exact opened?_eq_none (by decide) (by decide)
    · exact h

theorem after_escape (e : Escaping) (c : Component) (t : Text) : c.after (e.escape c t) = c.after t := by
  induction t generalizing c with
  | nil => rfl
  | cons x t ih =>
    unfold escape
    cases h : c.opened? x with
    | some d => simp only [after, h, Option.getD_some, ih]
    | none => simp only [after, h, Option.getD_none, after_append, after_eq_self (e.opened?_of_mem_escapeChar h), ih]

end Escaping

/-! ## What a text opens -/

namespace Component

def opens : Component → Text → List Component
  | _, [] => []
  | c, x :: t =>
    match c.opened? x with
    | some d => d :: d.opens t
    | none => c.opens t

theorem opens_append (c : Component) (a b : Text) : c.opens (a ++ b) = c.opens a ++ (c.after a).opens b := by
  induction a generalizing c with
  | nil => rfl
  | cons x a ih =>
    simp only [List.cons_append, opens, after]
    cases c.opened? x with
    | some d => simp [ih]
    | none => simp [ih]

theorem opens_eq_nil {c : Component} {t : Text} (h : ∀ x ∈ t, c.opened? x = none) : c.opens t = [] := by
  induction t with
  | nil => rfl
  | cons x t ih =>
    rw [opens, h x (by simp)]
    exact ih fun y hy => h y (List.mem_cons_of_mem _ hy)

theorem opens_fragment (t : Text) : Component.fragment.opens t = [] := opens_eq_nil fun _ _ => rfl

theorem fragment_mem_opens_query {t : Text} : .fragment ∈ Component.query.opens t ↔ '#' ∈ t := by
  induction t with
  | nil => simp [opens]
  | cons x t ih =>
    by_cases hx : x = '#'
    · subst hx; simp [opens, opened?]
    · simp [opens, opened?_query.mpr hx, ih, Ne.symm hx]

theorem fragment_mem_opens_path {t : Text} : .fragment ∈ Component.path.opens t ↔ '#' ∈ t := by
  induction t with
  | nil => simp [opens]
  | cons x t ih =>
    by_cases h1 : x = '?'
    · subst h1; simp [opens, opened?, fragment_mem_opens_query]
    by_cases h2 : x = '#'
    · subst h2; simp [opens, opened?]
    simp [opens, opened?_path.mpr ⟨h1, h2⟩, ih, Ne.symm h2]

theorem query_mem_opens_path {t : Text} : .query ∈ Component.path.opens t ↔ '?' ∈ t.takeWhile (· ≠ '#') := by
  induction t with
  | nil => simp [opens]
  | cons x t ih =>
    by_cases h1 : x = '?'
    · subst h1; simp [opens, opened?]
    by_cases h2 : x = '#'
    · subst h2; simp [opens, opened?, opens_fragment]
    simp [opens, opened?_path.mpr ⟨h1, h2⟩, ih, Ne.symm h1, h2]

end Component

theorem Escaping.opens_escape (e : Escaping) (c : Component) (t : Text) : c.opens (e.escape c t) = c.opens t := by
  induction t generalizing c with
  | nil => rfl
  | cons x t ih =>
    unfold escape
    cases h : c.opened? x with
    | some d => simp only [Component.opens, h, ih]
    | none =>
      have hnone := e.opened?_of_mem_escapeChar h
      simp only [Component.opens, h, Component.opens_append, Component.opens_eq_nil hnone, Component.after_eq_self hnone,
        List.nil_append, ih]

namespace Pattern

variable {F : Type}

theorem opened_literal (c : Component) (t : Text) : opened c [(.literal t : Segment F)] = c.opens t := by
  induction t generalizing c with
  | nil => rfl
  | cons x t ih =>
    cases h : c.opened? x with
    | some d =>
      have := ih d
      simp only [opened, Segment.literalText, Component.pieces, Component.opens, h, List.append_nil] at this ⊢
      unfold Component.opened? at h
      split at h
      · cases h; exact congrArg (Component.query :: ·) this
      · cases h; exact congrArg (Component.fragment :: ·) this
      · cases h; exact congrArg (Component.fragment :: ·) this
      · cases h
    | none =>
      have := ih c
      simp only [opened, Segment.literalText, Component.pieces, Component.opens, h, List.append_nil] at this ⊢
      rw [← this]
      cases hp : c.pieces t with
      | nil => rfl
      | cons piece rest =>
        cases piece with
        | delimiter d => rfl
        | text c' t' =>
          simp only [Component.Piece.extend]
          by_cases hc : c = c'
          · rw [if_pos hc]
            rfl
          · rw [if_neg hc]
            rfl

theorem opened_eq_opens (c : Component) (segments : List (Segment F)) :
    opened c segments = c.opens (segments.flatMap Segment.literalText) := by
  induction segments generalizing c with
  | nil => rfl
  | cons s segments ih =>
    have hs : opened c (s :: segments) =
        opened c [(.literal s.literalText : Segment F)] ++ opened (c.after s.literalText) segments := by
      rw [opened, opened, opened, List.append_nil]
      rfl
    rw [hs, opened_literal, ih, List.flatMap_cons, Component.opens_append]

end Pattern

end LinkPattern
