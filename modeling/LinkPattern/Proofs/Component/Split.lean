import LinkPattern.Proofs.Component.Pieces

/-!
# The only cut of a text

Four things are asked of the pieces of a text: put together they are the text, none of them is an
empty stretch and no two stretches meet, no stretch has a delimiter of its component in it, and each
is tagged with the component that the delimiters before it lead to. `split` gives such pieces and
there are no others, so two texts in a row are cut where they are cut apart, save that what meets at
the seam becomes one stretch.
-/

namespace LinkPattern.Component

namespace Piece

def chars : Piece → Text
  | .text _ t => t
  | .delimiter x => [x]

def isText : Piece → Bool
  | .text .. => true
  | .delimiter _ => false

/-- Pieces and the pieces behind them; a stretch that meets a stretch is joined with it. -/
def seam : List Piece → List Piece → List Piece
  | [], qs => qs
  | [.text c t], .text _ t' :: qs => .text c (t ++ t') :: qs
  | p :: ps, qs => p :: seam ps qs

@[simp] theorem isText_text (c : Component) (t : Text) : (text c t).isText = true := rfl

@[simp] theorem isText_delimiter (x : Char) : (delimiter x).isText = false := rfl

@[simp] theorem seam_nil (qs : List Piece) : seam [] qs = qs := rfl

@[simp] theorem seam_delimiter (x : Char) (ps qs : List Piece) :
    seam (.delimiter x :: ps) qs = .delimiter x :: seam ps qs := by simp [seam]

end Piece

/-- Pieces that begin in one component and end in another. Stretches are tagged with the component they
are in; a `?` leaves only the path, for the query, and a `#` the path or the query, for the fragment. -/
inductive Passes : Component → List Piece → Component → Prop
  | nil (c : Component) : Passes c [] c
  | text {c d : Component} {ps : List Piece} (t : Text) : Passes c ps d → Passes c (.text c t :: ps) d
  | question {d : Component} {ps : List Piece} : Passes .query ps d → Passes .path (.delimiter '?' :: ps) d
  | hash {c d : Component} {ps : List Piece} :
      c = .path ∨ c = .query → Passes .fragment ps d → Passes c (.delimiter '#' :: ps) d

structure IsCut (c : Component) (t : Text) (ps : List Piece) (d : Component) : Prop where
  covers : ps.flatMap Piece.chars = t
  nonempty : ∀ k, .text k [] ∉ ps
  apart : ps.IsChain fun p q => ¬ (p.isText = true ∧ q.isText = true)
  path : ∀ u, .text .path u ∈ ps → '?' ∉ u ∧ '#' ∉ u
  query : ∀ u, .text .query u ∈ ps → '#' ∉ u
  passes : Passes c ps d

variable {c d k : Component} {x : Char} {a b t : Text} {ps qs : List Piece}

theorem stays_iff {k : Component} {u : Text} :
    (∀ y ∈ u, k.opened? y = none) ↔ (k = .path → '?' ∉ u ∧ '#' ∉ u) ∧ (k = .query → '#' ∉ u) := by
  cases k with
  | path =>
    simp only [opened?_path, true_implies, reduceCtorEq, false_implies, and_true]
    grind
  | query =>
    simp only [opened?_query, true_implies, reduceCtorEq, false_implies, true_and]
    grind
  | fragment => simp [opened?]

namespace IsCut

theorem nil (c : Component) : IsCut c [] [] c :=
  ⟨rfl, by simp, .nil, by simp, by simp, .nil c⟩

theorem stays (h : IsCut c t ps d) {u : Text} (hu : .text k u ∈ ps) : ∀ y ∈ u, k.opened? y = none := by
  refine stays_iff.mpr ⟨?_, ?_⟩
  · intro e
    exact h.path u (e ▸ hu)
  · intro e
    exact h.query u (e ▸ hu)

theorem tail {p : Piece} (h : IsCut c t (p :: ps) d) (hk : Passes k ps d) : IsCut k (ps.flatMap Piece.chars) ps d where
  covers := rfl
  nonempty k hm := h.nonempty k (List.mem_cons_of_mem _ hm)
  apart := (List.isChain_cons.mp h.apart).2
  path u hu := h.path u (List.mem_cons_of_mem _ hu)
  query u hu := h.query u (List.mem_cons_of_mem _ hu)
  passes := hk

/-! ## A piece in front -/

theorem cons_delimiter (hx : c.opened? x = some k) (h : IsCut k t ps d) : IsCut c (x :: t) (.delimiter x :: ps) d where
  covers := congrArg (x :: ·) h.covers
  nonempty k hm := h.nonempty k (by simpa using hm)
  apart := List.isChain_cons.mpr ⟨fun q _ hq => Bool.false_ne_true hq.1, h.apart⟩
  path u hu := h.path u (by simpa using hu)
  query u hu := h.query u (by simpa using hu)
  passes := by
    have hp := h.passes
    unfold opened? at hx
    split at hx
    · cases hx
      exact .question hp
    · cases hx
      exact .hash (.inl rfl) hp
    · cases hx
      exact .hash (.inr rfl) hp
    · cases hx

theorem cons_text {u : Text} (hne : u ≠ []) (hu : ∀ y ∈ u, c.opened? y = none)
    (hhead : ∀ q ∈ ps.head?, q.isText = false) (h : IsCut c t ps d) : IsCut c (u ++ t) (.text c u :: ps) d where
  covers := congrArg (u ++ ·) h.covers
  nonempty k hm := by
    rcases List.mem_cons.mp hm with e | hm
    · cases e
      exact hne rfl
    · exact h.nonempty k hm
  apart := List.isChain_cons.mpr ⟨fun q hq hboth => by simp [hhead q hq] at hboth, h.apart⟩
  path u' hu' := by
    rcases List.mem_cons.mp hu' with e | hm
    · cases e
      exact (stays_iff.mp hu).1 rfl
    · exact h.path u' hm
  query u' hu' := by
    rcases List.mem_cons.mp hu' with e | hm
    · cases e
      exact (stays_iff.mp hu).2 rfl
    · exact h.query u' hm
  passes := .text u h.passes

/-! ## The first piece -/

theorem of_nil (h : IsCut c t [] d) : t = [] ∧ c = d := by
  refine ⟨h.covers.symm, ?_⟩
  cases h.passes
  rfl

theorem of_delimiter (h : IsCut c t (.delimiter x :: ps) d) :
    ∃ k t', c.opened? x = some k ∧ t = x :: t' ∧ IsCut k t' ps d := by
  have hcovers := h.covers.symm
  cases hp : h.passes with
  | question hq => exact ⟨.query, _, rfl, hcovers, h.tail hq⟩
  | hash hc hq =>
    refine ⟨.fragment, _, ?_, hcovers, h.tail hq⟩
    rcases hc with rfl | rfl
    · rfl
    · rfl

theorem of_text {u : Text} (h : IsCut c t (.text k u :: ps) d) :
    k = c ∧ u ≠ [] ∧ (∀ y ∈ u, c.opened? y = none) ∧ (∀ q ∈ ps.head?, q.isText = false) ∧
      ∃ t', t = u ++ t' ∧ IsCut c t' ps d := by
  have hstays := h.stays (List.mem_cons_self ..)
  have hhead := (List.isChain_cons.mp h.apart).1
  have hne : u ≠ [] := by
    intro e
    exact h.nonempty k (by simp [e])
  cases h.passes with
  | text _ hp =>
    refine ⟨rfl, hne, hstays, ?_, _, h.covers.symm, h.tail hp⟩
    intro q hq
    have := hhead q hq
    simpa using this

theorem head_leaves (h : IsCut c t ps d) (hhead : ∀ q ∈ ps.head?, q.isText = false) :
    ∀ y ∈ t.head?, c.opened? y ≠ none := by
  cases ps with
  | nil =>
    obtain ⟨rfl, -⟩ := h.of_nil
    simp
  | cons p ps =>
    cases p with
    | text k u => exact absurd (hhead _ rfl) (by simp)
    | delimiter x =>
      obtain ⟨k, t', hx, rfl, -⟩ := h.of_delimiter
      rintro y ⟨⟩
      simp [hx]

/-! ## Any pieces -/

theorem split_eq (h : IsCut c t ps d) : c.split t = (ps, d) := by
  induction ps generalizing c t with
  | nil =>
    obtain ⟨rfl, rfl⟩ := h.of_nil
    rfl
  | cons p ps ih =>
    cases p with
    | delimiter x =>
      obtain ⟨k, t', hx, rfl, h'⟩ := h.of_delimiter
      obtain ⟨hpieces, hafter⟩ := Prod.mk.inj (ih h')
      simp [split, pieces_of_opened hx, after, hx, hpieces, hafter]
    | text k u =>
      obtain ⟨rfl, hne, hu, hhead, t', rfl, h'⟩ := h.of_text
      obtain ⟨hpieces, hafter⟩ := Prod.mk.inj (ih h')
      rw [split, pieces_append_of_opened hu (h'.head_leaves hhead), after_append, after_eq_self hu, hpieces, hafter,
        stretch, if_neg hne]
      rfl

theorem append (h : IsCut c a ps k) (h' : IsCut k b qs d) : IsCut c (a ++ b) (Piece.seam ps qs) d := by
  induction ps generalizing c a with
  | nil =>
    obtain ⟨rfl, rfl⟩ := h.of_nil
    exact h'
  | cons p ps ih =>
    cases p with
    | delimiter x =>
      obtain ⟨k', t, hx, rfl, hrest⟩ := h.of_delimiter
      simpa using (ih hrest).cons_delimiter hx
    | text k' u =>
      obtain ⟨rfl, hne, hu, hhead, t, rfl, hrest⟩ := h.of_text
      rw [List.append_assoc]
      cases ps with
      | cons p ps =>
        -- what stands behind the stretch is a delimiter and no seam
        cases p with
        | text k' u' => exact absurd (hhead _ rfl) (by simp)
        | delimiter x =>
          have hmore := ih hrest
          simp only [Piece.seam] at hmore ⊢
          exact hmore.cons_text hne hu (by simp)
      | nil =>
        obtain ⟨rfl, rfl⟩ := hrest.of_nil
        cases qs with
        | nil => exact h'.cons_text hne hu (by simp)
        | cons q qs =>
          cases q with
          | delimiter x => exact h'.cons_text hne hu (by simp)
          | text k' u' =>
            obtain ⟨rfl, -, hu', hhead', t, rfl, hbehind⟩ := h'.of_text
            have hboth : ∀ y ∈ u ++ u', k'.opened? y = none := by
              intro y hy
              rcases List.mem_append.mp hy with hy | hy
              · exact hu y hy
              · exact hu' y hy
            rw [List.nil_append, ← List.append_assoc]
            exact hbehind.cons_text (by simp [hne]) hboth hhead'

end IsCut

theorem isCut_split (c : Component) (t : Text) : IsCut c t (c.pieces t) (c.after t) := by
  induction t generalizing c with
  | nil => exact .nil c
  | cons x t ih =>
    cases hx : c.opened? x with
    | some k =>
      rw [pieces_of_opened hx, after, hx]
      exact (ih k).cons_delimiter hx
    | none =>
      -- a character that stays is a stretch of its own, which the seam joins with one behind it
      have hstay : ∀ y ∈ [x], c.opened? y = none := by simpa using hx
      have hextend : c.pieces (x :: t) = Piece.seam [.text c [x]] (c.pieces t) := by
        simp only [pieces, hx]
        cases hps : c.pieces t with
        | nil => rfl
        | cons p ps =>
          cases p with
          | delimiter y => rfl
          | text k u =>
            have hcut := ih c
            rw [hps] at hcut
            obtain ⟨rfl, -⟩ := hcut.of_text
            simp [Piece.extend, Piece.seam]
      rw [hextend, after, hx]
      exact ((IsCut.nil c).cons_text (List.cons_ne_nil x []) hstay (by simp)).append (ih c)

theorem split_eq_iff : c.split t = (ps, d) ↔ IsCut c t ps d := by
  constructor
  · intro h
    obtain ⟨rfl, rfl⟩ := Prod.mk.inj h
    exact isCut_split c t
  · exact IsCut.split_eq

/-- The pieces of a text and the component behind it are its only cut, and the cut of two texts in a row
is that of the one and, from the component where it ends, that of the other, with the seam closed. -/
theorem split_is_only_cut (c : Component) :
    (∀ t ps d, c.split t = (ps, d) ↔ IsCut c t ps d) ∧
      ∀ a b, c.split (a ++ b) =
        (Piece.seam (c.split a).1 ((c.split a).2.split b).1, ((c.split a).2.split b).2) := by
  refine ⟨fun t ps d => split_eq_iff, fun a b => ?_⟩
  exact split_eq_iff.mpr ((isCut_split c a).append (isCut_split (c.after a) b))

example : path.split "/a?b?".toList = ([.text path "/a".toList, .delimiter '?', .text query "b?".toList], query) ∧
    path.split ("/a?b?".toList ++ "c#".toList) =
      ([.text path "/a".toList, .delimiter '?', .text query "b?c".toList, .delimiter '#'], fragment) := by
  decide

end LinkPattern.Component
