import LinkPattern.Alignment
import LinkPattern.Proofs.Pattern.WellFormed
import Mathlib.Data.List.Infix
import Mathlib.Data.Nat.Find

/-!
# Tilings

A tiling lays the segments of a pattern on a text, one piece for each segment and none of the text
left over. Whatever `align` finds is the list of captures of a tiling.
-/

namespace LinkPattern

/-! ## Searching -/

namespace Text

variable {t word before after : Text}

theorem isPrefixOf?_eq_dropPrefix? (word t : Text) : word.isPrefixOf? t = t.dropPrefix? word := by
  ext rest
  rw [List.isPrefixOf?_eq_some_iff_append_eq, List.dropPrefix?_eq_some_iff]
  constructor
  · intro h
    exact ⟨word, h.symm, beq_iff_eq.mpr rfl⟩
  · intro ⟨word', h, hword⟩
    rw [← beq_iff_eq.mp hword, h]

theorem around?_eq_dropInfix? (t word : Text) : around? t word = t.dropInfix? word := by
  have hgo (t acc : Text) :
      List.dropInfix?.go word t acc = (around? t word).map fun found => (acc.reverse ++ found.1, found.2) := by
    induction t generalizing acc with
    | nil =>
      unfold around? List.dropInfix?.go
      by_cases hw : word = []
      · simp [hw]
      · simp [hw]
    | cons c t ih =>
      unfold around? List.dropInfix?.go
      rw [isPrefixOf?_eq_dropPrefix?]
      cases (c :: t).dropPrefix? word with
      | some rest => simp
      | none =>
        rw [ih]
        cases around? t word <;> simp
  unfold List.dropInfix?
  rw [hgo]
  cases around? t word <;> rfl

theorem around?_eq_some_iff : around? t word = some (before, after) ↔
    t = before ++ word ++ after ∧ ∀ b a, t = b ++ word ++ a → before.length ≤ b.length := by
  rw [around?_eq_dropInfix?, List.dropInfix?_eq_some_iff]
  simp only [beq_iff_eq, exists_eq_right]
  constructor
  · intro ⟨h, hleast⟩
    exact ⟨h, fun b a ht => hleast b word a ht rfl⟩
  · intro ⟨h, hleast⟩
    exact ⟨h, fun b word' a ht hw => hleast b a (hw ▸ ht)⟩

theorem around?_eq_none : around? t word = none ↔ ¬ word <:+: t := by
  constructor
  · rintro h ⟨b, a, ht⟩
    -- of the places where the word occurs there is a first
    have hex : ∃ n b a, t = b ++ word ++ a ∧ b.length = n := ⟨_, b, a, ht.symm, rfl⟩
    classical
    obtain ⟨b', a', hb, hn⟩ := Nat.find_spec hex
    have hfirst : around? t word = some (b', a') :=
      around?_eq_some_iff.mpr ⟨hb, fun b a ht => hn ▸ Nat.find_min' hex ⟨b, a, ht, rfl⟩⟩
    rw [h] at hfirst
    cases hfirst
  · intro h
    rw [Option.eq_none_iff_forall_ne_some]
    intro found hs
    exact h ⟨found.1, found.2, (around?_eq_some_iff.mp hs).1.symm⟩

theorem around?_append {x : Char} {a : Text} (h : x ∉ a) (word b : Text) :
    around? (a ++ x :: word ++ b) (x :: word) = some (a, b) := by
  refine around?_eq_some_iff.mpr ⟨rfl, fun b' a' ht => ?_⟩
  rw [List.append_assoc, List.append_assoc, List.append_eq_append_iff] at ht
  obtain ⟨more, rfl, -⟩ | ⟨more, rfl, hmore⟩ := ht
  · simp
  · cases more with
    | nil => simp
    | cons y more =>
      obtain ⟨rfl, -⟩ := List.cons.inj hmore
      exact absurd (by simp) h

end Text

variable {F : Type}

def Pattern.componentAt (p : Pattern F) (i : Nat) : Component :=
  Component.path.after ((p.segments.take i).flatMap Segment.literalText)

namespace Alignment

/-- The piece of a literal is its escaped form in the component that the literals before it lead to,
that of a placeholder is any text. -/
inductive Tiles (e : Escaping) : Component → List (Segment F) → List Text → Prop
  | nil (c : Component) : Tiles e c [] []
  | literal {c : Component} {t : Text} {segments : List (Segment F)} {pieces : List Text} :
      Tiles e (c.after t) segments pieces → Tiles e c (.literal t :: segments) (e.escape c t :: pieces)
  | placeholder {c : Component} {s : Segment F} {segments : List (Segment F)} {pieces : List Text} (x : Text) :
      s.isPlaceholder = true → Tiles e c segments pieces → Tiles e c (s :: segments) (x :: pieces)

def capturesOf (start : Nat) : List (Segment F) → List Text → List (Capture F)
  | s :: segments, x :: pieces =>
    if s.isPlaceholder then ⟨s, start, x⟩ :: capturesOf (start + Text.octetLength x) segments pieces
    else capturesOf (start + Text.octetLength x) segments pieces
  | _, _ => []

end Alignment

open LinkPattern.Alignment

structure Tiling (e : Escaping) (segments : List (Segment F)) (text : Text) where
  pieces : List Text
  tiles : Tiles e .path segments pieces
  covers : pieces.flatten = text

namespace Tiling

variable {e : Escaping} {segments : List (Segment F)} {text : Text}

def position (T : Tiling e segments text) (i : Nat) : Nat := Text.octetLength (T.pieces.take i).flatten

def captures (T : Tiling e segments text) : List (Capture F) := capturesOf 0 segments T.pieces

end Tiling

namespace Alignment

variable {e : Escaping} {c : Component} {segments : List (Segment F)} {pieces : List Text}

theorem Tiles.length_eq (h : Tiles e c segments pieces) : pieces.length = segments.length := by
  induction h with
  | nil => rfl
  | literal _ ih => simp [ih]
  | placeholder _ _ _ ih => simp [ih]

theorem Tiles.getElem?_literal (h : Tiles e c segments pieces) {i : Nat} {t : Text}
    (hi : segments[i]? = some (.literal t)) :
    pieces[i]? = some (e.escape (c.after ((segments.take i).flatMap Segment.literalText)) t) := by
  induction h generalizing i with
  | nil => simp at hi
  | literal _ ih =>
    cases i with
    | zero => cases hi; rfl
    | succ i => simp [ih hi, Segment.literalText, Component.after_append]
  | placeholder _ hp _ ih =>
    cases i with
    | zero => cases hi; cases hp
    | succ i => simp [ih hi, Segment.literalText_of_isPlaceholder hp]

theorem Tiles.flatten_eq_nil (h : Tiles e c segments pieces) (hs : segments.isEmpty = true) : pieces.flatten = [] := by
  rw [List.isEmpty_iff.mp hs] at h
  cases h
  rfl

theorem tiles_append {front behind : List (Segment F)} :
    Tiles e c (front ++ behind) pieces ↔ ∃ x y, pieces = x ++ y ∧ Tiles e c front x ∧
      Tiles e (c.after (front.flatMap Segment.literalText)) behind y := by
  induction front generalizing c pieces with
  | nil =>
    constructor
    · intro h
      exact ⟨[], pieces, rfl, .nil c, h⟩
    · rintro ⟨x, y, rfl, hx, hy⟩
      cases hx
      exact hy
  | cons s front ih =>
    constructor
    · intro h
      cases h with
      | literal h =>
        obtain ⟨x, y, rfl, hx, hy⟩ := ih.mp h
        refine ⟨_, y, rfl, .literal hx, ?_⟩
        rwa [List.flatMap_cons, Component.after_append]
      | placeholder z hp h =>
        obtain ⟨x, y, rfl, hx, hy⟩ := ih.mp h
        refine ⟨z :: x, y, rfl, .placeholder z hp hx, ?_⟩
        rwa [List.flatMap_cons, Segment.literalText_of_isPlaceholder hp]
    · rintro ⟨x, y, rfl, hx, hy⟩
      rw [List.flatMap_cons, Component.after_append] at hy
      cases hx with
      | literal hx => exact .literal (ih.mpr ⟨_, y, rfl, hx, hy⟩)
      | placeholder z hp hx =>
        rw [Segment.literalText_of_isPlaceholder hp] at hy
        exact .placeholder z hp (ih.mpr ⟨_, y, rfl, hx, hy⟩)

theorem Tiles.prepend (h : Tiles e c segments pieces) (x : Text)
    (hx : segments = [] → x = []) (hs : ∀ s ∈ segments.head?, s.isPlaceholder = true) :
    ∃ pieces', Tiles e c segments pieces' ∧ pieces'.flatten = x ++ pieces.flatten ∧
      ∀ i t, segments[i]? = some (.literal t) → pieces'.drop i = pieces.drop i := by
  cases h with
  | nil => exact ⟨[], .nil c, by simp [hx rfl], by simp⟩
  | literal _ => exact absurd (hs _ rfl) (by simp)
  | @placeholder _ s segments pieces y hp h =>
    refine ⟨(x ++ y) :: pieces, .placeholder _ hp h, by simp, fun i t hi => ?_⟩
    cases i with
    | zero => cases hi; cases hp
    | succ i => rfl

/-! ## Captures of a tiling -/

theorem map_segment_capturesOf (h : Tiles e c segments pieces) (start : Nat) :
    (capturesOf start segments pieces).map Capture.segment = segments.filter Segment.isPlaceholder := by
  induction h generalizing start with
  | nil => rfl
  | literal _ ih => simp [capturesOf, ih]
  | placeholder _ hp _ ih => simp [capturesOf, hp, ih]

theorem capturesOf_append {front behind : List (Segment F)} {x y : List Text} (h : x.length = front.length) (start : Nat) :
    capturesOf start (front ++ behind) (x ++ y) =
      capturesOf start front x ++ capturesOf (start + Text.octetLength x.flatten) behind y := by
  induction front generalizing x start with
  | nil =>
    rw [List.length_eq_zero_iff.mp h]
    simp [capturesOf]
  | cons s front ih =>
    cases x with
    | nil => simp at h
    | cons z x =>
      have hrest := ih (Nat.succ.inj h) (start + Text.octetLength z)
      by_cases hs : s.isPlaceholder = true <;> simp [capturesOf, hs, hrest, Nat.add_assoc]

theorem mem_capturesOf {start : Nat} {cap : Capture F} (h : cap ∈ capturesOf start segments pieces) :
    ∃ i, segments[i]? = some cap.segment ∧ pieces[i]? = some cap.raw ∧
      cap.start = start + Text.octetLength (pieces.take i).flatten := by
  induction segments generalizing start pieces with
  | nil => simp [capturesOf] at h
  | cons s segments ih =>
    cases pieces with
    | nil => simp [capturesOf] at h
    | cons x pieces =>
      have hrest (h : cap ∈ capturesOf (start + Text.octetLength x) segments pieces) :
          ∃ i, (s :: segments)[i]? = some cap.segment ∧ (x :: pieces)[i]? = some cap.raw ∧
            cap.start = start + Text.octetLength ((x :: pieces).take i).flatten := by
        obtain ⟨i, h1, h2, h3⟩ := ih h
        exact ⟨i + 1, h1, h2, by simp [h3, Nat.add_assoc]⟩
      unfold capturesOf at h
      by_cases hs : s.isPlaceholder = true
      · rw [if_pos hs] at h
        rcases List.mem_cons.mp h with rfl | h
        · exact ⟨0, rfl, rfl, by simp⟩
        · exact hrest h
      · rw [if_neg hs] at h
        exact hrest h

theorem flatten_of_getElem? {x : Text} {i : Nat} (h : pieces[i]? = some x) :
    pieces.flatten = (pieces.take i).flatten ++ x ++ (pieces.drop (i + 1)).flatten := by
  obtain ⟨hi, hx⟩ := List.getElem?_eq_some_iff.mp h
  conv_lhs => rw [← List.take_append_drop i pieces, List.drop_eq_getElem_cons hi, hx]
  simp

theorem slice?_of_mem_capturesOf {cap : Capture F} (h : cap ∈ capturesOf 0 segments pieces) :
    Text.slice? cap.span pieces.flatten = some cap.raw := by
  obtain ⟨i, _, hx, hstart⟩ := mem_capturesOf h
  rw [flatten_of_getElem? hx, Capture.span, hstart, Nat.zero_add, Text.slice?_append]

/-! ## The steps of an alignment -/

section
variable {p : Segment F} (hp : p.isPlaceholder = true) (e : Escaping) (c : Component) (offset : Nat) (rest : Text)

theorem align_literal (t : Text) (segments : List (Segment F)) :
    align e c none offset rest (.literal t :: segments) =
      match (e.escape c t).isPrefixOf? rest with
      | none => .error (.literal (e.escape c t) offset)
      | some after => align e (c.after t) none (offset + Text.octetLength (e.escape c t)) after segments := by
  simp only [align, place, Option.isSome_none, Bool.false_eq_true, ite_false]
  cases (e.escape c t).isPrefixOf? rest with
  | none => rfl
  | some after =>
    simp only [Option.map_some, Text.octetLength_nil, Nat.add_zero]
    cases align e (c.after t) none (offset + Text.octetLength (e.escape c t)) after segments <;> rfl

include hp

theorem align_single : align e c none offset rest [p] = .ok [⟨p, offset, rest⟩] := by
  cases p with
  | literal t => cases hp
  | field f => rfl
  | list f d => rfl

theorem align_gap (t : Text) (segments : List (Segment F)) :
    align e c none offset rest (p :: .literal t :: segments) =
      match place true segments.isEmpty (e.escape c t) rest with
      | none => .error (.literal (e.escape c t) offset)
      | some (gap, after) =>
        (align e (c.after t) none (offset + Text.octetLength gap + Text.octetLength (e.escape c t)) after segments).map
          (⟨p, offset, gap⟩ :: ·) := by
  cases p with
  | literal t => cases hp
  | field f => rfl
  | list f d => rfl

end

theorem isPlaceholder_of_align {offset : Nat} {rest : Text} {pending : Option (Segment F)} {captures : List (Capture F)}
    (hp : ∀ p ∈ pending, p.isPlaceholder = true) (h : align e c pending offset rest segments = .ok captures) :
    ∀ cap ∈ captures, cap.segment.isPlaceholder = true := by
  induction segments generalizing c offset rest pending captures with
  | nil =>
    cases pending with
    | none =>
      simp only [align] at h
      by_cases hr : rest = []
      · rw [if_pos hr] at h; cases h; simp
      · rw [if_neg hr] at h; cases h
    | some p => cases h; simpa using hp p rfl
  | cons s segments ih =>
    cases s with
    | literal t =>
      simp only [align] at h
      cases hplace : place pending.isSome segments.isEmpty (e.escape c t) rest with
      | none => rw [hplace] at h; cases h
      | some found =>
        rw [hplace] at h
        obtain ⟨more, hmore, he⟩ := map_eq_ok.mp h
        have hrest := ih (by simp) hmore
        cases pending with
        | none => exact he ▸ hrest
        | some p => exact he ▸ List.forall_mem_cons.mpr ⟨hp p rfl, hrest⟩
    | field f => exact ih (by simp) h
    | list f d => exact ih (by simp) h

/-! ## Texts that are found as they were laid -/

/-- Each literal between two placeholders begins with a character that the piece before it lacks. -/
def Separated (segments : List (Segment F)) (pieces : List Text) : Prop :=
  ∀ i p x y, segments[i]? = some p → p.isPlaceholder = true → i + 2 < segments.length → pieces[i]? = some x →
    pieces[i + 1]? = some y → ∃ d ∈ y.head?, d ∉ x

theorem align_flatten (ha : Pattern.Alternates segments) (h : Tiles e c segments pieces) (hs : Separated segments pieces)
    (offset : Nat) : align e c none offset pieces.flatten segments = .ok (capturesOf offset segments pieces) := by
  induction ha using Pattern.Alternates.induct generalizing c offset pieces with
  | nil => cases h; rfl
  | single p hp =>
    cases h with
    | literal _ => cases hp
    | placeholder x _ h => cases h; rw [align_single hp]; simp [capturesOf, hp]
  | literal t segments _ ih =>
    cases h with
    | placeholder _ hp _ => cases hp
    | @literal _ _ _ pieces h =>
      have hd : (e.escape c t).isPrefixOf? (e.escape c t :: pieces).flatten = some pieces.flatten :=
        List.isPrefixOf?_eq_some_iff_append_eq.mpr rfl
      have hs' : Separated segments pieces := fun i p x y hi hp hl hx hy =>
        hs (i + 1) p x y hi hp (by simp only [List.length_cons]; omega) hx hy
      rw [align_literal, hd]
      simp only [ih h hs' _, capturesOf, Segment.isPlaceholder_literal, Bool.false_eq_true, ite_false]
  | gap p t segments ha hp ih =>
    cases h with
    | literal _ => cases hp
    | placeholder gap _ h =>
      cases h with
      | placeholder _ hp' _ => cases hp'
      | @literal _ _ _ pieces h =>
        have hs' : Separated segments pieces := fun i p x y hi hp hl hx hy =>
          hs (i + 2) p x y hi hp (by simp only [List.length_cons]; omega) hx hy
        have hplace : place true segments.isEmpty (e.escape c t) (gap :: e.escape c t :: pieces).flatten =
            some (gap, pieces.flatten) := by
          cases segments with
          | nil =>
            have hf := h.flatten_eq_nil rfl
            have hd : (e.escape c t).isSuffixOf? (gap ++ e.escape c t) = some gap :=
              List.isSuffixOf?_eq_some_iff_append_eq.mpr rfl
            simp [place, hf, hd]
          | cons s segments =>
            obtain ⟨d, hd, hgap⟩ := hs 0 p gap (e.escape c t) rfl hp (by simp) rfl rfl
            obtain ⟨w, hw⟩ := List.head?_eq_some_iff.mp hd
            have := Text.around?_append hgap w pieces.flatten
            simp only [hw]
            simpa [place] using this
        rw [align_gap hp, hplace]
        simp only [ih h hs' _]
        simp [capturesOf, hp, Except.map]

end Alignment

end LinkPattern
