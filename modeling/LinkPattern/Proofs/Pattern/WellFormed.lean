import LinkPattern.Proofs.Pattern.Template
import Mathlib.Data.List.Chain

/-!
# The patterns there are

In a pattern that a builder makes, literals and placeholders alternate, no literal is empty, no
field is used twice, and every field is used as its kind says. Each call keeps that, and a template
makes nothing that calls do not make.
-/

namespace LinkPattern.Pattern

variable {F : Type}

/-! ## The invariant -/

def Alternates (segments : List (Segment F)) : Prop := segments.IsChain fun s t => s.isPlaceholder ≠ t.isPlaceholder

theorem Alternates.tail {s : Segment F} {segments : List (Segment F)} (h : Alternates (s :: segments)) :
    Alternates segments := (List.isChain_cons.mp h).2

theorem Alternates.head_isPlaceholder {t : Text} {segments : List (Segment F)}
    (h : Alternates (.literal t :: segments)) : ∀ s ∈ segments.head?, s.isPlaceholder = true := by
  intro s hs
  have := (List.isChain_cons.mp h).1 s hs
  simpa using this

theorem Alternates.ne_after {segments : List (Segment F)} (h : Alternates segments) {i : Nat} {s s' : Segment F}
    (hi : segments[i]? = some s) (hi' : segments[i + 1]? = some s') : s.isPlaceholder ≠ s'.isPlaceholder := by
  obtain ⟨_, rfl⟩ := List.getElem?_eq_some_iff.mp hi
  obtain ⟨hl, rfl⟩ := List.getElem?_eq_some_iff.mp hi'
  exact List.isChain_iff_getElem.mp h i hl

theorem Alternates.literal_after {segments : List (Segment F)} (h : Alternates segments) {i : Nat} {s : Segment F}
    (hi : segments[i]? = some s) (hs : s.isPlaceholder = true) (hl : i + 1 < segments.length) :
    ∃ t, segments[i + 1]? = some (.literal t) := by
  have hi' := List.getElem?_eq_getElem hl
  have hne := h.ne_after hi hi'
  rw [hs] at hne
  obtain ⟨t, ht⟩ := Segment.eq_literal (s := segments[i + 1]) (by simpa using hne.symm)
  exact ⟨t, ht ▸ hi'⟩

theorem Alternates.literal_before {segments : List (Segment F)} (h : Alternates segments) {i : Nat} {s : Segment F}
    (hi : segments[i + 1]? = some s) (hs : s.isPlaceholder = true) : ∃ t, segments[i]? = some (.literal t) := by
  have hl : i < segments.length := Nat.lt_of_succ_lt (List.getElem?_eq_some_iff.mp hi).1
  have hi' := List.getElem?_eq_getElem hl
  have hne := h.ne_after hi' hi
  rw [hs] at hne
  obtain ⟨t, ht⟩ := Segment.eq_literal (s := segments[i]) (by simpa using hne)
  exact ⟨t, ht ▸ hi'⟩

theorem Alternates.placeholder_before {segments : List (Segment F)} (h : Alternates segments) {i : Nat} {t : Text}
    (hi : segments[i + 1]? = some (.literal t)) : ∃ s, segments[i]? = some s ∧ s.isPlaceholder = true := by
  have hl : i < segments.length := Nat.lt_of_succ_lt (List.getElem?_eq_some_iff.mp hi).1
  have hi' := List.getElem?_eq_getElem hl
  exact ⟨_, hi', by simpa using h.ne_after hi' hi⟩

/-- Segments that alternate begin with a literal, or with a placeholder and the literal after it,
unless there is nothing but one placeholder or nothing at all. -/
theorem Alternates.induct {motive : (segments : List (Segment F)) → Alternates segments → Prop}
    (nil : motive [] .nil)
    (single : ∀ p, p.isPlaceholder = true → motive [p] (.singleton p))
    (literal : ∀ t segments (h : Alternates (.literal t :: segments)), motive segments h.tail → motive _ h)
    (gap : ∀ p t segments (h : Alternates (p :: .literal t :: segments)), p.isPlaceholder = true →
      motive segments h.tail.tail → motive _ h) :
    ∀ {segments : List (Segment F)} (h : Alternates segments), motive segments h
  | [], _ => nil
  | .literal t :: segments, h => literal t segments h (Alternates.induct nil single literal gap h.tail)
  | [.field f], _ => single (.field f) rfl
  | [.list f d], _ => single (.list f d) rfl
  | .field f :: .literal t :: segments, h =>
    gap (.field f) t segments h rfl (Alternates.induct nil single literal gap h.tail.tail)
  | .list f d :: .literal t :: segments, h =>
    gap (.list f d) t segments h rfl (Alternates.induct nil single literal gap h.tail.tail)
  | .field _ :: .field _ :: _, h | .field _ :: .list .. :: _, h | .list .. :: .field _ :: _, h
  | .list .. :: .list .. :: _, h => absurd rfl (List.isChain_cons_cons.mp h).1

variable [Vocabulary F]

structure WellFormed (segments : List (Segment F)) : Prop where
  nonempty : ∀ t, .literal t ∈ segments → t ≠ []
  alternates : Alternates segments
  nodup : (segments.filterMap Segment.field?).Nodup
  kinds : ∀ s ∈ segments, ∀ f, s.field? = some f → ∀ k, Vocabulary.kind? f = some k → s.kind? = some k

namespace WellFormed

variable {segments : List (Segment F)}

theorem nil : WellFormed ([] : List (Segment F)) where
  nonempty := by simp
  alternates := .nil
  nodup := .nil
  kinds := by simp

theorem reverse (h : WellFormed segments) : WellFormed segments.reverse where
  nonempty t ht := h.nonempty t (List.mem_reverse.mp ht)
  alternates := List.isChain_reverse.mpr (h.alternates.imp fun _ _ hne => hne.symm)
  nodup := by rw [List.filterMap_reverse]; exact (List.reverse_perm _).nodup_iff.mpr h.nodup
  kinds s hs := h.kinds s (List.mem_reverse.mp hs)

theorem tail {s : Segment F} (h : WellFormed (s :: segments)) : WellFormed segments where
  nonempty t ht := h.nonempty t (List.mem_cons_of_mem _ ht)
  alternates := h.alternates.tail
  nodup := by
    have := h.nodup
    rw [List.filterMap_cons] at this
    cases hf : s.field? with
    | none => rwa [hf] at this
    | some f => rw [hf] at this; exact (List.nodup_cons.mp this).2
  kinds s hs := h.kinds s (List.mem_cons_of_mem _ hs)

theorem of_append {front : List (Segment F)} (h : WellFormed (front ++ segments)) : WellFormed segments := by
  induction front with
  | nil => exact h
  | cons s front ih => exact ih h.tail

theorem cons_literal (h : WellFormed segments) {t : Text} (ht : t ≠ [])
    (hh : ∀ s ∈ segments.head?, s.isPlaceholder = true) : WellFormed (.literal t :: segments) where
  nonempty t' ht' := by
    rcases List.mem_cons.mp ht' with e | hm
    · cases e; exact ht
    · exact h.nonempty t' hm
  alternates := List.isChain_cons.mpr ⟨fun s hs => by simp [hh s hs], h.alternates⟩
  nodup := h.nodup
  kinds s hs f hf := by
    rcases List.mem_cons.mp hs with rfl | hm
    · cases hf
    · exact h.kinds s hm f hf

theorem cons_placeholder (h : WellFormed segments) {s : Segment F} {f : F} (hs : s.field? = some f)
    (hh : segments.head?.bind Segment.field? = none) (hf : f ∉ segments.filterMap Segment.field?)
    (hk : ∀ k, Vocabulary.kind? f = some k → s.kind? = some k) : WellFormed (s :: segments) where
  nonempty t ht := by
    rcases List.mem_cons.mp ht with rfl | hm
    · cases hs
    · exact h.nonempty t hm
  alternates := by
    refine List.isChain_cons.mpr ⟨fun s' hs' => ?_, h.alternates⟩
    rw [Option.mem_def.mp hs', Option.bind_some] at hh
    simp [Segment.isPlaceholder, hs, hh]
  nodup := by rw [List.filterMap_cons, hs]; exact List.nodup_cons.mpr ⟨hf, h.nodup⟩
  kinds s' hs' f' hf' k hk' := by
    rcases List.mem_cons.mp hs' with rfl | hm
    · rw [hs] at hf'; cases hf'; exact hk k hk'
    · exact h.kinds s' hm f' hf' k hk'

theorem index_unique (h : WellFormed segments) {i j : Nat} {s : Segment F} (hi : segments[i]? = some s)
    (hj : segments[j]? = some s) (hs : s.isPlaceholder = true) : i = j := by
  obtain ⟨f, hf⟩ := Option.isSome_iff_exists.mp hs
  have hpair := List.pairwise_filterMap.mp h.nodup
  have hlt : ∀ {i j : Nat}, segments[i]? = some s → segments[j]? = some s → ¬ i < j := by
    intro i j hi hj hij
    obtain ⟨hil, hi⟩ := List.getElem?_eq_some_iff.mp hi
    obtain ⟨hjl, hj⟩ := List.getElem?_eq_some_iff.mp hj
    have hne := List.pairwise_iff_getElem.mp hpair i j hil hjl hij
    rw [hi, hj] at hne
    exact hne f hf f hf rfl
  exact Nat.le_antisymm (Nat.not_lt.mp (hlt hj hi)) (Nat.not_lt.mp (hlt hi hj))

end WellFormed

/-! ## What a call keeps -/

namespace Builder

variable {b b' : Builder F}

theorem wellFormed_literal (h : WellFormed b.latestFirst) (t : Text) : WellFormed (b.literal t).latestFirst := by
  by_cases ht : t = []
  · simpa [ht] using h
  obtain ⟨earlier, rest, rfl⟩ | hb := latest_cases b
  · -- the merged literal has the neighbours of the earlier one
    rw [literal_merge ht]
    exact h.tail.cons_literal (by simp [ht]) h.alternates.head_isPlaceholder
  · rw [literal_new hb ht]
    exact h.cons_literal ht hb

variable [DecidableEq F]

theorem refusal?_eq_none {f : F} {used : FieldKind} :
    b.refusal? f used = none ↔ b.latestFirst.head?.bind Segment.field? = none ∧
      f ∉ b.latestFirst.filterMap Segment.field? ∧ ∀ k, Vocabulary.kind? f = some k → k = used := by
  unfold refusal?
  cases hh : b.latestFirst.head?.bind Segment.field? with
  | some previous =>
    constructor
    · intro h
      cases h
    · intro ⟨h, _⟩
      cases h
  | none =>
    by_cases hf : f ∈ b.latestFirst.filterMap Segment.field?
    · simp only [hf, ite_true]
      constructor
      · intro h
        cases h
      · intro ⟨_, h, _⟩
        exact absurd trivial h
    · simp only [hf, ite_false]
      cases hk : Vocabulary.kind? f with
      | none => simp
      | some declared => by_cases e : declared = used <;> simp [e]

theorem placeholder_eq_ok {s : Segment F} {f : F} {used : FieldKind} (h : b.placeholder s f used = .ok b') :
    b.refusal? f used = none ∧ b'.latestFirst = s :: b.latestFirst := by
  unfold placeholder at h
  cases hr : b.refusal? f used with
  | some e => rw [hr] at h; cases h
  | none => rw [hr] at h; cases h; exact ⟨rfl, rfl⟩

theorem wellFormed_placeholder (h : WellFormed b.latestFirst) {s : Segment F} {f : F} {used : FieldKind}
    (hs : s.field? = some f) (hk : s.kind? = some used) (hp : b.placeholder s f used = .ok b') :
    WellFormed b'.latestFirst := by
  obtain ⟨hr, hb⟩ := placeholder_eq_ok hp
  obtain ⟨hh, hf, hkind⟩ := refusal?_eq_none.mp hr
  rw [hb]
  exact h.cons_placeholder hs hh hf fun k hk' => by rw [hkind k hk', hk]

theorem wellFormed_push (h : WellFormed b.latestFirst) {s : Segment F} (hp : b.push s = .ok b') :
    WellFormed b'.latestFirst := by
  cases s with
  | literal t => cases hp; exact wellFormed_literal h t
  | field f => exact wellFormed_placeholder h rfl rfl hp
  | list f d => exact wellFormed_placeholder h rfl rfl hp

theorem wellFormed_pushSome (h : WellFormed b.latestFirst) (steps : List (Segment F)) :
    WellFormed (b.pushSome steps).latestFirst := by
  induction steps generalizing b with
  | nil => exact h
  | cons s steps ih =>
    unfold pushSome
    cases hp : b.push s with
    | ok b' => exact ih (wellFormed_push h hp)
    | error e => exact ih h

theorem pushSome_of_pushAll {steps : List (Segment F)} (h : b.pushAll steps = .ok b') : b.pushSome steps = b' := by
  induction steps generalizing b with
  | nil => cases h; rfl
  | cons s steps ih =>
    unfold pushAll at h
    unfold pushSome
    cases hp : b.push s with
    | ok b'' => rw [hp] at h; exact ih h
    | error e => rw [hp] at h; cases h

/-! ## What is never refused -/

theorem push_of_wellFormed {s : Segment F} (h : WellFormed (s :: b.latestFirst)) :
    b.push s = .ok ⟨s :: b.latestFirst⟩ := by
  have hplaceholder : ∀ {f : F} {used : FieldKind}, s.field? = some f → s.kind? = some used →
      b.placeholder s f used = .ok ⟨s :: b.latestFirst⟩ := by
    intro f used hf hk
    have hnone : b.refusal? f used = none := by
      refine refusal?_eq_none.mpr ⟨?_, ?_, ?_⟩
      · cases hb : b.latestFirst with
        | nil => rfl
        | cons s' rest =>
          have hne := (List.isChain_cons.mp h.alternates).1 s' (by simp [hb])
          simpa [Segment.isPlaceholder, hf] using hne.symm
      · have hnodup := h.nodup
        rw [List.filterMap_cons, hf] at hnodup
        exact (List.nodup_cons.mp hnodup).1
      · intro k hkind
        have := h.kinds s (by simp) f hf k hkind
        rw [hk] at this
        exact (Option.some.inj this).symm
    rw [placeholder, hnone]
  cases s with
  | literal t => rw [push, literal_new h.alternates.head_isPlaceholder (h.nonempty t (by simp))]
  | field f => exact hplaceholder rfl rfl
  | list f d => exact hplaceholder rfl rfl

theorem pushAll_of_wellFormed {segments : List (Segment F)} (h : WellFormed (segments.reverse ++ b.latestFirst)) :
    b.pushAll segments = .ok ⟨segments.reverse ++ b.latestFirst⟩ := by
  induction segments generalizing b with
  | nil => rfl
  | cons s segments ih =>
    rw [List.reverse_cons, List.append_assoc, List.singleton_append] at h ⊢
    rw [pushAll, push_of_wellFormed h.of_append]
    exact ih h

end Builder

/-! ## All patterns -/

variable [DecidableEq F]

/-- The patterns that calls of a builder make, refused ones among them, or that a template stands for. -/
inductive Made : Pattern F → Prop
  | build (steps : List (Segment F)) : Made (Builder.empty.pushSome steps).build
  | template {t : Text} {p : Pattern F} (h : ofTemplate t = .ok p) : Made p

theorem pushSome_of_ofSegments {steps : List (Segment F)} {p : Pattern F} (h : ofSegments steps = .ok p) :
    (Builder.empty.pushSome steps).build = p := by
  unfold ofSegments at h
  cases hb : (Builder.empty : Builder F).pushAll steps with
  | error e => rw [hb] at h; cases h
  | ok b => rw [hb] at h; cases h; rw [Builder.pushSome_of_pushAll hb]

theorem ofSegments_of_ofTemplate {t : Text} {p : Pattern F} (h : ofTemplate t = .ok p) :
    ∃ steps, ofSegments steps = .ok p := by
  unfold ofTemplate at h
  cases hb : (Builder.empty : Builder F).read [] 0 t with
  | error e => rw [hb] at h; cases h
  | ok b =>
    rw [hb] at h
    cases h
    obtain ⟨steps, hs⟩ := (Builder.spells_of_read hb).exists_pushAll
    exact ⟨steps, by rw [ofSegments, hs]; rfl⟩

theorem ofSegments_of_wellFormed {p : Pattern F} (h : WellFormed p.segments) : ofSegments p.segments = .ok p := by
  have hreverse : WellFormed (p.segments.reverse ++ (Builder.empty : Builder F).latestFirst) := by
    simpa [Builder.empty] using h.reverse
  rw [ofSegments, Builder.pushAll_of_wellFormed hreverse]
  simp [Except.map, Builder.build, Builder.empty]

theorem Made.wellFormed {p : Pattern F} (h : p.Made) : WellFormed p.segments := by
  have hbuild : ∀ steps, WellFormed ((Builder.empty : Builder F).pushSome steps).build.segments :=
    fun steps => (Builder.wellFormed_pushSome WellFormed.nil steps).reverse
  cases h with
  | build steps => exact hbuild steps
  | template h =>
    obtain ⟨steps, hs⟩ := ofSegments_of_ofTemplate h
    rw [← pushSome_of_ofSegments hs]
    exact hbuild steps

theorem Made.of_wellFormed {p : Pattern F} (h : WellFormed p.segments) : p.Made := by
  rw [← pushSome_of_ofSegments (ofSegments_of_wellFormed h)]
  exact .build p.segments

end LinkPattern.Pattern
