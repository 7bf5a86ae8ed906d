import LinkPattern.Matcher
import LinkPattern.Proofs.Component
import LinkPattern.Proofs.Pattern.History
import LinkPattern.Proofs.Pattern.RoundTrip

/-!
# How literal text is cut

Steps that differ only in how their literal text is cut make one pattern, and every placeholder
among them meets the same builder, so that what is said of it is the same too. A pattern shows no
more of its accepted steps than their literals joined.
-/

namespace LinkPattern.Pattern

variable {F : Type}

/-! ## Steps without cuts -/

def whole (t : Text) : List (Segment F) := if t = [] then [] else [.literal t]

/-- The steps behind a run of literals that is `t` so far, with this run and every later one in one piece. -/
def joinedBehind (t : Text) : List (Segment F) → List (Segment F)
  | [] => whole t
  | .literal more :: rest => joinedBehind (t ++ more) rest
  | s :: rest => whole t ++ s :: joinedBehind [] rest

/-- The steps with every run of literals in one piece, without the runs that have no text. -/
def joined (steps : List (Segment F)) : List (Segment F) := joinedBehind [] steps

theorem whole_of_ne_nil {t : Text} (h : t ≠ []) : whole t = [(.literal t : Segment F)] := if_neg h

theorem joinedBehind_placeholder (t : Text) {s : Segment F} (h : s.isPlaceholder = true) (rest : List (Segment F)) :
    joinedBehind t (s :: rest) = whole t ++ s :: joinedBehind [] rest := by
  cases s with
  | literal t => cases h
  | field f => rfl
  | list f d => rfl

theorem flatMap_joinedBehind {α : Type} {f : Segment F → List α} (hnil : f (.literal []) = [])
    (happend : ∀ s t, f (.literal (s ++ t)) = f (.literal s) ++ f (.literal t)) (t : Text) (steps : List (Segment F)) :
    (joinedBehind t steps).flatMap f = f (.literal t) ++ steps.flatMap f := by
  have hwhole : ∀ t, (whole t).flatMap f = f (.literal t) := by
    intro t
    by_cases ht : t = []
    · simp [whole, ht, hnil]
    · simp [whole_of_ne_nil ht]
  induction steps generalizing t with
  | nil => simp [joinedBehind, hwhole]
  | cons s rest ih =>
    by_cases hs : s.isPlaceholder = true
    · rw [joinedBehind_placeholder t hs, List.flatMap_append, hwhole, List.flatMap_cons, ih, hnil, List.nil_append,
        List.flatMap_cons]
    · obtain ⟨more, rfl⟩ := Segment.eq_literal (by simpa using hs)
      rw [joinedBehind, ih, happend, List.append_assoc, List.flatMap_cons]

theorem flatMap_joined {α : Type} {f : Segment F → List α} (hnil : f (.literal []) = [])
    (happend : ∀ s t, f (.literal (s ++ t)) = f (.literal s) ++ f (.literal t)) (steps : List (Segment F)) :
    (joined steps).flatMap f = steps.flatMap f := by
  rw [joined, flatMap_joinedBehind hnil happend, hnil, List.nil_append]

theorem opened_joined (c : Component) (steps : List (Segment F)) : opened c (joined steps) = opened c steps := by
  rw [opened_eq_opens, opened_eq_opens, flatMap_joined rfl fun _ _ => rfl]

variable [DecidableEq F] [Vocabulary F]

namespace Builder

/-! ## Runs of a builder -/

def verdicts (b : Builder F) : List (Segment F) → List (Segment F × Option PatternError)
  | [] => []
  | s :: rest =>
    match b.push s with
    | .ok b' => (if s.isPlaceholder then [(s, none)] else []) ++ b'.verdicts rest
    | .error e => (s, some e) :: b.verdicts rest

variable (b : Builder F)

theorem pushSome_literal (t : Text) (rest : List (Segment F)) :
    b.pushSome (.literal t :: rest) = (b.literal t).pushSome rest := rfl

theorem verdicts_literal (t : Text) (rest : List (Segment F)) :
    b.verdicts (.literal t :: rest) = (b.literal t).verdicts rest := rfl

theorem accepted_literal (t : Text) (rest : List (Segment F)) :
    b.accepted (.literal t :: rest) = .literal t :: (b.literal t).accepted rest := rfl

theorem pushSome_whole (t : Text) (rest : List (Segment F)) :
    b.pushSome (whole t ++ rest) = (b.literal t).pushSome rest := by
  by_cases ht : t = []
  · simp [whole, ht]
  · rw [whole_of_ne_nil ht]
    rfl

theorem verdicts_whole (t : Text) (rest : List (Segment F)) :
    b.verdicts (whole t ++ rest) = (b.literal t).verdicts rest := by
  by_cases ht : t = []
  · simp [whole, ht]
  · rw [whole_of_ne_nil ht]
    rfl

theorem run_joinedBehind (t : Text) (steps : List (Segment F)) :
    b.pushSome (joinedBehind t steps) = (b.literal t).pushSome steps ∧
      b.verdicts (joinedBehind t steps) = (b.literal t).verdicts steps := by
  induction steps generalizing b t with
  | nil =>
    have hp := b.pushSome_whole t []
    have hv := b.verdicts_whole t []
    rw [List.append_nil] at hp hv
    exact ⟨hp, hv⟩
  | cons s rest ih =>
    by_cases hs : s.isPlaceholder = true
    · rw [joinedBehind_placeholder t hs, pushSome_whole, verdicts_whole]
      -- the next run begins with no text, so the builder at hand is the one it is added to
      have hnext := fun b' : Builder F => ih b' []
      simp only [literal_nil] at hnext
      unfold pushSome verdicts
      cases (b.literal t).push s with
      | ok b' => exact ⟨(hnext b').1, by simp only [(hnext b').2]⟩
      | error e => exact ⟨(hnext _).1, by simp only [(hnext _).2]⟩
    · obtain ⟨more, rfl⟩ := Segment.eq_literal (by simpa using hs)
      rw [joinedBehind, pushSome_literal, verdicts_literal, literal_literal]
      exact ih b (t ++ more)

theorem pushSome_joined (steps : List (Segment F)) : b.pushSome (joined steps) = b.pushSome steps := by
  rw [joined, (b.run_joinedBehind [] steps).1, literal_nil]

theorem verdicts_joined (steps : List (Segment F)) : b.verdicts (joined steps) = b.verdicts steps := by
  rw [joined, (b.run_joinedBehind [] steps).2, literal_nil]

/-! ## What a run leaves -/

omit [DecidableEq F] [Vocabulary F] in
theorem latestFirst_literal {earlier : List (Segment F)} (h : ∀ s ∈ earlier.head?, s.isPlaceholder = true) (t : Text) :
    ((⟨earlier⟩ : Builder F).literal t).latestFirst = whole t ++ earlier := by
  by_cases ht : t = []
  · simp [whole, ht]
  · rw [literal_new h ht, whole_of_ne_nil ht]
    rfl

omit [DecidableEq F] [Vocabulary F] in
theorem reverse_whole (t : Text) : (whole t : List (Segment F)).reverse = whole t := by
  by_cases ht : t = []
  · simp [whole, ht]
  · simp [whole_of_ne_nil ht]

theorem segments_pushSome {earlier : List (Segment F)} (h : ∀ s ∈ earlier.head?, s.isPlaceholder = true) (t : Text)
    (steps : List (Segment F)) :
    (((⟨earlier⟩ : Builder F).literal t).pushSome steps).build.segments =
      earlier.reverse ++ joinedBehind t (((⟨earlier⟩ : Builder F).literal t).accepted steps) := by
  induction steps generalizing earlier t with
  | nil =>
    simp only [pushSome, accepted, joinedBehind, build, segments_of, latestFirst_literal h, List.reverse_append,
      reverse_whole]
  | cons s rest ih =>
    by_cases hs : s.isPlaceholder = true
    · unfold pushSome accepted
      cases hp : ((⟨earlier⟩ : Builder F).literal t).push s with
      | ok b' =>
        obtain ⟨_, rfl, -⟩ | hb := push_eq_ok hp
        · cases hs
        -- what comes behind the placeholder begins a run of its own
        have hhead : ∀ s ∈ b'.latestFirst.head?, s.isPlaceholder = true := by simp [hb, hs]
        have hnext : (b'.pushSome rest).build.segments =
            b'.latestFirst.reverse ++ joinedBehind [] (b'.accepted rest) := by simpa using ih hhead []
        simp only [hnext, hb, joinedBehind_placeholder t hs, latestFirst_literal h]
        simp [reverse_whole]
      | error e => exact ih h t
    · obtain ⟨more, rfl⟩ := Segment.eq_literal (by simpa using hs)
      rw [pushSome_literal, accepted_literal, joinedBehind, literal_literal]
      exact ih h (t ++ more)

end Builder

theorem segments_of_accepted (steps : List (Segment F)) :
    let p := (Builder.empty.pushSome steps).build
    let kept := Builder.empty.accepted steps
    p.segments = joined kept ∧ p.template = kept.flatMap Segment.template ∧
      ∀ c, opened c p.segments = opened c kept := by
  intro p kept
  have hsegments : p.segments = joined kept := by
    have hhead : ∀ s ∈ ([] : List (Segment F)).head?, s.isPlaceholder = true := by simp
    have := Builder.segments_pushSome hhead [] steps
    rwa [Builder.literal_nil] at this
  refine ⟨hsegments, ?_, ?_⟩
  · rw [template, hsegments, flatMap_joined rfl Text.doubleBraces_append]
  · intro c
    rw [hsegments, opened_joined]

/-- Steps that differ only in how their literals are cut make equal patterns, which match alike, and
each placeholder among them is accepted in both runs or refused in both, and for the same reason. -/
theorem cuts_do_not_matter {a b : List (Segment F)} (h : joined a = joined b) :
    let p := (Builder.empty.pushSome a).build
    let q := (Builder.empty.pushSome b).build
    p = q ∧ p.segments = q.segments ∧ p.addressesQuery = q.addressesQuery ∧
      p.addressesFragment = q.addressesFragment ∧ p.template = q.template ∧
      Builder.empty.verdicts a = Builder.empty.verdicts b ∧
      (∀ t e, align p.segments t e = align q.segments t e) ∧
      ∀ (m : Matcher) (url : Text), m.bindings p url = m.bindings q url ∧
        ∀ (R : Type) [Record R F] (record : R), m.matchUrl p url record = m.matchUrl q url record := by
  intro p q
  have hpattern : p = q := by
    unfold p q
    rw [← Builder.pushSome_joined _ a, h, Builder.pushSome_joined]
  have hverdicts : (Builder.empty : Builder F).verdicts a = Builder.empty.verdicts b := by
    rw [← Builder.verdicts_joined _ a, h, Builder.verdicts_joined]
  rw [hpattern]
  exact ⟨rfl, rfl, rfl, rfl, rfl, hverdicts, fun _ _ => rfl, fun _ _ => ⟨rfl, fun _ _ _ => rfl⟩⟩

/-- An empty literal does not part the two placeholders in front, a refused placeholder between two
literals does not part them in the pattern, and the question mark is cut off from what it opens. -/
theorem cuts_do_not_matter_tags :
    let s : Schema := [⟨"id".toList, some .scalar, []⟩, ⟨"tags".toList, some .list, []⟩]
    let id : s.Field := ⟨⟨0, by decide⟩⟩
    let tags : s.Field := ⟨⟨1, by decide⟩⟩
    let a : List (Segment s.Field) := [.literal "/p".toList, .field id, .list tags '-', .literal "/?t".toList,
      .field id, .literal "=".toList, .list tags ',']
    let b : List (Segment s.Field) := [.literal [], .literal ['/'], .literal ['p'], .field id, .literal [],
      .list tags '-', .literal ['/'], .literal ['?'], .literal ['t'], .field id, .literal [], .literal ['='],
      .list tags ',', .literal []]
    let p := (Builder.empty.pushSome b).build
    joined a = joined b ∧ p.template = "/p\x7bid\x7d/?t=\x7btags|,\x7d".toList ∧ p.addressesQuery = true ∧
      (Builder.empty.verdicts b).map Prod.snd =
        [none, some (.consecutivePlaceholders "id".toList "tags".toList), some (.duplicateField "id".toList), none] := by
  intro s id tags a b p
  have h : joined a = joined b := by decide
  obtain ⟨-, -, hquery, -, htemplate, hverdicts, -, -⟩ := cuts_do_not_matter h
  refine ⟨h, ?_, ?_, ?_⟩
  · rw [← htemplate]
    decide
  · rw [← hquery]
    decide
  · rw [← hverdicts]
    decide

end LinkPattern.Pattern
