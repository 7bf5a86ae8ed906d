import LinkPattern.Proofs.Pattern.WellFormed

/-!
# The history of a builder

A builder keeps less than its history: literals are merged and empty ones are dropped. It still keeps
what the next call is judged by, namely whether the latest call that counts added a placeholder, and
which fields are in use. So the accepted calls decide about the next one, and they alone make the
pattern.
-/

namespace LinkPattern.Pattern

variable {F : Type} [DecidableEq F]

def counted (calls : List (Segment F)) : List (Segment F) := calls.filter (· ≠ .literal [])

theorem counted_append (a b : List (Segment F)) : counted (a ++ b) = counted a ++ counted b := List.filter_append a b

theorem counted_cons (s : Segment F) (rest : List (Segment F)) : counted (s :: rest) = counted [s] ++ counted rest :=
  counted_append [s] rest

theorem counted_singleton {s : Segment F} (h : s ≠ .literal []) : counted [s] = [s] := by
  simp [counted, h]

variable [Vocabulary F]

/-- What calls that were accepted say against a placeholder for `f`, the worst first. -/
inductive Refused (history : List (Segment F)) (f : F) (used : FieldKind) : PatternError → Prop
  | consecutive {previous : F} : history.getLast?.bind Segment.field? = some previous →
      Refused history f used (.consecutivePlaceholders (Vocabulary.name previous) (Vocabulary.name f))
  | duplicate : history.getLast?.bind Segment.field? = none → f ∈ history.filterMap Segment.field? →
      Refused history f used (.duplicateField (Vocabulary.name f))
  | kind {declared : FieldKind} : history.getLast?.bind Segment.field? = none →
      f ∉ history.filterMap Segment.field? → Vocabulary.kind? f = some declared → declared ≠ used →
      Refused history f used (.kindMismatch (Vocabulary.name f) declared used)

namespace Builder

variable {b b' : Builder F} {history : List (Segment F)}

/-! ## Accepted calls -/

def accepted (b : Builder F) : List (Segment F) → List (Segment F)
  | [] => []
  | s :: rest =>
    match b.push s with
    | .ok b' => s :: b'.accepted rest
    | .error _ => b.accepted rest

theorem pushAll_accepted (b : Builder F) (calls : List (Segment F)) :
    b.pushAll (b.accepted calls) = .ok (b.pushSome calls) := by
  induction calls generalizing b with
  | nil => rfl
  | cons s rest ih =>
    unfold accepted pushSome
    cases hs : b.push s with
    | ok b' => simp only [pushAll, hs]; exact ih b'
    | error e => exact ih b

/-! ## What a builder keeps of its history -/

/-- The builder agrees with the calls that made it on what matters for the next one. -/
structure Reflects (b : Builder F) (history : List (Segment F)) : Prop where
  latest : b.latestFirst.head?.bind Segment.field? = history.getLast?.bind Segment.field?
  fields : b.latestFirst.filterMap Segment.field? = (history.filterMap Segment.field?).reverse

omit [DecidableEq F] [Vocabulary F] in
theorem reflects_empty : (empty : Builder F).Reflects [] := ⟨rfl, rfl⟩

omit [Vocabulary F] in
theorem Reflects.literal (h : b.Reflects history) (t : Text) :
    (b.literal t).Reflects (history ++ counted [.literal t]) := by
  by_cases ht : t = []
  · subst ht
    simpa [counted] using h
  rw [counted_singleton (by simpa using ht)]
  have hfields : b.latestFirst.filterMap Segment.field? =
      ((history ++ [Segment.literal t]).filterMap Segment.field?).reverse := by simp [h.fields]
  obtain ⟨earlier, rest, rfl⟩ | hb := latest_cases b
  · rw [literal_merge ht]
    exact ⟨by simp, hfields⟩
  · rw [literal_new hb ht]
    exact ⟨by simp, hfields⟩

theorem Reflects.placeholder (h : b.Reflects history) {s : Segment F} {f : F} {used : FieldKind}
    (hs : s.field? = some f) (hp : b.placeholder s f used = .ok b') : b'.Reflects (history ++ counted [s]) := by
  have hne : s ≠ .literal [] := by
    intro e
    rw [e] at hs
    cases hs
  obtain ⟨-, hb⟩ := placeholder_eq_ok hp
  rw [counted_singleton hne]
  exact ⟨by simp [hb], by simp [hb, hs, h.fields]⟩

theorem Reflects.push (h : b.Reflects history) {s : Segment F} (hp : b.push s = .ok b') :
    b'.Reflects (history ++ counted [s]) := by
  cases s with
  | literal t => cases hp; exact h.literal t
  | field f => exact h.placeholder rfl hp
  | list f d => exact h.placeholder rfl hp

theorem Reflects.pushAll (h : b.Reflects history) {calls : List (Segment F)} (hp : b.pushAll calls = .ok b') :
    b'.Reflects (history ++ counted calls) := by
  induction calls generalizing b history with
  | nil =>
    cases hp
    simpa [counted] using h
  | cons s rest ih =>
    obtain ⟨b₁, hs, hrest⟩ := bind_eq_ok.mp hp
    rw [counted_cons, ← List.append_assoc]
    exact ih (h.push hs) hrest

/-! ## What is refused -/

theorem Reflects.refusal?_eq_some (h : b.Reflects history) {f : F} {used : FieldKind} {e : PatternError} :
    b.refusal? f used = some e ↔ Refused history f used e := by
  have hfields : f ∈ b.latestFirst.filterMap Segment.field? ↔ f ∈ history.filterMap Segment.field? := by
    rw [h.fields, List.mem_reverse]
  unfold refusal?
  rw [h.latest]
  cases hl : history.getLast?.bind Segment.field? with
  | some previous =>
    constructor
    · intro he
      cases he
      exact .consecutive hl
    · intro hr
      cases hr with
      | consecutive hl' => rw [hl] at hl'; cases hl'; rfl
      | duplicate hl' => rw [hl] at hl'; cases hl'
      | kind hl' => rw [hl] at hl'; cases hl'
  | none =>
    by_cases hf : f ∈ history.filterMap Segment.field?
    · simp only [hfields.mpr hf, ite_true]
      constructor
      · intro he
        cases he
        exact .duplicate hl hf
      · intro hr
        cases hr with
        | consecutive hl' => rw [hl] at hl'; cases hl'
        | duplicate => rfl
        | kind _ hf' => exact absurd hf hf'
    · have hb : f ∉ b.latestFirst.filterMap Segment.field? := fun hm => hf (hfields.mp hm)
      simp only [hb, ite_false]
      constructor
      · intro he
        cases hk : Vocabulary.kind? f with
        | none => rw [hk] at he; cases he
        | some declared =>
          simp only [hk] at he
          by_cases hu : declared = used
          · rw [if_pos hu] at he; cases he
          · rw [if_neg hu] at he
            cases he
            exact .kind hl hf hk hu
      · intro hr
        cases hr with
        | consecutive hl' => rw [hl] at hl'; cases hl'
        | duplicate _ hf' => exact absurd hf' hf
        | kind _ _ hk hu => simp [hk, hu]

theorem Reflects.placeholder_eq_error (h : b.Reflects history) {s : Segment F} {f : F} {used : FieldKind}
    {e : PatternError} : b.placeholder s f used = .error e ↔ Refused history f used e := by
  rw [← h.refusal?_eq_some, Builder.placeholder]
  cases b.refusal? f used <;> simp

end Builder

/-! ## Runs -/

/-- After any calls, refused ones among them, the pattern so far is well formed and made by the
accepted calls alone, and these say exactly which placeholders are refused next, and why. Whatever
a template makes is well formed too. -/
theorem history_decides_refusal (calls : List (Segment F)) :
    let b := (Builder.empty : Builder F).pushSome calls
    let history := counted (Builder.empty.accepted calls)
    WellFormed b.build.segments ∧
      (∀ f e, b.push (.field f) = .error e ↔ Refused history f .scalar e) ∧
      (∀ f d e, b.push (.list f d) = .error e ↔ Refused history f .list e) ∧
      ofSegments (Builder.empty.accepted calls) = .ok b.build ∧
      ∀ t (p : Pattern F), ofTemplate t = .ok p → WellFormed p.segments := by
  intro b history
  have hrun := Builder.pushAll_accepted (Builder.empty : Builder F) calls
  have hreflects : b.Reflects history := Builder.reflects_empty.pushAll hrun
  refine ⟨(Made.build calls).wellFormed, ?_, ?_, ?_, ?_⟩
  · intro f e
    exact hreflects.placeholder_eq_error
  · intro f d e
    exact hreflects.placeholder_eq_error
  · rw [ofSegments, hrun]
    rfl
  · intro t p hp
    exact (Made.template hp).wellFormed

/-- A list right after a value is refused, although an empty literal was added between them; after a
literal that counts, the same value and a value for the list are. -/
theorem history_decides_refusal_tags :
    let s : Schema := [⟨"id".toList, some .scalar, ["key".toList]⟩, ⟨"tags".toList, some .list, []⟩]
    let id : s.Field := ⟨⟨0, by decide⟩⟩
    let tags : s.Field := ⟨⟨1, by decide⟩⟩
    let p : Pattern s.Field := .of [.literal ['/'], .field id, .literal ['-'], .list tags ',']
    let b := Builder.empty.pushSome [.literal ['/'], .field id, .literal [], .list tags ',', .literal ['-']]
    b.push (.field id) = .error (.duplicateField "id".toList) ∧
      b.push (.field tags) = .error (.kindMismatch "tags".toList .list .scalar) ∧
      ofTemplate "/{key}-{tags|,}".toList = .ok p ∧ WellFormed p.segments := by
  intro s id tags p b
  obtain ⟨-, hfield, -, -, htemplate⟩ :=
    history_decides_refusal [.literal ['/'], .field id, .literal [], .list tags ',', .literal ['-']]
  have hread : ofTemplate "/{key}-{tags|,}".toList = .ok p := by decide +kernel
  refine ⟨(hfield id _).mpr ?_, (hfield tags _).mpr ?_, hread, htemplate _ _ hread⟩
  · exact .duplicate (by decide) (by decide)
  · exact .kind (by decide) (by decide) rfl (by decide)

end LinkPattern.Pattern
