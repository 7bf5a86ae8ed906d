import LinkPattern.Proofs.Pattern.WellFormed

/-!
# Templates and patterns

A template that is read under names and the pattern that it makes run side by side, segment by
segment, and written out again the two differ in the names of fields at most. The other way round a
pattern is read back from its text when its names and separators can be written, and, where every name
is a field of its own, only then.
-/

namespace LinkPattern

variable {F : Type}

def Segment.renamed (F : Type) [Vocabulary F] (n : Segment Text) : Segment Text :=
  (n.resolve? : Option (Segment F)).elim n Segment.named

theorem Segment.named_of_resolve? [Vocabulary F] {n : Segment Text} {s : Segment F} (h : n.resolve? = some s) :
    s.named = n.renamed F := by
  simp [renamed, h]

theorem Segment.field?_of_resolve? [Vocabulary F] {n : Segment Text} {s : Segment F} (h : n.resolve? = some s) :
    s.field?.map some = n.field?.map Vocabulary.ofName? := by
  cases n with
  | literal t => cases h; rfl
  | field n => obtain ⟨f, hf, rfl⟩ := Option.map_eq_some_iff.mp h; simp [hf]
  | list n d => obtain ⟨f, hf, rfl⟩ := Option.map_eq_some_iff.mp h; simp [hf]

namespace Pattern

namespace Builder

/-! ## The text of what was added -/

section
variable [Vocabulary F]

theorem template_literal (b : Builder F) (t : Text) :
    (b.literal t).build.template = b.build.template ++ t.doubleBraces := by
  by_cases ht : t = []
  · simp [ht]
  obtain ⟨earlier, rest, rfl⟩ | hb := latest_cases b
  · rw [literal_merge ht]
    simp [build, template, Segment.template, Text.doubleBraces_append]
  · rw [literal_new hb ht]
    simp [build, template, Segment.template]

theorem isWritable_literal {b : Builder F} (h : ∀ s ∈ b.latestFirst, s.IsWritable) (t : Text) :
    ∀ s ∈ (b.literal t).latestFirst, s.IsWritable := by
  by_cases ht : t = []
  · simpa [ht] using h
  obtain ⟨earlier, rest, rfl⟩ | hb := latest_cases b
  · rw [literal_merge ht]
    exact List.forall_mem_cons.mpr ⟨trivial, (List.forall_mem_cons.mp h).2⟩
  · rw [literal_new hb ht]
    exact List.forall_mem_cons.mpr ⟨trivial, h⟩

variable [DecidableEq F] {b b' : Builder F} {s : Segment F}

theorem push_eq_ok (h : b.push s = .ok b') :
    (∃ t, s = .literal t ∧ b' = b.literal t) ∨ b'.latestFirst = s :: b.latestFirst := by
  cases s with
  | literal t => cases h; exact .inl ⟨t, rfl, rfl⟩
  | field f => exact .inr (placeholder_eq_ok h).2
  | list f d => exact .inr (placeholder_eq_ok h).2

theorem template_push (h : b.push s = .ok b') : b'.build.template = b.build.template ++ s.template := by
  obtain ⟨t, rfl, rfl⟩ | hb := push_eq_ok h
  · exact template_literal b t
  · simp [build, template, hb]

theorem isWritable_push (h : b.push s = .ok b') (hb : ∀ s ∈ b.latestFirst, s.IsWritable) (hs : s.IsWritable) :
    ∀ s ∈ b'.latestFirst, s.IsWritable := by
  obtain ⟨t, rfl, rfl⟩ | hb' := push_eq_ok h
  · exact isWritable_literal hb t
  · rw [hb']
    exact List.forall_mem_cons.mpr ⟨hs, hb⟩

end

section
variable {b b' : Builder Text} {t : Text}

theorem Spells.template (h : Spells b t b') : b'.build.template = b.build.template ++ t := by
  induction h with
  | nil b => simp
  | cons _ hs hp _ ih =>
    cases Option.some.inj ((Segment.resolve?_text _).symm.trans hs)
    rw [ih, template_push hp, List.append_assoc]

theorem Spells.isWritable (h : Spells b t b') (hb : ∀ s ∈ b.latestFirst, s.IsWritable) :
    ∀ s ∈ b'.latestFirst, s.IsWritable := by
  induction h with
  | nil b => exact hb
  | cons hn hs hp _ ih =>
    cases Option.some.inj ((Segment.resolve?_text _).symm.trans hs)
    exact ih (isWritable_push hp hb hn)

end

/-! ## Names beside fields -/

section
variable [Vocabulary F]

def Names (names : Builder Text) (b : Builder F) : Prop :=
  List.Forall₂ (fun n s => n.resolve? = some s) names.latestFirst b.latestFirst

variable {names : Builder Text} {b b' : Builder F}

theorem Names.literal (h : names.Names b) (t : Text) : (names.literal t).Names (b.literal t) := by
  by_cases ht : t = []
  · simpa [ht] using h
  obtain ⟨names⟩ := names
  obtain ⟨segments⟩ := b
  unfold Names Builder.literal at *
  rw [if_neg ht, if_neg ht]
  cases h with
  | nil => exact .cons rfl .nil
  | @cons n s names segments hs hrest =>
    cases n with
    | literal earlier => cases hs; exact .cons rfl hrest
    | field n => obtain ⟨f, -, rfl⟩ := Option.map_eq_some_iff.mp hs; exact .cons rfl (.cons hs hrest)
    | list n d => obtain ⟨f, -, rfl⟩ := Option.map_eq_some_iff.mp hs; exact .cons rfl (.cons hs hrest)

theorem Names.exists_mem (h : names.Names b) {n : Segment Text} (hn : n ∈ names.latestFirst) :
    ∃ s ∈ b.latestFirst, n.resolve? = some s := by
  obtain ⟨i, hi, rfl⟩ := List.mem_iff_getElem.mp hn
  have hi' : i < b.latestFirst.length := List.Forall₂.length_eq h ▸ hi
  exact ⟨_, List.getElem_mem hi', List.Forall₂.get h hi hi'⟩

variable [DecidableEq F]

theorem Names.refusal?_eq_none (h : names.Names b) {m : Text} {f : F} (hm : Vocabulary.ofName? m = some f)
    {used : FieldKind} (hr : b.refusal? f used = none) : names.refusal? m used = none := by
  obtain ⟨hhead, hfresh, -⟩ := Builder.refusal?_eq_none.mp hr
  refine Builder.refusal?_eq_none.mpr ⟨?_, ?_, by simp [Vocabulary.kind?]⟩
  · unfold Names at h
    cases hn : names.latestFirst with
    | nil => rfl
    | cons n rest =>
      rw [hn] at h
      obtain ⟨s, segments, hs, -, hb⟩ := List.forall₂_cons_left_iff.mp h
      rw [hb] at hhead
      have hf := Segment.field?_of_resolve? hs
      simp only [List.head?_cons, Option.bind_some] at hhead ⊢
      simpa [hhead] using hf.symm
  · -- a name that was used before resolved to the same field then
    intro hused
    obtain ⟨n, hn, hnm⟩ := List.mem_filterMap.mp hused
    obtain ⟨s, hs, hns⟩ := h.exists_mem hn
    have hf := Segment.field?_of_resolve? hns
    rw [hnm, Option.map_some, hm] at hf
    exact hfresh (List.mem_filterMap.mpr ⟨s, hs, by simpa using hf⟩)

theorem Names.push (h : names.Names b) {n : Segment Text} {s : Segment F} (hn : n.resolve? = some s)
    (hp : b.push s = .ok b') : ∃ names', names.push n = .ok names' ∧ names'.Names b' := by
  have hplaceholder : ∀ {m : Text} {f : F} {used : FieldKind}, Vocabulary.ofName? m = some f →
      b.placeholder s f used = .ok b' → ∃ names', names.placeholder n m used = .ok names' ∧ names'.Names b' := by
    intro m f used hm hp
    obtain ⟨hr, hb⟩ := placeholder_eq_ok hp
    refine ⟨⟨n :: names.latestFirst⟩, ?_, ?_⟩
    · simp [Builder.placeholder, h.refusal?_eq_none hm hr]
    · unfold Names at h ⊢
      rw [hb]
      exact .cons hn h
  cases n with
  | literal t => cases hn; cases hp; exact ⟨_, rfl, h.literal t⟩
  | field m => obtain ⟨f, hm, rfl⟩ := Option.map_eq_some_iff.mp hn; exact hplaceholder hm hp
  | list m d => obtain ⟨f, hm, rfl⟩ := Option.map_eq_some_iff.mp hn; exact hplaceholder hm hp

theorem Spells.exists_names {t : Text} (h : Spells b t b') (hb : names.Names b) :
    ∃ names', Spells names t names' ∧ names'.Names b' := by
  induction h generalizing names with
  | nil b => exact ⟨names, .nil names, hb⟩
  | cons hn hs hp _ ih =>
    obtain ⟨names₁, hp₁, h₁⟩ := hb.push hs hp
    obtain ⟨names', hspells, h'⟩ := ih h₁
    exact ⟨names', .cons hn (Segment.resolve?_text _) hp₁ hspells, h'⟩

end

end Builder

/-! ## Templates and the patterns they make -/

theorem template_of_ofTemplate {t : Text} {p : Pattern Text} (h : ofTemplate t = .ok p) : p.template = t := by
  obtain ⟨b, hread, rfl⟩ := map_eq_ok.mp h
  exact (Builder.spells_of_read hread).template

theorem isWritable_of_ofTemplate {t : Text} {p : Pattern Text} (h : ofTemplate t = .ok p) :
    ∀ s ∈ p.segments, s.IsWritable := by
  obtain ⟨b, hread, rfl⟩ := map_eq_ok.mp h
  have hb := (Builder.spells_of_read hread).isWritable (by simp [Builder.empty])
  intro s hs
  exact hb s (List.mem_reverse.mp hs)

section
variable [Vocabulary F]

theorem template_renamed {names : List (Segment Text)} {segments : List (Segment F)}
    (h : List.Forall₂ (fun n s => n.resolve? = some s) names segments) :
    (names.map (Segment.renamed F)).flatMap Segment.template = segments.flatMap Segment.template := by
  induction h with
  | nil => rfl
  | cons hs _ ih =>
    rw [List.map_cons, List.flatMap_cons, List.flatMap_cons, ih, ← Segment.named_of_resolve? hs, Segment.template_named]

variable [DecidableEq F]

theorem exists_named_ofTemplate {t : Text} {p : Pattern F} (h : ofTemplate t = .ok p) :
    ∃ q : Pattern Text, ofTemplate t = .ok q ∧
      List.Forall₂ (fun n s => n.resolve? = some s) q.segments p.segments := by
  obtain ⟨b, hread, rfl⟩ := map_eq_ok.mp h
  have hempty : (Builder.empty : Builder Text).Names (Builder.empty : Builder F) := .nil
  obtain ⟨names, hspells, hnames⟩ := (Builder.spells_of_read hread).exists_names hempty
  refine ⟨names.build, ?_, List.forall₂_reverse_iff.mpr hnames⟩
  exact map_eq_ok.mpr ⟨names, Builder.read_eq_ok.mpr hspells, rfl⟩

theorem ofTemplate_template {p : Pattern F} (hp : p.Made) (hw : ∀ s ∈ p.segments, s.IsWritable)
    (hr : ∀ f ∈ p.fields, Vocabulary.ofName? (Vocabulary.name f) = some f) : ofTemplate p.template = .ok p := by
  obtain ⟨b, hb, hbuild⟩ := map_eq_ok.mp (ofSegments_of_wellFormed hp.wellFormed)
  refine map_eq_ok.mpr ⟨b, ?_, hbuild⟩
  unfold template
  rw [Builder.read_steps hw hr, hb]
  rfl

end

/-! ## There and back -/

/-- A template is the text of its pattern but for names that resolve to a field of another name; plain
names stay, so that no two templates have one pattern. A pattern of plain names is read back from its
text exactly when all of them, and the separators, can be written; with fields of another kind, these
have to answer to their own names. -/
theorem ofTemplate_inverse_template [Vocabulary F] [DecidableEq F] :
    (∀ t (p : Pattern F), ofTemplate t = .ok p →
        ∃ q : Pattern Text, ofTemplate t = .ok q ∧ q.template = t ∧
          List.Forall₂ (fun n s => n.resolve? = some s) q.segments p.segments ∧
          p.template = (q.segments.map (Segment.renamed F)).flatMap Segment.template) ∧
      (∀ t (p : Pattern Text), ofTemplate t = .ok p → p.template = t) ∧
      (∀ t t' (p : Pattern Text), ofTemplate t = .ok p → ofTemplate t' = .ok p → t = t') ∧
      (∀ p : Pattern Text, p.Made → (ofTemplate p.template = .ok p ↔ ∀ s ∈ p.segments, s.IsWritable)) ∧
      ∀ p : Pattern F, p.Made → (∀ s ∈ p.segments, s.IsWritable) →
        (∀ f ∈ p.fields, Vocabulary.ofName? (Vocabulary.name f) = some f) → ofTemplate p.template = .ok p := by
  refine ⟨?_, fun t p h => template_of_ofTemplate h, ?_, ?_, fun p hp => ofTemplate_template hp⟩
  · intro t p h
    obtain ⟨q, hq, hnames⟩ := exists_named_ofTemplate h
    exact ⟨q, hq, template_of_ofTemplate hq, hnames, (template_renamed hnames).symm⟩
  · intro t t' p h h'
    rw [← template_of_ofTemplate h, ← template_of_ofTemplate h']
  · intro p hp
    exact ⟨isWritable_of_ofTemplate, fun hw => ofTemplate_template hp hw fun _ _ => rfl⟩

/-- `/{key}{{{tags|{}`, where `id` answers to `key`, is shown as `/{id}{{{tags|{}`, which is read back;
the text of a field named `a|b` is not. -/
theorem ofTemplate_inverse_template_key :
    let s : Schema := [⟨"id".toList, none, ["key".toList]⟩, ⟨"tags".toList, none, []⟩]
    let t := "/\x7bkey\x7d\x7b\x7b\x7btags|\x7b\x7d".toList
    let id : s.Field := ⟨⟨0, by decide⟩⟩
    let tags : s.Field := ⟨⟨1, by decide⟩⟩
    let p : Pattern s.Field := .of [.literal ['/'], .field id, .literal ['{'], .list tags '{']
    let bar := (Builder.empty.pushSome [.field "a|b".toList]).build
    ofTemplate t = .ok p ∧
      (∃ q : Pattern Text, ofTemplate t = .ok q ∧ q.template = t ∧
        p.template = (q.segments.map (Segment.renamed s.Field)).flatMap Segment.template) ∧
      p.template = "/\x7bid\x7d\x7b\x7b\x7btags|\x7b\x7d".toList ∧ ofTemplate p.template = .ok p ∧
      ofTemplate bar.template ≠ .ok bar := by
  intro s t id tags p bar
  obtain ⟨hshown, -, -, hback, hback'⟩ := ofTemplate_inverse_template (F := s.Field)
  have hread : ofTemplate "/\x7bkey\x7d\x7b\x7b\x7btags|\x7b\x7d".toList = .ok p := by decide +kernel
  obtain ⟨q, hq, ht, -, hp⟩ := hshown t p hread
  refine ⟨hread, ⟨q, hq, ht, hp⟩, by decide, ?_, ?_⟩
  · have hnames : ∀ f : s.Field, Vocabulary.ofName? (Vocabulary.name f) = some f := by
      intro f
      obtain ⟨i⟩ := f
      revert i
      decide
    exact hback' p (.template hread) (by decide) fun f _ => hnames f
  · intro h
    exact absurd ((hback bar (.build _)).mp h) (by decide)

end Pattern

end LinkPattern
