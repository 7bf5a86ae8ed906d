import LinkPattern.Pattern.Template
import LinkPattern.Proofs.Results
import Mathlib.Data.List.Forall2

/-!
# Reading what was written

A template is calls of a builder, written one after another with names for the fields. Reading it
makes these calls: what was written is read back (`read_template`), and nothing is read that was not
written (`spells_of_read`). Names and separators that would end a placeholder early cannot be
written.
-/

namespace LinkPattern

variable {F : Type}

structure IsName (n : Text) : Prop where
  nonempty : n ≠ []
  noOpen : '{' ∉ n
  noClose : '}' ∉ n
  noBar : '|' ∉ n

instance (n : Text) : Decidable (IsName n) :=
  decidable_of_iff (n ≠ [] ∧ '{' ∉ n ∧ '}' ∉ n ∧ '|' ∉ n)
    ⟨fun ⟨h1, h2, h3, h4⟩ => ⟨h1, h2, h3, h4⟩, fun h => ⟨h.nonempty, h.noOpen, h.noClose, h.noBar⟩⟩

namespace Text

@[simp] theorem doubleBraces_nil : doubleBraces [] = [] := rfl

theorem doubleBraces_singleton {c : Char} (h1 : c ≠ '{') (h2 : c ≠ '}') : doubleBraces [c] = [c] := by
  simp [doubleBraces, h1, h2]

theorem doubleBraces_append (a b : Text) : (a ++ b).doubleBraces = a.doubleBraces ++ b.doubleBraces := by
  induction a with
  | nil => rfl
  | cons c a ih => by_cases hc : c = '{' ∨ c = '}' <;> simp [doubleBraces, hc, ih]

theorem doubleBraces_cons (c : Char) (t : Text) : doubleBraces (c :: t) = doubleBraces [c] ++ t.doubleBraces :=
  doubleBraces_append [c] t

theorem octetLength_braces (body : Text) : octetLength ('{' :: body ++ ['}']) = 2 + octetLength body := by
  have h1 : '{'.utf8Size = 1 := by decide
  have h2 : '}'.utf8Size = 1 := by decide
  simp only [List.cons_append, octetLength_cons, octetLength_append, octetLength_nil, h1, h2]
  omega

end Text

namespace Segment

def named [Vocabulary F] : Segment F → Segment Text
  | .literal t => .literal t
  | .field f => .field (Vocabulary.name f)
  | .list f d => .list (Vocabulary.name f) d

def resolve? [Vocabulary F] : Segment Text → Option (Segment F)
  | .literal t => some (.literal t)
  | .field n => (Vocabulary.ofName? n).map .field
  | .list n d => (Vocabulary.ofName? n).map (.list · d)

def IsWritable [Vocabulary F] : Segment F → Prop
  | .literal _ => True
  | .field f => IsName (Vocabulary.name f)
  | .list f d => IsName (Vocabulary.name f) ∧ d ≠ '}'

instance [Vocabulary F] (s : Segment F) : Decidable s.IsWritable :=
  match s with
  | .literal _ => isTrue trivial
  | .field f => inferInstanceAs (Decidable (IsName (Vocabulary.name f)))
  | .list f d => inferInstanceAs (Decidable (IsName (Vocabulary.name f) ∧ d ≠ '}'))

section
variable [Vocabulary F]

@[simp] theorem template_named (s : Segment F) : s.named.template = s.template := by
  cases s <;> rfl

theorem isWritable_named {s : Segment F} : s.named.IsWritable ↔ s.IsWritable := by
  cases s <;> exact Iff.rfl

theorem resolve?_named {s : Segment F}
    (h : ∀ f, s.field? = some f → Vocabulary.ofName? (Vocabulary.name f) = some f) : s.named.resolve? = some s := by
  cases s with
  | literal t => rfl
  | field f => simp [named, resolve?, h f rfl]
  | list f d => simp [named, resolve?, h f rfl]

end

theorem resolve?_text (s : Segment Text) : s.resolve? = some s := by
  cases s <;> rfl

end Segment

namespace Pattern

namespace Builder

/-! ## Literals in pieces -/

@[simp] theorem literal_nil (b : Builder F) : b.literal [] = b := if_pos rfl

theorem literal_merge {t : Text} (ht : t ≠ []) (earlier : Text) (rest : List (Segment F)) :
    (⟨.literal earlier :: rest⟩ : Builder F).literal t = ⟨.literal (earlier ++ t) :: rest⟩ := if_neg ht

theorem literal_new {b : Builder F} (hb : ∀ s ∈ b.latestFirst.head?, s.isPlaceholder = true) {t : Text} (ht : t ≠ []) :
    b.literal t = ⟨.literal t :: b.latestFirst⟩ := by
  unfold literal
  rw [if_neg ht]
  cases hl : b.latestFirst with
  | nil => rfl
  | cons s rest =>
    cases s with
    | literal earlier =>
      rw [hl] at hb
      cases hb _ rfl
    | field f => rfl
    | list f d => rfl

theorem latest_cases (b : Builder F) :
    (∃ earlier rest, b = ⟨.literal earlier :: rest⟩) ∨ ∀ s ∈ b.latestFirst.head?, s.isPlaceholder = true := by
  obtain ⟨segments⟩ := b
  cases segments with
  | nil => exact .inr (by simp)
  | cons s rest =>
    cases s with
    | literal earlier => exact .inl ⟨earlier, rest, rfl⟩
    | field f => exact .inr (by simp)
    | list f d => exact .inr (by simp)

theorem literal_literal (b : Builder F) (s t : Text) : (b.literal s).literal t = b.literal (s ++ t) := by
  by_cases hs : s = []
  · simp [hs]
  by_cases ht : t = []
  · simp [ht]
  have hst : s ++ t ≠ [] := by simp [hs]
  obtain ⟨earlier, rest, rfl⟩ | hb := latest_cases b
  · rw [literal_merge hs, literal_merge ht, literal_merge hst, List.append_assoc]
  · rw [literal_new hb hs, literal_merge ht, literal_new hb hst]

theorem literal_congr {b c : Builder F} {s s' : Text} (h : b.literal s = c.literal s') (t : Text) :
    b.literal (s ++ t) = c.literal (s' ++ t) := by
  rw [← literal_literal, ← literal_literal, h]

/-! ## Literal text that is pending -/

section
variable [DecidableEq F] [Vocabulary F]

theorem read_open (b : Builder F) (pending : Text) (offset : Nat) {rest : Text}
    (hne : ∀ after, rest = '{' :: after → False) :
    b.read pending offset ('{' :: rest) =
      match Text.cut '}' rest with
      | none => .error (.unclosedPlaceholder offset)
      | some (body, after) =>
        (b.literal pending).body body offset >>= fun b' => b'.read [] (offset + 2 + Text.octetLength body) after := by
  rw [read.eq_5 b pending offset rest hne]
  split
  · next h => rw [h]
  · next body after h => rw [h]

theorem read_congr {b c : Builder F} {pending pending' : Text} (h : b.literal pending = c.literal pending') (offset : Nat)
    (t : Text) : b.read pending offset t = c.read pending' offset t := by
  induction b, pending, offset, t using read.induct generalizing c pending' with
  -- the buffers are looked at here and at a placeholder, and grow alike until then
  | case1 b pending offset => rw [read.eq_1, read.eq_1, h]
  | case2 b pending offset rest ih =>
    rw [read.eq_2, read.eq_2]
    exact ih (literal_congr h ['{'])
  | case3 b pending offset rest ih =>
    rw [read.eq_3, read.eq_3]
    exact ih (literal_congr h ['}'])
  | case4 b pending offset rest hne => rw [read.eq_4 _ _ _ _ hne, read.eq_4 _ _ _ _ hne]
  | case5 b pending offset rest hne hc => rw [read_open _ _ _ hne, read_open _ _ _ hne, hc]
  | case6 b pending offset rest hne body after hc _ => rw [read_open _ _ _ hne, read_open _ _ _ hne, hc, h]
  | case7 b pending offset x rest h1 h2 h3 h4 ih =>
    rw [read.eq_6 _ _ _ _ _ h1 h2 h3 h4, read.eq_6 _ _ _ _ _ h1 h2 h3 h4]
    exact ih (literal_congr h [x])

theorem read_flush (b : Builder F) (pending : Text) (offset : Nat) (t : Text) :
    b.read pending offset t = (b.literal pending).read [] offset t :=
  read_congr (literal_nil _).symm offset t

end

/-! ## The steps of a reader -/

section
variable [DecidableEq F] [Vocabulary F] (b : Builder F) (offset : Nat)

theorem read_char (c : Char) (rest : Text) :
    b.read [] offset (Text.doubleBraces [c] ++ rest) =
      (b.literal [c]).read [] (offset + Text.octetLength (Text.doubleBraces [c])) rest := by
  rw [← read_flush]
  by_cases h1 : c = '{'
  · subst h1
    exact read.eq_2 b [] offset rest
  by_cases h2 : c = '}'
  · subst h2
    exact read.eq_3 b [] offset rest
  rw [Text.doubleBraces_singleton h1 h2, List.singleton_append,
    read.eq_6 b [] offset c rest (fun _ h => absurd h h1) (fun _ h => absurd h h2) h2 h1]
  rfl

theorem read_literal (t rest : Text) :
    b.read [] offset (t.doubleBraces ++ rest) =
      (b.literal t).read [] (offset + Text.octetLength t.doubleBraces) rest := by
  induction t generalizing b offset with
  | nil => simp
  | cons c t ih =>
    rw [Text.doubleBraces_cons, List.append_assoc, read_char, ih, literal_literal, List.singleton_append,
      Text.octetLength_append, Nat.add_assoc]

theorem read_braces {body : Text} (hopen : body.head? ≠ some '{') (hclose : '}' ∉ body) (rest : Text) :
    b.read [] offset ('{' :: body ++ ['}'] ++ rest) =
      b.body body offset >>= fun b' => b'.read [] (offset + Text.octetLength ('{' :: body ++ ['}'])) rest := by
  have hne : ∀ after, body ++ '}' :: rest = '{' :: after → False := by
    intro after h
    cases body with
    | nil => cases h
    | cons c body => exact hopen (congrArg some (List.cons.inj h).1)
  have hcut := Text.cut_append_cons rest hclose
  rw [List.append_assoc, List.singleton_append, List.cons_append, read_open b [] offset hne, hcut,
    Text.octetLength_braces, ← Nat.add_assoc, literal_nil]

end

/-! ## What is written is read -/

section
variable [DecidableEq F] [Vocabulary F]

theorem body_field {n : Text} (hn : IsName n) {f : F} (hf : Vocabulary.ofName? n = some f) (b : Builder F)
    (offset : Nat) : b.body n offset = (b.field f).mapError .pattern := by
  unfold Builder.body
  rw [Text.cut_eq_none.mpr hn.noBar]
  simp [hn.nonempty, hn.noOpen, hf]

theorem body_list {n : Text} (hn : IsName n) {f : F} (hf : Vocabulary.ofName? n = some f) (d : Char) (b : Builder F)
    (offset : Nat) : b.body (n ++ ['|', d]) offset = (b.list f d).mapError .pattern := by
  unfold Builder.body
  rw [Text.cut_append_cons [d] hn.noBar]
  simp [hn.nonempty, hn.noOpen, hf]

theorem read_placeholder {n : Text} (hn : IsName n) {tail : Text} (ht : '}' ∉ tail) (b : Builder F) (offset : Nat)
    (rest : Text) :
    b.read [] offset ('{' :: (n ++ tail) ++ ['}'] ++ rest) =
      b.body (n ++ tail) offset >>= fun b' =>
        b'.read [] (offset + Text.octetLength ('{' :: (n ++ tail) ++ ['}'])) rest := by
  apply read_braces
  · cases n with
    | nil => exact absurd rfl hn.nonempty
    | cons c n =>
      intro h
      cases h
      exact hn.noOpen (by simp)
  · simp [hn.noClose, ht]

theorem read_template {n : Segment Text} (hn : n.IsWritable) {s : Segment F} (hs : n.resolve? = some s) (b : Builder F)
    (offset : Nat) (rest : Text) :
    b.read [] offset (n.template ++ rest) =
      (b.push s).mapError .pattern >>= fun b' => b'.read [] (offset + n.template.octetLength) rest := by
  cases n with
  | literal t =>
    cases hs
    exact read_literal b offset t rest
  | field n =>
    obtain ⟨f, hf, rfl⟩ := Option.map_eq_some_iff.mp hs
    have hname : IsName n := hn
    have ht : (Segment.field n).template = '{' :: (n ++ []) ++ ['}'] := by rw [List.append_nil]; rfl
    rw [ht, read_placeholder hname (by simp), List.append_nil, body_field hname hf]
    rfl
  | list n d =>
    obtain ⟨f, hf, rfl⟩ := Option.map_eq_some_iff.mp hs
    have hname : IsName n := hn.1
    have ht : (Segment.list n d).template = '{' :: (n ++ ['|', d]) ++ ['}'] := by
      simp [Segment.template, Vocabulary.name]
    rw [ht, read_placeholder hname (by simp [Ne.symm hn.2]), body_list hname hf]
    rfl

theorem read_templates {names : List (Segment Text)} {steps : List (Segment F)} (hn : ∀ n ∈ names, n.IsWritable)
    (hs : List.Forall₂ (fun n s => n.resolve? = some s) names steps) (b : Builder F) (offset : Nat) :
    b.read [] offset (names.flatMap Segment.template) = (b.pushAll steps).mapError .pattern := by
  induction hs generalizing b offset with
  | nil => rw [List.flatMap_nil, read.eq_1, literal_nil]; rfl
  | @cons n s names steps hns _ ih =>
    rw [List.flatMap_cons, read_template (hn n (by simp)) hns, pushAll]
    cases b.push s with
    | error e => rfl
    | ok b' => exact ih (fun m hm => hn m (List.mem_cons_of_mem _ hm)) b' _

theorem read_steps {steps : List (Segment F)} (hw : ∀ s ∈ steps, s.IsWritable)
    (hr : ∀ f ∈ steps.filterMap Segment.field?, Vocabulary.ofName? (Vocabulary.name f) = some f) (b : Builder F)
    (offset : Nat) : b.read [] offset (steps.flatMap Segment.template) = (b.pushAll steps).mapError .pattern := by
  have hnamed : steps.flatMap Segment.template = (steps.map Segment.named).flatMap Segment.template := by
    simp [List.flatMap_map]
  rw [hnamed]
  refine read_templates ?_ ?_ b offset
  · intro n hn
    obtain ⟨s, hs, rfl⟩ := List.mem_map.mp hn
    exact Segment.isWritable_named.mpr (hw s hs)
  · rw [List.forall₂_map_left_iff, List.forall₂_same]
    intro s hs
    exact Segment.resolve?_named fun f hf => hr f (List.mem_filterMap.mpr ⟨s, hs, hf⟩)

/-! ## What is refused -/

theorem pushAll_eq_error {b : Builder F} {steps : List (Segment F)} {e : PatternError} :
    b.pushAll steps = .error e ↔
      ∃ before s after b', steps = before ++ s :: after ∧ b.pushAll before = .ok b' ∧ b'.push s = .error e := by
  induction steps generalizing b with
  | nil =>
    constructor
    · intro h
      cases h
    · intro ⟨before, s, after, _, h, _⟩
      simp at h
  | cons s steps ih =>
    rw [pushAll]
    cases hs : b.push s with
    | error e' =>
      constructor
      · intro h
        cases h
        exact ⟨[], s, steps, b, rfl, rfl, hs⟩
      · intro ⟨before, s', after, b', h, hb, he⟩
        cases before with
        | nil =>
          cases h
          cases hb
          rw [← he, hs]
          rfl
        | cons t before =>
          cases h
          rw [pushAll, hs] at hb
          cases hb
    | ok b₁ =>
      refine Iff.trans (ih (b := b₁)) ?_
      constructor
      · intro ⟨before, s', after, b', h, hb, he⟩
        exact ⟨s :: before, s', after, b', by rw [h]; rfl, by rw [pushAll, hs]; exact hb, he⟩
      · intro ⟨before, s', after, b', h, hb, he⟩
        cases before with
        | nil =>
          cases h
          cases hb
          rw [hs] at he
          cases he
        | cons t before =>
          cases h
          rw [pushAll, hs] at hb
          exact ⟨before, s', after, b', rfl, hb, he⟩

/-! ## What is read was written -/

/-- The text writes calls, under names, that lead from one builder to another. -/
inductive Spells : Builder F → Text → Builder F → Prop
  | nil (b : Builder F) : Spells b [] b
  | cons {b b₁ b' : Builder F} {n : Segment Text} {s : Segment F} {rest : Text} :
      n.IsWritable → n.resolve? = some s → b.push s = .ok b₁ → Spells b₁ rest b' → Spells b (n.template ++ rest) b'

theorem Spells.char {b b' : Builder F} (c : Char) {rest : Text} (h : Spells (b.literal [c]) rest b') :
    Spells b (Text.doubleBraces [c] ++ rest) b' :=
  .cons (n := .literal [c]) (s := .literal [c]) trivial rfl rfl h

theorem written_of_body {b b' : Builder F} {body : Text} (hclose : '}' ∉ body) {offset : Nat}
    (h : b.body body offset = .ok b') :
    ∃ (n : Segment Text) (s : Segment F), n.IsWritable ∧ n.template = '{' :: body ++ ['}'] ∧ n.resolve? = some s ∧
      b.push s = .ok b' := by
  unfold Builder.body at h
  cases hc : Text.cut '|' body with
  | none =>
    have hbar := Text.cut_eq_none.mp hc
    simp only [hc] at h
    split at h
    · cases h
    next hbad =>
      obtain ⟨h1, h2⟩ := not_or.mp hbad
      cases hf : (Vocabulary.ofName? body : Option F) with
      | none => rw [hf] at h; cases h
      | some f =>
        rw [hf] at h
        exact ⟨.field body, .field f, ⟨h1, h2, hclose, hbar⟩, rfl, by simp [Segment.resolve?, hf],
          mapError_eq_ok.mp h⟩
  | some parts =>
    obtain ⟨name, separator⟩ := parts
    obtain ⟨rfl, hbar⟩ := Text.cut_eq_some hc
    simp only [hc] at h
    split at h
    · cases h
    next hbad =>
      obtain ⟨h1, h2⟩ := not_or.mp hbad
      obtain ⟨h3, h4⟩ : '}' ∉ name ∧ '}' ∉ separator := by simpa [not_or] using hclose
      cases hf : (Vocabulary.ofName? name : Option F) with
      | none => rw [hf] at h; cases h
      | some f =>
        simp only [hf] at h
        match separator, h, h4 with
        | [d], h, h4 =>
          have hd : d ≠ '}' := fun e => h4 (by simp [e])
          exact ⟨.list name d, .list f d, ⟨⟨h1, h2, h3, hbar⟩, hd⟩, by simp [Segment.template, Vocabulary.name],
            by simp [Segment.resolve?, hf], mapError_eq_ok.mp h⟩
        | [], h, _ => cases h
        | _ :: _ :: _, h, _ => cases h

theorem spells_of_pending {b b' : Builder F} {pending : Text} {offset : Nat} {t : Text}
    (h : b.read pending offset t = .ok b') : Spells (b.literal pending) t b' := by
  induction b, pending, offset, t using read.induct with
  | case1 b pending offset =>
    rw [read.eq_1] at h
    cases h
    exact .nil _
  -- two braces are one that is text
  | case2 b pending offset rest ih =>
    rw [read.eq_2] at h
    have hspells := ih h
    rw [← literal_literal] at hspells
    exact hspells.char '{'
  | case3 b pending offset rest ih =>
    rw [read.eq_3] at h
    have hspells := ih h
    rw [← literal_literal] at hspells
    exact hspells.char '}'
  | case4 b pending offset rest hne => rw [read.eq_4 b pending offset rest hne] at h; cases h
  | case5 b pending offset rest hne hc =>
    rw [read_open b pending offset hne, hc] at h
    cases h
  -- a placeholder, up to the next closing brace
  | case6 b pending offset rest hne body after hc ih =>
    rw [read_open b pending offset hne, hc] at h
    obtain ⟨b₁, hb, hrest⟩ := bind_eq_ok.mp h
    obtain ⟨rfl, hclose⟩ := Text.cut_eq_some hc
    obtain ⟨n, s, hn, ht, hs, hp⟩ := written_of_body hclose hb
    have hafter := ih b₁ hrest
    rw [literal_nil] at hafter
    have hspells := Spells.cons hn hs hp hafter
    rw [ht] at hspells
    simpa using hspells
  | case7 b pending offset c rest h1 h2 h3 h4 ih =>
    rw [read.eq_6 b pending offset c rest h1 h2 h3 h4] at h
    have hspells := ih h
    rw [← literal_literal] at hspells
    have hspells := hspells.char c
    rwa [Text.doubleBraces_singleton h4 h3] at hspells

theorem spells_of_read {b b' : Builder F} {offset : Nat} {t : Text} (h : b.read [] offset t = .ok b') :
    Spells b t b' := by
  have hspells := spells_of_pending h
  rwa [literal_nil] at hspells

theorem read_eq_ok {b b' : Builder F} {offset : Nat} {t : Text} : b.read [] offset t = .ok b' ↔ Spells b t b' := by
  constructor
  · exact spells_of_read
  · intro h
    induction h generalizing offset with
    | nil b => rw [read.eq_1, literal_nil]
    | cons hn hs hp _ ih =>
      rw [read_template hn hs, hp]
      exact ih

theorem Spells.exists_pushAll {b b' : Builder F} {t : Text} (h : Spells b t b') :
    ∃ steps, b.pushAll steps = .ok b' := by
  induction h with
  | nil b => exact ⟨[], rfl⟩
  | @cons b b₁ b' n s rest _ _ hp _ ih =>
    obtain ⟨steps, hsteps⟩ := ih
    exact ⟨s :: steps, by rw [pushAll, hp]; exact hsteps⟩

end

end Builder

/-! ## Templates and builders -/

variable [DecidableEq F] [Vocabulary F]

/-- Calls that are written as a template, in as many pieces as they come, and then read make the
pattern that the builder makes of them. Where the builder refuses one, the template fails with the
refusal of the first, whatever is written after it. -/
theorem ofTemplate_of_steps {steps : List (Segment F)} (hw : ∀ s ∈ steps, s.IsWritable)
    (hr : ∀ f ∈ steps.filterMap Segment.field?, Vocabulary.ofName? (Vocabulary.name f) = some f) :
    (∀ p : Pattern F, ofTemplate (steps.flatMap Segment.template) = .ok p ↔ ofSegments steps = .ok p) ∧
      ∀ e, (ofTemplate (steps.flatMap Segment.template) : Except TemplateError (Pattern F)) = .error e ↔
        ∃ before s after b cause, steps = before ++ s :: after ∧ Builder.empty.pushAll before = .ok b ∧
          b.push s = .error cause ∧ e = .pattern cause := by
  unfold ofTemplate ofSegments
  rw [Builder.read_steps hw hr]
  refine ⟨fun p => by simp only [map_eq_ok, mapError_eq_ok], fun e => ?_⟩
  rw [map_eq_error, mapError_eq_error]
  constructor
  · intro ⟨cause, hrun, he⟩
    obtain ⟨before, s, after, b, h, hb, hs⟩ := Builder.pushAll_eq_error.mp hrun
    exact ⟨before, s, after, b, cause, h, hb, hs, he.symm⟩
  · intro ⟨before, s, after, b, cause, h, hb, hs, he⟩
    exact ⟨cause, Builder.pushAll_eq_error.mpr ⟨before, s, after, b, h, hb, hs⟩, he.symm⟩

/-- Doubled braces beside those of placeholders, an empty literal, and two faults:
`{{}}{{{a}{b||}/{a}`. -/
theorem ofTemplate_of_steps_braces :
    let steps : List (Segment Text) :=
      [.literal ['{'], .literal ['}', '{'], .field ['a'], .literal [], .list ['b'] '|', .literal ['/'], .field ['a']]
    (∀ s ∈ steps, s.IsWritable) ∧
      ofTemplate "\x7b\x7b\x7d\x7d\x7b\x7b\x7ba\x7d\x7bb||\x7d/\x7ba\x7d".toList =
        (.error (.pattern (.consecutivePlaceholders ['a'] ['b'])) : Except TemplateError (Pattern Text)) := by
  intro steps
  have hw : ∀ s ∈ steps, s.IsWritable := by decide
  refine ⟨hw, ((ofTemplate_of_steps hw fun _ _ => rfl).2 _).mpr ?_⟩
  exact ⟨[.literal ['{'], .literal ['}', '{'], .field ['a'], .literal []], .list ['b'] '|',
    [.literal ['/'], .field ['a']], ⟨[.field ['a'], .literal ['{', '}', '{']]⟩, _, rfl, rfl, rfl, rfl⟩

end Pattern

end LinkPattern
