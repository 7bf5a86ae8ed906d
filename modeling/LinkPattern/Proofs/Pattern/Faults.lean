import LinkPattern.Proofs.Pattern.Template

/-!
# Where a template is at fault

A reader stops at the first brace that belongs to nothing: one that closes nothing, one that is never
closed, or one that opens a placeholder without a name. It says where this brace stands, everything
in front of it can be read by itself, and nothing that comes later matters.
-/

namespace LinkPattern

inductive BraceFault where
  | unclosed
  | unmatched
  | unnamed
  deriving DecidableEq, Repr

namespace BraceFault

def error (offset : Nat) : BraceFault → TemplateError
  | .unclosed => .unclosedPlaceholder offset
  | .unmatched => .unmatchedBrace offset
  | .unnamed => .emptyName offset

section
variable (fault : BraceFault) (offset : Nat)

@[simp] theorem emptyName_eq_error {o : Nat} : .emptyName o = fault.error offset ↔ fault = .unnamed ∧ offset = o := by
  cases fault <;> simp [error, eq_comm]

@[simp] theorem unknownField_ne_error (name : Text) : .unknownField name ≠ fault.error offset := by
  cases fault <;> simp [error]

@[simp] theorem invalidSeparator_ne_error (name separator : Text) :
    .invalidSeparator name separator ≠ fault.error offset := by
  cases fault <;> simp [error]

@[simp] theorem pattern_ne_error (cause : PatternError) : .pattern cause ≠ fault.error offset := by
  cases fault <;> simp [error]

end

def NamesNothing (body : Text) : Prop :=
  body.takeWhile (· ≠ '|') = [] ∨ '{' ∈ body.takeWhile (· ≠ '|')

/-- The text begins with a brace that has this fault. A brace that is doubled is text. -/
inductive Begins : BraceFault → Text → Prop
  | unclosed {rest : Text} : rest.head? ≠ some '{' → '}' ∉ rest → Begins .unclosed ('{' :: rest)
  | unmatched {rest : Text} : rest.head? ≠ some '}' → Begins .unmatched ('}' :: rest)
  | unnamed {rest : Text} : rest.head? ≠ some '{' → '}' ∈ rest → NamesNothing (rest.takeWhile (· ≠ '}')) →
      Begins .unnamed ('{' :: rest)

end BraceFault

theorem Text.takeWhile_eq_cut (d : Char) (t : Text) : t.takeWhile (· ≠ d) = (cut d t).elim t Prod.fst := by
  induction t with
  | nil => rfl
  | cons c t ih =>
    unfold cut
    by_cases hc : c = d
    · simp [hc]
    · rw [List.takeWhile_cons_of_pos (by simp [hc]), ih, if_neg hc]
      cases cut d t <;> rfl

namespace Pattern

variable {F : Type} [DecidableEq F] [Vocabulary F]

namespace Builder

variable {b b' : Builder F} {offset o : Nat} {fault : BraceFault} {t rest : Text}

/-! ## At a brace -/

theorem body_eq_fault {body : Text} :
    b.body body offset = .error (fault.error o) ↔
      fault = .unnamed ∧ o = offset ∧ BraceFault.NamesNothing body := by
  have hrefused : ∀ x : Except PatternError (Builder F), x.mapError .pattern ≠ .error (fault.error o) := by
    intro x h
    obtain ⟨cause, -, he⟩ := mapError_eq_error.mp h
    exact absurd he (by simp)
  unfold Builder.body BraceFault.NamesNothing
  rw [Text.takeWhile_eq_cut]
  cases Text.cut '|' body with
  | none =>
    simp only [Option.elim_none]
    by_cases hname : body = [] ∨ '{' ∈ body
    · simp [hname]
    · simp only [hname, ite_false, and_false, iff_false]
      cases (Vocabulary.ofName? body : Option F) with
      | none => simp
      | some f => exact hrefused _
  | some parts =>
    obtain ⟨name, separator⟩ := parts
    simp only [Option.elim_some]
    by_cases hname : name = [] ∨ '{' ∈ name
    · simp [hname]
    · simp only [hname, ite_false, and_false, iff_false]
      cases (Vocabulary.ofName? name : Option F) with
      | none => simp
      | some f =>
        match separator with
        | [d] => exact hrefused _
        | [] => simp
        | _ :: _ :: _ => simp

theorem read_of_begins (h : fault.Begins t) : b.read [] offset t = .error (fault.error offset) := by
  cases h with
  | @unclosed rest hne hclose =>
    rw [read_open b [] offset fun after e => hne (by simp [e]), Text.cut_eq_none.mpr hclose]
    rfl
  | @unmatched rest hne => exact read.eq_4 b [] offset rest fun after e => hne (by simp [e])
  | @unnamed rest hne hclose hname =>
    rw [Text.takeWhile_eq_cut] at hname
    rw [read_open b [] offset fun after e => hne (by simp [e]), literal_nil]
    cases hc : Text.cut '}' rest with
    | none => exact absurd hclose (Text.cut_eq_none.mp hc)
    | some parts =>
      rw [hc] at hname
      have hbody : b.body parts.1 offset = .error (BraceFault.unnamed.error offset) :=
        body_eq_fault.mpr ⟨rfl, rfl, hname⟩
      simp only [hbody]
      rfl

/-! ## Up to a brace -/

theorem Spells.read (h : Spells b t b') (offset : Nat) (rest : Text) :
    b.read [] offset (t ++ rest) = b'.read [] (offset + t.octetLength) rest := by
  induction h generalizing offset with
  | nil b => rfl
  | cons hn hs hp _ ih =>
    rw [List.append_assoc, read_template hn hs, hp, Text.octetLength_append, ← Nat.add_assoc]
    exact ih _

/-- What stands in front of the brace at `o` that has the fault can be read. -/
def Stops (fault : BraceFault) (o : Nat) (b : Builder F) (offset : Nat) (t : Text) : Prop :=
  ∃ front rest b', t = front ++ rest ∧ Spells b front b' ∧ o = offset + front.octetLength ∧ fault.Begins rest

theorem Stops.here (h : fault.Begins t) : Stops fault offset b offset t := ⟨[], t, b, rfl, .nil b, rfl, h⟩

theorem Stops.behind {n : Segment Text} {s : Segment F} (hn : n.IsWritable) (hs : n.resolve? = some s)
    (hp : b.push s = .ok b') (h : Stops fault o b' (offset + n.template.octetLength) rest) :
    Stops fault o b offset (n.template ++ rest) := by
  obtain ⟨front, rest', b'', rfl, hspells, ho, hbegins⟩ := h
  refine ⟨n.template ++ front, rest', b'', by rw [List.append_assoc], .cons hn hs hp hspells, ?_, hbegins⟩
  rw [ho, Text.octetLength_append, Nat.add_assoc]

theorem stops_of_pending {pending : Text} (h : b.read pending offset t = .error (fault.error o)) :
    Stops fault o (b.literal pending) offset t := by
  have hhead : ∀ {c : Char} {rest : Text}, (∀ after, rest = c :: after → False) → rest.head? ≠ some c := by
    intro c rest hne e
    obtain ⟨after, he⟩ := List.head?_eq_some_iff.mp e
    exact hne after he
  induction b, pending, offset, t using read.induct with
  | case1 b pending offset => rw [read.eq_1] at h; cases h
  | case2 b pending offset rest ih =>
    rw [read.eq_2] at h
    exact .behind (n := .literal ['{']) trivial rfl (congrArg Except.ok (literal_literal ..)) (ih h)
  | case3 b pending offset rest ih =>
    rw [read.eq_3] at h
    exact .behind (n := .literal ['}']) trivial rfl (congrArg Except.ok (literal_literal ..)) (ih h)
  | case4 b pending offset rest hne =>
    rw [read.eq_4 b pending offset rest hne] at h
    cases fault with
    | unmatched => cases h; exact .here (.unmatched (hhead hne))
    | unclosed => cases h
    | unnamed => cases h
  | case5 b pending offset rest hne hc =>
    rw [read_open b pending offset hne, hc] at h
    cases fault with
    | unclosed => cases h; exact .here (.unclosed (hhead hne) (Text.cut_eq_none.mp hc))
    | unmatched => cases h
    | unnamed => cases h
  -- a placeholder is at fault itself, or what is behind it
  | case6 b pending offset rest hne body after hc ih =>
    rw [read_open b pending offset hne, hc] at h
    simp only at h
    obtain ⟨hrest, hclose⟩ := Text.cut_eq_some hc
    cases hb : (b.literal pending).body body offset with
    | error e =>
      rw [hb] at h
      obtain ⟨rfl, rfl, hname⟩ := body_eq_fault.mp (hb.trans h)
      rw [← show rest.takeWhile (· ≠ '}') = body by rw [Text.takeWhile_eq_cut, hc]; rfl] at hname
      exact .here (.unnamed (hhead hne) (by simp [hrest]) hname)
    | ok b₁ =>
      rw [hb] at h
      obtain ⟨n, s, hn, ht, hs, hp⟩ := written_of_body hclose hb
      have hafter := ih b₁ h
      rw [literal_nil] at hafter
      have hstops : Stops fault o (b.literal pending) offset (n.template ++ after) := by
        refine .behind hn hs hp ?_
        rw [ht, Text.octetLength_braces, ← Nat.add_assoc]
        exact hafter
      rw [ht] at hstops
      simpa [hrest] using hstops
  | case7 b pending offset c rest h1 h2 h3 h4 ih =>
    rw [read.eq_6 b pending offset c rest h1 h2 h3 h4] at h
    have hc : (Segment.literal [c] : Segment Text).template = [c] := Text.doubleBraces_singleton h4 h3
    have hstops : Stops fault o (b.literal pending) offset ((Segment.literal [c] : Segment Text).template ++ rest) := by
      refine .behind trivial rfl (congrArg Except.ok (literal_literal ..)) ?_
      rw [hc]
      exact ih h
    rwa [hc] at hstops

theorem read_eq_fault : b.read [] offset t = .error (fault.error o) ↔ Stops fault o b offset t := by
  refine ⟨fun h => ?_, fun h => ?_⟩
  · have hstops := stops_of_pending h
    rwa [literal_nil] at hstops
  · obtain ⟨front, rest, b', rfl, hspells, rfl, hbegins⟩ := h
    rw [hspells.read, read_of_begins hbegins]

end Builder

/-! ## Templates -/

/-- A template fails for a brace exactly when what stands in front of the brace is a template by
itself, and it says how many octets that has. -/
theorem ofTemplate_eq_fault (fault : BraceFault) (offset : Nat) (t : Text) :
    (ofTemplate t : Except TemplateError (Pattern F)) = .error (fault.error offset) ↔
      ∃ front rest, t = front ++ rest ∧ front.octetLength = offset ∧
        (∃ p : Pattern F, ofTemplate front = .ok p) ∧ fault.Begins rest := by
  unfold ofTemplate
  rw [map_eq_error, Builder.read_eq_fault]
  constructor
  · intro ⟨front, rest, b, ht, hspells, ho, hbegins⟩
    exact ⟨front, rest, ht, by omega, ⟨b.build, map_eq_ok.mpr ⟨b, Builder.read_eq_ok.mpr hspells, rfl⟩⟩, hbegins⟩
  · intro ⟨front, rest, ht, ho, ⟨p, hp⟩, hbegins⟩
    obtain ⟨b, hread, -⟩ := map_eq_ok.mp hp
    exact ⟨front, rest, b, ht, Builder.spells_of_read hread, by omega, hbegins⟩

example : (ofTemplate "é\x7b\x7b\x7ba\x7d\x7b".toList : Except TemplateError (Pattern Text)) =
    .error (.unclosedPlaceholder 7) := by decide +kernel

end Pattern

end LinkPattern
