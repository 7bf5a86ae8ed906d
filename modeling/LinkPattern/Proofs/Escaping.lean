import LinkPattern.Proofs.Component.Split
import LinkPattern.Proofs.Pattern.WellFormed

/-!
# Escaped literals

What an escaped literal is written with is never escaped again: percent signs, digits and whatever the
component takes as it is. So escaping a second time changes nothing, a literal is escaped piece by piece,
with the delimiters where they were, and a pattern says the same with its literals in escaped form.
-/

namespace LinkPattern

open Component

namespace Escaping

variable (e : Escaping) {c d : Component} {x y : Char} {t : Text} {ps : List Piece}

/-! ## What is written -/

theorem set_percent (c : Component) : e.set c '%' = false := by
  obtain ⟨special, opaquePath⟩ := e
  cases special <;> cases opaquePath <;> cases c <;> rfl

theorem set_upper (c : Component) : ∀ n < 16, e.set c (Digits.upper n) = false := by
  obtain ⟨special, opaquePath⟩ := e
  cases special <;> cases opaquePath <;> cases c <;> decide

theorem upper_shown : ∀ n < 16, (Digits.upper n).toNat < 0x80 ∧ Digits.upper n ≠ '\\' := by decide

theorem normalize_of_ne (h : x ≠ '\\') : e.normalize c x = x := if_neg fun hx => h hx.2.2.2

theorem normalize_normalize (c : Component) (x : Char) : e.normalize c (e.normalize c x) = e.normalize c x := by
  by_cases h : c = .path ∧ e.special ∧ !e.opaquePath ∧ x = '\\'
  · simp only [normalize, if_pos h]
    exact if_neg (by simp)
  · simp only [normalize, if_neg h]

variable {e}

theorem toNat_lt_of_mem_escapeChar (h : y ∈ e.escapeChar c x) : y.toNat < 0x80 := by
  rcases Percent.mem_escapeChar h with rfl | ⟨n, hn, rfl⟩ | ⟨rfl, -, hlt⟩
  · decide
  · exact (upper_shown n hn).1
  · exact hlt

theorem escapeChar_of_mem_escapeChar (h : y ∈ e.escapeChar c x) : e.escapeChar c y = [y] := by
  have hlt := toNat_lt_of_mem_escapeChar h
  have hshown : e.normalize c y = y ∧ e.set c y = false := by
    rcases Percent.mem_escapeChar h with rfl | ⟨n, hn, rfl⟩ | ⟨rfl, hset, -⟩
    · exact ⟨e.normalize_of_ne (by decide), e.set_percent c⟩
    · exact ⟨e.normalize_of_ne (upper_shown n hn).2, e.set_upper c n hn⟩
    · exact ⟨e.normalize_normalize c x, hset⟩
  rw [escapeChar, hshown.1]
  exact Percent.escapeChar_eq_self hlt hshown.2

variable (e)

theorem toNat_lt_of_mem_escape (c : Component) (t : Text) : ∀ y ∈ e.escape c t, y.toNat < 0x80 := by
  induction t generalizing c with
  | nil => simp [escape]
  | cons x t ih =>
    unfold escape
    cases hx : c.opened? x with
    | some d =>
      have hlt : x.toNat < 0x80 := by
        by_cases h1 : x = '?'
        · subst h1; decide
        by_cases h2 : x = '#'
        · subst h2; decide
        rw [opened?_eq_none h1 h2] at hx
        cases hx
      exact List.forall_mem_cons.mpr ⟨hlt, ih d⟩
    | none =>
      intro y hy
      rcases List.mem_append.mp hy with hy | hy
      · exact toNat_lt_of_mem_escapeChar hy
      · exact ih c y hy

theorem escape_eq_self (h : ∀ y ∈ t, c.opened? y = none ∧ e.escapeChar c y = [y]) : e.escape c t = t := by
  induction t with
  | nil => rfl
  | cons x t ih =>
    obtain ⟨hx, hself⟩ := h x (by simp)
    rw [escape, hx]
    simp only [hself, List.singleton_append]
    rw [ih fun y hy => h y (List.mem_cons_of_mem _ hy)]

theorem escape_escape (c : Component) (t : Text) : e.escape c (e.escape c t) = e.escape c t := by
  induction t generalizing c with
  | nil => rfl
  | cons x t ih =>
    cases hx : c.opened? x with
    | some d => simp only [escape, hx, ih]
    | none =>
      -- what a character is written with opens nothing and needs no escape
      have hstays := e.opened?_of_mem_escapeChar hx
      have hself : e.escape c (e.escapeChar c x) = e.escapeChar c x :=
        e.escape_eq_self fun y hy => ⟨hstays y hy, escapeChar_of_mem_escapeChar hy⟩
      simp only [escape, hx, escape_append, hself, after_eq_self hstays, ih]

/-! ## Piece by piece -/

theorem escape_ne_nil (h : t ≠ []) : e.escape c t ≠ [] := by
  cases t with
  | nil => exact absurd rfl h
  | cons x t =>
    unfold escape
    cases c.opened? x with
    | some d => simp
    | none => simp [escapeChar, Percent.escapeChar_ne_nil]

theorem opened?_of_mem_escape (h : ∀ x ∈ t, c.opened? x = none) : ∀ y ∈ e.escape c t, c.opened? y = none := by
  induction t with
  | nil => simp [escape]
  | cons x t ih =>
    have hx := h x (by simp)
    rw [escape, hx]
    intro y hy
    rcases List.mem_append.mp hy with hy | hy
    · exact e.opened?_of_mem_escapeChar hx y hy
    · exact ih (fun z hz => h z (List.mem_cons_of_mem _ hz)) y hy

end Escaping

def Component.Piece.escaped (e : Escaping) : Piece → Piece
  | .text c t => .text c (e.escape c t)
  | .delimiter x => .delimiter x

namespace Escaping

variable (e : Escaping) {c d : Component} {t : Text} {ps : List Piece}

theorem isText_escaped (p : Piece) : (p.escaped e).isText = p.isText := by
  cases p <;> rfl

theorem isCut_escape (h : IsCut c t ps d) : IsCut c (e.escape c t) (ps.map (Piece.escaped e)) d := by
  induction ps generalizing c t with
  | nil =>
    obtain ⟨rfl, rfl⟩ := h.of_nil
    exact .nil c
  | cons p ps ih =>
    cases p with
    | delimiter x =>
      obtain ⟨k, t, hx, rfl, hrest⟩ := h.of_delimiter
      rw [escape, hx]
      exact (ih hrest).cons_delimiter hx
    | text k u =>
      obtain ⟨rfl, hne, hu, hhead, t, rfl, hrest⟩ := h.of_text
      have hhead' : ∀ q ∈ (ps.map (Piece.escaped e)).head?, q.isText = false := by
        intro q hq
        rw [List.head?_map] at hq
        obtain ⟨p, hp, rfl⟩ := Option.map_eq_some_iff.mp hq
        rw [isText_escaped]
        exact hhead p hp
      rw [escape_append, after_eq_self hu]
      exact (ih hrest).cons_text (e.escape_ne_nil hne) (e.opened?_of_mem_escape hu) hhead'

end Escaping

namespace Pattern

variable {F : Type}

def escapeLiterals (e : Escaping) (c : Component) : List (Segment F) → List (Segment F)
  | [] => []
  | .literal t :: rest => .literal (e.escape c t) :: escapeLiterals e (c.after t) rest
  | s :: rest => s :: escapeLiterals e c rest

def escaped (p : Pattern F) (e : Escaping) : Pattern F := .of (escapeLiterals e .path p.segments)

variable (e : Escaping) (c : Component) (segments : List (Segment F))

theorem isEmpty_escapeLiterals : (escapeLiterals e c segments).isEmpty = segments.isEmpty := by
  cases segments with
  | nil => rfl
  | cons s rest => cases s <;> rfl

theorem map_escapeLiterals {α : Type} {f : Segment F → α} (hf : ∀ s t, f (.literal s) = f (.literal t)) :
    (escapeLiterals e c segments).map f = segments.map f := by
  induction segments generalizing c with
  | nil => rfl
  | cons s rest ih =>
    cases s with
    | literal t => simp only [escapeLiterals, List.map_cons, ih, hf (e.escape c t) t]
    | field f => simp only [escapeLiterals, List.map_cons, ih]
    | list f separator => simp only [escapeLiterals, List.map_cons, ih]

theorem mem_escapeLiterals {s : Segment F} (h : s ∈ escapeLiterals e c segments) :
    s ∈ segments ∨ ∃ k t, .literal t ∈ segments ∧ s = .literal (e.escape k t) := by
  induction segments generalizing c with
  | nil => cases h
  | cons s' rest ih =>
    have hrest {k : Component} (h : s ∈ escapeLiterals e k rest) :
        s ∈ s' :: rest ∨ ∃ k t, .literal t ∈ s' :: rest ∧ s = .literal (e.escape k t) := by
      rcases ih k h with h | ⟨k, t, ht, rfl⟩
      · exact .inl (List.mem_cons_of_mem _ h)
      · exact .inr ⟨k, t, List.mem_cons_of_mem _ ht, rfl⟩
    cases s' with
    | literal t =>
      rcases List.mem_cons.mp h with rfl | h
      · exact .inr ⟨c, t, by simp, rfl⟩
      · exact hrest h
    | field f =>
      rcases List.mem_cons.mp h with rfl | h
      · exact .inl (by simp)
      · exact hrest h
    | list f separator =>
      rcases List.mem_cons.mp h with rfl | h
      · exact .inl (by simp)
      · exact hrest h

theorem align_escapeLiterals (pending : Option (Segment F)) (offset : Nat) (rest : Text) :
    Alignment.align e c pending offset rest (escapeLiterals e c segments) =
      Alignment.align e c pending offset rest segments := by
  induction segments generalizing c pending offset rest with
  | nil => rfl
  | cons s segments ih =>
    cases s with
    | literal t =>
      simp only [escapeLiterals, Alignment.align, e.escape_escape, e.after_escape, isEmpty_escapeLiterals, ih]
    | field f => exact ih c (some (.field f)) offset rest
    | list f separator => exact ih c (some (.list f separator)) offset rest

variable [DecidableEq F] [Vocabulary F] {segments}

omit [DecidableEq F] in
theorem WellFormed.escapeLiterals (h : WellFormed segments) : WellFormed (escapeLiterals e c segments) where
  nonempty t ht := by
    rcases mem_escapeLiterals e c segments ht with ht | ⟨k, t', ht', he⟩
    · exact h.nonempty t ht
    · cases he
      exact e.escape_ne_nil (h.nonempty t' ht')
  alternates := by
    have hkinds : (segments.map Segment.isPlaceholder).IsChain (· ≠ ·) := (List.isChain_map _).mpr h.alternates
    rw [← map_escapeLiterals e c segments fun _ _ => rfl] at hkinds
    exact (List.isChain_map _).mp hkinds
  nodup := by
    have hfields := congrArg (List.filterMap id) (map_escapeLiterals e c segments (f := Segment.field?) fun _ _ => rfl)
    rw [List.filterMap_map, List.filterMap_map, Function.id_comp] at hfields
    rw [hfields]
    exact h.nodup
  kinds s hs f hf := by
    rcases mem_escapeLiterals e c segments hs with hs | ⟨k, t, -, rfl⟩
    · exact h.kinds s hs f hf
    · cases hf

theorem Made.escaped {p : Pattern F} (h : p.Made) : (p.escaped e).Made :=
  .of_wellFormed (h.wellFormed.escapeLiterals e .path)

end Pattern

variable {F : Type} [DecidableEq F] [Vocabulary F]

/-- Escaping writes ASCII only, goes on behind a text from the component that this leads to, changes
nothing when it is repeated, and keeps every delimiter and the component of every stretch. So a pattern
with escaped literals, which is one that a builder makes, aligns with any text as the pattern itself does. -/
theorem escape_keeps_pieces (e : Escaping) (c : Component) (a b : Text) :
    (∀ x ∈ e.escape c a, x.toNat < 0x80) ∧
      e.escape c (a ++ b) = e.escape c a ++ e.escape (c.after a) b ∧ c.after (a ++ b) = (c.after a).after b ∧
      e.escape c (e.escape c a) = e.escape c a ∧ c.after (e.escape c a) = c.after a ∧
      c.split (e.escape c a) = ((c.split a).1.map (Piece.escaped e), (c.split a).2) ∧
      ∀ p : Pattern F, (p.Made → (p.escaped e).Made) ∧
        ∀ text, align (p.escaped e).segments text e = align p.segments text e := by
  refine ⟨e.toNat_lt_of_mem_escape c a, e.escape_append c a b, c.after_append a b, e.escape_escape c a,
    e.after_escape c a, ?_, fun p => ⟨fun hp => hp.escaped e, fun text => ?_⟩⟩
  · exact split_eq_iff.mpr (e.isCut_escape (isCut_split c a))
  · exact Pattern.align_escapeLiterals e .path p.segments none 0 text

theorem escape_keeps_pieces_special :
    let e : Escaping := ⟨true, false⟩
    let a := "/é\\`?q='`".toList
    let p : Pattern Text := (Pattern.Builder.empty.pushSome [.literal a, .field ['f'], .literal "#`".toList]).build
    e.escape .path a = "/%C3%A9/%60?q=%27`".toList ∧ '`' ∈ e.escape .path a ∧ '`'.toNat < 0x80 ∧
      e.escape .path "/%C3%A9/%60?q=%27`".toList = "/%C3%A9/%60?q=%27`".toList ∧
      e.escape .path (a ++ "#`".toList) = "/%C3%A9/%60?q=%27`#%60".toList ∧
      p.Made ∧ (p.escaped e).Made ∧
      align (p.escaped e).segments "/%C3%A9/%60?q=%27`v#%60".toList e = .ok [⟨.field ['f'], 18, ['v']⟩] := by
  intro e a p
  have hescape : e.escape .path a = "/%C3%A9/%60?q=%27`".toList := by decide
  have hmem : '`' ∈ e.escape .path a := by
    rw [hescape]
    decide
  have hp : p.Made := .build _
  have halign : align p.segments "/%C3%A9/%60?q=%27`v#%60".toList e = .ok [⟨.field ['f'], 18, ['v']⟩] := by decide
  obtain ⟨hascii, happend, -, htwice, -, -, hpattern⟩ := escape_keeps_pieces (F := Text) e .path a "#`".toList
  obtain ⟨hmade, hsame⟩ := hpattern p
  rw [hescape] at happend htwice
  refine ⟨hescape, hmem, hascii _ hmem, htwice, ?_, hp, hmade hp, ?_⟩
  · rw [happend]
    decide
  · rw [hsame, halign]

end LinkPattern
