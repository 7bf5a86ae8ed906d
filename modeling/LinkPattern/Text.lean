/-!
# Text

A text is its characters in order. Positions and lengths that are shown to a user count UTF-8
octets, so every measure of a text is its octet length, and a span is a pair of such positions.
-/

namespace LinkPattern

abbrev Text := List Char

/-- Octet positions: from `start`, up to but not including `stop`. -/
structure Span where
  start : Nat
  stop : Nat
  deriving DecidableEq, Repr

def Span.encloses (outer inner : Span) : Bool :=
  outer.start ≤ inner.start && inner.stop ≤ outer.stop

namespace Text

def octetLength : Text → Nat
  | [] => 0
  | c :: t => c.utf8Size + octetLength t

@[simp] theorem octetLength_nil : octetLength [] = 0 := rfl

@[simp] theorem octetLength_cons (c : Char) (t : Text) : octetLength (c :: t) = c.utf8Size + octetLength t := rfl

@[simp] theorem octetLength_append (a b : Text) : octetLength (a ++ b) = octetLength a + octetLength b := by
  induction a with
  | nil => simp
  | cons c a ih => simp [ih, Nat.add_assoc]

theorem octetLength_eq_zero {t : Text} : octetLength t = 0 ↔ t = [] := by
  cases t with
  | nil => simp
  | cons c t => have := c.utf8Size_pos; simp; omega

theorem octetLength_le_of_prefix {a b : Text} (h : a <+: b) : octetLength a ≤ octetLength b := by
  obtain ⟨t, rfl⟩ := h
  rw [octetLength_append]
  exact Nat.le_add_right _ _

theorem prefix_of_octetLength_le {a b t : Text} (ha : a <+: t) (hb : b <+: t) (h : octetLength a ≤ octetLength b) :
    a <+: b := by
  rcases List.prefix_or_prefix_of_prefix ha hb with hab | ⟨s, rfl⟩
  · exact hab
  · rw [octetLength_append] at h
    have hs : s = [] := octetLength_eq_zero.1 (by omega)
    simp [hs]

def quoted (t : Text) : String := "`" ++ String.ofList t ++ "`"

def character? (code : Nat) : Option Char :=
  if code < 0xD800 ∨ (0xDFFF < code ∧ code < 0x110000) then some (Char.ofNat code) else none

/-- What holds of the first 128 code points, which can be looked through, holds of ASCII. -/
theorem forall_ascii {P : Char → Prop} (h : ∀ n < 128, P (Char.ofNat n)) {c : Char} (hc : c.toNat < 128) : P c := by
  have := h c.toNat hc
  rwa [Char.ofNat_toNat] at this

/-! ## Order -/

/-- The order of the code points, which is also that of the UTF-8 octets. -/
def precedes : Text → Text → Bool
  | _, [] => false
  | [], _ :: _ => true
  | c :: s, d :: t => c.toNat < d.toNat || (c = d && precedes s t)

theorem precedes_trans {a b c : Text} (hab : precedes a b = true) (hbc : precedes b c = true) : precedes a c = true := by
  induction a generalizing b c with
  | nil =>
    cases c with
    | nil => cases b <;> cases hbc
    | cons => rfl
  | cons x a ih =>
    cases b with
    | nil => cases hab
    | cons y b =>
      cases c with
      | nil => cases hbc
      | cons z c =>
        simp only [precedes, Bool.or_eq_true, Bool.and_eq_true, decide_eq_true_eq] at hab hbc ⊢
        rcases hab with hab | ⟨rfl, hab⟩
        · rcases hbc with hbc | ⟨rfl, _⟩
          · exact .inl (Nat.lt_trans hab hbc)
          · exact .inl hab
        · rcases hbc with hbc | ⟨rfl, hbc⟩
          · exact .inl hbc
          · exact .inr ⟨rfl, ih hab hbc⟩

theorem precedes_of_not {a b : Text} (h : ¬ precedes a b = true) (hne : a ≠ b) : precedes b a = true := by
  induction a generalizing b with
  | nil =>
    cases b with
    | nil => exact absurd rfl hne
    | cons => exact absurd rfl h
  | cons x a ih =>
    cases b with
    | nil => rfl
    | cons y b =>
      simp only [precedes, Bool.or_eq_true, Bool.and_eq_true, decide_eq_true_eq, not_or, not_and] at h ⊢
      by_cases hxy : x = y
      · subst hxy
        exact .inr ⟨rfl, ih (h.2 rfl) fun hab => hne (by rw [hab])⟩
      · have : x.toNat ≠ y.toNat := fun e => hxy (Char.toNat_inj.1 e)
        omega

/-! ## Cutting -/

def cut (d : Char) : Text → Option (Text × Text)
  | [] => none
  | c :: t => if c = d then some ([], t) else (cut d t).map fun (a, b) => (c :: a, b)

theorem cut_eq_some {d : Char} {t a b : Text} (h : cut d t = some (a, b)) : t = a ++ d :: b ∧ d ∉ a := by
  induction t generalizing a b with
  | nil => simp [cut] at h
  | cons c t ih =>
    rw [cut] at h
    split at h
    · next hc => cases h; simp [hc]
    · next hc =>
      obtain ⟨⟨a', b'⟩, h', heq⟩ := Option.map_eq_some_iff.1 h
      cases heq
      obtain ⟨rfl, hd⟩ := ih h'
      exact ⟨rfl, by simp [Ne.symm hc, hd]⟩

theorem cut_eq_none {d : Char} {t : Text} : cut d t = none ↔ d ∉ t := by
  induction t with
  | nil => simp [cut]
  | cons c t ih =>
    rw [cut]
    split
    · next hc => simp [hc]
    · next hc => simp [ih, Ne.symm hc]

theorem cut_append_cons {d : Char} {a : Text} (b : Text) (h : d ∉ a) : cut d (a ++ d :: b) = some (a, b) := by
  induction a with
  | nil => simp [cut]
  | cons c a ih =>
    simp only [List.mem_cons, not_or] at h
    simp [cut, Ne.symm h.1, ih h.2]

def splitOn (d : Char) : Text → List Text
  | [] => [[]]
  | c :: t =>
    if c = d then [] :: splitOn d t
    else match splitOn d t with
      | [] => [[c]]
      | p :: ps => (c :: p) :: ps

def join (d : Char) : List Text → Text
  | [] => []
  | [p] => p
  | p :: ps => p ++ d :: join d ps

theorem join_cons {d : Char} {pieces : List Text} (h : pieces ≠ []) (p : Text) :
    join d (p :: pieces) = p ++ d :: join d pieces := by
  cases pieces with
  | nil => exact absurd rfl h
  | cons q ps => rfl

theorem splitOn_ne_nil (d : Char) (t : Text) : splitOn d t ≠ [] := by
  cases t with
  | nil => simp [splitOn]
  | cons c t => rw [splitOn]; split <;> (try split) <;> simp

theorem join_splitOn (d : Char) (t : Text) : join d (splitOn d t) = t := by
  induction t with
  | nil => rfl
  | cons c t ih =>
    rw [splitOn]
    split
    · next hc =>
      cases h : splitOn d t with
      | nil => exact absurd h (splitOn_ne_nil d t)
      | cons p ps => rw [h] at ih; simp [join, ih, hc]
    · cases h : splitOn d t with
      | nil => exact absurd h (splitOn_ne_nil d t)
      | cons p ps =>
        rw [h] at ih
        cases ps <;> simp_all [join]

theorem mem_of_mem_splitOn {d x : Char} {t p : Text} (hp : p ∈ splitOn d t) (hx : x ∈ p) : x ∈ t := by
  induction t generalizing p with
  | nil =>
    rw [List.mem_singleton.1 hp] at hx
    exact hx
  | cons c t ih =>
    rw [splitOn] at hp
    split at hp
    · rcases List.mem_cons.1 hp with rfl | hp
      · cases hx
      · exact List.mem_cons_of_mem _ (ih hp hx)
    · cases h : splitOn d t with
      | nil => exact absurd h (splitOn_ne_nil d t)
      | cons q qs =>
        rw [h] at hp ih
        rcases List.mem_cons.1 hp with rfl | hp
        · rcases List.mem_cons.1 hx with rfl | hx
          · exact List.mem_cons_self
          · exact List.mem_cons_of_mem _ (ih List.mem_cons_self hx)
        · exact List.mem_cons_of_mem _ (ih (List.mem_cons_of_mem _ hp) hx)

theorem not_mem_of_mem_splitOn {d : Char} {t p : Text} (h : p ∈ splitOn d t) : d ∉ p := by
  induction t generalizing p with
  | nil => simp_all [splitOn]
  | cons c t ih =>
    rw [splitOn] at h
    by_cases hc : c = d
    · rw [if_pos hc] at h
      rcases List.mem_cons.mp h with rfl | h
      · simp
      · exact ih h
    · rw [if_neg hc] at h
      cases hs : splitOn d t with
      | nil => exact absurd hs (splitOn_ne_nil d t)
      | cons q qs =>
        rw [hs] at h ih
        rcases List.mem_cons.mp h with rfl | h
        · simp [Ne.symm hc, ih (p := q) (by simp)]
        · exact ih (List.mem_cons_of_mem _ h)

theorem splitOn_of_not_mem {d : Char} {t : Text} (h : d ∉ t) : splitOn d t = [t] := by
  induction t with
  | nil => rfl
  | cons c t ih =>
    simp only [List.mem_cons, not_or] at h
    simp [splitOn, Ne.symm h.1, ih h.2]

theorem splitOn_append_cons {d : Char} {a : Text} (h : d ∉ a) (b : Text) :
    splitOn d (a ++ d :: b) = a :: splitOn d b := by
  induction a with
  | nil => simp [splitOn]
  | cons c a ih =>
    simp only [List.mem_cons, not_or] at h
    simp [splitOn, Ne.symm h.1, ih h.2]

theorem splitOn_join {d : Char} {pieces : List Text} (hne : pieces ≠ []) (h : ∀ p ∈ pieces, d ∉ p) :
    splitOn d (join d pieces) = pieces := by
  induction pieces with
  | nil => exact absurd rfl hne
  | cons p ps ih =>
    cases ps with
    | nil => exact splitOn_of_not_mem (h p (by simp))
    | cons q ps =>
      rw [join_cons (by simp), splitOn_append_cons (h p (by simp)),
        ih (by simp) fun q hq => h q (List.mem_cons_of_mem _ hq)]

theorem mem_join {d x : Char} {pieces : List Text} (h : x ∈ join d pieces) : x = d ∨ ∃ p ∈ pieces, x ∈ p := by
  induction pieces with
  | nil => simp [join] at h
  | cons p ps ih =>
    cases ps with
    | nil => exact .inr ⟨p, by simp, h⟩
    | cons q ps =>
      rw [join_cons (by simp), List.mem_append, List.mem_cons] at h
      rcases h with h | h | h
      · exact .inr ⟨p, by simp, h⟩
      · exact .inl h
      · rcases ih h with h | ⟨q', hq, h⟩
        · exact .inl h
        · exact .inr ⟨q', List.mem_cons_of_mem _ hq, h⟩

theorem join_eq_nil {d : Char} {pieces : List Text} : join d pieces = [] ↔ pieces = [] ∨ pieces = [[]] := by
  cases pieces with
  | nil => simp [join]
  | cons p ps => cases ps <;> simp [join]

theorem mem_of_getLast?_join {d x : Char} {pieces : List Text} (h : ∀ p ∈ pieces, p ≠ [])
    (hx : x ∈ (join d pieces).getLast?) : ∃ p ∈ pieces, x ∈ p := by
  induction pieces with
  | nil => cases hx
  | cons p ps ih =>
    cases ps with
    | nil => exact ⟨p, by simp, List.mem_of_getLast? hx⟩
    | cons q ps =>
      have hq : join d (q :: ps) ≠ [] := by
        intro hj
        rcases join_eq_nil.mp hj with he | he
        · cases he
        · exact h q (by simp) (List.cons.inj he).1
      have hlast : (join d (p :: q :: ps)).getLast? = (join d (q :: ps)).getLast? := by
        obtain ⟨y, ys, hy⟩ := List.exists_cons_of_ne_nil hq
        rw [join_cons (by simp), hy, List.getLast?_append, List.getLast?_cons_cons, List.getLast?_cons]
        rfl
      rw [hlast] at hx
      obtain ⟨p', hp, hm⟩ := ih (fun p hp => h p (List.mem_cons_of_mem _ hp)) hx
      exact ⟨p', List.mem_cons_of_mem _ hp, hm⟩

/-! ## Searching -/

def around? (t word : Text) : Option (Text × Text) :=
  match t with
  | [] => if word = [] then some ([], []) else none
  | c :: rest =>
    match word.isPrefixOf? (c :: rest) with
    | some after => some ([], after)
    | none => (around? rest word).map fun (before, after) => (c :: before, after)

/-! ## Slices -/

def dropOctets? : Nat → Text → Option Text
  | 0, t => some t
  | _ + 1, [] => none
  | n + 1, c :: t => if c.utf8Size ≤ n + 1 then dropOctets? (n + 1 - c.utf8Size) t else none

def takeOctets? : Nat → Text → Option Text
  | 0, _ => some []
  | _ + 1, [] => none
  | n + 1, c :: t =>
    if c.utf8Size ≤ n + 1 then (takeOctets? (n + 1 - c.utf8Size) t).map (c :: ·) else none

/-- The part of a text that a span covers, when both of its ends lie between characters of the text. -/
def slice? (s : Span) (t : Text) : Option Text :=
  if s.start ≤ s.stop then (dropOctets? s.start t).bind (takeOctets? (s.stop - s.start)) else none

theorem dropOctets?_append (a b : Text) : dropOctets? (octetLength a) (a ++ b) = some b := by
  induction a with
  | nil => cases b <;> rfl
  | cons c a ih =>
    have hc := c.utf8Size_pos
    obtain ⟨n, hn⟩ : ∃ n, c.utf8Size + octetLength a = n + 1 := ⟨c.utf8Size + octetLength a - 1, by omega⟩
    rw [octetLength_cons, hn, List.cons_append, dropOctets?, if_pos (by omega),
      show n + 1 - c.utf8Size = octetLength a by omega, ih]

theorem takeOctets?_append (a b : Text) : takeOctets? (octetLength a) (a ++ b) = some a := by
  induction a with
  | nil => cases b <;> rfl
  | cons c a ih =>
    have hc := c.utf8Size_pos
    obtain ⟨n, hn⟩ : ∃ n, c.utf8Size + octetLength a = n + 1 := ⟨c.utf8Size + octetLength a - 1, by omega⟩
    rw [octetLength_cons, hn, List.cons_append, takeOctets?, if_pos (by omega),
      show n + 1 - c.utf8Size = octetLength a by omega, ih]
    rfl

theorem slice?_append (a b c : Text) :
    slice? ⟨octetLength a, octetLength a + octetLength b⟩ (a ++ b ++ c) = some b := by
  rw [slice?, if_pos (by simp), List.append_assoc, dropOctets?_append, Option.bind_some,
    show octetLength a + octetLength b - octetLength a = octetLength b by omega, takeOctets?_append]

end Text

/-! ## Digits -/

namespace Digits

def value? (c : Char) : Option Nat :=
  let n := c.toNat
  if 0x30 ≤ n ∧ n ≤ 0x39 then some (n - 0x30)
  else if 0x41 ≤ n ∧ n ≤ 0x46 then some (n - 0x41 + 10)
  else if 0x61 ≤ n ∧ n ≤ 0x66 then some (n - 0x61 + 10)
  else none

def upper (n : Nat) : Char := Char.ofNat (if n < 10 then 0x30 + n else 0x41 + (n - 10))

theorem value?_upper : ∀ {n : Nat}, n < 16 → value? (upper n) = some n := by decide

def continue? (radix acc : Nat) : Text → Option Nat
  | [] => some acc
  | c :: digits =>
    match value? c with
    | some d => if d < radix then continue? radix (acc * radix + d) digits else none
    | none => none

def number? (radix : Nat) (digits : Text) : Option Nat := continue? radix 0 digits

end Digits

end LinkPattern
