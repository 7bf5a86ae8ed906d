import LinkPattern.Text
import LinkPattern.Text.Utf8

/-!
# Percent-escapes

An escape set says which ASCII characters are written as `%XX`; every other ASCII character stands
for itself, and each octet of a character outside ASCII is always written as `%XX`. Reading is
lenient: a `%` that two hexadecimal digits do not follow stands for itself. Nothing is lost where
every `%` of a text is escaped (`octets_escape`).
-/

namespace LinkPattern.Percent

abbrev EscapeSet := Char → Bool

namespace EscapeSet

def controls : EscapeSet := fun c => c.toNat < 0x20 || c.toNat = 0x7F

def fragment : EscapeSet := fun c => controls c || c = ' ' || c = '"' || c = '<' || c = '>' || c = '`'

def path : EscapeSet := fun c => fragment c || c = '#' || c = '?' || c = '{' || c = '}'

def query : EscapeSet := fun c => controls c || c = ' ' || c = '"' || c = '#' || c = '<' || c = '>'

def specialQuery : EscapeSet := fun c => query c || c = '\''

def nonAlphanumeric : EscapeSet := fun c => !c.isAlphanum

end EscapeSet

/-! ## Writing -/

def escapeOctet (b : UInt8) : Text := ['%', Digits.upper (b.toNat / 16), Digits.upper (b.toNat % 16)]

def escapeChar (set : EscapeSet) (c : Char) : Text :=
  if 0x80 ≤ c.toNat || set c then (Utf8.encodeChar c).flatMap escapeOctet else [c]

def escape (set : EscapeSet) (t : Text) : Text := t.flatMap (escapeChar set)

theorem escapeChar_ne_nil (set : EscapeSet) (c : Char) : escapeChar set c ≠ [] := by
  unfold escapeChar
  split
  · cases h : Utf8.encodeChar c with
    | nil => exact absurd h (Utf8.encodeChar_ne_nil c)
    | cons b bs => simp [escapeOctet]
  · simp

theorem escapeChar_eq_self {set : EscapeSet} {c : Char} (h : c.toNat < 0x80) (hs : set c = false) :
    escapeChar set c = [c] := by
  rw [escapeChar, if_neg]
  simp only [hs, Bool.or_false, decide_eq_true_eq]
  omega

theorem escape_eq_self {set : EscapeSet} {t : Text} (h : ∀ x ∈ t, x.toNat < 0x80 ∧ set x = false) :
    escape set t = t := by
  induction t with
  | nil => rfl
  | cons x t ih =>
    obtain ⟨h1, h2⟩ := h x (by simp)
    rw [escape, List.flatMap_cons, escapeChar_eq_self h1 h2]
    exact congrArg (x :: ·) (ih fun y hy => h y (List.mem_cons_of_mem _ hy))

theorem escape_append (set : EscapeSet) (s t : Text) : escape set (s ++ t) = escape set s ++ escape set t :=
  List.flatMap_append

theorem escape_eq_nil {set : EscapeSet} {t : Text} : escape set t = [] ↔ t = [] := by
  cases t with
  | nil => simp [escape]
  | cons c t => simp [escape, escapeChar_ne_nil]

theorem mem_escapeChar {set : EscapeSet} {c x : Char} (h : x ∈ escapeChar set c) :
    x = '%' ∨ (∃ n < 16, x = Digits.upper n) ∨ x = c ∧ set c = false ∧ c.toNat < 0x80 := by
  unfold escapeChar at h
  split at h
  · obtain ⟨b, -, hb⟩ := List.mem_flatMap.1 h
    have := b.toNat_lt
    simp only [escapeOctet, List.mem_cons, List.not_mem_nil, or_false] at hb
    rcases hb with rfl | rfl | rfl
    · exact .inl rfl
    · exact .inr (.inl ⟨_, by omega, rfl⟩)
    · exact .inr (.inl ⟨_, by omega, rfl⟩)
  · next hc =>
    simp only [Bool.or_eq_true, decide_eq_true_eq, not_or, Nat.not_le, Bool.not_eq_true] at hc
    exact .inr (.inr ⟨by simpa using h, hc.2, hc.1⟩)

theorem isAlphanum_upper : ∀ {n : Nat}, n < 16 → (Digits.upper n).isAlphanum = true := by decide

theorem mem_escape_nonAlphanumeric {t : Text} {x : Char} (h : x ∈ escape EscapeSet.nonAlphanumeric t) :
    x.isAlphanum = true ∨ x = '%' := by
  obtain ⟨c, -, hc⟩ := List.mem_flatMap.1 h
  rcases mem_escapeChar hc with rfl | ⟨n, hn, rfl⟩ | ⟨rfl, hs, -⟩
  · exact .inr rfl
  · exact .inl (isAlphanum_upper hn)
  · exact .inl (by simpa [EscapeSet.nonAlphanumeric] using hs)

/-! ## Reading -/

def octets : Text → List UInt8
  | '%' :: a :: b :: t =>
    match Digits.value? a, Digits.value? b with
    | some x, some y => UInt8.ofNat (16 * x + y) :: octets t
    | _, _ => 0x25 :: octets (a :: b :: t)
  | c :: t => Utf8.encodeChar c ++ octets t
  | [] => []

def decode (t : Text) : Except Utf8.DecodeError Text := Utf8.decode (octets t)

def decodeLossy (t : Text) : Text := Utf8.decodeLossy (octets t)

/-! ## Reading back what was written -/

theorem octets_escapeOctet_append (b : UInt8) (t : Text) : octets (escapeOctet b ++ t) = b :: octets t := by
  have hb := b.toNat_lt
  have h1 := Digits.value?_upper (show b.toNat / 16 < 16 by omega)
  have h2 := Digits.value?_upper (show b.toNat % 16 < 16 by omega)
  simp only [escapeOctet, List.cons_append, List.nil_append, octets, h1, h2]
  rw [show 16 * (b.toNat / 16) + b.toNat % 16 = b.toNat by omega, UInt8.ofNat_toNat]

theorem octets_flatMap_escapeOctet_append (bs : List UInt8) (t : Text) :
    octets (bs.flatMap escapeOctet ++ t) = bs ++ octets t := by
  induction bs with
  | nil => rfl
  | cons b bs ih => rw [List.flatMap_cons, List.append_assoc, octets_escapeOctet_append, ih, List.cons_append]

theorem octets_cons_of_ne {c : Char} (t : Text) (h : c ≠ '%') : octets (c :: t) = Utf8.encodeChar c ++ octets t := by
  rw [octets]
  rintro a b t' rfl
  exact absurd rfl h

theorem octets_escapeChar_append {set : EscapeSet} {c : Char} (h : c = '%' → set '%' = true) (t : Text) :
    octets (escapeChar set c ++ t) = Utf8.encodeChar c ++ octets t := by
  rw [escapeChar]
  split
  · rw [octets_flatMap_escapeOctet_append]
  · next hc =>
    rw [List.cons_append, List.nil_append, octets_cons_of_ne]
    rintro rfl
    simp [h rfl] at hc

theorem octets_escape {set : EscapeSet} {t : Text} (h : '%' ∈ t → set '%' = true) :
    octets (escape set t) = Utf8.encode t := by
  induction t with
  | nil => rfl
  | cons c t ih =>
    rw [escape, List.flatMap_cons, octets_escapeChar_append fun hc => h (by simp [hc])]
    exact congrArg _ (ih fun ht => h (List.mem_cons_of_mem _ ht))

theorem decode_escape {set : EscapeSet} {t : Text} (h : '%' ∈ t → set '%' = true) : decode (escape set t) = .ok t := by
  rw [decode, octets_escape h, Utf8.decode_encode]

end LinkPattern.Percent
