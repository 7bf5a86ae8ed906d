import LinkPattern.Url.Path

/-!
# Dot segments

A dot can be spelled as an escape, in either case, and a dot segment is one or two such dots. The
escapes of a path write no dot and leave every spelling of one as it is, so a segment is a dot segment
after it was escaped exactly if it was one before.
-/

namespace LinkPattern.Url.Path

open Percent

/-! ## Spellings -/

theorem toNat_lt_of_toLower {c : Char} (h : c.toLower.toNat < 128) : c.toNat < 128 := by
  by_cases hu : c.val ≥ 'A'.val ∧ c.val ≤ 'Z'.val
  · exact Nat.lt_of_le_of_lt (UInt32.le_iff_toNat_le.mp hu.2) (by decide)
  · rwa [show c.toLower = c from dif_neg hu] at h

theorem eq_of_toLower {c d : Char} (h : c.toLower = d) (hd : d.toNat < 128) : c = d ∨ c = d.toUpper := by
  subst h
  refine Text.forall_ascii (P := fun c => c = c.toLower ∨ c = c.toLower.toUpper) ?_ (toNat_lt_of_toLower hd)
  decide

theorem isDot_iff {s : Text} : isDot s = true ↔ s = ['.'] ∨ s = ['%', '2', 'e'] ∨ s = ['%', '2', 'E'] := by
  refine ⟨fun h => ?_, fun h => ?_⟩
  · rcases Bool.or_eq_true_iff.mp h with h | h
    · obtain ⟨c, t, rfl, hc, ht⟩ := List.map_eq_cons_iff.mp (of_decide_eq_true h)
      cases List.map_eq_nil_iff.mp ht
      obtain rfl : c = '.' := or_self_iff.mp (eq_of_toLower hc (by decide))
      exact .inl rfl
    · obtain ⟨c, t, rfl, hc, ht⟩ := List.map_eq_cons_iff.mp (of_decide_eq_true h)
      obtain ⟨d, t, rfl, hd, ht⟩ := List.map_eq_cons_iff.mp ht
      obtain ⟨x, t, rfl, hx, ht⟩ := List.map_eq_cons_iff.mp ht
      cases List.map_eq_nil_iff.mp ht
      obtain rfl : c = '%' := or_self_iff.mp (eq_of_toLower hc (by decide))
      obtain rfl : d = '2' := or_self_iff.mp (eq_of_toLower hd (by decide))
      rcases eq_of_toLower hx (by decide) with rfl | rfl
      · exact .inr (.inl rfl)
      · exact .inr (.inr rfl)
  · obtain rfl | rfl | rfl := h <;> decide

theorem isDoubleDot_iff {s : Text} :
    isDoubleDot s = true ↔ ∃ w w', s = w ++ w' ∧ isDot w = true ∧ isDot w' = true := by
  have hdot : ∀ w, isDot w = true ↔ w.map Char.toLower ∈ [['.'], ['%', '2', 'e']] := by
    intro w
    simp [isDot]
  have hdouble : isDoubleDot s = true ↔
      ∃ a ∈ [['.'], ['%', '2', 'e']], ∃ b ∈ [['.'], ['%', '2', 'e']], s.map Char.toLower = a ++ b := by
    simp [isDoubleDot, or_assoc]
  refine hdouble.trans ⟨fun ⟨a, ha, b, hb, hs⟩ => ?_, fun ⟨w, w', hs, h, h'⟩ => ?_⟩
  · obtain ⟨w, w', rfl, rfl, rfl⟩ := List.map_eq_append_iff.mp hs
    exact ⟨w, w', rfl, (hdot w).mpr ha, (hdot w').mpr hb⟩
  · exact ⟨_, (hdot w).mp h, _, (hdot w').mp h', by rw [hs, List.map_append]⟩

/-! ## Escapes -/

theorem cons_of_escape {set : EscapeSet} {x : Char} (hx : x ≠ '%') {s r : Text} (h : escape set s = x :: r) :
    ∃ t, s = x :: t ∧ escape set t = r := by
  cases s with
  | nil => cases h
  | cons c t =>
    rw [escape, List.flatMap_cons] at h
    unfold escapeChar at h
    split at h
    · cases hb : Utf8.encodeChar c with
      | nil => exact absurd hb (Utf8.encodeChar_ne_nil c)
      | cons b bs =>
        rw [hb] at h
        exact absurd (List.cons.inj h).1.symm hx
    · cases h
      exact ⟨t, rfl, rfl⟩

theorem percent_of_escape {x : Char} (hx : x = 'e' ∨ x = 'E') {s r : Text}
    (h : escape EscapeSet.path s = '%' :: '2' :: x :: r) :
    ∃ t, s = '%' :: t ∧ escape EscapeSet.path t = '2' :: x :: r := by
  cases s with
  | nil => cases h
  | cons c t =>
    rw [escape, List.flatMap_cons] at h
    unfold escapeChar at h
    split at h
    · next hset =>
      cases hb : Utf8.encodeChar c with
      | nil => exact absurd hb (Utf8.encodeChar_ne_nil c)
      | cons b bs =>
        rw [hb] at h
        injection h with _ h
        injection h with hhigh h
        injection h with hlow h
        have hupper : ∀ n < 16, ∀ m < 16, Digits.upper n = '2' → Digits.upper m = 'e' ∨ Digits.upper m = 'E' →
            16 * n + m = 0x2E := by decide
        -- the escape of a dot is that of its only octet, but a dot is not escaped
        have hdot := hupper (b.toNat / 16) (by have := b.toNat_lt; omega) (b.toNat % 16) (by omega) hhigh (hlow ▸ hx)
        have hb' : b = 0x2E := UInt8.toNat_inj.mp (by simp; omega)
        have hc := Utf8.chunks_encodeChar c []
        rw [hb, hb', List.append_nil, Utf8.chunks_cons, show Utf8.first 0x2E = .done (.char '.') by decide,
          Utf8.chunksAfter_done] at hc
        cases (List.cons.inj hc).1
        exact absurd hset (by decide)
    · injection h with hc ht
      exact ⟨t, by rw [hc], ht⟩

theorem append_of_escape {w : Text} (hw : isDot w = true) {s r : Text} (h : escape EscapeSet.path s = w ++ r) :
    ∃ t, s = w ++ t ∧ escape EscapeSet.path t = r := by
  have hescaped : ∀ x, x = 'e' ∨ x = 'E' → escape EscapeSet.path s = '%' :: '2' :: x :: r →
      ∃ t, s = '%' :: '2' :: x :: t ∧ escape EscapeSet.path t = r := by
    intro x hx hw
    have hne : x ≠ '%' := by rcases hx with rfl | rfl <;> decide
    obtain ⟨s₁, hs, h₁⟩ := percent_of_escape hx hw
    obtain ⟨s₂, hs₁, h₂⟩ := cons_of_escape (by decide) h₁
    obtain ⟨t, hs₂, ht⟩ := cons_of_escape hne h₂
    exact ⟨t, by rw [hs, hs₁, hs₂], ht⟩
  rcases isDot_iff.mp hw with rfl | rfl | rfl
  · exact cons_of_escape (by decide) h
  · exact hescaped 'e' (.inl rfl) h
  · exact hescaped 'E' (.inr rfl) h

theorem escape_of_isDot {w : Text} (hw : isDot w = true) : escape EscapeSet.path w = w := by
  rcases isDot_iff.mp hw with rfl | rfl | rfl <;> rfl

@[simp] theorem isDot_escape (s : Text) : isDot (escape EscapeSet.path s) = isDot s := by
  refine Bool.eq_iff_iff.mpr ⟨fun h => ?_, fun h => ?_⟩
  · obtain ⟨t, hs, ht⟩ := append_of_escape h (List.append_nil _).symm
    rw [escape_eq_nil.mp ht, List.append_nil] at hs
    rwa [hs]
  · rwa [escape_of_isDot h]

@[simp] theorem isDoubleDot_escape (s : Text) : isDoubleDot (escape EscapeSet.path s) = isDoubleDot s := by
  refine Bool.eq_iff_iff.mpr ⟨fun h => ?_, fun h => ?_⟩
  · obtain ⟨w, w', hs, hw, hw'⟩ := isDoubleDot_iff.mp h
    obtain ⟨t, rfl, ht⟩ := append_of_escape hw hs
    rw [← ht, isDot_escape] at hw'
    exact isDoubleDot_iff.mpr ⟨w, t, rfl, hw, hw'⟩
  · obtain ⟨w, w', rfl, hw, hw'⟩ := isDoubleDot_iff.mp h
    rw [escape_append, escape_of_isDot hw, escape_of_isDot hw']
    exact h

end LinkPattern.Url.Path
