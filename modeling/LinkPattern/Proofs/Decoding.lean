import LinkPattern.Matcher
import LinkPattern.Proofs.Results

/-!
# Decoding

An octet of ASCII belongs to no other character, and a character that is no hexadecimal digit ends any
escape before it. So a text decodes exactly if the parts around such a character do, and then to what
these give, with the character between them. Only the empty text decodes to nothing.

For the same reason no error changes when another octet of ASCII stands in the place of one: plus signs
may be read as they are or as spaces. Decoding with U+FFFD gives what strict decoding gives, and where
that fails there is one.
-/

namespace LinkPattern

/-! ## UTF-8 -/

namespace Utf8

theorem strict_eq_ok {cs : List Chunk} {i : Nat} {t : Text} : strict i cs = .ok t ↔ cs = t.map .char := by
  induction cs generalizing i t with
  | nil => cases t <;> simp [strict]
  | cons c cs ih =>
    cases c with
    | char c =>
      rw [strict, map_eq_ok]
      constructor
      · intro h
        obtain ⟨t', h, ht⟩ := h
        rw [← ht, ih.mp h]
        rfl
      · intro h
        obtain ⟨c', t', rfl, hc, ht⟩ := List.map_eq_cons_iff.mp h.symm
        cases hc
        exact ⟨t', ih.mpr ht.symm, rfl⟩
    | broken size => cases t <;> simp [strict]
    | unfinished => cases t <;> simp [strict]

def Splits (all front rest : List Chunk) : Prop :=
  ∀ r : Text, all = r.map .char ↔ ∃ x y : Text, front = x.map .char ∧ rest = y.map .char ∧ r = x ++ y

theorem Splits.nil (rest : List Chunk) : Splits rest [] rest := by
  intro r
  constructor
  · intro h
    exact ⟨[], r, rfl, h, rfl⟩
  · intro h
    obtain ⟨x, y, hx, hy, hr⟩ := h
    rw [hr, List.map_append, ← hx, ← hy]
    rfl

theorem Splits.cons {all front rest : List Chunk} (h : Splits all front rest) (c : Chunk) :
    Splits (c :: all) (c :: front) rest := by
  intro r
  constructor
  · intro hr
    obtain ⟨x, r', rfl, hx, hr'⟩ := List.map_eq_cons_iff.mp hr.symm
    obtain ⟨a, b, ha, hb, rfl⟩ := (h r').mp hr'.symm
    exact ⟨x :: a, b, by rw [List.map_cons, hx, ha], hb, rfl⟩
  · intro hparts
    obtain ⟨x, y, hx, hy, hr⟩ := hparts
    obtain ⟨x', a, rfl, hx', ha⟩ := List.map_eq_cons_iff.mp hx.symm
    rw [hr, List.cons_append, List.map_cons, hx', ← (h (a ++ y)).mpr ⟨a, y, ha.symm, hy, rfl⟩]

theorem Splits.of_ill {all front rest : List Chunk} (h : ∀ r : Text, all ≠ r.map .char)
    (h' : ∀ r : Text, front ≠ r.map .char) : Splits all front rest := by
  intro r
  constructor
  · intro hr
    exact absurd hr (h r)
  · intro hparts
    obtain ⟨x, -, hx, -⟩ := hparts
    exact absurd hx (h' x)

def Progress.Inside (p : Progress) : Prop := ∀ f, p = .going f → 0x80 ≤ f.low

theorem inside_first (b : UInt8) : (first b).Inside := by
  intro f h
  unfold first at h
  simp only at h
  split at h
  · cases h
  split at h
  · cases h
  split at h
  · cases h; exact Nat.le_refl _
  split at h
  · cases h; simp only; split <;> omega
  split at h
  · cases h; simp only; split <;> omega
  · cases h

theorem inside_push (f : Front) (b : UInt8) : (f.push b).Inside := by
  intro f' h
  unfold Front.push at h
  cases ho : f.owed with
  | zero => rw [ho] at h; cases h
  | succ owed => rw [ho] at h; cases h; exact Nat.le_refl _

theorem splits_chunksAfter {b : UInt8} (hb : b.toNat < 0x80) {p : Progress} (hp : p.Inside) (xs ys : List UInt8) :
    Splits (chunksAfter p (xs ++ b :: ys)) (chunksAfter p xs) (chunks (b :: ys)) := by
  have hbroken : ∀ (n : Nat) (cs : List Chunk) (r : Text), .broken n :: cs ≠ r.map .char := by
    intro n cs r
    cases r <;> simp
  induction xs generalizing p with
  | nil =>
    cases p with
    | done c => exact (Splits.nil _).cons c
    | going f =>
      -- no octet below 0x80 goes on with a character, so there is an ill-formed piece on both sides
      have hlow := hp f rfl
      have hill : ¬ (f.low ≤ b.toNat ∧ b.toNat ≤ f.high) := by omega
      have hall : chunksAfter (.going f) (b :: ys) = .broken f.size :: chunksAfter (first b) ys := by
        rw [chunksAfter, if_neg hill]
      rw [List.nil_append, hall]
      refine .of_ill (hbroken _ _) fun r => ?_
      cases r <;> simp [chunksAfter]
  | cons x xs ih =>
    cases p with
    | done c => exact (ih (inside_first x)).cons c
    | going f =>
      rw [List.cons_append, chunksAfter, chunksAfter]
      by_cases hx : f.low ≤ x.toNat ∧ x.toNat ≤ f.high
      · rw [if_pos hx, if_pos hx]
        exact ih (inside_push f x)
      · rw [if_neg hx, if_neg hx]
        exact .of_ill (hbroken _ _) (hbroken _ _)

theorem chunksAfter_ne_nil (p : Progress) (bs : List UInt8) : chunksAfter p bs ≠ [] := by
  induction bs generalizing p with
  | nil => cases p <;> exact List.cons_ne_nil _ _
  | cons b bs ih =>
    cases p with
    | done c => exact List.cons_ne_nil _ _
    | going f =>
      rw [chunksAfter]
      by_cases hb : f.low ≤ b.toNat ∧ b.toNat ≤ f.high
      · rw [if_pos hb]
        exact ih _
      · rw [if_neg hb]
        exact List.cons_ne_nil _ _

theorem decode_eq_ok_nil {bs : List UInt8} : decode bs = .ok [] ↔ bs = [] := by
  rw [decode, strict_eq_ok]
  cases bs with
  | nil => simp [chunks]
  | cons b bs => simp [chunks_cons, chunksAfter_ne_nil]

theorem chunks_cons_ascii {b : UInt8} (hb : b.toNat < 0x80) (bs : List UInt8) :
    chunks (b :: bs) = .char (Char.ofNat b.toNat) :: chunks bs := by
  rw [chunks_cons, first]
  simp only [hb, ite_true]
  exact chunksAfter_done _ bs

theorem decode_append_cons {b : UInt8} (hb : b.toNat < 0x80) (xs ys : List UInt8) {r : Text} :
    decode (xs ++ b :: ys) = .ok r ↔
      ∃ x y, decode xs = .ok x ∧ decode ys = .ok y ∧ r = x ++ Char.ofNat b.toNat :: y := by
  have hsplits : Splits (chunks (xs ++ b :: ys)) (chunks xs) (chunks (b :: ys)) := by
    cases xs with
    | nil => exact .nil _
    | cons x xs => exact splits_chunksAfter hb (inside_first x) xs ys
  simp only [decode, strict_eq_ok]
  rw [hsplits r, chunks_cons_ascii hb]
  constructor
  · intro h
    obtain ⟨x, y, hx, hy, hr⟩ := h
    obtain ⟨c, y', rfl, hc, hy'⟩ := List.map_eq_cons_iff.mp hy.symm
    cases hc
    exact ⟨x, y', hx, hy'.symm, hr⟩
  · intro h
    obtain ⟨x, y, hx, hy, hr⟩ := h
    exact ⟨x, _ :: y, hx, by rw [hy]; rfl, hr⟩

end Utf8

/-! ## Escapes -/

namespace Percent

def NoEscape (s : Text) : Prop :=
  ∀ a b t x y, s = a :: b :: t → Digits.value? a = some x → Digits.value? b = some y → False

theorem octets_percent {s : Text} (h : NoEscape s) : octets ('%' :: s) = 0x25 :: octets s := by
  match s with
  | [] => rfl
  | [a] => rfl
  | a :: b :: t =>
    rw [octets]
    split
    · next x y ha hb => exact (h a b t x y rfl ha hb).elim
    · rfl

theorem octets_eq_nil {t : Text} : octets t = [] ↔ t = [] := by
  cases t using octets.fun_cases with
  | case1 a b t x y hb ha => simp [octets, ha, hb]
  | case2 a b t h =>
    rw [octets_percent]
    · simp
    · intro a' b' t' x y he ha hb
      cases he
      exact h x y ha hb
  | case3 c t h => simp [octets, Utf8.encodeChar_ne_nil]
  | case4 => simp [octets]

theorem decode_eq_ok_nil {t : Text} : decode t = .ok [] ↔ t = [] := Utf8.decode_eq_ok_nil.trans octets_eq_nil

section
variable {c : Char} (hc : c ≠ '%') (hv : Digits.value? c = none)
include hv

theorem NoEscape.append_cons {s : Text} (h : NoEscape s) (t : Text) : NoEscape (s ++ c :: t) := by
  intro a b t' x y he ha hb
  match s, h with
  | [], _ => cases he; rw [hv] at ha; cases ha
  | [_], _ => cases he; rw [hv] at hb; cases hb
  | a' :: b' :: s, h => cases he; exact h a b s x y rfl ha hb

include hc

theorem octets_append_cons (s t : Text) : octets (s ++ c :: t) = octets s ++ (Utf8.encodeChar c ++ octets t) := by
  -- an escape that `s` has not begun is not begun by `s` and `c` together, since `c` is no digit
  have hpercent : ∀ s, NoEscape s → octets (s ++ c :: t) = octets s ++ (Utf8.encodeChar c ++ octets t) →
      octets ('%' :: s ++ c :: t) = octets ('%' :: s) ++ (Utf8.encodeChar c ++ octets t) := by
    intro s h ih
    rw [List.cons_append, octets_percent h, octets_percent (h.append_cons hv t), ih, List.cons_append]
  induction s using octets.induct with
  | case1 a b s x y hb ha ih => simp only [List.cons_append, octets, ha, hb, ih]
  | case2 a b s hab ih =>
    refine hpercent _ (fun _ _ _ x y he hx hy => ?_) ih
    cases he
    exact hab x y hx hy
  | case3 x s hx ih =>
    by_cases hp : x = '%'
    · subst hp
      exact hpercent s (fun a b t _ _ he _ _ => hx a b t rfl he) ih
    · rw [List.cons_append, octets_cons_of_ne _ hp, octets_cons_of_ne _ hp, ih, List.append_assoc]
  | case4 => exact octets_cons_of_ne t hc

theorem decode_append_cons (hascii : c.toNat < 0x80) (s t : Text) {r : Text} :
    decode (s ++ c :: t) = .ok r ↔ ∃ x y, decode s = .ok x ∧ decode t = .ok y ∧ r = x ++ c :: y := by
  have hoctet : (UInt8.ofNat c.toNat).toNat = c.toNat := Utf8.toNat_ofNat (by omega)
  have hencode : Utf8.encodeChar c = [UInt8.ofNat c.toNat] := by
    rw [Utf8.encodeChar]
    simp only [hascii, ite_true]
  unfold decode
  rw [octets_append_cons hc hv, hencode, List.singleton_append, Utf8.decode_append_cons (by omega), hoctet,
    Char.ofNat_toNat]

end

end Percent

/-! ## Plus signs -/

theorem Form.plusToSpace_append_cons {s : Text} (h : '+' ∉ s) (t : Text) :
    plusToSpace (s ++ '+' :: t) = s ++ ' ' :: plusToSpace t := by
  have hs := plusToSpace_of_not_mem h
  unfold plusToSpace at hs ⊢
  simp [hs]

/-- What stands between the plus signs of `raw`, decoded, with `plus` between them. -/
def Percent.DecodesAround (plus : Char) (raw t : Text) : Prop :=
  ∃ parts, List.Forall₂ (fun piece part => decode piece = .ok part) (Text.splitOn '+' raw) parts ∧
    t = Text.join plus parts

namespace Bindings

def plusSign (plusAsSpace : Bool) : Char := if plusAsSpace then ' ' else '+'

variable {plusAsSpace : Bool}

theorem decode_eq_ok_nil {raw : Text} : decode plusAsSpace raw = .ok [] ↔ raw = [] := by
  rw [decode, mapError_eq_ok, Percent.decode_eq_ok_nil]
  cases plusAsSpace <;> simp [Form.plusToSpace]

theorem decode_of_not_mem {s : Text} (hs : '+' ∉ s) {r : Text} :
    decode plusAsSpace s = .ok r ↔ Percent.decode s = .ok r := by
  unfold decode
  rw [mapError_eq_ok, Form.plusToSpace_of_not_mem hs, ite_self]

theorem decode_append_cons {s : Text} (hs : '+' ∉ s) (t : Text) {r : Text} :
    decode plusAsSpace (s ++ '+' :: t) = .ok r ↔
      ∃ x y, Percent.decode s = .ok x ∧ decode plusAsSpace t = .ok y ∧ r = x ++ plusSign plusAsSpace :: y := by
  unfold decode plusSign
  simp only [mapError_eq_ok]
  cases plusAsSpace with
  | true =>
    simp only [ite_true, Form.plusToSpace_append_cons hs]
    exact Percent.decode_append_cons (by decide) (by decide) (by decide) _ _
  | false => exact Percent.decode_append_cons (by decide) (by decide) (by decide) _ _

theorem decode_join {pieces : List Text} (hne : pieces ≠ []) (h : ∀ p ∈ pieces, '+' ∉ p) {r : Text} :
    decode plusAsSpace (Text.join '+' pieces) = .ok r ↔
      ∃ parts, List.Forall₂ (fun piece part => Percent.decode piece = .ok part) pieces parts ∧
        r = Text.join (plusSign plusAsSpace) parts := by
  induction pieces generalizing r with
  | nil => exact absurd rfl hne
  | cons p ps ih =>
    cases ps with
    | nil =>
      rw [Text.join, decode_of_not_mem (h p (by simp))]
      constructor
      · intro hr
        exact ⟨[r], .cons hr .nil, rfl⟩
      · intro h
        obtain ⟨parts, hparts, hr⟩ := h
        obtain ⟨part, rest, hpart, hrest, rfl⟩ := List.forall₂_cons_left_iff.mp hparts
        cases hrest
        rw [hr]
        exact hpart
    | cons q ps =>
      have ih := fun {r} => ih (r := r) (by simp) fun p hp => h p (List.mem_cons_of_mem _ hp)
      have hjoin : ∀ {parts}, List.Forall₂ (fun piece part => Percent.decode piece = .ok part) (q :: ps) parts →
          parts ≠ [] := by
        intro parts hparts
        cases hparts
        exact List.cons_ne_nil _ _
      rw [Text.join_cons (by simp), decode_append_cons (h p (by simp))]
      constructor
      · intro h
        obtain ⟨x, y, hx, hy, hr⟩ := h
        obtain ⟨parts, hparts, rfl⟩ := ih.mp hy
        exact ⟨x :: parts, .cons hx hparts, by rw [hr, Text.join_cons (hjoin hparts)]⟩
      · intro h
        obtain ⟨parts, hparts, hr⟩ := h
        obtain ⟨x, parts, hx, hrest, rfl⟩ := List.forall₂_cons_left_iff.mp hparts
        rw [Text.join_cons (hjoin hrest)] at hr
        exact ⟨x, _, hx, ih.mpr ⟨parts, hrest, rfl⟩, hr⟩

theorem decode_eq_ok {raw r : Text} :
    decode plusAsSpace raw = .ok r ↔ Percent.DecodesAround (plusSign plusAsSpace) raw r := by
  have h : decode plusAsSpace (Text.join '+' (Text.splitOn '+' raw)) = .ok r ↔
      Percent.DecodesAround (plusSign plusAsSpace) raw r :=
    decode_join (Text.splitOn_ne_nil '+' raw) fun p hp => Text.not_mem_of_mem_splitOn hp
  rwa [Text.join_splitOn] at h

end Bindings

/-! ## Octets that differ within ASCII -/

namespace Utf8

def Exchanged (a b : UInt8) : Prop := a = b ∨ a.toNat < 0x80 ∧ b.toNat < 0x80

inductive Chunk.Similar : Chunk → Chunk → Prop
  | refl (c : Chunk) : Similar c c
  | char {x y : Char} : x.utf8Size = y.utf8Size → Similar (.char x) (.char y)

inductive Progress.Similar : Progress → Progress → Prop
  | done {c d : Chunk} : c.Similar d → Similar (.done c) (.done d)
  | going (f : Front) : Similar (.going f) (.going f)

theorem Progress.Similar.refl (p : Progress) : p.Similar p := by
  cases p with
  | done c => exact .done (.refl c)
  | going f => exact .going f

theorem first_ascii {a : UInt8} (ha : a.toNat < 0x80) : first a = .done (.char (Char.ofNat a.toNat)) := by
  simp [first, ha]

theorem first_similar {a b : UInt8} (h : Exchanged a b) : (first a).Similar (first b) := by
  have hsize : ∀ n < 0x80, (Char.ofNat n).utf8Size = 1 := by decide
  rcases h with rfl | ⟨ha, hb⟩
  · exact .refl _
  · rw [first_ascii ha, first_ascii hb]
    exact .done (.char (by rw [hsize _ ha, hsize _ hb]))

theorem chunksAfter_similar {p q : Progress} (h : p.Similar q) (hp : p.Inside) {xs ys : List UInt8}
    (hxy : List.Forall₂ Exchanged xs ys) : List.Forall₂ Chunk.Similar (chunksAfter p xs) (chunksAfter q ys) := by
  induction hxy generalizing p q with
  | nil =>
    cases h with
    | done hc => exact .cons hc .nil
    | going f => exact .cons (.refl _) .nil
  | @cons x y xs ys hxy _ ih =>
    have hnext := ih (first_similar hxy) (inside_first x)
    cases h with
    | done hc => exact .cons hc hnext
    | going f =>
      have hlow := hp f rfl
      rw [chunksAfter, chunksAfter]
      by_cases hx : f.low ≤ x.toNat ∧ x.toNat ≤ f.high
      · -- an octet that goes on is none of ASCII
        obtain rfl : x = y := hxy.resolve_right fun h => by omega
        rw [if_pos hx, if_pos hx]
        exact ih (.refl _) (inside_push f x)
      · have hy : ¬ (f.low ≤ y.toNat ∧ y.toNat ≤ f.high) := by
          rcases hxy with rfl | ⟨-, hy⟩
          · exact hx
          · omega
        rw [if_neg hx, if_neg hy]
        exact .cons (.refl _) hnext

theorem chunks_similar {xs ys : List UInt8} (h : List.Forall₂ Exchanged xs ys) :
    List.Forall₂ Chunk.Similar (chunks xs) (chunks ys) := by
  cases h with
  | nil => exact .nil
  | @cons x y xs ys hxy h => exact chunksAfter_similar (first_similar hxy) (inside_first x) h

theorem strict_similar {cs ds : List Chunk} (h : List.Forall₂ Chunk.Similar cs ds) (i : Nat) :
    Agree (fun _ _ => True) (strict i cs) (strict i ds) := by
  induction h generalizing i with
  | nil => exact .ok trivial
  | @cons c d cs ds hcd _ ih =>
    cases hcd with
    | refl =>
      cases c with
      | char x => exact (ih _).map fun _ _ _ => trivial
      | broken size => exact .error _
      | unfinished => exact .error _
    | @char x y hsize =>
      rw [strict, strict, hsize]
      exact (ih _).map fun _ _ _ => trivial

theorem decode_exchanged {xs ys : List UInt8} (h : List.Forall₂ Exchanged xs ys) :
    Agree (fun _ _ => True) (decode xs) (decode ys) := strict_similar (chunks_similar h) 0

/-! ## Replacement -/

theorem decodeLossy_eq_of_decode {bs : List UInt8} {t : Text} (h : decode bs = .ok t) : decodeLossy bs = t := by
  rw [decodeLossy, strict_eq_ok.mp h, List.map_map]
  exact List.map_id t

theorem replacement_mem_of_strict {cs : List Chunk} {i : Nat} {e : DecodeError} (h : strict i cs = .error e) :
    '\uFFFD' ∈ cs.map Chunk.orReplacement := by
  induction cs generalizing i with
  | nil => cases h
  | cons c cs ih =>
    cases c with
    | char x => exact List.mem_cons_of_mem _ (ih (map_eq_error.mp h))
    | broken size => exact List.mem_cons_self
    | unfinished => exact List.mem_cons_self

theorem replacement_mem_of_decode {bs : List UInt8} {e : DecodeError} (h : decode bs = .error e) :
    '\uFFFD' ∈ decodeLossy bs := replacement_mem_of_strict h

end Utf8

/-! ## Escapes and plus signs -/

namespace Percent

theorem octets_join_exchanged {pieces : List Text} (h : ∀ p ∈ pieces, '+' ∉ p) :
    List.Forall₂ Utf8.Exchanged (octets (Text.join '+' pieces)) (octets (Form.plusToSpace (Text.join '+' pieces))) := by
  have hsame : ∀ bs, List.Forall₂ Utf8.Exchanged bs bs := fun bs => List.forall₂_same.mpr fun b _ => .inl rfl
  induction pieces with
  | nil => exact hsame _
  | cons p ps ih =>
    have hp := h p (by simp)
    cases ps with
    | nil =>
      rw [Text.join, Form.plusToSpace_of_not_mem hp]
      exact hsame _
    | cons q ps =>
      have hplus : Utf8.encodeChar '+' = [0x2B] := by decide
      have hspace : Utf8.encodeChar ' ' = [0x20] := by decide
      rw [Text.join_cons (by simp), Form.plusToSpace_append_cons hp, octets_append_cons (by decide) (by decide),
        octets_append_cons (by decide) (by decide), hplus, hspace]
      refine List.rel_append (hsame _) ?_
      exact .cons (.inr (by decide)) (ih fun p hp => h p (List.mem_cons_of_mem _ hp))

theorem decode_plusToSpace (t : Text) : Agree (fun _ _ => True) (decode t) (decode (Form.plusToSpace t)) := by
  have h := octets_join_exchanged fun p hp => Text.not_mem_of_mem_splitOn (d := '+') (t := t) hp
  rw [Text.join_splitOn] at h
  exact Utf8.decode_exchanged h

end Percent

end LinkPattern
