import LinkPattern.Text

/-!
# UTF-8

`chunks` cuts any octets into characters and ill-formed pieces, each piece as long as it could be
the front of a character. Strict decoding stops at the first ill-formed piece and lossy decoding
puts U+FFFD in its place. `chunks_encode` says that encoded text comes back as its characters.
-/

namespace LinkPattern.Utf8

def continuation (n : Nat) : UInt8 := UInt8.ofNat (0x80 + n % 64)

def encodeChar (c : Char) : List UInt8 :=
  let n := c.toNat
  if n < 0x80 then [UInt8.ofNat n]
  else if n < 0x800 then [UInt8.ofNat (0xC0 + n / 64), continuation n]
  else if n < 0x10000 then [UInt8.ofNat (0xE0 + n / 4096), continuation (n / 64), continuation n]
  else [UInt8.ofNat (0xF0 + n / 262144), continuation (n / 4096), continuation (n / 64), continuation n]

def encode (t : Text) : List UInt8 := t.flatMap encodeChar

/-- A whole character, or octets that are the front of none: `broken` when the next octet rules
them out, `unfinished` when the octets end. -/
inductive Chunk where
  | char (c : Char)
  | broken (size : Nat)
  | unfinished
  deriving DecidableEq, Repr

/-- The front of a character: how many octets were read, how many are owed after the next one,
between which bounds the next one lies, and the bits so far. -/
structure Front where
  size : Nat
  owed : Nat
  low : Nat
  high : Nat
  bits : Nat
  deriving DecidableEq, Repr

inductive Progress where
  | done (chunk : Chunk)
  | going (front : Front)
  deriving DecidableEq, Repr

/-- The first octet of a character. The bounds on the second exclude overlong forms, surrogates
and what lies above U+10FFFF. -/
def first (b : UInt8) : Progress :=
  let n := b.toNat
  if n < 0x80 then .done (.char (Char.ofNat n))
  else if n < 0xC2 then .done (.broken 1)
  else if n < 0xE0 then .going ⟨1, 0, 0x80, 0xBF, n - 0xC0⟩
  else if n < 0xF0 then
    .going ⟨1, 1, if n = 0xE0 then 0xA0 else 0x80, if n = 0xED then 0x9F else 0xBF, n - 0xE0⟩
  else if n < 0xF5 then
    .going ⟨1, 2, if n = 0xF0 then 0x90 else 0x80, if n = 0xF4 then 0x8F else 0xBF, n - 0xF0⟩
  else .done (.broken 1)

def Front.push (f : Front) (b : UInt8) : Progress :=
  let bits := f.bits * 64 + (b.toNat - 0x80)
  match f.owed with
  | 0 => .done (.char (Char.ofNat bits))
  | owed + 1 => .going ⟨f.size + 1, owed, 0x80, 0xBF, bits⟩

def chunksAfter : Progress → List UInt8 → List Chunk
  | .done c, [] => [c]
  | .going _, [] => [.unfinished]
  | .done c, b :: bs => c :: chunksAfter (first b) bs
  | .going f, b :: bs =>
    if f.low ≤ b.toNat ∧ b.toNat ≤ f.high then chunksAfter (f.push b) bs
    else .broken f.size :: chunksAfter (first b) bs

def chunks : List UInt8 → List Chunk
  | [] => []
  | b :: bs => chunksAfter (first b) bs

/-! ## Decoding -/

/-- The first ill-formed piece: where it begins, and its size unless the octets end in it. -/
inductive DecodeError where
  | invalid (size index : Nat)
  | incomplete (index : Nat)
  deriving DecidableEq, Repr

def DecodeError.message : DecodeError → String
  | .invalid size index => "invalid utf-8 sequence of " ++ toString size ++ " bytes from index " ++ toString index
  | .incomplete index => "incomplete utf-8 byte sequence from index " ++ toString index

def strict (index : Nat) : List Chunk → Except DecodeError Text
  | [] => .ok []
  | .char c :: rest => (strict (index + c.utf8Size) rest).map (c :: ·)
  | .broken size :: _ => .error (.invalid size index)
  | .unfinished :: _ => .error (.incomplete index)

def decode (octets : List UInt8) : Except DecodeError Text := strict 0 (chunks octets)

def Chunk.orReplacement : Chunk → Char
  | .char c => c
  | .broken _ | .unfinished => '\uFFFD'

def decodeLossy (octets : List UInt8) : Text := (chunks octets).map Chunk.orReplacement

/-! ## Reading back what was written -/

theorem chunks_cons (b : UInt8) (bs : List UInt8) : chunks (b :: bs) = chunksAfter (first b) bs := rfl

theorem chunksAfter_done (c : Chunk) (bs : List UInt8) : chunksAfter (.done c) bs = c :: chunks bs := by
  cases bs <;> simp [chunksAfter, chunks]

theorem chunksAfter_going {f : Front} {b : UInt8} (bs : List UInt8) (hl : f.low ≤ b.toNat) (hh : b.toNat ≤ f.high) :
    chunksAfter (.going f) (b :: bs) = chunksAfter (f.push b) bs := by
  rw [chunksAfter, if_pos ⟨hl, hh⟩]

theorem toNat_ofNat {n : Nat} (h : n < 256) : (UInt8.ofNat n).toNat = n := by
  simp [Nat.mod_eq_of_lt h]

theorem toNat_continuation (n : Nat) : (continuation n).toNat = 0x80 + n % 64 :=
  toNat_ofNat (by omega)

theorem toNat_valid (c : Char) : c.toNat < 0xD800 ∨ 0xDFFF < c.toNat ∧ c.toNat < 0x110000 := by
  have := c.valid
  simpa [UInt32.isValidChar, Nat.isValidChar] using this

theorem chunks_encodeChar (c : Char) (bs : List UInt8) : chunks (encodeChar c ++ bs) = .char c :: chunks bs := by
  have hc : Char.ofNat c.toNat = c := Char.ofNat_toNat c
  have hv := toNat_valid c
  generalize hn : c.toNat = n at hc hv
  unfold encodeChar
  simp only [hn]
  split
  · next h =>
    have hb : first (UInt8.ofNat n) = .done (.char c) := by
      simp [first, toNat_ofNat (show n < 256 by omega), h, hc]
    rw [List.cons_append, chunks_cons, hb, chunksAfter_done, List.nil_append]
  split
  · next h0 h =>
    have hb : first (UInt8.ofNat (0xC0 + n / 64)) = .going ⟨1, 0, 0x80, 0xBF, n / 64⟩ := by
      simp only [first, toNat_ofNat (show 0xC0 + n / 64 < 256 by omega)]
      rw [if_neg (by omega), if_neg (by omega), if_pos (by omega), show 0xC0 + n / 64 - 0xC0 = n / 64 by omega]
    rw [List.cons_append, chunks_cons, hb]; simp only [List.cons_append, List.nil_append]
    rw [chunksAfter_going _ (by rw [toNat_continuation]; simp) (by rw [toNat_continuation]; simp; omega)]
    simp only [Front.push, toNat_continuation]
    rw [show n / 64 * 64 + (128 + n % 64 - 128) = n by omega, hc, chunksAfter_done]
  split
  · next h1 h0 h =>
    obtain ⟨lo, hi, hb, hlo, hhi⟩ : ∃ lo hi, first (UInt8.ofNat (0xE0 + n / 4096)) = .going ⟨1, 1, lo, hi, n / 4096⟩ ∧
        lo ≤ 0x80 + n / 64 % 64 ∧ 0x80 + n / 64 % 64 ≤ hi := by
      refine ⟨if 0xE0 + n / 4096 = 0xE0 then 0xA0 else 0x80, if 0xE0 + n / 4096 = 0xED then 0x9F else 0xBF, ?_, ?_, ?_⟩
      · simp only [first, toNat_ofNat (show 0xE0 + n / 4096 < 256 by omega)]
        rw [if_neg (by omega), if_neg (by omega), if_neg (by omega), if_pos (by omega),
          show 0xE0 + n / 4096 - 0xE0 = n / 4096 by omega]
      · split <;> omega
      · split <;> omega
    rw [List.cons_append, chunks_cons, hb]; simp only [List.cons_append, List.nil_append]
    rw [chunksAfter_going _ (by rw [toNat_continuation]; exact hlo) (by rw [toNat_continuation]; exact hhi)]
    simp only [Front.push, toNat_continuation]
    rw [chunksAfter_going _ (by rw [toNat_continuation]; simp) (by rw [toNat_continuation]; simp; omega)]
    simp only [Front.push, toNat_continuation]
    rw [show (n / 4096 * 64 + (128 + n / 64 % 64 - 128)) * 64 + (128 + n % 64 - 128) = n by omega, hc, chunksAfter_done]
  · next h2 h1 h0 =>
    obtain ⟨lo, hi, hb, hlo, hhi⟩ : ∃ lo hi, first (UInt8.ofNat (0xF0 + n / 262144)) = .going ⟨1, 2, lo, hi, n / 262144⟩ ∧
        lo ≤ 0x80 + n / 4096 % 64 ∧ 0x80 + n / 4096 % 64 ≤ hi := by
      refine ⟨if 0xF0 + n / 262144 = 0xF0 then 0x90 else 0x80, if 0xF0 + n / 262144 = 0xF4 then 0x8F else 0xBF, ?_, ?_, ?_⟩
      · simp only [first, toNat_ofNat (show 0xF0 + n / 262144 < 256 by omega)]
        rw [if_neg (by omega), if_neg (by omega), if_neg (by omega), if_neg (by omega), if_pos (by omega),
          show 0xF0 + n / 262144 - 0xF0 = n / 262144 by omega]
      · split <;> omega
      · split <;> omega
    rw [List.cons_append, chunks_cons, hb]; simp only [List.cons_append, List.nil_append]
    rw [chunksAfter_going _ (by rw [toNat_continuation]; exact hlo) (by rw [toNat_continuation]; exact hhi)]
    simp only [Front.push, toNat_continuation]
    rw [chunksAfter_going _ (by rw [toNat_continuation]; simp) (by rw [toNat_continuation]; simp; omega)]
    simp only [Front.push, toNat_continuation]
    rw [chunksAfter_going _ (by rw [toNat_continuation]; simp) (by rw [toNat_continuation]; simp; omega)]
    simp only [Front.push, toNat_continuation]
    rw [show ((n / 262144 * 64 + (128 + n / 4096 % 64 - 128)) * 64 + (128 + n / 64 % 64 - 128)) * 64 + (128 + n % 64 - 128) = n
      by omega, hc, chunksAfter_done]

theorem encodeChar_ne_nil (c : Char) : encodeChar c ≠ [] := by
  intro h
  have := chunks_encodeChar c []
  rw [h] at this
  cases this

theorem chunks_encode (t : Text) : chunks (encode t) = t.map .char := by
  induction t with
  | nil => rfl
  | cons c t ih =>
    rw [encode, List.flatMap_cons, chunks_encodeChar]
    exact congrArg _ ih

theorem strict_map_char (index : Nat) (t : Text) : strict index (t.map .char) = .ok t := by
  induction t generalizing index with
  | nil => rfl
  | cons c t ih => rw [List.map_cons, strict, ih]; rfl

theorem decode_encode (t : Text) : decode (encode t) = .ok t := by
  rw [decode, chunks_encode, strict_map_char]

end LinkPattern.Utf8
