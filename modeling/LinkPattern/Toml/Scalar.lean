import LinkPattern.Datum
import LinkPattern.Text
import LinkPattern.Toml.Quoted

/-!
# Numbers, dates and truth values in TOML

No option is a number or a date, so their values do not matter; whether they are well-formed and in
range does. Integers have 64 bits, a positive float is finite when it is rounded to 64 bits unless
it is written `inf`, and dates are those of the calendar.
-/

namespace LinkPattern.Toml

def isScalarChar (c : Char) : Bool := c.isAlphanum || c = '_' || c = '+' || c = '-' || c = '.' || c = ':'

/-- Digits that may have one underscore between two of them, without the underscores. -/
def ungroup? (isDigit : Char → Bool) : Text → Option Text
  | [] => none
  | [c] => if isDigit c then some [c] else none
  | c :: '_' :: t => if isDigit c then (ungroup? isDigit t).map (c :: ·) else none
  | c :: t => if isDigit c then (ungroup? isDigit t).map (c :: ·) else none

def sign : Text → Bool × Text
  | '-' :: t => (true, t)
  | '+' :: t => (false, t)
  | t => (false, t)

def decimal? (t : Text) : Option Text :=
  if t.head? = some '0' ∧ t ≠ ['0'] then none else ungroup? Char.isDigit t

/-! ## Integers -/

def integerLimit : Nat := 9223372036854775808

def isRadix (radix : Nat) (t : Text) : Bool :=
  ((ungroup? (fun c => (Digits.value? c).any (· < radix)) t).bind (Digits.number? radix)).any (· < integerLimit)

def isInteger : Text → Bool
  | '0' :: 'x' :: t => isRadix 16 t
  | '0' :: 'o' :: t => isRadix 8 t
  | '0' :: 'b' :: t => isRadix 2 t
  | t =>
    let (negative, t) := sign t
    ((decimal? t).bind (Digits.number? 10)).any fun n => n < integerLimit || (negative && n = integerLimit)

/-! ## Floats -/

/-- The number halfway between the largest float and the next power of two. -/
def floatLimit : Nat := Nat.pow 2 1024 - Nat.pow 2 970

def isFinite (digits : Text) (exponent : Int) : Bool :=
  let significant := digits.dropWhile (· = '0')
  let magnitude := significant.length + exponent
  let n := (Digits.number? 10 significant).getD 0
  if significant = [] ∨ magnitude < 300 then true
  else if 310 < magnitude then false
  else if 0 ≤ exponent then n * Nat.pow 10 exponent.toNat < floatLimit
  else n < floatLimit * Nat.pow 10 (-exponent).toNat

def exponent? (t : Text) : Option (Text × Option Int) :=
  match (Text.cut 'e' t).or (Text.cut 'E' t) with
  | none => some (t, none)
  | some (mantissa, t) =>
    let (negative, t) := sign t
    ((ungroup? Char.isDigit t).bind (Digits.number? 10)).map fun n =>
      (mantissa, some (if negative then -(n : Int) else n))

def isDecimalFloat (t : Text) : Bool :=
  let (negative, t) := sign t
  match exponent? t with
  | none => false
  | some (mantissa, power?) =>
    match Text.cut '.' mantissa, power? with
    | none, none => false
    | none, some power => (decimal? mantissa).any fun digits => negative || isFinite digits power
    | some (whole, fraction), power? =>
      match decimal? whole, ungroup? Char.isDigit fraction with
      | some whole, some fraction => negative || isFinite (whole ++ fraction) (power?.getD 0 - fraction.length)
      | _, _ => false

def isFloat (t : Text) : Bool :=
  let (_, unsigned) := sign t
  unsigned = ['i', 'n', 'f'] || unsigned = ['n', 'a', 'n'] || isDecimalFloat t

/-! ## Dates -/

def isField (a b : Char) (low high : Nat) : Bool :=
  a.isDigit && b.isDigit && (Digits.number? 10 [a, b]).any fun n => low ≤ n && n ≤ high

def daysIn (year month : Nat) : Nat :=
  if month = 2 then (if year % 4 = 0 ∧ (year % 100 ≠ 0 ∨ year % 400 = 0) then 29 else 28)
  else if month = 4 ∨ month = 6 ∨ month = 9 ∨ month = 11 then 30
  else 31

def date? : Text → Option Text
  | a :: b :: c :: d :: '-' :: e :: f :: '-' :: g :: h :: t =>
    match [a, b, c, d].all Char.isDigit, Digits.number? 10 [a, b, c, d], Digits.number? 10 [e, f] with
    | true, some year, some month => if isField e f 1 12 && isField g h 1 (daysIn year month) then some t else none
    | _, _, _ => none
  | _ => none

def time? : Text → Option Text
  | a :: b :: ':' :: c :: d :: ':' :: e :: f :: t =>
    if isField a b 0 23 && isField c d 0 59 && isField e f 0 60 then
      match t with
      | '.' :: c :: t => if c.isDigit then some (t.dropWhile Char.isDigit) else none
      | t => some t
    else none
  | _ => none

def isOffset : Text → Bool
  | [] => true
  | ['Z'] | ['z'] => true
  | [s, a, b, ':', c, d] => (s = '+' || s = '-') && isField a b 0 23 && isField c d 0 59
  | _ => false

def isMoment (t : Text) : Bool :=
  match date? t with
  | some [] => true
  | some (d :: t) => (d = 'T' || d = 't' || d = ' ') && (time? t).any isOffset
  | none => (time? t).any (· = [])

/-! ## Scalars -/

def word? (word : Text) : Option Datum :=
  if word = "true".toList then some (.boolean true)
  else if word = "false".toList then some (.boolean false)
  else if isMoment word || isFloat word || isInteger word then some .other
  else none

/-- The value at the front of a text that is none of a string, an array and a table. A date goes on
behind a space if a digit follows that. -/
def scalarValue? (t : Text) : Option (Datum × Text) :=
  let word := t.takeWhile isScalarChar
  match t.dropWhile isScalarChar with
  | ' ' :: c :: rest =>
    if date? word = some [] ∧ c.isDigit then
      (word? (word ++ ' ' :: (c :: rest).takeWhile isScalarChar)).map fun d => (d, (c :: rest).dropWhile isScalarChar)
    else (word? word).map fun d => (d, ' ' :: c :: rest)
  | rest => (word? word).map fun d => (d, rest)

theorem length_word? {word : Text} {d : Datum} (h : word? word = some d) : 0 < word.length := by
  cases word with
  | nil =>
    have : word? [] = none := rfl
    rw [this] at h; cases h
  | cons => simp

theorem length_scalarValue? {t r : Text} {d : Datum} (h : scalarValue? t = some (d, r)) : r.length < t.length := by
  have ht := congrArg List.length (List.takeWhile_append_dropWhile (p := isScalarChar) (l := t))
  rw [List.length_append] at ht
  unfold scalarValue? at h
  simp only at h
  split at h
  · next c rest hd =>
    rw [hd] at ht
    have hr := length_dropWhile_le isScalarChar (c :: rest)
    split at h
    · obtain ⟨d', _, heq⟩ := Option.map_eq_some_iff.1 h
      cases heq
      simp at ht hr ⊢; omega
    · obtain ⟨d', hw, heq⟩ := Option.map_eq_some_iff.1 h
      cases heq
      have := length_word? hw
      omega
  · obtain ⟨d', hw, heq⟩ := Option.map_eq_some_iff.1 h
    cases heq
    have := length_word? hw
    omega

end LinkPattern.Toml
