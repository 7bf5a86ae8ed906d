import LinkPattern.Url.Domain.Context
import LinkPattern.Url.Domain.Forms

/-!
# Domains

A domain is labels with dots between them. It is compared in its normal form, where capitals and
compatibility forms are the text that they stand for, and characters are composed. A label `xn--…`
is the Punycode of a label beyond ASCII, and stands for it. The characters of a label beyond ASCII
have to be allowed and in places where they can be seen for what they are.
-/

namespace LinkPattern.Url.Domain

/-!
## Punycode

A label with characters beyond ASCII is written in ASCII as its ASCII characters, a dash, and
numbers that say which further characters stand where. A number has its digits in base 36, the
least significant first, and a digit below a threshold ends it. The threshold of each column
follows a bias, which adapts to the numbers read so far. Numbers and weights have 32 bits.
-/

namespace Punycode

def digit? (c : Char) : Option Nat :=
  if c.isAlpha then some (c.toLower.toNat - 'a'.toNat)
  else if c.isDigit then some (c.toNat - '0'.toNat + 26)
  else none

def threshold (bias column : Nat) : Nat :=
  if column ≤ bias then 1 else if bias + 26 ≤ column then 26 else column - bias

def shrink (distance : Nat) : Nat × Nat :=
  if 455 < distance then
    let (rest, columns) := shrink (distance / 35)
    (rest, columns + 36)
  else (distance, 0)
termination_by distance
decreasing_by exact Nat.div_lt_self (by omega) (by omega)

def adapt (distance size : Nat) (isFirst : Bool) : Nat :=
  let distance := if isFirst then distance / 700 else distance / 2
  let (rest, columns) := shrink (distance + distance / size)
  columns + 36 * rest / (rest + 38)

/-- The text so far with the code point that was inserted last, and the number that is being read:
it began at `start` and has come to `sum`, and its next digit has this weight. -/
structure State where
  text : Text
  code : Nat
  start : Nat
  sum : Nat
  weight : Nat
  column : Nat
  bias : Nat

def State.insert? (s : State) (sum : Nat) : Option State :=
  let size := s.text.length + 1
  let code := s.code + sum / size
  let place := sum % size
  (Text.character? code).map fun c =>
    { text := s.text.insertIdx place c
      code
      start := place + 1
      sum := place + 1
      weight := 1
      column := 36
      bias := adapt (sum - s.start) size (s.start = 0) }

def limit : Nat := 0x100000000

def State.push? (s : State) (c : Char) : Option State := do
  let d ← digit? c
  let sum := s.sum + d * s.weight
  let t := threshold s.bias s.column
  if limit ≤ sum then none
  else if d < t then s.insert? sum
  else if limit ≤ s.weight * (36 - t) then none
  else return { s with sum, weight := s.weight * (36 - t), column := s.column + 36 }

def insertAll? (ascii numbers : Text) : Option Text := do
  let s ← numbers.foldlM State.push? ⟨ascii, 0x80, 0, 0, 1, 36, 72⟩
  if s.column = 36 then some s.text else none

def decode? (t : Text) : Option Text :=
  match Text.cut '-' t.reverse with
  | some (numbers, c :: ascii) =>
    if (c :: ascii).all (·.toNat < 0x80) then insertAll? (c :: ascii).reverse numbers.reverse else none
  | _ => insertAll? [] t

end Punycode

/-! ## Labels -/

def isAscii (t : Text) : Bool := t.all (·.toNat < 0x80)

def normalize (domain : Text) : Text := Composition.normalize (domain.flatMap form)

def labelLimit : Nat := 1000

def punycodeLimit : Nat := 2000

/-- What a label stands for. Punycode is only for labels beyond ASCII, in normal form and of allowed
characters. -/
def label? (label : Text) : Option Text :=
  match "xn--".toList.isPrefixOf? label with
  | none => some label
  | some code =>
    if punycodeLimit < code.length then none
    else (Punycode.decode? code).filter fun t => !isAscii t && t.all isAllowed && Composition.isNormal t

/-- A label beyond ASCII begins with no mark and has allowed characters only. Unless it is `encoded`,
it may also have code points that are without a character so far. -/
def isLabel (encoded : Bool) (label : Text) : Bool :=
  isAscii label
    || (label.length ≤ labelLimit && label.all (fun c => if encoded then isAllowed c else !isRefused c)
      && !label.head?.any isMark && Joiners.allFit [] label)

def isWellFormed (encoded : Bool) (domain : Text) : Bool :=
  match (Text.splitOn '.' domain).mapM label? with
  | none => false
  | some labels => labels.all (isLabel encoded) && Direction.areSingle labels

end LinkPattern.Url.Domain
