import LinkPattern.Escaping
import LinkPattern.Pattern

/-!
# Aligning a pattern with a text

The literals of a pattern are found in a text from left to right, each as early as it can be, and
the last one at the end; a placeholder captures what lies between the literals beside it. Nothing
of the text is left over.
-/

namespace LinkPattern

structure Capture (F : Type) where
  segment : Segment F
  start : Nat
  raw : Text
  deriving DecidableEq, Repr

def Capture.span {F : Type} (c : Capture F) : Span := ⟨c.start, c.start + c.raw.octetLength⟩

inductive Mismatch where
  | literal (escaped : Text) (offset : Nat)
  | trailingText (offset : Nat)
  deriving DecidableEq, Repr

def Mismatch.message : Mismatch → String
  | .literal escaped offset => "literal " ++ escaped.quoted ++ " not found at byte " ++ toString offset
  | .trailingText offset => "unmatched text from byte " ++ toString offset

namespace Alignment

variable {F : Type}

/-- The text in front of a literal and the text after it. Right after another literal, or at the
front, nothing may be in front; after a placeholder the last literal is the end of the text, any
other is where it first occurs. -/
def place (afterPlaceholder last : Bool) (literal rest : Text) : Option (Text × Text) :=
  if afterPlaceholder then
    if last then (literal.isSuffixOf? rest).map fun gap => (gap, [])
    else rest.around? literal
  else (literal.isPrefixOf? rest).map fun rest => ([], rest)

/-- Aligns `segments` with the text `rest`, which begins at `offset`, after literals that lead to
component `c` and the placeholder `pending`, if there is one. -/
def align (e : Escaping) (c : Component) (pending : Option (Segment F)) (offset : Nat) (rest : Text) :
    List (Segment F) → Except Mismatch (List (Capture F))
  | [] =>
    match pending with
    | some p => .ok [⟨p, offset, rest⟩]
    | none => if rest = [] then .ok [] else .error (.trailingText offset)
  | .literal t :: segments =>
    let literal := e.escape c t
    match place pending.isSome segments.isEmpty literal rest with
    | none => .error (.literal literal offset)
    | some (gap, rest') =>
      (align e (c.after t) none (offset + gap.octetLength + literal.octetLength) rest' segments).map fun more =>
        match pending with
        | some p => ⟨p, offset, gap⟩ :: more
        | none => more
  | p :: segments => align e c (some p) offset rest segments

end Alignment

def align {F : Type} (segments : List (Segment F)) (text : Text) (e : Escaping) :
    Except Mismatch (List (Capture F)) :=
  Alignment.align e .path none 0 text segments

end LinkPattern
