import LinkPattern.Pattern

/-!
# Building a pattern

A builder takes segments one at a time. Literals that follow each other become one literal, empty
ones are dropped, and a placeholder is refused where it would leave the pattern ambiguous: right
after another placeholder, for a field that is in use, or against the kind that the field has.
-/

namespace LinkPattern

inductive PatternError where
  | consecutivePlaceholders (previous new : Text)
  | duplicateField (field : Text)
  | kindMismatch (field : Text) (declared used : FieldKind)
  deriving DecidableEq, Repr

def PatternError.message : PatternError → String
  | .consecutivePlaceholders previous new =>
    "placeholder " ++ new.quoted ++ " directly follows placeholder " ++ previous.quoted
      ++ " with no literal text between them"
  | .duplicateField field => "field " ++ field.quoted ++ " is already bound by this pattern"
  | .kindMismatch field declared used =>
    "field " ++ field.quoted ++ " is a " ++ declared.label ++ " field but was used as a " ++ used.label
      ++ " placeholder"

namespace Pattern

section
variable {F : Type}

/-! ## The flags of segments -/

def mark (flags : Bool × Bool) : Component.Piece → Bool × Bool
  | .delimiter d => if d = '?' then (true, flags.2) else (flags.1, true)
  | .text .. => flags

/-- The flags behind the rest of the segments, which begins in component `c`. -/
def delimiters (c : Component) (flags : Bool × Bool) : List (Segment F) → Bool × Bool
  | [] => flags
  | s :: rest =>
    let cut := c.split s.literalText
    delimiters cut.2 (cut.1.foldl mark flags) rest

theorem mark_eq (flags : Bool × Bool) (p : Component.Piece) :
    mark flags p =
      (flags.1 || (openedBy? p).toList.contains .query, flags.2 || (openedBy? p).toList.contains .fragment) := by
  cases p with
  | text c t => simp [mark, openedBy?]
  | delimiter d => by_cases hd : d = '?' <;> simp [mark, openedBy?, hd]

theorem foldl_mark (flags : Bool × Bool) (pieces : List Component.Piece) :
    pieces.foldl mark flags =
      (flags.1 || (pieces.filterMap openedBy?).contains .query,
        flags.2 || (pieces.filterMap openedBy?).contains .fragment) := by
  induction pieces generalizing flags with
  | nil => simp
  | cons p pieces ih =>
    rw [List.foldl_cons, ih, mark_eq, List.filterMap_cons]
    cases openedBy? p <;> simp [Bool.or_assoc]

theorem delimiters_eq (c : Component) (flags : Bool × Bool) (segments : List (Segment F)) :
    delimiters c flags segments =
      (flags.1 || (opened c segments).contains .query, flags.2 || (opened c segments).contains .fragment) := by
  induction segments generalizing c flags with
  | nil => simp [delimiters, opened]
  | cons s rest ih =>
    rw [delimiters, ih, foldl_mark]
    simp only [opened, List.contains_append, Bool.or_assoc]
    rfl

def of (segments : List (Segment F)) : Pattern F where
  segments
  addressesQuery := (delimiters .path (false, false) segments).1
  addressesFragment := (delimiters .path (false, false) segments).2
  addressesQuery_eq := by rw [delimiters_eq]; rfl
  addressesFragment_eq := by rw [delimiters_eq]; rfl

@[simp] theorem segments_of (segments : List (Segment F)) : (of segments).segments = segments := rfl

@[simp] theorem of_segments (p : Pattern F) : of p.segments = p := eq_of_segments rfl

end

/-- The segments so far, the latest first. -/
structure Builder (F : Type) where
  latestFirst : List (Segment F)
  deriving DecidableEq, Repr

namespace Builder

variable {F : Type}

def empty : Builder F := ⟨[]⟩

def build (b : Builder F) : Pattern F := .of b.latestFirst.reverse

/-- Adds literal text, to the latest segment when that is a literal. -/
def literal (b : Builder F) (t : Text) : Builder F :=
  if t = [] then b
  else match b.latestFirst with
    | .literal earlier :: rest => ⟨.literal (earlier ++ t) :: rest⟩
    | segments => ⟨.literal t :: segments⟩

variable [DecidableEq F] [Vocabulary F]

def refusal? (b : Builder F) (f : F) (used : FieldKind) : Option PatternError :=
  match b.latestFirst.head?.bind Segment.field? with
  | some previous => some (.consecutivePlaceholders (Vocabulary.name previous) (Vocabulary.name f))
  | none =>
    if f ∈ b.latestFirst.filterMap Segment.field? then some (.duplicateField (Vocabulary.name f))
    else match Vocabulary.kind? f with
      | some declared => if declared = used then none else some (.kindMismatch (Vocabulary.name f) declared used)
      | none => none

def placeholder (b : Builder F) (s : Segment F) (f : F) (used : FieldKind) : Except PatternError (Builder F) :=
  match b.refusal? f used with
  | some e => .error e
  | none => .ok ⟨s :: b.latestFirst⟩

def field (b : Builder F) (f : F) : Except PatternError (Builder F) := b.placeholder (.field f) f .scalar

def list (b : Builder F) (f : F) (separator : Char) : Except PatternError (Builder F) :=
  b.placeholder (.list f separator) f .list

def push (b : Builder F) : Segment F → Except PatternError (Builder F)
  | .literal t => .ok (b.literal t)
  | .field f => b.field f
  | .list f separator => b.list f separator

def pushAll (b : Builder F) : List (Segment F) → Except PatternError (Builder F)
  | [] => .ok b
  | s :: rest => do (← b.push s).pushAll rest

def pushSome (b : Builder F) : List (Segment F) → Builder F
  | [] => b
  | s :: rest =>
    match b.push s with
    | .ok b' => b'.pushSome rest
    | .error _ => b.pushSome rest

end Builder

def ofSegments {F : Type} [DecidableEq F] [Vocabulary F] (segments : List (Segment F)) :
    Except PatternError (Pattern F) :=
  (Builder.empty.pushAll segments).map Builder.build

end Pattern

end LinkPattern
