import LinkPattern.Component
import LinkPattern.Field

/-!
# Patterns

A pattern is literal text with placeholders in it. Its literals, read one after another, run
through the components of a URL, and so say which component each placeholder belongs to and
whether the pattern speaks of a query or a fragment at all.
-/

namespace LinkPattern

/-- Literal text, a placeholder for one value, or one for values with a separator between them. -/
inductive Segment (F : Type) where
  | literal (text : Text)
  | field (field : F)
  | list (field : F) (separator : Char)
  deriving DecidableEq, Repr

namespace Segment

variable {F : Type}

def field? : Segment F → Option F
  | .literal _ => none
  | .field f | .list f _ => some f

def isPlaceholder (s : Segment F) : Bool := s.field?.isSome

def kind? : Segment F → Option FieldKind
  | .literal _ => none
  | .field _ => some .scalar
  | .list .. => some .list

def literalText : Segment F → Text
  | .literal t => t
  | .field _ | .list .. => []

@[simp] theorem field?_literal (t : Text) : (literal t : Segment F).field? = none := rfl

@[simp] theorem field?_field (f : F) : (field f).field? = some f := rfl

@[simp] theorem field?_list (f : F) (d : Char) : (list f d).field? = some f := rfl

@[simp] theorem isPlaceholder_literal (t : Text) : (literal t : Segment F).isPlaceholder = false := rfl

@[simp] theorem isPlaceholder_field (f : F) : (field f).isPlaceholder = true := rfl

@[simp] theorem isPlaceholder_list (f : F) (d : Char) : (list f d).isPlaceholder = true := rfl

theorem eq_literal {s : Segment F} (h : s.isPlaceholder = false) : ∃ t, s = .literal t := by
  cases s with
  | literal t => exact ⟨t, rfl⟩
  | field f => cases h
  | list f d => cases h

theorem literalText_of_isPlaceholder {s : Segment F} (h : s.isPlaceholder = true) : s.literalText = [] := by
  cases s with
  | literal t => cases h
  | field f => rfl
  | list f d => rfl

end Segment

namespace Pattern

variable {F : Type}

def openedBy? : Component.Piece → Option Component
  | .delimiter d => some (if d = '?' then .query else .fragment)
  | .text .. => none

def opened (c : Component) : List (Segment F) → List Component
  | [] => []
  | s :: rest => (c.pieces s.literalText).filterMap openedBy? ++ opened (c.after s.literalText) rest

end Pattern

/-- Segments, and whether their literals open a query and a fragment. -/
structure Pattern (F : Type) where
  segments : List (Segment F)
  addressesQuery : Bool
  addressesFragment : Bool
  addressesQuery_eq : addressesQuery = (Pattern.opened .path segments).contains .query
  addressesFragment_eq : addressesFragment = (Pattern.opened .path segments).contains .fragment
  deriving DecidableEq, Repr

namespace Pattern

variable {F : Type}

def size (p : Pattern F) : Nat := p.segments.length

def isEmpty (p : Pattern F) : Bool := p.segments.isEmpty

def fields (p : Pattern F) : List F := p.segments.filterMap Segment.field?

theorem eq_of_segments {p q : Pattern F} (h : p.segments = q.segments) : p = q := by
  obtain ⟨segments, query, fragment, rfl, rfl⟩ := p
  obtain ⟨segments', query', fragment', rfl, rfl⟩ := q
  cases h
  rfl

end Pattern

end LinkPattern
