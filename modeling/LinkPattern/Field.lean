import LinkPattern.Text

/-!
# Fields and values

A placeholder names a field, and a match gives a field a value: one text or a list of texts. Which
names there are, and which kind of value a field is meant for, is up to a vocabulary: a type whose
values are the fields. Plain text is a vocabulary where any name goes; a schema is one where the
declared names go.
-/

namespace LinkPattern

inductive FieldKind where
  | scalar
  | list
  deriving DecidableEq, Repr

def FieldKind.label : FieldKind → String
  | .scalar => "scalar"
  | .list => "list"

inductive Value where
  | text (content : Text)
  | list (items : List Text)
  deriving DecidableEq, Repr

namespace Value

def kind : Value → FieldKind
  | .text _ => .scalar
  | .list _ => .list

def asText? : Value → Option Text
  | .text content => some content
  | .list _ => none

def asList? : Value → Option (List Text)
  | .text _ => none
  | .list items => some items

end Value

/-- The fields of a type, under their names. `ofName?` may know a field by further names; a field
without a kind takes any value. -/
class Vocabulary (F : Type) where
  name : F → Text
  ofName? : Text → Option F
  kind? : F → Option FieldKind

instance : Vocabulary Text where
  name := id
  ofName? := some
  kind? _ := none

/-! ## Schemas -/

structure Declaration where
  name : Text
  kind? : Option FieldKind
  aliases : List Text
  deriving DecidableEq, Repr

def Declaration.answersTo (d : Declaration) (n : Text) : Bool := d.name = n || d.aliases.contains n

/-- Declared fields; the first that answers to a name is meant by it. -/
abbrev Schema := List Declaration

structure Schema.Field (s : Schema) where
  index : Fin s.length
  deriving DecidableEq, Repr

instance (s : Schema) : Vocabulary (Schema.Field s) where
  name f := s[f.index].name
  ofName? n := (s.findFinIdx? (·.answersTo n)).map Schema.Field.mk
  kind? f := s[f.index].kind?

/-! ## Records -/

class Record (R F : Type) where
  assign : R → F → Value → R

end LinkPattern
