import LinkPattern.Text

/-!
# Data

The data that settings files and records are written as and read from.
-/

namespace LinkPattern

/-- Nested data; numbers and dates are told apart from the rest only, since nothing here is one. -/
inductive Datum where
  | null
  | boolean (value : Bool)
  | text (value : Text)
  | list (items : List Datum)
  | table (entries : List (Text × Datum))
  | other
  deriving Repr, Inhabited

namespace Datum

def isNull : Datum → Bool
  | .null => true
  | _ => false

def isEmpty : Datum → Bool
  | .list items => items.isEmpty
  | .table entries => entries.isEmpty
  | _ => false

def boolean? : Datum → Option Bool
  | .boolean value => some value
  | _ => none

def text? : Datum → Option Text
  | .text value => some value
  | _ => none

def optionalText? : Datum → Option (Option Text)
  | .null => some none
  | .text value => some (some value)
  | _ => none

/-- A choice is named by a text, or by the only key of a table, where `isPlain` tells the data that
may go with it. -/
def choice? (isPlain : Datum → Bool) : Datum → Option Text
  | .text name => some name
  | .table [(name, d)] => if isPlain d then some name else none
  | _ => none

def entry? {α : Type} (entries : List (Text × Datum)) (key : String) (default : α) (read? : Datum → Option α) :
    Option α :=
  match entries.find? fun e => e.1 = key.toList with
  | some e => read? e.2
  | none => some default

end Datum

end LinkPattern
