import LinkPattern.NamedValues
import LinkPattern.Datum

/-!
# Records as data

A value is a text or a list of texts, and a record is a table of values.
-/

namespace LinkPattern

namespace Value

def toDatum : Value → Datum
  | .text content => .text content
  | .list items => .list (items.map .text)

def ofDatum? : Datum → Option Value
  | .text content => some (.text content)
  | .list items => (items.mapM Datum.text?).map .list
  | _ => none

theorem ofDatum?_toDatum (v : Value) : ofDatum? v.toDatum = some v := by
  cases v with
  | text content => rfl
  | list items =>
    have : (items.map Datum.text).mapM Datum.text? = some items := by
      induction items with
      | nil => rfl
      | cons t items ih => simp [List.mapM_cons, ih, Datum.text?]
    simp [toDatum, ofDatum?, this]

end Value

namespace NamedValues

def toDatum (r : NamedValues) : Datum := .table (r.entries.map fun e => (e.1, e.2.toDatum))

def ofDatum? : Datum → Option NamedValues
  | .table entries => (entries.mapM fun e => (Value.ofDatum? e.2).map fun v => (e.1, v)).map ofList
  | _ => none

end NamedValues

end LinkPattern
