import LinkPattern.Options
import LinkPattern.Toml

/-!
# Options from settings files

Options are a table. A key that is absent leaves its option as it is by default, and a key that is
no option says nothing. A settings file is a TOML document in UTF-8, and options that are read from
one are valid.
-/

namespace LinkPattern

namespace EmptyField

def label : EmptyField → String
  | .noMatch => "no-match"
  | .bind => "bind"

def ofLabel? (label : Text) : Option EmptyField := [noMatch, bind].find? (·.label.toList = label)

end EmptyField

namespace EmptyList

def label : EmptyList → String
  | .empty => "empty"
  | .unset => "unset"

def ofLabel? (label : Text) : Option EmptyList := [empty, unset].find? (·.label.toList = label)

end EmptyList

namespace Options

def keys : List String := ["empty-field", "empty-list", "strict-components", "query-plus-as-space", "base-url"]

def toDatum (o : Options) : Datum :=
  .table ((keys.map String.toList).zip [
    .text o.emptyField.label.toList,
    .text o.emptyList.label.toList,
    .boolean o.strictComponents,
    .boolean o.queryPlusAsSpace,
    o.baseUrl?.elim .null .text])

def ofEntries? (isPlain : Datum → Bool) (entries : List (Text × Datum)) : Option Options := do
  let emptyField ← Datum.entry? entries "empty-field" .noMatch fun d => (d.choice? isPlain).bind EmptyField.ofLabel?
  let emptyList ← Datum.entry? entries "empty-list" .empty fun d => (d.choice? isPlain).bind EmptyList.ofLabel?
  let strictComponents ← Datum.entry? entries "strict-components" false Datum.boolean?
  let queryPlusAsSpace ← Datum.entry? entries "query-plus-as-space" false Datum.boolean?
  let baseUrl? ← Datum.entry? entries "base-url" none Datum.optionalText?
  return { emptyField, emptyList, strictComponents, queryPlusAsSpace, baseUrl? }

/-- Options from a table, or from a list that gives them in the order of their keys. Where a choice
is spelled as a table, `isPlain` tells the data that may go with it. -/
def ofDatum? (isPlain : Datum → Bool) : Datum → Option Options
  | .table entries => ofEntries? isPlain entries
  | .list items =>
    if items.length ≤ keys.length then ofEntries? isPlain ((keys.map String.toList).zip items) else none
  | _ => none

end Options

/-! ## Settings files -/

inductive SettingsError where
  | notFound
  | notText
  | malformed
  | invalid (faults : List OptionsFault)
  deriving DecidableEq, Repr

namespace Options

/-- Options from a TOML document. A choice may be spelled as a table with an empty value. -/
def ofToml (document : Text) : Except SettingsError Options :=
  match (Toml.parse? document).bind (ofDatum? Datum.isEmpty) with
  | none => .error .malformed
  | some o =>
    match o.faults with
    | [] => .ok o
    | faults => .error (.invalid faults)

def ofFile (octets? : Option (List UInt8)) : Except SettingsError Options :=
  match octets? with
  | none => .error .notFound
  | some octets =>
    match Utf8.decode octets with
    | .error _ => .error .notText
    | .ok document => ofToml document

end Options

end LinkPattern
