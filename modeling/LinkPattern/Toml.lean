import LinkPattern.Toml.Value

/-!
# TOML documents

A document is a list of statements: headers and entries, with blank lines and comments between
them. `Toml.parse?` gives what they say together, unless one of them is malformed or they do not
fit together.
-/

namespace LinkPattern.Toml

inductive Statement where
  | blank
  | header (path : List Text) (key : Text)
  | itemHeader (path : List Text) (key : Text)
  | entry (path : List Text) (key : Text) (d : Datum)

def headerEnd? (item : Bool) (t : Text) : Option (Statement × Left t) :=
  match key? t with
  | some ((path, key), ⟨rest, h⟩) =>
    match item, rest with
    | true, ']' :: ']' :: rest => some (.itemHeader path key, ⟨rest, Nat.lt_of_succ_lt (Nat.lt_of_succ_lt h)⟩)
    | false, ']' :: rest => some (.header path key, ⟨rest, Nat.lt_of_succ_lt h⟩)
    | _, _ => none
  | none => none

def entry? (t : Text) : Option (Statement × Left t) :=
  match keyEquals? t with
  | none => none
  | some ((path, key), ⟨rest, h⟩) =>
    match value? depthLimit (skipSpaces rest) with
    | none => none
    | some (d, ⟨rest', h'⟩) => some (.entry path key d, ⟨rest', length_lt_of_skipSpaces h' h⟩)

def statementFront? : Reader Statement
  | '[' :: '[' :: t => (headerEnd? true t).map fun (s, rest) => (s, (rest.cons '[').cons '[')
  | '[' :: t => (headerEnd? false t).map fun (s, rest) => (s, rest.cons '[')
  | t => entry? t

def blankLine? (c : Char) (t : Text) : Option (Left (c :: t)) :=
  match skipComment (c :: t), length_skipComment (c :: t) with
  | [], _ => some ⟨[], Nat.succ_pos _⟩
  | d :: u, hu =>
    match h : lineEnd? (d :: u) with
    | none => none
    | some rest => some ⟨rest, Nat.lt_of_lt_of_le (length_lineEnd? h) hu⟩

def statement? : Reader Statement
  | [] => none
  | c :: t =>
    if c = '#' ∨ (lineEnd? (c :: t)).isSome then (blankLine? c t).map fun rest => (.blank, rest)
    else
      match statementFront? (c :: t) with
      | none => none
      | some (s, ⟨rest, hr⟩) =>
        match h : lineRest? rest with
        | none => none
        | some rest' => some (s, ⟨rest', Nat.lt_of_le_of_lt (length_lineRest? h) hr⟩)

def statements? (t : Text) : Option (List Statement) :=
  if skipSpaces t = [] then some []
  else
    match statement? (skipSpaces t) with
    | none => none
    | some (s, ⟨rest, hr⟩) =>
      have : rest.length < t.length := Nat.lt_of_lt_of_le hr (length_skipSpaces t)
      (statements? rest).map (s :: ·)
termination_by t.length

/-! ## What the statements say -/

structure Progress where
  root : Node
  current : List Text

def Progress.add (p : Progress) : Statement → Option Progress
  | .blank => some p
  | .header path key => (p.root.within false (Node.openTable key) path).map fun root => ⟨root, path ++ [key]⟩
  | .itemHeader path key => (p.root.within false (Node.openItem key) path).map fun root => ⟨root, path ++ [key]⟩
  | .entry path key d => (p.root.within false (Node.assign path key d) p.current).map fun root => ⟨root, p.current⟩

/-- A byte order mark in front of a document does not count. -/
def skipMark : Text → Text
  | '\uFEFF' :: t => t
  | t => t

def parse? (t : Text) : Option Datum := do
  let statements ← statements? (skipMark t)
  let p ← statements.foldlM Progress.add ⟨.emptyTable, []⟩
  return p.root.datum

end LinkPattern.Toml
