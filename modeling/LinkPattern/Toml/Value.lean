import LinkPattern.Toml.Quoted
import LinkPattern.Toml.Scalar

/-!
# Keys and values in TOML

Keys may have dots; values are strings, scalars, arrays over any number of lines and tables on one
line, nested less than eighty deep.
-/

namespace LinkPattern.Toml

/-!
## Tables

Headers and dotted keys name tables by path, and a document may come back to a table in some ways
and not in others: a header to one that only longer headers have named, a dotted key to one that
only dotted keys have made. A tree keeps what that depends on.
-/

/-- A value that is complete, a table, or an array of tables to which headers add. A table is
`implied` as long as no header names it, and `dotted` if dotted keys made it. -/
inductive Node where
  | leaf (d : Datum)
  | table (implied dotted : Bool) (entries : List (Text × Node))
  | tables (items : List Node)

namespace Node

def emptyTable : Node := .table false false []

def update (key : Text) (f : Option Node → Option Node) : List (Text × Node) → Option (List (Text × Node))
  | [] => (f none).map fun n => [(key, n)]
  | e :: rest =>
    if e.1 = key then (f (some e.2)).map fun n => (key, n) :: rest
    else (update key f rest).map (e :: ·)

/-- Applies `f` to the table at a path. Tables on the way are made where there are none, and of an
array of tables the last is meant. A dotted path passes through no table that a header names. -/
def within (dotted : Bool) (f : Node → Option Node) : List Text → Node → Option Node
  | [], n => f n
  | key :: path, .table implied d entries =>
    (update key (fun
      | none => within dotted f path (.table true dotted [])
      | some (.table implied d entries) =>
        if dotted && !implied then none else within dotted f path (.table implied d entries)
      | some (.tables items) =>
        match items.reverse with
        | last :: earlier => (within dotted f path last).map fun n => .tables (n :: earlier).reverse
        | [] => none
      | some (.leaf _) => none) entries).map (.table implied d)
  | _ :: _, _ => none

/-- A table with one more value, whose key is new. A key without dots goes into no table that
dotted keys made, and one with dots only into such a table. -/
def insert (dotted : Bool) (key : Text) (d : Datum) : Node → Option Node
  | .table implied dotted' entries =>
    if dotted = dotted' then
      (update key (fun n? => if n?.isSome then none else some (.leaf d)) entries).map (.table implied dotted')
    else none
  | _ => none

def assign (path : List Text) (key : Text) (d : Datum) (n : Node) : Option Node :=
  within true (insert (path ≠ []) key d) path n

def openTable (key : Text) : Node → Option Node
  | .table implied dotted entries =>
    (update key (fun
      | none => some emptyTable
      | some (.table true false entries) => some (.table false false entries)
      | some _ => none) entries).map (.table implied dotted)
  | _ => none

def openItem (key : Text) : Node → Option Node
  | .table implied dotted entries =>
    (update key (fun
      | none => some (.tables [emptyTable])
      | some (.tables items) => some (.tables (items ++ [emptyTable]))
      | some _ => none) entries).map (.table implied dotted)
  | _ => none

def datum : Node → Datum
  | .leaf d => d
  | .table _ _ entries => .table (entries.map fun e => (e.1, e.2.datum))
  | .tables items => .list (items.map datum)
termination_by n => sizeOf n
decreasing_by
  · next h =>
    obtain ⟨k, n⟩ := e
    have := List.sizeOf_lt_of_mem h
    simp at this ⊢; omega
  · next h =>
    have := List.sizeOf_lt_of_mem h
    simp at this ⊢; omega

end Node

/-! ## What is left -/

abbrev Left (t : Text) := { rest : Text // rest.length < t.length }

abbrev Reader (α : Type) := (t : Text) → Option (α × Left t)

/-- Arrays, tables and keys go this deep at most. -/
def depthLimit : Nat := 79

theorem length_lt_of_skipSpaces {t rest rest' : Text} (h' : rest'.length < (skipSpaces rest).length)
    (h : rest.length < t.length) : rest'.length < t.length :=
  Nat.lt_trans (Nat.lt_of_lt_of_le h' (length_skipSpaces rest)) h

/-! ## Keys -/

def isKeyChar (c : Char) : Bool := c.isAlphanum || c = '_' || c = '-'

theorem length_dropWhile_lt {p : Char → Bool} {t word : Text} {c : Char} (h : t.takeWhile p = c :: word) :
    (t.dropWhile p).length < t.length := by
  have := congrArg List.length (List.takeWhile_append_dropWhile (p := p) (l := t))
  rw [List.length_append, h, List.length_cons] at this
  omega

def keyPart? (t : Text) : Option (Text × Left t) :=
  match h : shortString? t with
  | some (s, rest) => some (s, ⟨rest, length_shortString? h⟩)
  | none =>
    match h : t.takeWhile isKeyChar with
    | [] => none
    | c :: word => some (c :: word, ⟨t.dropWhile isKeyChar, length_dropWhile_lt h⟩)

def keyParts? (t : Text) : Option ((Text × List Text) × Left t) :=
  match keyPart? (skipSpaces t) with
  | none => none
  | some (part, ⟨rest, hr⟩) =>
    have hr : rest.length < t.length := Nat.lt_of_lt_of_le hr (length_skipSpaces t)
    have hs : (skipSpaces rest).length < t.length := Nat.lt_of_le_of_lt (length_skipSpaces rest) hr
    match h : skipSpaces rest with
    | '.' :: more =>
      have hm : more.length < t.length := length_lt_of_cons h (Nat.le_of_lt hs)
      match keyParts? more with
      | none => none
      | some ((first, others), ⟨rest', hr'⟩) => some ((part, first :: others), ⟨rest', Nat.lt_trans hr' hm⟩)
    | _ => some ((part, []), ⟨skipSpaces rest, hs⟩)
termination_by t.length

def key? (t : Text) : Option ((List Text × Text) × Left t) :=
  match keyParts? t with
  | none => none
  | some ((first, others), rest) =>
    if others.length < depthLimit then
      some (((first :: others).dropLast, (others.getLast?).getD first), rest)
    else none

def keyEquals? (t : Text) : Option ((List Text × Text) × Left t) :=
  match key? t with
  | some (key, ⟨'=' :: rest, h⟩) => some (key, ⟨rest, Nat.lt_of_succ_lt h⟩)
  | _ => none

/-! ## Values -/

def items? (element? : Reader Datum) (t : Text) : Option (List Datum × Left t) :=
  match h : skipTrivia false t with
  | ']' :: rest => some ([], ⟨rest, length_lt_of_cons h (length_skipTrivia false t)⟩)
  | _ =>
    match element? (skipTrivia false t) with
    | none => none
    | some (d, ⟨rest, hr⟩) =>
      have hr : rest.length < t.length := Nat.lt_of_lt_of_le hr (length_skipTrivia false t)
      have hs : (skipTrivia false rest).length < t.length := Nat.lt_of_le_of_lt (length_skipTrivia false rest) hr
      match h : skipTrivia false rest with
      | ']' :: more => some ([d], ⟨more, length_lt_of_cons h (Nat.le_of_lt hs)⟩)
      | ',' :: more =>
        have hm : more.length < t.length := length_lt_of_cons h (Nat.le_of_lt hs)
        match items? element? more with
        | none => none
        | some (ds, ⟨more', hm'⟩) => some (d :: ds, ⟨more', Nat.lt_trans hm' hm⟩)
      | _ => none
termination_by t.length

def entries? (element? : Reader Datum) (n : Node) (t : Text) : Option (Node × Left t) :=
  match keyEquals? t with
  | none => none
  | some ((path, key), ⟨rest, hr⟩) =>
    match element? (skipSpaces rest) with
    | none => none
    | some (d, ⟨rest', hr'⟩) =>
      have hr' : rest'.length < t.length := length_lt_of_skipSpaces hr' hr
      have hs : (skipSpaces rest').length < t.length := Nat.lt_of_le_of_lt (length_skipSpaces rest') hr'
      match n.assign path key d, h : skipSpaces rest' with
      | some n, '}' :: more => some (n, ⟨more, length_lt_of_cons h (Nat.le_of_lt hs)⟩)
      | some n, ',' :: more =>
        have hm : more.length < t.length := length_lt_of_cons h (Nat.le_of_lt hs)
        match entries? element? n more with
        | none => none
        | some (n, ⟨more', hm'⟩) => some (n, ⟨more', Nat.lt_trans hm' hm⟩)
      | _, _ => none
termination_by t.length

def plain? : Reader Datum := fun t =>
  match h : string? t with
  | some (s, rest) => some (.text s, ⟨rest, length_string? h⟩)
  | none =>
    match h : scalarValue? t with
    | some (d, rest) => some (d, ⟨rest, length_scalarValue? h⟩)
    | none => none

def Left.cons {t : Text} (c : Char) (rest : Left t) : Left (c :: t) := ⟨rest.1, Nat.lt_succ_of_lt rest.2⟩

def value? : Nat → Reader Datum
  | 0, t => plain? t
  | depth + 1, '[' :: t => (items? (value? depth) t).map fun (ds, rest) => (.list ds, rest.cons '[')
  | depth + 1, '{' :: t =>
    match h : skipSpaces t with
    | '}' :: rest => some (.table [], ⟨rest, Nat.lt_succ_of_lt (length_lt_of_cons h (length_skipSpaces t))⟩)
    | _ => (entries? (value? depth) .emptyTable t).map fun (n, rest) => (n.datum, rest.cons '{')
  | _ + 1, t => plain? t

end LinkPattern.Toml
