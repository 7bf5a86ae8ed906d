import LinkPattern.Text

/-!
# Components

Text that is to be matched runs through the path, the query and the fragment of a URL in this
order. The first `?` of the path opens the query, the first `#` of either opens the fragment, and
nothing ends the fragment. `Component.split` cuts a text at these delimiters.
-/

namespace LinkPattern

inductive Component where
  | path
  | query
  | fragment
  deriving DecidableEq, Repr, Inhabited

namespace Component

def opened? : Component → Char → Option Component
  | .path, '?' => some .query
  | .path, '#' => some .fragment
  | .query, '#' => some .fragment
  | _, _ => none

def after : Component → Text → Component
  | c, [] => c
  | c, x :: t => after ((c.opened? x).getD c) t

inductive Piece where
  | text (component : Component) (text : Text)
  | delimiter (char : Char)
  deriving DecidableEq, Repr

def Piece.extend (c : Component) (x : Char) : List Piece → List Piece
  | .text c' t :: rest => if c = c' then .text c (x :: t) :: rest else .text c [x] :: .text c' t :: rest
  | rest => .text c [x] :: rest

/-- The pieces of a text that begins in component `c`; none of them is an empty stretch. -/
def pieces (c : Component) : Text → List Piece
  | [] => []
  | x :: t =>
    match c.opened? x with
    | some next => .delimiter x :: next.pieces t
    | none => Piece.extend c x (c.pieces t)

def split (c : Component) (t : Text) : List Piece × Component := (c.pieces t, c.after t)

theorem after_append (c : Component) (a b : Text) : c.after (a ++ b) = (c.after a).after b := by
  induction a generalizing c with
  | nil => rfl
  | cons x a ih => exact ih _

end Component

end LinkPattern
