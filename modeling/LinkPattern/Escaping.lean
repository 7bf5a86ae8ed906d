import LinkPattern.Component
import LinkPattern.Percent

/-!
# Literals as a URL shows them

A parsed URL has some characters written as `%XX`, by rules that differ between its components and
its scheme. `Escaping.escape` writes a literal by the same rules, so that the two can be compared
character by character. Delimiters stay as they are.
-/

namespace LinkPattern

structure Escaping where
  special : Bool
  opaquePath : Bool
  deriving DecidableEq, Repr, Inhabited

namespace Escaping

open Percent

/-! The sets are these of the literals' own, and have to be those that URLs are written by. -/

def fragmentSet : EscapeSet := fun c => EscapeSet.controls c || c = ' ' || c = '"' || c = '<' || c = '>' || c = '`'

def pathSet : EscapeSet := fun c => fragmentSet c || c = '#' || c = '?' || c = '{' || c = '}'

def querySet : EscapeSet := fun c => EscapeSet.controls c || c = ' ' || c = '"' || c = '#' || c = '<' || c = '>'

def specialQuerySet : EscapeSet := fun c => querySet c || c = '\''

def set (e : Escaping) : Component → EscapeSet
  | .path => if e.opaquePath then EscapeSet.controls else pathSet
  | .query => if e.special then specialQuerySet else querySet
  | .fragment => fragmentSet

/-- The path of a special URL reads a backslash as a slash. -/
def normalize (e : Escaping) (c : Component) (x : Char) : Char :=
  if c = .path ∧ e.special ∧ !e.opaquePath ∧ x = '\\' then '/' else x

def escapeChar (e : Escaping) (c : Component) (x : Char) : Text := Percent.escapeChar (e.set c) (e.normalize c x)

def escape (e : Escaping) (c : Component) : Text → Text
  | [] => []
  | x :: t =>
    match c.opened? x with
    | some next => x :: e.escape next t
    | none => e.escapeChar c x ++ e.escape c t

theorem escape_append (e : Escaping) (c : Component) (a b : Text) :
    e.escape c (a ++ b) = e.escape c a ++ e.escape (c.after a) b := by
  induction a generalizing c with
  | nil => rfl
  | cons x a ih =>
    simp only [List.cons_append, escape, Component.after]
    cases c.opened? x with
    | none => simp [ih]
    | some next => simp [ih]

end Escaping

end LinkPattern
