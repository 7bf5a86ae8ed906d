import LinkPattern.Alignment
import LinkPattern.Options

/-!
# Matching URLs

A matcher reads a URL, aligns a pattern with its subject and binds what the placeholders capture.
All values of a match are made before any is kept, so a failure leaves a record as it was.
-/

namespace LinkPattern

/-! ## Binding captures

A capture becomes the value of its field: decoded, and for a list cut at the separator before that. -/

inductive MatchError where
  | malformed (cause : UrlError)
  | undecodable (raw : Text) (cause : Utf8.DecodeError)
  | noMatch
  deriving DecidableEq, Repr

def MatchError.message : MatchError → String
  | .malformed cause => "malformed URL: " ++ cause.message
  | .undecodable raw cause =>
    "malformed URL: capture " ++ raw.quoted ++ " does not decode to UTF-8: " ++ cause.message
  | .noMatch => "URL does not match the pattern"

abbrev Bindings (F : Type) := List (F × Value)

namespace Bindings

variable {F : Type}

def decode (plusAsSpace : Bool) (raw : Text) : Except MatchError Text :=
  (Percent.decode (if plusAsSpace then Form.plusToSpace raw else raw)).mapError (.undecodable raw)

def plusAsSpace (o : Options) (query? : Option Span) (c : Capture F) : Bool :=
  o.queryPlusAsSpace && query?.any (·.encloses c.span)

def ofCapture (o : Options) (query? : Option Span) (c : Capture F) : Except MatchError (Option (F × Value)) :=
  match c.segment with
  | .literal _ => .ok none
  | .field f =>
    if c.raw = [] ∧ o.emptyField = .noMatch then .error .noMatch
    else (decode (plusAsSpace o query? c) c.raw).map fun t => some (f, .text t)
  | .list f separator =>
    if c.raw = [] then .ok (if o.emptyList = .empty then some (f, .list []) else none)
    else ((Text.splitOn separator c.raw).mapM (decode (plusAsSpace o query? c))).map fun items =>
      some (f, .list items)

def ofCaptures (o : Options) (query? : Option Span) : List (Capture F) → Except MatchError (Bindings F)
  | [] => .ok []
  | c :: rest => do
    let binding? ← ofCapture o query? c
    let more ← ofCaptures o query? rest
    return binding?.toList ++ more

def store {R : Type} [Record R F] (record : R) (bindings : Bindings F) : R :=
  bindings.foldl (fun r b => Record.assign r b.1 b.2) record

def commit {R : Type} [Record R F] (bindings : Bindings F) : StateM R Nat := do
  bindings.forM fun b => modify fun r => Record.assign r b.1 b.2
  return bindings.length

end Bindings

/-! ## Matchers -/

namespace Pattern

variable {F : Type}

/-- The URL has a query or a fragment with something in it that the pattern does not speak of. -/
def leavesOut (p : Pattern F) (u : Url) : Bool :=
  (u.query?.any (· ≠ []) && !p.addressesQuery) || (u.fragment?.any (· ≠ []) && !p.addressesFragment)

end Pattern

structure Matcher where
  options : Options := {}
  base? : Option Url := none
  deriving DecidableEq, Repr, Inhabited

namespace Matcher

def ofOptions (o : Options) : Except (List OptionsFault) Matcher := o.base?.map fun base? => ⟨o, base?⟩

variable {F : Type}

def bindings (m : Matcher) (p : Pattern F) (url : Text) : Except MatchError (Bindings F) := do
  let u ← (Url.parse url m.base?).mapError .malformed
  if m.options.strictComponents && p.leavesOut u then throw .noMatch
  let subject := u.subject p.addressesQuery p.addressesFragment
  let captures ← (align p.segments subject.text subject.escaping).mapError fun _ => .noMatch
  Bindings.ofCaptures m.options subject.query? captures

def isMatch (m : Matcher) (p : Pattern F) (url : Text) : Bool := (m.bindings p url).isOk

def matchUrl {R : Type} [Record R F] (m : Matcher) (p : Pattern F) (url : Text) (record : R) : Except MatchError R :=
  (m.bindings p url).map (Bindings.store record)

/-- An attempt to match into the record at hand, which is left as it is when that fails. -/
def attempt {R : Type} [Record R F] (m : Matcher) (p : Pattern F) (url : Text) : ExceptT MatchError (StateM R) Unit := do
  let bindings : Bindings F ← m.bindings p url
  let _ ← bindings.commit (R := R)

end Matcher

end LinkPattern
