import LinkPattern.Escaping
import LinkPattern.Url.Path

/-!
# URLs

A text is read as a URL on its own or relative to another. Of a URL the parts are kept that
matching looks at: path, query and fragment as the URL writes them, and the scheme, which decides
how they are escaped. An empty query or fragment differs from none. A text may be of any length: the
error of a parser whose offsets have 32 bits, for URLs of 4 GB and more, is left out.
-/

namespace LinkPattern

structure Url where
  scheme : Text
  /-- The path is no path of segments, and nothing is relative to this URL. -/
  isOpaque : Bool
  path : Text
  query? : Option Text
  fragment? : Option Text
  deriving DecidableEq, Repr

namespace Url

open Percent

def kindOf (scheme : Text) : SchemeKind :=
  if scheme = "file".toList then .file
  else if ["http", "https", "ws", "wss", "ftp"].any (·.toList = scheme) then .special
  else .other

def kind (u : Url) : SchemeKind := kindOf u.scheme

def specialSchemes : List String := ["http", "https", "ws", "wss", "ftp", "file"]

def escaping (u : Url) : Escaping := ⟨specialSchemes.any (·.toList = u.scheme), u.isOpaque⟩

/-! ## References -/

/-- A text cut at the first `#` and before that at the first `?`. The front has its tabs and line ends
still, which count in the path of a file. -/
structure Reference where
  front : Text
  query? : Option Text
  fragment? : Option Text
  deriving DecidableEq, Repr

def trim (t : Text) : Text :=
  ((t.dropWhile (·.toNat ≤ 0x20)).reverse.dropWhile (·.toNat ≤ 0x20)).reverse

def cutOff (d : Char) (t : Text) : Text × Option Text :=
  match Text.cut d t with
  | some (before, after) => (before, some after)
  | none => (t, none)

def Reference.ofText (t : Text) : Reference :=
  let (rest, fragment?) := cutOff '#' (trim t)
  let (front, query?) := cutOff '?' rest
  ⟨front, query?.map significant, fragment?.map significant⟩

def scheme? (t : Text) : Option (Text × Text) :=
  match (Text.cut ':' t).map fun (front, rest) => (significant front, rest) with
  | some (c :: scheme, rest) =>
    if c.isAlpha ∧ scheme.all (fun x => x.isAlphanum || x = '+' || x = '-' || x = '.') then
      some ((c :: scheme).map Char.toLower, rest)
    else none
  | _ => none

/-! ## Resolution -/

def escapeQuery (kind : SchemeKind) (query : Text) : Text :=
  escape (if kind.isSpecial then EscapeSet.specialQuery else EscapeSet.query) query

def Reference.withPath (r : Reference) (scheme : Text) (isOpaque : Bool) (path : Text) : Url :=
  { scheme, isOpaque, path
    query? := r.query?.map (escapeQuery (kindOf scheme))
    fragment? := r.fragment?.map (escape EscapeSet.fragment) }

def Reference.pathAfterAuthority (r : Reference) (kind : SchemeKind) (t : Text) : Except UrlError Text := do
  return Path.afterAuthority kind (← Authority.skip kind (r.query?.isSome || r.fragment?.isSome) t)

/-- Relative references do not tell slashes and backslashes apart. -/
def isAnySlash (c : Char) : Bool := c = '/' || c = '\\'

/-- The path of `t` relative to a URL that is no file. A slash begins an absolute path, and two
begin an authority; unless those are plain slashes, all that follow them are skipped. -/
def Reference.relativePath (r : Reference) (base : Url) (t : Text) : Except UrlError Text :=
  match t with
  | [] => .ok base.path
  | a :: rest =>
    if !isAnySlash a then .ok (Path.relative base.kind base.path t)
    else match rest with
      | [] => .ok (Path.extend base.kind ['/'] rest)
      | b :: more =>
        if !isAnySlash b then .ok (Path.extend base.kind ['/'] rest)
        else r.pathAfterAuthority base.kind (if a = '/' ∧ b = '/' then more else more.dropWhile isAnySlash)

/-- The reference relative to `base`, where `t` is its front without a scheme. The base provides the
path that it leaves out, and with that the query, but no fragment. -/
def Reference.relativeTo (r : Reference) (base : Url) (t : Text) : Except UrlError Url :=
  if significant t = [] ∧ r.query? = none then
    .ok { r.withPath base.scheme base.isOpaque base.path with query? := base.query? }
  else do
    let path ← if base.kind = .file then Path.ofFile (some base.path) t else r.relativePath base (significant t)
    return r.withPath base.scheme base.isOpaque path

def Reference.ownPath (r : Reference) (kind : SchemeKind) (t : Text) : Except UrlError (Bool × Text) :=
  match kind, significant t with
  | .file, _ => (Path.ofFile none t).map (false, ·)
  | .special, t => (r.pathAfterAuthority .special (t.dropWhile isAnySlash)).map (false, ·)
  | .other, '/' :: '/' :: rest => (r.pathAfterAuthority .other rest).map (false, ·)
  | .other, '/' :: rest => .ok (false, Path.extend .other ['/'] rest)
  | .other, t => .ok (true, escape EscapeSet.controls t)

/-- A URL that names a scheme may still be relative to one of the same special scheme: a file
always, another unless two slashes begin an authority. -/
def staysRelative (base : Url) (scheme : Text) (t : Text) : Bool :=
  base.scheme = scheme && match base.kind with
    | .file => true
    | .special => ((significant t).takeWhile isAnySlash).length < 2
    | .other => false

def Reference.absolute (r : Reference) (base? : Option Url) (scheme : Text) (t : Text) : Except UrlError Url :=
  match base?.filter (staysRelative · scheme t) with
  | some base => r.relativeTo base t
  | none => (r.ownPath (kindOf scheme) t).map fun (isOpaque, path) => r.withPath scheme isOpaque path

def Reference.resolve (r : Reference) (base? : Option Url) : Except UrlError Url :=
  match scheme? r.front, base? with
  | some (scheme, rest), _ => r.absolute base? scheme rest
  | none, none => .error .relativeWithoutBase
  | none, some base =>
    let isFragment := significant r.front = [] ∧ r.query? = none ∧ r.fragment?.isSome
    if base.isOpaque ∧ ¬ isFragment then .error .relativeWithOpaqueBase
    else r.relativeTo base r.front

def parse (t : Text) (base? : Option Url) : Except UrlError Url := (Reference.ofText t).resolve base?

end Url

/-!
## Form-encoded queries

A query as the names and values of a form: fields between `&`, a name before the first `=` of a
field, `+` for a space, and escapes of UTF-8, in which ill-formed octets become U+FFFD.
-/

namespace Form

def plusToSpace (t : Text) : Text := t.map fun c => if c = '+' then ' ' else c

theorem plusToSpace_of_not_mem {t : Text} (h : '+' ∉ t) : plusToSpace t = t := by
  have hc : ∀ c ∈ t, (if c = '+' then ' ' else c) = c := fun c hc => if_neg (by rintro rfl; exact h hc)
  exact (List.map_congr_left hc).trans (List.map_id' t)

def decode (t : Text) : Text := Percent.decodeLossy (plusToSpace t)

def pair (field : Text) : Text × Text :=
  match Text.cut '=' field with
  | some (name, value) => (decode name, decode value)
  | none => (decode field, [])

def pairs (query : Text) : List (Text × Text) := ((Text.splitOn '&' query).filter (· ≠ [])).map pair

end Form

def Url.queryPairs (u : Url) : List (Text × Text) := Form.pairs (u.query?.getD [])

/-! ## Subjects -/

structure Subject where
  text : Text
  /-- Where the query stands in the text, without its `?`. -/
  query? : Option Span
  escaping : Escaping
  deriving DecidableEq, Repr

def Url.subject (u : Url) (withQuery withFragment : Bool) : Subject :=
  let query? := if withQuery then u.query? else none
  let fragment? := if withFragment then u.fragment? else none
  let opened (d : Char) (t? : Option Text) : Text := t?.elim [] (d :: ·)
  let start := u.path.octetLength + 1
  { text := u.path ++ opened '?' query? ++ opened '#' fragment?
    query? := query?.map fun q => ⟨start, start + q.octetLength⟩
    escaping := u.escaping }

end LinkPattern
