import LinkPattern.Url.Authority

/-!
# Paths

A path grows by segments. A dot segment adds nothing, a double-dot segment takes the segment before
it away, and any other is added with the characters escaped that a path does not hold. The drive
letter at the front of a file path stays. Tabs and line ends do not count, except that in a file
path they can set a drive letter apart from the rest of its segment.
-/

namespace LinkPattern.Url

/-! ## Characters that do not count -/

def isIgnored (c : Char) : Bool := c = '\t' || c = '\n' || c = '\r'

def significant (t : Text) : Text := t.filter (!isIgnored ·)

def dropSignificant : Nat → Text → Text
  | 0, t => t
  | _ + 1, [] => []
  | n + 1, c :: t => dropSignificant (if isIgnored c then n + 1 else n) t

namespace Path

open Authority (isSlash)

/-! ## Drive letters -/

def isDrive : Text → Bool
  | [c, d] => c.isAlpha && (d = ':' || d = '|')
  | _ => false

def isNormalDrive : Text → Bool
  | [c, ':'] => c.isAlpha
  | _ => false

/-- A drive letter at the front of a segment and what follows it, when there are characters between
them that do not count, and some behind that do. -/
def severedDrive? (segment : Text) : Option (Text × Text) :=
  match Text.cut ':' segment with
  | none => none
  | some (front, rest) =>
    let drive := significant front ++ [':']
    if isNormalDrive drive ∧ rest.head?.any isIgnored ∧ significant rest ≠ [] then some (drive, significant rest)
    else none

def startsWithDrive (t : Text) : Bool :=
  isDrive (t.take 2) && (match t.drop 2 with
    | [] => true
    | c :: _ => c = '/' || c = '\\')

/-! ## Segments -/

def isDot (segment : Text) : Bool :=
  let s := segment.map Char.toLower
  s = ['.'] || s = ['%', '2', 'e']

def isDoubleDot (segment : Text) : Bool :=
  let s := segment.map Char.toLower
  s = ['.', '.'] || s = ['.', '%', '2', 'e'] || s = ['%', '2', 'e', '.'] || s = ['%', '2', 'e', '%', '2', 'e']

def endsInSlash (path : Text) : Bool := path.getLast? = some '/'

def cutLast (path : Text) : Text × Text :=
  ((path.reverse.dropWhile (· ≠ '/')).reverse, (path.reverse.takeWhile (· ≠ '/')).reverse)

def shorten (kind : SchemeKind) (path : Text) : Text :=
  let (front, last) := cutLast path
  if kind = .file ∧ isNormalDrive last then path else front

def dropSlash (path : Text) : Text :=
  let (front, last) := cutLast path.dropLast
  if endsInSlash path ∧ front ≠ [] ∧ ¬ startsWithDrive (last ++ ['/']) then path.dropLast else path

def withSlash (path : Text) : Text := if endsInSlash path then path else path ++ ['/']

def addPlain (kind : SchemeKind) (path : Text) (segment : Text) (more : Bool) : Text :=
  let path := if kind = .file ∧ segment ≠ [] ∧ isNormalDrive (path.drop 1) then path ++ ['/'] else path
  let segment := Percent.escape Percent.EscapeSet.path segment
  if isDoubleDot segment then
    let shorter := shorten kind (dropSlash path)
    if more then withSlash shorter else shorter
  else if isDot segment then withSlash path
  else
    let segment := match segment with
      | [c, _] => if kind = .file ∧ path.length = 1 ∧ isDrive segment then [c, ':'] else segment
      | _ => segment
    path ++ segment ++ (if more then ['/'] else [])

/-- The path with one more segment, or with two when that is the first of a file and has its drive
letter set apart; then the second is taken as it is, dots or not. -/
def add (kind : SchemeKind) (path : Text) (segment : Text) (more : Bool) : Text :=
  match if kind = .file ∧ path.length = 1 then severedDrive? segment else none with
  | some (drive, rest) =>
    path ++ drive ++ '/' :: Percent.escape Percent.EscapeSet.path rest ++ (if more then ['/'] else [])
  | none => addPlain kind path (significant segment) more

def addAll (kind : SchemeKind) (path : Text) : List Text → Text
  | [] => path
  | [segment] => add kind path segment false
  | segment :: rest => addAll kind (add kind path segment true) rest

def extend (kind : SchemeKind) (path : Text) (t : Text) : Text :=
  let t := t.map fun c => if isSlash kind c then '/' else c
  let path := addAll kind path (Text.splitOn '/' t)
  if kind = .file then '/' :: path.dropWhile (· = '/') else path

/-! ## Where a path begins -/

def afterAuthority (kind : SchemeKind) : Text → Text
  | [] => if kind.isSpecial then extend kind ['/'] [] else []
  | c :: t => if isSlash kind c then extend kind ['/'] t else extend kind ['/'] (c :: t)

def relative (kind : SchemeKind) (base : Text) (t : Text) : Text :=
  let front := shorten kind base
  extend kind (if front = [] then ['/'] else front) t

def ofFileAuthority (t : Text) : Except UrlError Text :=
  let host := significant (t.takeWhile (!isSlash .file ·))
  let rest := t.dropWhile (!isSlash .file ·)
  if isDrive host then .ok (extend .file ['/'] t)
  else if host = [] then .ok (extend .file ['/'] rest)
  else do
    let domain ← Host.domain host
    if domain = "localhost".toList then return extend .file ['/'] rest
    else return afterAuthority .file rest

def drive (path : Text) : Text :=
  let first := (path.drop 1).takeWhile (· ≠ '/')
  if isNormalDrive first then '/' :: first else []

/-- The path of a file URL from what follows its scheme, tabs and line ends included; `base?` is the
path of a file that it is relative to. -/
def ofFile (base? : Option Text) (t : Text) : Except UrlError Text :=
  match significant t with
  | [] => .ok (base?.getD ['/'])
  | a :: rest =>
    if isSlash .file a then
      if (rest.head?.any (isSlash .file ·)) then ofFileAuthority (dropSignificant 2 t)
      else .ok (extend .file (if startsWithDrive rest then [] else (base?.map drive).getD []) t)
    else match base? with
      | some base => .ok (if startsWithDrive (a :: rest) then extend .file ['/'] t else relative .file base t)
      | none => .ok (extend .file ['/'] t)

end Path

end LinkPattern.Url
