import LinkPattern.Percent
import LinkPattern.Url.Domain

/-!
# Authorities

User information, host and port of a URL take no part in matching, but a URL whose authority is
malformed is no URL. `Authority.skip` checks an authority and gives what follows it.

A host may look like an IPv4 or IPv6 address and then has to be one. IPv4 numbers may be octal or
hexadecimal and the last of them may fill several octets; the IPv4 tail of an IPv6 address is four
plain decimal numbers.
-/

namespace LinkPattern

inductive UrlError where
  | relativeWithoutBase
  | relativeWithOpaqueBase
  | emptyHost
  | invalidPort
  | invalidIpv4
  | invalidIpv6
  | invalidHostCharacter
  | invalidDomainName
  deriving DecidableEq, Repr

def UrlError.message : UrlError → String
  | .relativeWithoutBase => "relative URL without a base"
  | .relativeWithOpaqueBase => "relative URL with a cannot-be-a-base base"
  | .emptyHost => "empty host"
  | .invalidPort => "invalid port number"
  | .invalidIpv4 => "invalid IPv4 address"
  | .invalidIpv6 => "invalid IPv6 address"
  | .invalidHostCharacter => "invalid domain character"
  | .invalidDomainName => "invalid international domain name"

namespace Url

/-- Special schemes have a host, and read a backslash as a slash. Files have a host that may be
empty, and drive letters in their path. -/
inductive SchemeKind where
  | file
  | special
  | other
  deriving DecidableEq, Repr

def SchemeKind.isSpecial : SchemeKind → Bool
  | .file | .special => true
  | .other => false

/-! ## Addresses -/

open Digits (number?)

namespace Ipv4

/-- A part of an address: hexadecimal after `0x`, octal after a further `0`, decimal otherwise. -/
def part? : Text → Option Nat
  | [] => none
  | '0' :: 'x' :: digits | '0' :: 'X' :: digits => number? 16 digits
  | '0' :: d :: digits => number? 8 (d :: digits)
  | digits => number? 10 digits

def labels (domain : Text) : List Text :=
  let all := Text.splitOn '.' domain
  if all.getLast? = some [] then all.dropLast else all

/-- A domain whose last label is numeric has to be an address. -/
def endsInNumber (domain : Text) : Bool :=
  match (labels domain).getLast? with
  | none => false
  | some last => (last ≠ [] && last.all Char.isDigit) || (part? last).isSome

/-- The parts but the last are octets; the last fills the octets that are left. -/
def isAddress (domain : Text) : Bool :=
  let ls := labels domain
  match (ls.mapM part?).map List.reverse with
  | some (last :: earlier) => ls.length ≤ 4 && last < Nat.pow 256 (5 - ls.length) && earlier.all (· < 256)
  | _ => false

end Ipv4

namespace Ipv6

def hexDigits : Nat → Text → Nat × Text
  | n + 1, c :: t =>
    if (Digits.value? c).isSome then
      let (count, rest) := hexDigits n t
      (count + 1, rest)
    else (0, c :: t)
  | _, t => (0, t)

theorem length_hexDigits (n : Nat) (t : Text) : (hexDigits n t).2.length ≤ t.length := by
  induction n generalizing t with
  | zero => simp [hexDigits]
  | succ n ih =>
    cases t with
    | nil => simp [hexDigits]
    | cons c t =>
      rw [hexDigits]
      split
      · exact Nat.le_succ_of_le (ih t)
      · simp

def isOctet : Text → Bool
  | [] => false
  | ['0'] => true
  | '0' :: _ => false
  | digits => (number? 10 digits).any (· < 256)

def isDotted (t : Text) : Bool :=
  let parts := Text.splitOn '.' t
  parts.length = 4 && parts.all isOctet

def pieces (count : Nat) (compressed : Bool) : Text → Bool
  | [] => compressed || count = 8
  | ':' :: t => count < 8 && !compressed && pieces (count + 1) true t
  | c :: t =>
    count < 8 && match h : hexDigits 4 (c :: t) with
      | (_, []) => compressed || count + 1 = 8
      | (digits, '.' :: _) => 0 < digits && count ≤ 6 && isDotted (c :: t) && (compressed || count + 2 = 8)
      | (_, ':' :: rest) => rest ≠ [] && pieces (count + 1) compressed rest
      | _ => false
termination_by t => t.length
decreasing_by
  · simp
  · have := length_hexDigits 4 (c :: t)
    rw [h] at this
    simp at this ⊢
    omega

def isAddress : Text → Bool
  | ':' :: ':' :: t => pieces 1 true t
  | ':' :: _ => false
  | t => 2 ≤ t.length && pieces 0 false t

end Ipv6

/-! ## Hosts -/

namespace Host

def isForbidden (c : Char) : Bool :=
  c = '\x00' || c = '\t' || c = '\n' || c = '\r' || c = ' ' || c = '#' || c = '/' || c = ':' || c = '<' || c = '>'
    || c = '?' || c = '@' || c = '[' || c = '\\' || c = ']' || c = '^' || c = '|'

def isForbiddenInDomain (c : Char) : Bool :=
  isForbidden c || c.toNat < 0x20 || c = '%' || c.toNat = 0x7F

def checkBracketed (host : Text) : Except UrlError Unit :=
  if host.getLast? = some ']' ∧ Ipv6.isAddress (host.drop 1).dropLast then .ok () else .error .invalidIpv6

/-- The domain of a host of a special scheme in its normal form, or the host itself when it is
bracketed. A host in ASCII shows other characters encoded only. -/
def domain (host : Text) : Except UrlError Text :=
  if host.head? = some '[' then (checkBracketed host).map fun _ => host
  else match Percent.decode host with
    | .error _ => .error .invalidDomainName
    | .ok decoded =>
      let domain := Domain.normalize decoded
      if domain.any isForbiddenInDomain ∨ ¬ Domain.isWellFormed (Domain.isAscii host) domain then
        .error .invalidDomainName
      else if domain = [] then .error .emptyHost
      else if Ipv4.endsInNumber domain ∧ ¬ Ipv4.isAddress domain then .error .invalidIpv4
      else .ok domain

def checkOpaque (host : Text) : Except UrlError Unit :=
  if host.head? = some '[' then checkBracketed host
  else if host.any isForbidden then .error .invalidHostCharacter
  else .ok ()

def ofFront (bracketed : Bool) : Text → Text × Text
  | [] => ([], [])
  | c :: t =>
    if c = ':' ∧ ¬ bracketed then ([], c :: t)
    else
      let (host, rest) := ofFront (if c = '[' then true else if c = ']' then false else bracketed) t
      (c :: host, rest)

end Host

/-! ## Whole authorities -/

namespace Authority

def isSlash (kind : SchemeKind) (c : Char) : Bool := c = '/' || (kind.isSpecial && c = '\\')

def userInfo? (t : Text) : Option (Text × Text) :=
  (Text.cut '@' t.reverse).map fun (after, before) => (before.reverse, after.reverse)

def skipPort : Text → Except UrlError Text
  | ':' :: t =>
    let digits := t.takeWhile Char.isDigit
    let rest := t.dropWhile Char.isDigit
    if (Digits.number? 10 digits).any (· ≤ 65535) ∧ (rest = [] ∨ rest.head? = some '\\') then .ok rest
    else .error .invalidPort
  | t => .ok t

/-- What follows host and port. An empty host takes neither a port nor user information, and no
special URL has one. -/
def skipHost (kind : SchemeKind) (user : Bool) (t : Text) : Except UrlError Text := do
  let (host, rest) := Host.ofFront false t
  if host = [] ∧ kind.isSpecial then throw .emptyHost
  if kind.isSpecial then discard (Host.domain host) else Host.checkOpaque host
  if host = [] ∧ rest ≠ [] then throw .emptyHost
  let rest ← skipPort rest
  if host = [] ∧ user then throw .emptyHost
  return rest

/-- What follows the authority at the front of `t`. The text has neither query nor fragment;
`more` says that one follows it. -/
def skip (kind : SchemeKind) (more : Bool) (t : Text) : Except UrlError Text := do
  let authority := t.takeWhile (!isSlash kind ·)
  let rest := t.dropWhile (!isSlash kind ·)
  match userInfo? authority with
  | none => return (← skipHost kind false authority) ++ rest
  | some (user, host) =>
    if user = [] ∧ host = [] ∧ (rest ≠ [] ∨ more) then throw .emptyHost
    return (← skipHost kind (user ≠ [] ∧ user ≠ [':']) host) ++ rest

end Authority

end Url

end LinkPattern
