import LinkPattern.Url

/-!
# Options

What a matcher can be told: how empty captures bind, whether parts of a URL that the pattern does
not speak of matter, whether a plus sign in a query is a space, and what relative URLs are
relative to. That has to be a URL which they can be relative to, and it has neither query nor
fragment, which they would inherit.
-/

namespace LinkPattern

inductive EmptyField where
  | noMatch
  | bind
  deriving DecidableEq, Repr

inductive EmptyList where
  | empty
  | unset
  deriving DecidableEq, Repr

structure Options where
  emptyField : EmptyField := .noMatch
  emptyList : EmptyList := .empty
  strictComponents : Bool := false
  queryPlusAsSpace : Bool := false
  baseUrl? : Option Text := none
  deriving DecidableEq, Repr, Inhabited

/-! ## Valid options -/

inductive OptionsFault where
  | noUrl (value : Text) (cause : UrlError)
  | noBase (value : Text)
  | hasComponents (value : Text)
  deriving DecidableEq, Repr

def OptionsFault.message : OptionsFault → String
  | .noUrl value cause => "base-url " ++ value.quoted ++ " is not a valid URL: " ++ cause.message
  | .noBase value => "base-url " ++ value.quoted ++ " cannot be used as a base for relative references"
  | .hasComponents value => "base-url " ++ value.quoted ++ " must not carry a query or fragment"

def OptionsFault.report (faults : List OptionsFault) : String :=
  "Validation failed: " ++ ", ".intercalate (faults.map message)

namespace Options

def baseFaults (value : Text) (u : Url) : List OptionsFault :=
  (if u.isOpaque then [.noBase value] else [])
    ++ (if u.query?.isSome || u.fragment?.isSome then [.hasComponents value] else [])

def base? (o : Options) : Except (List OptionsFault) (Option Url) :=
  match o.baseUrl? with
  | none => .ok none
  | some value =>
    match Url.parse value none with
    | .error cause => .error [.noUrl value cause]
    | .ok u =>
      match baseFaults value u with
      | [] => .ok (some u)
      | faults => .error faults

def faults (o : Options) : List OptionsFault :=
  match o.base? with
  | .ok _ => []
  | .error faults => faults

end Options

end LinkPattern
