import LinkPattern.Pattern.Builder

/-!
# Templates

A template is a pattern as text: `{name}` is a placeholder for one value, `{name|s}` one for values
with `s` between them, and a brace that is text is written twice. Errors point at the brace where
they begin, by octets from the front of the template.
-/

namespace LinkPattern

inductive TemplateError where
  | unclosedPlaceholder (offset : Nat)
  | unmatchedBrace (offset : Nat)
  | emptyName (offset : Nat)
  | invalidSeparator (field separator : Text)
  | unknownField (name : Text)
  | pattern (cause : PatternError)
  deriving DecidableEq, Repr

def TemplateError.message : TemplateError → String
  | .unclosedPlaceholder offset => "unclosed placeholder starting at byte " ++ toString offset
  | .unmatchedBrace offset => "unmatched `\x7d` at byte " ++ toString offset
  | .emptyName offset => "empty or invalid placeholder name at byte " ++ toString offset
  | .invalidSeparator field separator =>
    "list separator for " ++ field.quoted ++ " must be exactly one character, got " ++ separator.quoted
  | .unknownField name => "unknown field " ++ name.quoted
  | .pattern cause => cause.message

/-! ## Writing -/

def Text.doubleBraces : Text → Text
  | [] => []
  | c :: t => if c = '{' ∨ c = '}' then c :: c :: doubleBraces t else c :: doubleBraces t

variable {F : Type} [Vocabulary F]

def Segment.template : Segment F → Text
  | .literal t => t.doubleBraces
  | .field f => '{' :: Vocabulary.name f ++ ['}']
  | .list f separator => '{' :: Vocabulary.name f ++ ['|', separator, '}']

namespace Pattern

def template (p : Pattern F) : Text := p.segments.flatMap Segment.template

/-! ## Reading -/

variable [DecidableEq F]

def Builder.body (b : Builder F) (body : Text) (offset : Nat) : Except TemplateError (Builder F) :=
  let (name, separator?) := match Text.cut '|' body with
    | some (name, separator) => (name, some separator)
    | none => (body, none)
  if name = [] ∨ '{' ∈ name then .error (.emptyName offset)
  else match Vocabulary.ofName? name with
    | none => .error (.unknownField name)
    | some f =>
      match separator? with
      | none => (b.field f).mapError .pattern
      | some [c] => (b.list f c).mapError .pattern
      | some separator => .error (.invalidSeparator name separator)

/-- Adds what the rest of a template says, from `offset` on. The literal text `pending` that was read
before it is added when a placeholder or the end is reached. -/
def Builder.read (b : Builder F) (pending : Text) (offset : Nat) : Text → Except TemplateError (Builder F)
  | [] => .ok (b.literal pending)
  | '{' :: '{' :: rest => b.read (pending ++ ['{']) (offset + 2) rest
  | '}' :: '}' :: rest => b.read (pending ++ ['}']) (offset + 2) rest
  | '}' :: _ => .error (.unmatchedBrace offset)
  | '{' :: rest =>
    match h : Text.cut '}' rest with
    | none => .error (.unclosedPlaceholder offset)
    | some (body, after) => do
      (← (b.literal pending).body body offset).read [] (offset + 2 + Text.octetLength body) after
  | c :: rest => b.read (pending ++ [c]) (offset + c.utf8Size) rest
termination_by t => t.length
decreasing_by
  · simp only [List.length_cons]; omega
  · simp only [List.length_cons]; omega
  · have := congrArg List.length (Text.cut_eq_some h).1
    simp only [List.length_append, List.length_cons] at this ⊢
    omega
  · exact Nat.lt_succ_self _

def ofTemplate (t : Text) : Except TemplateError (Pattern F) := (Builder.empty.read [] 0 t).map Builder.build

end Pattern

end LinkPattern
