import LinkPattern.Text

/-!
# Blanks and strings in TOML

Blanks are spaces and tabs, line ends and comments. A carriage return counts only as part of a line
end, and a comment holds no control character but the tab.

Basic strings have escapes, literal strings have none, and each may be written over several lines
between three quotes. Every reader here begins after the opening quotes and gives what the string
says and what follows the closing ones.
-/

namespace LinkPattern.Toml

/-! ## Blanks -/

def isSpace (c : Char) : Bool := c = ' ' || c = '\t'

def isPrintable (c : Char) : Bool := c = '\t' || (0x20 ≤ c.toNat && c.toNat ≠ 0x7F)

def skipSpaces (t : Text) : Text := t.dropWhile isSpace

def lineEnd? : Text → Option Text
  | '\n' :: t => some t
  | '\r' :: '\n' :: t => some t
  | _ => none

def skipComment : Text → Text
  | '#' :: t => t.dropWhile isPrintable
  | t => t

def lineRest? (t : Text) : Option Text :=
  match skipComment (skipSpaces t) with
  | [] => some []
  | rest => lineEnd? rest

def skipBlanks : Text → Text
  | [] => []
  | '\r' :: '\n' :: t => skipBlanks t
  | c :: t => if isSpace c || c = '\n' then skipBlanks t else c :: t

/-- What follows blanks, line ends and comments; `comment` says that the text begins within one. -/
def skipTrivia (comment : Bool) : Text → Text
  | [] => []
  | '\r' :: '\n' :: t => skipTrivia false t
  | c :: t =>
    if c = '\n' then skipTrivia false t
    else if comment then (if isPrintable c then skipTrivia true t else c :: t)
    else if isSpace c then skipTrivia false t
    else if c = '#' then skipTrivia true t
    else c :: t

theorem length_dropWhile_le (p : Char → Bool) (t : Text) : (t.dropWhile p).length ≤ t.length :=
  (List.dropWhile_suffix p).length_le

theorem length_lt_of_cons {c : Char} {u rest t : Text} (h : u = c :: rest) (hu : u.length ≤ t.length) :
    rest.length < t.length := by
  rw [h] at hu
  exact hu

theorem length_skipSpaces (t : Text) : (skipSpaces t).length ≤ t.length := length_dropWhile_le isSpace t

theorem length_lineEnd? {t r : Text} (h : lineEnd? t = some r) : r.length < t.length := by
  unfold lineEnd? at h
  split at h
  · cases h; exact Nat.lt_succ_self _
  · cases h; simp only [List.length_cons]; omega
  · cases h

theorem length_skipComment (t : Text) : (skipComment t).length ≤ t.length := by
  unfold skipComment
  split
  · exact Nat.le_succ_of_le (length_dropWhile_le _ _)
  · exact Nat.le_refl _

theorem length_lineRest? {t r : Text} (h : lineRest? t = some r) : r.length ≤ t.length := by
  unfold lineRest? at h
  split at h
  · cases h; simp
  · have := length_lineEnd? h
    have := length_skipComment (skipSpaces t)
    have := length_skipSpaces t
    omega

theorem length_skipBlanks (t : Text) : (skipBlanks t).length ≤ t.length := by
  fun_induction skipBlanks t <;> simp only [List.length_cons, List.length_nil] <;> omega

theorem length_skipTrivia (b : Bool) (t : Text) : (skipTrivia b t).length ≤ t.length := by
  fun_induction skipTrivia b t <;> simp only [List.length_cons, List.length_nil] <;> omega

/-! ## Strings -/

def code? (n : Nat) (t : Text) : Option (Char × Text) :=
  if (t.take n).length = n then
    ((Digits.number? 16 (t.take n)).bind Text.character?).map fun c => (c, t.drop n)
  else none

def escape? : Text → Option (Char × Text)
  | 'b' :: t => some ('\x08', t)
  | 't' :: t => some ('\t', t)
  | 'n' :: t => some ('\n', t)
  | 'f' :: t => some ('\x0c', t)
  | 'r' :: t => some ('\r', t)
  | '"' :: t => some ('"', t)
  | '\\' :: t => some ('\\', t)
  | 'u' :: t => code? 4 t
  | 'U' :: t => code? 8 t
  | _ => none

theorem length_escape? {t r : Text} {c : Char} (h : escape? t = some (c, r)) : r.length < t.length := by
  have code {n : Nat} {t r : Text} {c : Char} (h : code? n t = some (c, r)) : r.length ≤ t.length := by
    unfold code? at h
    split at h
    · obtain ⟨d, _, hd⟩ := Option.map_eq_some_iff.1 h
      cases hd
      simp
    · cases h
  unfold escape? at h
  split at h
  case h_8 | h_9 => exact Nat.lt_succ_of_le (code h)
  case h_10 => cases h
  all_goals cases h; exact Nat.lt_succ_self _

def withFront (c : Char) : Text × Text → Text × Text := fun (s, rest) => (c :: s, rest)

def basic? : Text → Option (Text × Text)
  | [] => none
  | '"' :: t => some ([], t)
  | '\\' :: t =>
    match h : escape? t with
    | some (c, rest) =>
      have := length_escape? h
      (basic? rest).map (withFront c)
    | none => none
  | c :: t => if isPrintable c then (basic? t).map (withFront c) else none
termination_by t => t.length
decreasing_by
  · simp only [List.length_cons]; omega
  · simp

def literal? : Text → Option (Text × Text)
  | [] => none
  | '\'' :: t => some ([], t)
  | c :: t => if isPrintable c then (literal? t).map (withFront c) else none

/-- After three quotes `q` that close a string: up to two further ones belong to it. -/
def closing (q : Char) : Text → Text × Text
  | a :: b :: t => if a = q ∧ b = q then ([q, q], t) else if a = q then ([q], b :: t) else ([], a :: b :: t)
  | [a] => if a = q then ([q], []) else ([], [a])
  | [] => ([], [])

/-- A basic string over several lines. A backslash at the end of a line takes all blanks and line
ends up to the next character away. -/
def basicLines? : Text → Option (Text × Text)
  | [] => none
  | '"' :: '"' :: '"' :: t => some (closing '"' t)
  | '\r' :: '\n' :: t => (basicLines? t).map (withFront '\n')
  | '\\' :: t =>
    if (lineEnd? (skipSpaces t)).isSome then basicLines? (skipBlanks t)
    else match h : escape? t with
      | some (c, rest) =>
        have := length_escape? h
        (basicLines? rest).map (withFront c)
      | none => none
  | c :: t => if isPrintable c || c = '\n' then (basicLines? t).map (withFront c) else none
termination_by t => t.length
decreasing_by
  · simp only [List.length_cons]; omega
  · have := length_skipBlanks t
    simp only [List.length_cons]; omega
  · simp only [List.length_cons]; omega
  · simp

def literalLines? : Text → Option (Text × Text)
  | [] => none
  | '\'' :: '\'' :: '\'' :: t => some (closing '\'' t)
  | '\r' :: '\n' :: t => (literalLines? t).map (withFront '\n')
  | c :: t => if isPrintable c || c = '\n' then (literalLines? t).map (withFront c) else none

def skipFirstLineEnd (t : Text) : Text := (lineEnd? t).getD t

def shortString? : Text → Option (Text × Text)
  | '"' :: t => basic? t
  | '\'' :: t => literal? t
  | _ => none

def string? : Text → Option (Text × Text)
  | '"' :: '"' :: '"' :: t => basicLines? (skipFirstLineEnd t)
  | '\'' :: '\'' :: '\'' :: t => literalLines? (skipFirstLineEnd t)
  | t => shortString? t

/-! ## Nothing is added -/

theorem length_basic? {t s r : Text} (h : basic? t = some (s, r)) : r.length ≤ t.length := by
  fun_induction basic? t generalizing s with
  | case1 => cases h
  | case2 => cases h; simp
  | case3 t c rest he _ ih =>
    obtain ⟨⟨s', r'⟩, h', heq⟩ := Option.map_eq_some_iff.1 h
    cases heq
    have := ih h'
    have := length_escape? he
    simp only [List.length_cons]; omega
  | case4 => cases h
  | case5 c t _ _ _ ih =>
    obtain ⟨⟨s', r'⟩, h', heq⟩ := Option.map_eq_some_iff.1 h
    cases heq
    have := ih h'
    simp only [List.length_cons]; omega
  | case6 => cases h

theorem length_literal? {t s r : Text} (h : literal? t = some (s, r)) : r.length ≤ t.length := by
  fun_induction literal? t generalizing s with
  | case1 => cases h
  | case2 => cases h; simp
  | case3 c t _ _ ih =>
    obtain ⟨⟨s', r'⟩, h', heq⟩ := Option.map_eq_some_iff.1 h
    cases heq
    have := ih h'
    simp only [List.length_cons]; omega
  | case4 => cases h

theorem length_closing (q : Char) (t : Text) : (closing q t).2.length ≤ t.length := by
  unfold closing
  repeat' split
  all_goals simp only [List.length_cons, List.length_nil]
  all_goals omega

theorem length_basicLines? {t s r : Text} (h : basicLines? t = some (s, r)) : r.length ≤ t.length := by
  fun_induction basicLines? t generalizing s with
  | case1 => cases h
  | case2 t =>
    have hc := length_closing '"' t
    rw [Option.some.inj h] at hc
    simp at hc ⊢; omega
  | case3 t ih =>
    obtain ⟨⟨s', r'⟩, h', heq⟩ := Option.map_eq_some_iff.1 h
    cases heq
    have := ih h'
    simp only [List.length_cons]; omega
  | case4 t _ ih =>
    have := ih h
    have := length_skipBlanks t
    simp only [List.length_cons]; omega
  | case5 t _ c rest he _ ih =>
    obtain ⟨⟨s', r'⟩, h', heq⟩ := Option.map_eq_some_iff.1 h
    cases heq
    have := ih h'
    have := length_escape? he
    simp only [List.length_cons]; omega
  | case6 => cases h
  | case7 c t _ _ _ _ ih =>
    obtain ⟨⟨s', r'⟩, h', heq⟩ := Option.map_eq_some_iff.1 h
    cases heq
    have := ih h'
    simp only [List.length_cons]; omega
  | case8 => cases h

theorem length_literalLines? {t s r : Text} (h : literalLines? t = some (s, r)) : r.length ≤ t.length := by
  fun_induction literalLines? t generalizing s with
  | case1 => cases h
  | case2 t =>
    have hc := length_closing '\'' t
    rw [Option.some.inj h] at hc
    simp at hc ⊢; omega
  | case3 t ih =>
    obtain ⟨⟨s', r'⟩, h', heq⟩ := Option.map_eq_some_iff.1 h
    cases heq
    have := ih h'
    simp only [List.length_cons]; omega
  | case4 c t _ _ _ ih =>
    obtain ⟨⟨s', r'⟩, h', heq⟩ := Option.map_eq_some_iff.1 h
    cases heq
    have := ih h'
    simp only [List.length_cons]; omega
  | case5 => cases h

theorem length_shortString? {t s r : Text} (h : shortString? t = some (s, r)) : r.length < t.length := by
  unfold shortString? at h
  split at h
  · exact Nat.lt_succ_of_le (length_basic? h)
  · exact Nat.lt_succ_of_le (length_literal? h)
  · cases h

theorem length_skipFirstLineEnd (t : Text) : (skipFirstLineEnd t).length ≤ t.length := by
  unfold skipFirstLineEnd
  cases h : lineEnd? t with
  | none => simp
  | some r => exact Nat.le_of_lt (length_lineEnd? h)

theorem length_string? {t s r : Text} (h : string? t = some (s, r)) : r.length < t.length := by
  unfold string? at h
  split at h
  · next t => have := length_basicLines? h; have := length_skipFirstLineEnd t; simp only [List.length_cons]; omega
  · next t => have := length_literalLines? h; have := length_skipFirstLineEnd t; simp only [List.length_cons]; omega
  · exact length_shortString? h

end LinkPattern.Toml
